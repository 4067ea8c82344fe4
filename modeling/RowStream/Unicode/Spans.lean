import RowStream.Text.Ascii
import RowStream.Text.Hex

/-! # Ranges of code points

Tables of properties are written in words: `41-5a` is a range, `df` a single code point. -/
namespace RowStream.Unicode
open RowStream.Text

structure Span where
  first : Nat
  last : Nat
deriving Repr, DecidableEq

def Span.has (s : Span) (c : Char) : Bool := s.first ≤ c.toNat && c.toNat ≤ s.last

def hexNumber (digits : List Char) : Nat := digits.foldl (fun n c => 16 * n + (Hex.digitValue? c).getD 0) 0

def Span.ofWord (word : List Char) : Span :=
  match cutAt '-' word with
  | some (first, last) => ⟨hexNumber first, hexNumber last⟩
  | none => ⟨hexNumber word, hexNumber word⟩

def words (lines : List String) : List (List Char) := lines.flatMap fun line => splitAt ' ' line.toList

def spans (lines : List String) : List Span := (words lines).map Span.ofWord

def within (table : List Span) (c : Char) : Bool := table.any (·.has c)

theorem within_iff {table : List Span} {c : Char} :
    within table c = true ↔ ∃ s ∈ table, s.first ≤ c.toNat ∧ c.toNat ≤ s.last := by
  simp [within, Span.has]

end RowStream.Unicode
