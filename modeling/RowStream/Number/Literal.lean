import RowStream.Text.Ascii

/-! # Integer literals -/
namespace RowStream.Number
open RowStream.Text

def digitValue (c : Char) : Nat := c.toNat - '0'.toNat

def ofDigits (cs : List Char) : Nat := cs.foldl (fun n c => 10 * n + digitValue c) 0

def natural? (cs : List Char) : Option Nat :=
  if !cs.isEmpty && allDigits cs then some (ofDigits cs) else none

/-- The whole numbers a literal may denote. Where none of them is negative a minus sign is refused. -/
structure Range where
  low : Int
  high : Int
deriving Repr, DecidableEq

namespace Range

def int64 : Range := ⟨-9223372036854775808, 9223372036854775807⟩
def int32 : Range := ⟨-2147483648, 2147483647⟩
def nat8 : Range := ⟨0, 255⟩
def nat16 : Range := ⟨0, 65535⟩
def nat32 : Range := ⟨0, 4294967295⟩
def nat64 : Range := ⟨0, 18446744073709551615⟩

instance : Membership Int Range := ⟨fun r n => r.low ≤ n ∧ n ≤ r.high⟩

theorem mem_def {r : Range} {n : Int} : n ∈ r ↔ r.low ≤ n ∧ n ≤ r.high := Iff.rfl

instance (r : Range) (n : Int) : Decidable (n ∈ r) := inferInstanceAs (Decidable (_ ∧ _))

def within? (r : Range) (n : Int) : Option Int := if n ∈ r then some n else none

theorem within?_eq_some {r : Range} {n m : Int} : r.within? n = some m ↔ n ∈ r ∧ n = m := by
  unfold within?
  split <;> simp_all

/-- A sign that the range allows, then at least one digit. -/
def read? (r : Range) : List Char → Option Int
  | '+' :: cs => do r.within? (← natural? cs)
  | '-' :: cs => if r.low < 0 then do r.within? (-(← natural? cs)) else none
  | cs => do r.within? (← natural? cs)

end Range

def text (n : Int) : String := toString n

end RowStream.Number
