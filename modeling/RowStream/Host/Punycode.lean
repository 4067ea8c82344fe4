import RowStream.Text.Ascii

/-! # Letters written as digits

A label of other than plain letters is written with its plain letters first; digits in the thirty-six
system then say which letters to insert, and where. -/
namespace RowStream.Host.Punycode
open RowStream.Text

def digitValue? (c : Char) : Option Nat :=
  if 'a' ≤ c ∧ c ≤ 'z' then some (c.toNat - 'a'.toNat)
  else if 'A' ≤ c ∧ c ≤ 'Z' then some (c.toNat - 'A'.toNat)
  else if '0' ≤ c ∧ c ≤ '9' then some (c.toNat - '0'.toNat + 26)
  else none

/-- A digit below the threshold of its place ends a number. -/
def threshold (place bias : Nat) : Nat := min (max (place - bias) 1) 26

/-- Divides until what is left is small; the second part counts the divisions. -/
def shrink (delta : Nat) : Nat × Nat :=
  if _h : 455 < delta then
    let r := shrink (delta / 35)
    (r.1, r.2 + 1)
  else (delta, 0)
termination_by delta

/-- The bias after a number, by the size of that number. -/
def adapt (delta count : Nat) (first : Bool) : Nat :=
  let half := if first then delta / 700 else delta / 2
  let (rest, steps) := shrink (half + half / count)
  36 * steps + 36 * rest / (rest + 38)

def limit : Nat := 0x100000000

/-- Adds a number to `sum`, its lowest digit first, and gives what follows it. -/
def number? (bias : Nat) (sum weight place : Nat) : List Char → Option (Nat × List Char)
  | [] => none
  | c :: cs => do
    let digit ← digitValue? c
    let sum := sum + digit * weight
    let t := threshold place bias
    if limit ≤ sum then none
    else if digit < t then some (sum, cs)
    else if limit ≤ weight * (36 - t) then none
    else number? bias sum (weight * (36 - t)) (place + 36) cs

theorem number?_length {bias sum weight place n : Nat} {cs rest : List Char}
    (h : number? bias sum weight place cs = some (n, rest)) : rest.length < cs.length := by
  induction cs generalizing sum weight place with
  | nil => simp [number?] at h
  | cons c cs ih =>
    simp only [number?, Option.bind_eq_bind, Option.bind_eq_some_iff] at h
    obtain ⟨d, -, h⟩ := h
    split at h
    · simp at h
    · split at h
      · cases h
        simp
      · split at h
        · simp at h
        · exact Nat.lt_succ_of_lt (ih h)

def charOf? (n : Nat) : Option Char := if n.isValidChar then some (Char.ofNat n) else none

/-- Inserts the letters that the digits name; `sum` counts through all places of all letters, `least`
is the letter that it is at. -/
def insertFrom (bias least sum : Nat) (found : List Char) (digits : List Char) : Option (List Char) :=
  match digits with
  | [] => some found
  | c :: cs =>
    match _h : number? bias sum 1 36 (c :: cs) with
    | none => none
    | some (n, rest) =>
      let count := found.length + 1
      let letter := least + n / count
      let place := n % count
      match charOf? letter with
      | none => none
      | some new =>
        insertFrom (adapt (n - sum) count (sum = 0)) letter (place + 1)
          (found.take place ++ new :: found.drop place) rest
termination_by digits.length
decreasing_by exact number?_length _h

def firstBias : Nat := 72
def firstLetter : Nat := 0x80

/-- The plain letters and the digits after the last dash. A dash in front divides nothing. -/
def divide (cs : List Char) : List Char × List Char :=
  match cutAt '-' cs.reverse with
  | some (digits, c :: plain) => ((c :: plain).reverse, digits.reverse)
  | _ => ([], cs)

def decode? (cs : List Char) : Option (List Char) :=
  let (plain, digits) := divide cs
  insertFrom firstBias firstLetter 0 plain digits

end RowStream.Host.Punycode
