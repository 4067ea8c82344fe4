import RowStream.Unicode.Composites
import RowStream.Unicode.Marks

/-! # One spelling for letters with marks

Characters are taken apart, marks are put in the order of their classes, and what composes is
composed. Singletons are left alone: none of them can stand in a host name. -/
namespace RowStream.Unicode

/-- A syllable is a lead, a vowel and perhaps a tail; all syllables stand in the order of their parts. -/
def firstSyllable : Nat := 0xAC00
def firstLead : Nat := 0x1100
def firstVowel : Nat := 0x1161
/-- One before the first tail: no tail counts as the tail with number zero. -/
def noTail : Nat := 0x11A7
def leadCount : Nat := 19
def vowelCount : Nat := 21
def tailCount : Nat := 28

def isSyllable (n : Nat) : Bool := firstSyllable ≤ n && n < firstSyllable + leadCount * vowelCount * tailCount

/-- The two parts of a syllable: lead and vowel, or all but the tail and the tail. -/
def syllableParts (n : Nat) : Nat × Nat :=
  let index := n - firstSyllable
  let tail := index % tailCount
  if tail = 0 then
    (firstLead + index / tailCount / vowelCount, firstVowel + index / tailCount % vowelCount)
  else (n - tail, noTail + tail)

def syllable? (a b : Nat) : Option Nat :=
  if firstLead ≤ a ∧ a < firstLead + leadCount ∧ firstVowel ≤ b ∧ b < firstVowel + vowelCount then
    some (firstSyllable + ((a - firstLead) * vowelCount + (b - firstVowel)) * tailCount)
  else if isSyllable a ∧ (a - firstSyllable) % tailCount = 0 ∧ noTail < b ∧ b < noTail + tailCount then
    some (a + (b - noTail))
  else none

def parts? (c : Char) : Option (Char × Char) :=
  if isSyllable c.toNat then
    let p := syllableParts c.toNat
    some (Char.ofNat p.1, Char.ofNat p.2)
  else (composites.find? (·.whole == c.toNat)).map fun k => (Char.ofNat k.base, Char.ofNat k.mark)

def whole? (a b : Char) : Option Char :=
  ((syllable? a.toNat b.toNat).or
    ((composites.find? fun k => k.base == a.toNat && k.mark == b.toNat).map (·.whole))).map Char.ofNat

/-- No letter has more marks in one character than this. -/
def maxMarks : Nat := 4

/-- Only the first part of a character can have parts itself. -/
def takeApart : Nat → Char → List Char
  | 0, c => [c]
  | levels + 1, c =>
    match parts? c with
    | some (base, mark) => takeApart levels base ++ [mark]
    | none => [c]

/-- Puts a character behind what stands before it, given last first: a mark goes before marks of a
higher class. -/
def settle (c : Char) : List Char → List Char
  | [] => [c]
  | d :: before =>
    if 0 < combiningClass c ∧ combiningClass c < combiningClass d then d :: settle c before
    else c :: d :: before

def ordered (cs : List Char) : List Char := (cs.foldl (fun before c => settle c before) []).reverse

/-- Goes on after a base with marks that did not compose with it, given last first. A mark that stands
between keeps those of its class and of lower ones from the base. -/
def composeFrom (base : Char) (marks : List Char) : List Char → List Char
  | [] => base :: marks.reverse
  | c :: cs =>
    let isKept := match marks with
      | [] => false
      | m :: _ => combiningClass c ≤ combiningClass m
    match if isKept then none else whole? base c with
    | some whole => composeFrom whole marks cs
    | none =>
      if combiningClass c = 0 then base :: marks.reverse ++ composeFrom c [] cs
      else composeFrom base (c :: marks) cs

def compose (cs : List Char) : List Char :=
  match ordered (cs.flatMap (takeApart maxMarks)) with
  | [] => []
  | c :: rest => composeFrom c [] rest

end RowStream.Unicode
