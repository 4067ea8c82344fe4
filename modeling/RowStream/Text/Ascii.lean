/-! # ASCII case folding, digits and cutting at separators -/
namespace RowStream.Text

def lower (cs : List Char) : List Char := cs.map Char.toLower

def upper (cs : List Char) : List Char := cs.map Char.toUpper

def sameIgnoringCase (a b : String) : Bool := lower a.toList == lower b.toList

theorem sameIgnoringCase_self (a : String) : sameIgnoringCase a a = true := by
  simp [sameIgnoringCase]

def isDigit (c : Char) : Bool := '0' ≤ c && c ≤ '9'

def allDigits (cs : List Char) : Bool := cs.all isDigit

/-- The parts before and after the first occurrence of the separator. -/
def cutAt (sep : Char) : List Char → Option (List Char × List Char)
  | [] => none
  | c :: cs => if c = sep then some ([], cs) else (cutAt sep cs).map fun p => (c :: p.1, p.2)

theorem cutAt_eq_some {sep : Char} {cs before rest : List Char} (h : cutAt sep cs = some (before, rest)) :
    cs = before ++ sep :: rest := by
  induction cs generalizing before with
  | nil => simp [cutAt] at h
  | cons c cs ih =>
    simp only [cutAt] at h
    split at h
    · rename_i e
      simp only [Option.some.injEq, Prod.mk.injEq] at h
      rw [e, ← h.1, h.2, List.nil_append]
    · simp only [Option.map_eq_some_iff, Prod.mk.injEq] at h
      obtain ⟨⟨b, r⟩, hp, hb, hr⟩ := h
      subst hb hr
      rw [List.cons_append, ← ih hp]

/-- The parts between the occurrences of the separator, one more than there are occurrences. -/
def splitAt (sep : Char) : List Char → List (List Char)
  | [] => [[]]
  | c :: cs =>
    if c = sep then [] :: splitAt sep cs
    else match splitAt sep cs with
      | [] => [[c]]
      | part :: parts => (c :: part) :: parts

theorem splitAt_ne_nil (sep : Char) (cs : List Char) : splitAt sep cs ≠ [] := by
  cases cs with
  | nil => simp [splitAt]
  | cons c cs =>
    simp only [splitAt]
    split
    · simp
    · split <;> simp

def dropStart? : List Char → List Char → Option (List Char)
  | [], cs => some cs
  | _ :: _, [] => none
  | p :: ps, c :: cs => if p = c then dropStart? ps cs else none

end RowStream.Text
