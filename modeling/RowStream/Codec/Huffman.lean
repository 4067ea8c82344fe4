/-! # Canonical prefix codes -/
namespace RowStream.Codec

inductive CodeTree | empty | leaf (symbol : Nat) | node (zero one : CodeTree)
deriving Repr, DecidableEq

namespace CodeTree

def read? : CodeTree → List Bool → Option (Nat × List Bool)
  | .node zero one, b :: bits =>
    match if b then one else zero with
    | .leaf s => some (s, bits)
    | t => read? t bits
  | _, _ => none
termination_by _ bits => bits.length

theorem read?_length {t : CodeTree} {bits rest : List Bool} {s : Nat} (h : t.read? bits = some (s, rest)) :
    rest.length < bits.length := by
  induction bits generalizing t with
  | nil => cases t <;> simp [read?] at h
  | cons b bits ih =>
    cases t with
    | empty => simp [read?] at h
    | leaf _ => simp [read?] at h
    | node zero one =>
      simp only [read?] at h
      split at h
      · cases h
        simp
      · have := ih h
        simp only [List.length_cons]
        omega

/-- Builds the part of a tree at a depth from codes ordered by length and symbol, and gives back the
codes that it has no room for. -/
def build : Nat → Nat → List (Nat × Nat) → CodeTree × List (Nat × Nat)
  | _, _, [] => (.empty, [])
  | 0, depth, (length, s) :: codes =>
    if length = depth then (.leaf s, codes) else (.empty, (length, s) :: codes)
  | levels + 1, depth, (length, s) :: codes =>
    if length = depth then (.leaf s, codes)
    else
      let (zero, left) := build levels (depth + 1) ((length, s) :: codes)
      let (one, left) := build levels (depth + 1) left
      (.node zero one, left)

def isComplete : CodeTree → Bool
  | .empty => false
  | .leaf _ => true
  | .node zero one => zero.isComplete && one.isComplete

def maxLength : Nat := 15

/-- The code of the given lengths, one for each symbol; a length of zero means no code. Bits may be
left without a meaning only where `sparse` allows it, by a code of one symbol of one bit or of none. -/
def ofLengths? (sparse : Bool) (lengths : List Nat) : Option CodeTree :=
  let used := lengths.zipIdx.filter fun p => p.1 ≠ 0
  let ordered := (List.range maxLength).flatMap fun n => used.filter fun p => p.1 = n + 1
  let (tree, left) := build maxLength 0 ordered
  let isSparse := used.length ≤ 1 && used.all (·.1 == 1)
  if left.isEmpty && (tree.isComplete || sparse && isSparse) then some tree else none

end CodeTree
end RowStream.Codec
