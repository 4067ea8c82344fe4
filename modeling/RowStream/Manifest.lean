import RowStream.Overflow
import RowStream.Response

/-! # The chunks of a result -/
namespace RowStream

structure ChunkDescriptor where
  ordinal : Nat
  url : String
  rowCount : Nat
  uncompressedSize : Nat
  compressedSize : Nat
deriving Repr, DecidableEq

/-- The chunks in the order of their rows, which follow the inline rows. -/
structure Manifest where
  chunks : List ChunkDescriptor := []
  inlineRows : Nat := 0
deriving Repr, DecidableEq

namespace Manifest

def totalRows (m : Manifest) : Except Overflow Nat := do
  addWords m.inlineRows (← sumWords (m.chunks.map (·.rowCount)))

def totalUncompressedSize (m : Manifest) : Except Overflow Nat := sumWords (m.chunks.map (·.uncompressedSize))

def get? (m : Manifest) (ordinal : Nat) : Option ChunkDescriptor := m.chunks[ordinal]?

/-- The descriptors of entries from an ordinal on; `seen` are the locations before them. -/
def describe (ordinal : Nat) (seen : List String) : List ChunkEntry → Result (List ChunkDescriptor)
  | [] => .ok []
  | e :: es =>
    if e.rowCount < 0 then
      .error { Error.manifest ("negative row count " ++ toString e.rowCount) with chunk := some ordinal }
    else if seen.contains e.url then
      .error { Error.manifest "chunk location appears more than once in the manifest" with chunk := some ordinal }
    else do
      let rest ← describe (ordinal + 1) (e.url :: seen) es
      .ok (⟨ordinal, e.url, e.rowCount.toNat, e.uncompressedSize.toNat, e.compressedSize.toNat⟩ :: rest)

/-- A declared total has to be the number of rows, which is counted only where there is one. -/
def checkTotal (m : Manifest) : Option Int → Checked Manifest
  | none => .ok m
  | some total => do
    let counted := signed (← m.totalRows)
    if counted = total then .ok m
    else
      let inChunks ← subtractSigned counted (signed m.inlineRows)
      .error (.error (.manifest ("declared total of " ++ toString total ++ " rows, but inline rows (" ++
        toString m.inlineRows ++ ") and chunk rows (" ++ toString inChunks ++ ") add up to " ++
        toString counted)))

/-- The manifest of entries: no negative counts, no location twice, and the declared total. -/
def ofEntries (entries : List ChunkEntry) (inlineRows : Nat) (total : Option Int) : Checked Manifest := do
  let chunks ← describe 0 [] entries
  checkTotal ⟨chunks, inlineRows⟩ total

def ofResponse (r : Response) (inlineRows : Nat) : Checked Manifest :=
  ofEntries r.chunks inlineRows r.total

end Manifest
end RowStream
