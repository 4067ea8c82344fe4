import RowStream.Manifest
import RowStream.Decode.Chunk
import RowStream.Stream.Consumer

/-! # Row by row through a result -/
namespace RowStream

/-- Rows that came together; inline rows have no ordinal. -/
structure DecodedChunk where
  ordinal : Option Nat
  rows : List Row
deriving Repr, BEq

structure RowPlan where
  format : ResultFormat
  schema : Schema
  options : DecodeOptions
  manifest : Manifest

/-- The rows of a downloaded chunk. The manifest says how many there have to be. -/
def RowPlan.process (plan : RowPlan) (ordinal : Nat) (bytes : List UInt8) : Result DecodedChunk := do
  let rows ← Decode.chunk plan.format plan.schema plan.options ordinal bytes
  match plan.manifest.get? ordinal with
  | some d =>
    if d.rowCount = rows.length then .ok ⟨some ordinal, rows⟩
    else .error { Error.decode ("chunk decoded to " ++ toString rows.length ++ " rows, manifest declares " ++
        toString d.rowCount) with chunk := some ordinal }
  | none => .ok ⟨some ordinal, rows⟩

structure CursorState where
  /-- The chunk of the current row; none for inline rows. -/
  chunk : Option Nat := none
  rowOffset : Nat := 0
  consumed : Nat := 0
  /-- No more rows will come. -/
  terminal : Bool := false
  /-- The error that ended the rows. -/
  pendingError : Option Error := none
deriving Repr, DecidableEq

structure RowCursor where
  plan : RowPlan
  inline : Option (List Row)
  feed : Feed DecodedChunk
  current : Option DecodedChunk := none
  position : Option Nat := none
  state : CursorState := {}
  closed : Bool := false

namespace RowCursor

def new (plan : RowPlan) (inlineRows : List Row) (prefetch : Option (Prefetch DecodedChunk)) : RowCursor :=
  { plan, inline := if inlineRows.isEmpty then none else some inlineRows, feed := { prefetch } }

/-- The next row of the current chunk, if there is one. -/
def stepInChunk? (c : RowCursor) : Option RowCursor := do
  let chunk ← c.current
  let next := match c.position with
    | some p => p + 1
    | none => 0
  if next < chunk.rows.length then
    some { c with
      position := some next
      state := { c.state with rowOffset := next, consumed := c.state.consumed + 1 } }
  else none

def dropChunk (c : RowCursor) : RowCursor := { c with current := none, position := none }

def enterChunk (c : RowCursor) (chunk : DecodedChunk) : RowCursor :=
  { c with current := some chunk, state := { c.state with chunk := chunk.ordinal } }

def finish (c : RowCursor) : RowCursor := { c with state := { c.state with terminal := true } }

def fail (c : RowCursor) (e : Error) : RowCursor :=
  { c with state := { c.state with terminal := true, pendingError := some e } }

/-- The checks at the start of a call. A token that was fired before leaves no pending error. -/
def enter (c : RowCursor) : Option (Result Bool) × RowCursor :=
  if c.closed then (some (.ok false), c)
  else if c.feed.isCancelled then (some (.error Prefetch.cancelledError), c.dropChunk.finish)
  else if c.state.terminal then (some (.ok false), c)
  else (none, c)

/-- Steps to the next row of the current chunk, or enters the next chunk: inline rows come first. -/
def look (c : RowCursor) : Option (Outcome (Result Bool)) × RowCursor :=
  match c.stepInChunk? with
  | some c => (some (.answer (.ok true)), c)
  | none =>
    match c.inline with
    | some rows => (none, { c.dropChunk with inline := none }.enterChunk ⟨none, rows⟩)
    | none =>
      match c.feed.next with
      | (.chunk _ (.ok chunk), feed) => (none, { c.dropChunk with feed }.enterChunk chunk)
      | (.chunk _ (.error e), feed) => (some (.answer (.error e)), { c.dropChunk with feed }.fail e)
      | (.finished, feed) => (some (.answer (.ok false)), { c.dropChunk with feed }.finish)
      | (.cancelled, feed) =>
        (some (.answer (.error Prefetch.cancelledError)),
          { c.dropChunk with feed }.fail Prefetch.cancelledError)
      | (.waiting k, feed) => (some (.waiting k), { c.dropChunk with feed })

def close (c : RowCursor) : RowCursor :=
  if c.closed then c
  else { c.dropChunk.finish with closed := true, inline := none, feed := c.feed.shutdown }

/-- The chunks that can be entered without waiting. -/
def ready (c : RowCursor) : Nat := c.feed.ready + if c.inline.isSome then 1 else 0

theorem look_ready {c d : RowCursor} (h : c.look = (none, d)) : d.ready < c.ready := by
  unfold look at h
  split at h
  · simp at h
  · split at h
    · rename_i hi
      simp only [Prod.mk.injEq, true_and] at h
      rw [← h]
      simp [ready, enterChunk, dropChunk, hi]
    · rename_i hi
      split at h
      · rename_i hn
        simp only [Prod.mk.injEq, true_and] at h
        rw [← h]
        simpa [ready, enterChunk, dropChunk, hi] using Feed.next_ready hn
      all_goals simp at h

instance : Consumer RowCursor DecodedChunk (Result Bool) where
  feed := RowCursor.feed
  withFeed c feed := { c with feed }
  process c := c.plan.process
  enter := enter
  look := look
  close := close
  ready := ready
  look_ready := look_ready

def advance (c : RowCursor) : Outcome (Result Bool) × RowCursor := Consumer.call c

def currentRow? (c : RowCursor) : Option Row := do
  (← c.current).rows[(← c.position)]?

def error? (c : RowCursor) : Option Error := c.state.pendingError

end RowCursor
end RowStream
