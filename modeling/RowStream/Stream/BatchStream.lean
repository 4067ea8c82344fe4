import RowStream.Manifest
import RowStream.Columnar.Convert
import RowStream.Columnar.Stream
import RowStream.Stream.Consumer

/-! # Batch by batch through a result -/
namespace RowStream
open RowStream.Columnar

/-- How the chunks of a result become converted batches. -/
structure BatchPlan where
  schema : Schema
  batchOptions : BatchOptions
  options : DecodeOptions
  manifest : Manifest

namespace BatchPlan

def target (plan : BatchPlan) : List (Columnar.Field DataType) := targetSchema plan.batchOptions plan.schema

def convert (plan : BatchPlan) (bs : List Batch) : Result (List Batch) :=
  convertAll plan.batchOptions plan.options plan.schema bs

/-- The converted batches of a downloaded chunk. The manifest says how many rows they have to have. -/
def process (plan : BatchPlan) (ordinal : Nat) (bytes : List UInt8) : Result (List Batch) := do
  let bs ← Result.mapError (·.withChunk ordinal) (readStream bytes)
  let rows := totalRows bs
  let declared := ((plan.manifest.get? ordinal).map (·.rowCount)).getD rows
  if declared = rows then Result.mapError (·.withChunk ordinal) (plan.convert bs)
  else .error { Error.decode ("chunk holds " ++ toString rows ++ " rows, manifest declares " ++
      toString declared) with chunk := some ordinal }

end BatchPlan

structure BatchStream where
  plan : BatchPlan
  buffer : List Batch
  feed : Feed (List Batch)
  exhausted : Bool := false

namespace BatchStream

def enter (s : BatchStream) : Option (Result (Option Batch)) × BatchStream :=
  if s.feed.isCancelled then (some (.error Prefetch.cancelledError), s) else (none, s)

/-- Hands out a batch, or takes the batches of the next chunk. -/
def look (s : BatchStream) : Option (Outcome (Result (Option Batch))) × BatchStream :=
  match s.buffer with
  | b :: rest => (some (.answer (.ok (some b))), { s with buffer := rest })
  | [] =>
    if s.exhausted then (some (.answer (.ok none)), s)
    else match s.feed.next with
      | (.chunk _ (.ok bs), feed) => (none, { s with feed, buffer := bs })
      | (.chunk _ (.error e), feed) => (some (.answer (.error e)), { s with feed, exhausted := true })
      | (.finished, feed) => (some (.answer (.ok none)), { s with feed, exhausted := true })
      | (.cancelled, feed) =>
        (some (.answer (.error Prefetch.cancelledError)), { s with feed, exhausted := true })
      | (.waiting k, feed) => (some (.waiting k), { s with feed })

def close (s : BatchStream) : BatchStream :=
  { s with exhausted := true, buffer := [], feed := s.feed.shutdown }

theorem look_ready {s t : BatchStream} (h : s.look = (none, t)) : t.feed.ready < s.feed.ready := by
  unfold look at h
  split at h
  · simp at h
  · split at h
    · simp at h
    · split at h
      · rename_i hn
        simp only [Prod.mk.injEq, true_and] at h
        rw [← h]
        exact Feed.next_ready hn
      all_goals simp at h

instance : Consumer BatchStream (List Batch) (Result (Option Batch)) where
  feed := BatchStream.feed
  withFeed s feed := { s with feed }
  process s := s.plan.process
  enter := enter
  look := look
  close := close
  ready s := s.feed.ready
  look_ready := look_ready

def next (s : BatchStream) : Outcome (Result (Option Batch)) × BatchStream := Consumer.call s

/-- There is not a single batch to hand out. -/
def isEmpty (s : BatchStream) : Bool := s.buffer.isEmpty && s.feed.prefetch.isNone

end BatchStream
end RowStream
