import RowStream.Stream.Prefetch

/-! # Where chunks come from

A result without chunks in storage has nothing to prefetch, but a token all the same. -/
namespace RowStream

structure Feed (α : Type) where
  prefetch : Option (Prefetch α)
  /-- The token, where there is nothing to prefetch. -/
  ownToken : Bool := false

namespace Feed
variable {α : Type}

def isCancelled (f : Feed α) : Bool :=
  match f.prefetch with
  | some p => p.cancelled
  | none => f.ownToken

def cancel (f : Feed α) : Feed α :=
  match f.prefetch with
  | some p => { f with prefetch := some p.cancel }
  | none => { f with ownToken := true }

def settle (f : Feed α) (ordinal : Nat) (r : Result α) : Feed α :=
  { f with prefetch := f.prefetch.map fun p => p.settle ordinal r }

def shutdown (f : Feed α) : Feed α :=
  match f.prefetch with
  | some p => { f with prefetch := some p.shutdown }
  | none => { f with ownToken := true }

/-- The next chunk; without anything to prefetch there is none. -/
def next (f : Feed α) : Prefetch.Turn α × Feed α :=
  match f.prefetch with
  | some p => (p.next.1, { f with prefetch := some p.next.2 })
  | none => (.finished, f)

def running (f : Feed α) : List Nat :=
  match f.prefetch with
  | some p => p.running
  | none => []

def ready (f : Feed α) : Nat :=
  match f.prefetch with
  | some p => p.completed.length
  | none => 0

theorem next_ready {f g : Feed α} {k : Nat} {r : Result α} (h : f.next = (.chunk k r, g)) : g.ready < f.ready := by
  unfold next at h
  split at h
  · rename_i p hp
    simp only [Prod.mk.injEq] at h
    rw [← h.2]
    simpa [ready, hp] using Prefetch.next_length (Prod.ext h.1 rfl)
  · simp at h

end Feed
end RowStream
