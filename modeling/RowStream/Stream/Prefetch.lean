import RowStream.Error

/-! # Prefetching chunks in order

The state that one lock guards, and the sections of code that run under the lock as functions on
it. Tasks settle in any order; chunks are taken in the order of their ordinals. -/
namespace RowStream

/-- Prefetching of `count` chunks: at most `limit` of them are in flight or wait to be taken. -/
structure Prefetch (α : Type) where
  count : Nat
  limit : Nat
  /-- Settled chunks that wait to be taken. -/
  completed : List (Nat × Result α) := []
  nextExpected : Nat := 0
  nextToLaunch : Nat := 0
  inFlight : Nat := 0
  launched : Nat := 0
  /-- The most chunks that were in flight or waiting at one time. -/
  peak : Nat := 0
  closed : Bool := false
  cancelled : Bool := false
  /-- Tasks that were spawned and have not settled. -/
  running : List Nat := []

namespace Prefetch
variable {α : Type}

/-- A window of zero would never move. -/
def new (count limit : Nat) : Prefetch α := { count, limit := max limit 1 }

def resident (p : Prefetch α) : Nat := p.inFlight + p.completed.length

def room (p : Prefetch α) : Nat :=
  if p.closed || p.cancelled then 0 else min (p.count - p.nextToLaunch) (p.limit - p.resident)

def reserve (p : Prefetch α) : List Nat × Prefetch α :=
  (List.range' p.nextToLaunch p.room,
    { p with
      nextToLaunch := p.nextToLaunch + p.room
      inFlight := p.inFlight + p.room
      launched := p.launched + p.room
      peak := if p.room = 0 then p.peak else max p.peak (p.resident + p.room) })

def spawn (p : Prefetch α) (ordinals : List Nat) : Prefetch α := { p with running := p.running ++ ordinals }

def insertChunk (ordinal : Nat) (r : Result α) (chunks : List (Nat × Result α)) : List (Nat × Result α) :=
  (ordinal, r) :: chunks.filter (·.1 != ordinal)

/-- A task ends. After closing its result is dropped. -/
def settle (p : Prefetch α) (ordinal : Nat) (r : Result α) : Prefetch α :=
  { p with
    inFlight := p.inFlight - 1
    completed := if p.closed then p.completed else insertChunk ordinal r p.completed
    running := p.running.erase ordinal }

inductive Turn (α : Type) where
  | cancelled
  | finished
  | chunk (ordinal : Nat) (r : Result α)
  | waiting (ordinal : Nat)

def lookup (p : Prefetch α) (ordinal : Nat) : Option (Result α) :=
  (p.completed.find? (·.1 == ordinal)).map (·.2)

/-- Takes the next chunk in order, if it has settled. -/
def take (p : Prefetch α) : Turn α × Prefetch α :=
  if p.closed ∨ p.count ≤ p.nextExpected then (.finished, p)
  else match p.lookup p.nextExpected with
    | some r =>
      (.chunk p.nextExpected r,
        { p with
          completed := p.completed.filter (·.1 != p.nextExpected)
          nextExpected := p.nextExpected + 1 })
    | none => (.waiting p.nextExpected, p)

def cancel (p : Prefetch α) : Prefetch α := { p with cancelled := true }

/-- From here on nothing is kept or launched. -/
def close (p : Prefetch α) : Prefetch α := { p with closed := true, completed := [] }

def abort (p : Prefetch α) : Prefetch α := { p with running := [] }

def clear (p : Prefetch α) : Prefetch α := { p with inFlight := 0, completed := [] }

def launch (p : Prefetch α) : Prefetch α := p.reserve.2.spawn p.reserve.1

def shutdown (p : Prefetch α) : Prefetch α := p.close.cancel.abort.clear

/-- The next chunk for the consumer. Whatever is taken makes room for another one. An error is
that of its chunk. -/
def next (p : Prefetch α) : Turn α × Prefetch α :=
  if p.cancelled then (.cancelled, p)
  else match p.take with
    | (.chunk ordinal r, p) => (.chunk ordinal (r.mapError (·.withChunk ordinal)), p.launch)
    | (turn, p) => (turn, p)

/-- What a consumer is told after the token was fired. -/
def cancelledError : Error := .cancelled "result stream cancelled"

/-- The result of a task: the error of a failed fetch or of failed processing is that of its chunk. -/
def taskResult {β : Type} (process : Nat → β → Result α) (ordinal : Nat) (fetched : Result β) : Result α :=
  Result.mapError (·.withChunk ordinal) (fetched.bind (process ordinal))

theorem length_filter_lt {r : Result α} {p : Prefetch α} {k : Nat} (h : p.lookup k = some r) :
    (p.completed.filter (·.1 != k)).length < p.completed.length := by
  unfold lookup at h
  generalize p.completed = cs at h
  induction cs with
  | nil => simp at h
  | cons c cs ih =>
    by_cases e : c.1 = k
    · simp only [List.filter_cons, e, bne_self_eq_false, Bool.false_eq_true, if_false, List.length_cons]
      exact Nat.lt_succ_of_le (List.length_filter_le _ _)
    · simp only [List.find?_cons, beq_eq_false_iff_ne.mpr e] at h
      have := ih h
      simp only [List.filter_cons, bne_iff_ne, ne_eq, e, not_false_eq_true, if_true, List.length_cons]
      omega

theorem next_length {p q : Prefetch α} {k : Nat} {r : Result α} (h : p.next = (.chunk k r, q)) :
    q.completed.length < p.completed.length := by
  unfold next at h
  split at h
  · simp at h
  · split at h
    · rename_i k' r' p' ht
      simp only [Prod.mk.injEq, Turn.chunk.injEq] at h
      unfold take at ht
      split at ht
      · simp at ht
      · split at ht
        · rename_i r'' hr
          simp only [Prod.mk.injEq] at ht
          rw [← h.2, ← ht.2]
          exact length_filter_lt hr
        · simp at ht
    · rename_i hne _
      simp only [Prod.mk.injEq] at h
      exact (hne k r h.1).elim

end Prefetch
end RowStream
