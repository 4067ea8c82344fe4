import RowStream.Stream.Lifecycle
import RowStream.Proofs.PrefetchWindow

/-! # Taking chunks

Everything that asking for the next chunk comes to, whatever the state of the prefetch, and what becomes of
the token. -/
namespace RowStream
open RowStream.Prefetch

namespace Prefetch
variable {α : Type} {p q : Prefetch α} {k : Nat} {r : Result α}

/-- What asking for the next chunk comes to, whether or not the token is fired in the middle. -/
inductive Fetched (p : Prefetch α) : Turn α × Prefetch α → Prop
  | cancelled (fired : p.cancelled = true) : Fetched p (.cancelled, p)
  | nothing {turn : Turn α} (noChunk : ∀ k r, turn ≠ .chunk k r) (running : turn ≠ .cancelled) :
      Fetched p (turn, p)
  | chunk {r : Result α} {q : Prefetch α} (running : p.cancelled = false)
      (found : (p.nextExpected, r) ∈ p.completed)
      (expected : q.nextExpected = p.nextExpected + 1) (kept : ∀ c ∈ q.completed, c ∈ p.completed)
      (isOpen : q.closed = false) :
      Fetched p (.chunk p.nextExpected (r.mapError (·.withChunk p.nextExpected)), q)

theorem isOpen_of_take (h : p.take = (.chunk k r, q)) : p.closed = false := by
  cases closed : p.closed with
  | false => rfl
  | true => simp [Prefetch.take, closed] at h

theorem take_ne_cancelled (p : Prefetch α) : p.take.1 ≠ .cancelled := by
  unfold Prefetch.take
  split
  · simp
  · split <;> simp

/-- Room is made after a chunk was taken, with or without effect. -/
theorem fetched_chunk (running : p.cancelled = false) (h : p.take = (.chunk k r, q)) (fired : Bool) :
    Fetched p (.chunk k (r.mapError (·.withChunk k)), { q with cancelled := fired }.launch) := by
  have isOpen := isOpen_of_take h
  obtain ⟨rfl, found, rfl⟩ := take_eq_chunk h
  exact .chunk running (mem_completed_of_lookup found) rfl (fun c known => List.mem_of_mem_filter known) isOpen

theorem fetched_nothing {turn : Turn α} (h : p.take = (turn, q)) (noChunk : ∀ k r, turn ≠ .chunk k r) :
    Fetched p (turn, q) := by
  obtain rfl := take_eq_self h noChunk
  have running : turn ≠ .cancelled := by
    have := take_ne_cancelled q
    rwa [h] at this
  exact .nothing noChunk running

theorem fetched_next (p : Prefetch α) : Fetched p p.next := by
  rw [Prefetch.next]
  split
  · rename_i fired
    exact .cancelled fired
  · rename_i notFired
    split
    · rename_i q take
      exact fetched_chunk (by simpa using notFired) take q.cancelled
    · rename_i noChunk take
      exact fetched_nothing take fun k r same => noChunk k r same

theorem fetched_nextFired (p : Prefetch α) : Fetched p p.nextFired := by
  rw [Prefetch.nextFired]
  split
  · rename_i fired
    exact .cancelled fired
  · rename_i notFired
    split
    · rename_i q take
      exact fetched_chunk (by simpa using notFired) take true
    · rename_i noChunk take
      exact fetched_nothing take fun k r same => noChunk k r same

end Prefetch

/-- The same where there may be nothing to prefetch. -/
inductive Feed.Fetched {α : Type} (f : Feed α) : Turn α × Feed α → Prop
  | nothing (none : f.prefetch = none) : Fetched f (.finished, f)
  | some {p q : Prefetch α} {turn : Turn α} (prefetch : f.prefetch = some p) (fetched : p.Fetched (turn, q)) :
      Fetched f (turn, { f with prefetch := some q })

theorem Feed.fetched_next {α : Type} (f : Feed α) : f.Fetched f.next := by
  rw [Feed.next]
  split
  · rename_i p prefetch
    exact .some prefetch p.fetched_next
  · rename_i none
    exact .nothing none

theorem Feed.fetched_nextFired {α : Type} (f : Feed α) : f.Fetched f.nextFired := by
  rw [Feed.nextFired]
  split
  · rename_i p prefetch
    exact .some prefetch p.fetched_nextFired
  · rename_i none
    exact .nothing none

/-- Whoever takes no chunk changes nothing. -/
theorem Feed.Fetched.same {α : Type} {f g : Feed α} {turn : Turn α} (fetched : f.Fetched (turn, g))
    (noChunk : ∀ k r, turn ≠ .chunk k r) : g = f := by
  cases fetched with
  | nothing => rfl
  | some prefetch fetched =>
    cases fetched with
    | chunk => exact (noChunk _ _ rfl).elim
    | cancelled | nothing => rw [← prefetch]

/-- A chunk that is taken is the expected one and was here. -/
theorem Feed.Fetched.taken {α : Type} {f g : Feed α} {k : Nat} {r : Result α} (fetched : f.Fetched (.chunk k r, g)) :
    ∃ p q s, f.prefetch = .some p ∧ g = { f with prefetch := .some q } ∧ p.nextExpected = k ∧
      q.nextExpected = k + 1 ∧ p.cancelled = false ∧ (k, s) ∈ p.completed ∧ r = s.mapError (·.withChunk k) ∧
      (∀ c ∈ q.completed, c ∈ p.completed) ∧ q.closed = false := by
  cases fetched with
  | some prefetch fetched =>
    cases fetched with
    | nothing noChunk => exact (noChunk _ _ rfl).elim
    | chunk running found expected kept isOpen =>
      exact ⟨_, _, _, prefetch, rfl, rfl, expected, running, found, rfl, kept, isOpen⟩

namespace Feed
variable {α : Type} {f g : Feed α}

theorem isCancelled_cancel (f : Feed α) : f.cancel.isCancelled = true := by
  cases prefetch : f.prefetch <;> simp [Feed.cancel, isCancelled, prefetch, Prefetch.cancel]

theorem isCancelled_shutdown (f : Feed α) : f.shutdown.isCancelled = true := by
  cases prefetch : f.prefetch with
  | none => simp [Feed.shutdown, isCancelled, prefetch]
  | some p => simp [Feed.shutdown, isCancelled, prefetch, Prefetch.shutdown, abort, clear, Prefetch.cancel]

theorem isCancelled_settle (f : Feed α) (k : Nat) (r : Result α) : (f.settle k r).isCancelled = f.isCancelled := by
  cases prefetch : f.prefetch <;> simp [Feed.settle, isCancelled, prefetch, Prefetch.settle]

/-- Once the token is fired no chunk is taken. -/
theorem Fetched.fired {turn : Turn α} (fetched : f.Fetched (turn, g)) (fired : f.isCancelled = true) :
    g.isCancelled = true := by
  cases turn with
  | chunk k r =>
    obtain ⟨p, _, _, prefetch, _, _, _, running, _⟩ := fetched.taken
    simp [isCancelled, prefetch, running] at fired
  | cancelled | finished | waiting =>
    obtain rfl := fetched.same (by simp)
    exact fired

end Feed
end RowStream
