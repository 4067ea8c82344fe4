import RowStream.Stream.Feed
import RowStream.Stream.Pipeline
import RowStream.Proofs.PrefetchWindow
import RowStream.Proofs.Tape

/-! # Feeds that nobody disturbs

While a feed is neither cancelled nor closed and its tasks bring the outcomes of their chunks, it gives these
outcomes in the order of the chunks. -/
namespace RowStream
open RowStream.Prefetch

namespace Feed
variable {α : Type} {outcomes : List (Result α)} {limit : Nat} {f g : Feed α}

/-- Neither closed nor cancelled, and what has settled are outcomes. -/
structure Undisturbed (outcomes : List (Result α)) (limit : Nat) (f : Feed α) : Prop where
  live : ∀ p, f.prefetch = some p → Live outcomes.length limit p
  settled : ∀ p, f.prefetch = some p → ∀ k r, (k, r) ∈ p.completed → outcomes[k]? = some r
  noToken : f.prefetch = none → f.ownToken = false

/-- The outcomes that have not been taken. -/
def left (outcomes : List (Result α)) (f : Feed α) : List (Result α) :=
  match f.prefetch with
  | some p => outcomes.drop p.nextExpected
  | none => []

/-- What the next chunk of an undisturbed feed comes to. -/
inductive Gives (outcomes : List (Result α)) (limit : Nat) (f : Feed α) : Prop
  | finished (next : f.next = (.finished, f)) (nothing : f.left outcomes = [])
  | waiting {p : Prefetch α} (next : f.next = (.waiting p.nextExpected, f)) (prefetch : f.prefetch = some p)
      (running : p.nextExpected ∈ p.running) (once : p.running.Nodup)
  | chunk {k : Nat} {r : Result α} {g : Feed α}
      (next : f.next = (.chunk k (r.mapError (·.withChunk k)), g)) (undisturbed : g.Undisturbed outcomes limit)
      (here : outcomes[k]? = some r) (taken : f.left outcomes = r :: g.left outcomes)

namespace Undisturbed

theorem isCancelled (u : f.Undisturbed outcomes limit) : f.isCancelled = false := by
  cases prefetch : f.prefetch with
  | none => simpa [Feed.isCancelled, prefetch] using u.noToken prefetch
  | some p => simpa [Feed.isCancelled, prefetch] using (u.live p prefetch).running

/-- Only chunks of the result have tasks. -/
theorem running_lt (u : f.Undisturbed outcomes limit) {k : Nat} (running : k ∈ f.running) :
    k < outcomes.length := by
  cases prefetch : f.prefetch with
  | none => simp [Feed.running, prefetch] at running
  | some p =>
    have window := (u.live p prefetch).window
    have known : k ∈ p.running := by simpa [Feed.running, prefetch] using running
    have launched := (window.mem_interval.mp (List.mem_append_left _ (List.mem_append_left _ known))).2
    exact Nat.lt_of_lt_of_le launched window.launch_le

theorem settle (u : f.Undisturbed outcomes limit) {k : Nat} {r : Result α} (running : k ∈ f.running)
    (brings : outcomes[k]? = some r) : (f.settle k r).Undisturbed outcomes limit := by
  cases prefetch : f.prefetch with
  | none => simp [Feed.running, prefetch] at running
  | some p =>
    have live := u.live p prefetch
    have known : k ∈ p.running := by simpa [Feed.running, prefetch] using running
    refine ⟨?_, ?_, by simp [Feed.settle, prefetch]⟩
    · intro q after
      obtain rfl : p.settle k r = q := by simpa [Feed.settle, prefetch] using after
      exact live.settle r known
    · intro q after j x here
      obtain rfl : p.settle k r = q := by simpa [Feed.settle, prefetch] using after
      rcases mem_completed_settle here with ⟨rfl, rfl⟩ | here
      · exact brings
      · exact u.settled p prefetch j x here

theorem gives (u : f.Undisturbed outcomes limit) : f.Gives outcomes limit := by
  cases prefetch : f.prefetch with
  | none => exact .finished (by simp [Feed.next, prefetch]) (by simp [left, prefetch])
  | some p =>
    have live := u.live p prefetch
    have same : { f with prefetch := some p } = f := by rw [← prefetch]
    have feed : f.next = (p.next.1, { f with prefetch := some p.next.2 }) := by simp [Feed.next, prefetch]
    have left_eq : f.left outcomes = outcomes.drop p.nextExpected := by simp [left, prefetch]
    cases live.next with
    | finished all next =>
      refine .finished (by rw [feed, next, same]) ?_
      rw [left_eq, List.drop_eq_nil_iff]
      exact all
    | waiting running next =>
      have once : p.running.Nodup := by
        have nodup := live.window.nodup
        rw [List.append_nil] at nodup
        exact (List.nodup_append.mp nodup).1
      exact .waiting (by rw [feed, next, same]) prefetch running once
    | @chunk r q found next more live expected kept =>
      have here := u.settled p prefetch _ _ found
      obtain ⟨inside, at_k⟩ := List.getElem?_eq_some_iff.mp here
      refine .chunk (by rw [feed, next]) ⟨?_, ?_, by simp⟩ here ?_
      · rintro _ ⟨⟩
        exact live
      · rintro _ ⟨⟩ j x known
        exact u.settled p prefetch j x (kept _ known)
      · rw [left_eq, List.drop_eq_getElem_cons inside, at_k]
        simp [left, expected]

end Undisturbed

theorem left_settle (k : Nat) (r : Result α) : (f.settle k r).left outcomes = f.left outcomes := by
  cases prefetch : f.prefetch <;> simp [left, Feed.settle, prefetch, Prefetch.settle]

/-- A feed whose first tasks have been started, as many as the window takes, and have not settled. -/
def begun (count limit : Nat) : Feed α :=
  if count = 0 then { prefetch := none }
  else
    let first := min count (max limit 1)
    { prefetch := some {
        count
        limit := max limit 1
        nextToLaunch := first
        inFlight := first
        launched := first
        peak := first
        running := List.range first } }

theorem begun_succ (count limit : Nat) :
    (begun (count + 1) limit : Feed α) = { prefetch := some (Prefetch.new (count + 1) limit).launch } := by
  simp [begun, Prefetch.launch, Prefetch.reserve, Prefetch.spawn, Prefetch.new, Prefetch.room, Prefetch.resident,
    List.range_eq_range']

theorem startPrefetch_eq (config : Config) (m : Manifest) :
    ({ prefetch := Pipeline.startPrefetch config m } : Feed α) = begun m.chunks.length config.prefetchLimit := by
  cases chunks : m.chunks with
  | nil => simp [Pipeline.startPrefetch, begun, chunks]
  | cons d ds => simp [Pipeline.startPrefetch, begun_succ, chunks]

/-- Before anything has happened nothing is taken. -/
theorem undisturbed_begun (outcomes : List (Result α)) (limit : Nat) :
    (begun outcomes.length limit).Undisturbed outcomes limit ∧
      (begun outcomes.length limit).left outcomes = outcomes := by
  cases outcomes with
  | nil => exact ⟨⟨by simp [begun], by simp [begun], fun _ => rfl⟩, rfl⟩
  | cons r rs =>
    rw [List.length_cons, begun_succ]
    refine ⟨⟨?_, ?_, by simp⟩, ?_⟩
    · rintro _ ⟨⟩
      exact live_launch (window_new _ _) rfl
    · rintro _ ⟨⟩ k r known
      simp [Prefetch.launch, Prefetch.reserve, Prefetch.spawn, Prefetch.new] at known
    · simp [left, Prefetch.launch, Prefetch.reserve, Prefetch.spawn, Prefetch.new]

end Feed
end RowStream
