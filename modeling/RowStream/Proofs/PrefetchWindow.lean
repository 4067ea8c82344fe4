import RowStream.Stream.Prefetch
import Mathlib.Data.List.Perm.Basic
import Mathlib.Data.List.Nodup

/-! # The window of a prefetch

Chunks that were launched and not taken fill an interval of ordinals, each of them once: reserved,
running or settled. Every section that runs under the lock keeps it so. -/
namespace RowStream.Prefetch
variable {α : Type} {p : Prefetch α} {count limit : Nat} {reserved : List Nat}

def keys (p : Prefetch α) : List Nat := p.completed.map (·.1)

/-- Where prefetching stands while it is not closed. Chunks in `reserved` were reserved and have no
task yet. -/
structure Window (count limit : Nat) (p : Prefetch α) (reserved : List Nat) : Prop where
  count_eq : p.count = count
  limit_eq : p.limit = max limit 1
  isOpen : p.closed = false
  expected_le : p.nextExpected ≤ p.nextToLaunch
  launch_le : p.nextToLaunch ≤ count
  launched_eq : p.launched = p.nextToLaunch
  interval : (p.running ++ reserved ++ p.keys).Perm
    (List.range' p.nextExpected (p.nextToLaunch - p.nextExpected))
  inFlight_eq : p.inFlight = (p.running ++ reserved).length
  resident_le : p.resident ≤ max limit 1
  peak_le : p.peak ≤ max limit 1

/-- Everything is launched, or the window has no room. -/
def Full (p : Prefetch α) : Prop := p.nextToLaunch = p.count ∨ p.resident = p.limit

theorem take_eq_chunk {k : Nat} {r : Result α} {q : Prefetch α} (h : p.take = (.chunk k r, q)) :
    k = p.nextExpected ∧ p.lookup p.nextExpected = some r ∧
      q = { p with
        completed := p.completed.filter (·.1 != p.nextExpected)
        nextExpected := p.nextExpected + 1 } := by
  unfold Prefetch.take at h
  split at h
  · simp at h
  · split at h
    · rename_i found
      simp only [Prod.mk.injEq, Turn.chunk.injEq] at h
      obtain ⟨⟨rfl, rfl⟩, rfl⟩ := h
      exact ⟨rfl, found, rfl⟩
    · simp at h

/-- Whoever takes no chunk changes nothing. -/
theorem take_eq_self {turn : Turn α} {q : Prefetch α} (h : p.take = (turn, q))
    (other : ∀ k r, turn ≠ .chunk k r) : q = p := by
  unfold Prefetch.take at h
  split at h
  · exact (Prod.mk.inj h).2.symm
  · split at h
    · exact (other _ _ (Prod.mk.inj h).1.symm).elim
    · exact (Prod.mk.inj h).2.symm

theorem take_eq_waiting {k : Nat} {q : Prefetch α} (h : p.take = (.waiting k, q)) :
    k = p.nextExpected ∧ p.nextExpected < p.count ∧ p.lookup k = none := by
  unfold Prefetch.take at h
  split at h
  · simp at h
  · rename_i more
    split at h
    · simp at h
    · rename_i missing
      simp only [Prod.mk.injEq, Turn.waiting.injEq] at h
      obtain ⟨rfl, _⟩ := h
      exact ⟨rfl, by omega, missing⟩

/-- Whoever is neither given a chunk nor told to wait has come to the end. -/
theorem take_ended {turn : Turn α} {q : Prefetch α} (h : p.take = (turn, q)) (noChunk : ∀ k r, turn ≠ .chunk k r)
    (noWait : ∀ k, turn ≠ .waiting k) : p.closed = true ∨ p.count ≤ p.nextExpected := by
  unfold Prefetch.take at h
  split at h
  · assumption
  · split at h
    · exact (noChunk _ _ (Prod.mk.inj h).1.symm).elim
    · exact (noWait _ (Prod.mk.inj h).1.symm).elim

theorem mem_completed_of_lookup {k : Nat} {r : Result α} (h : p.lookup k = some r) : (k, r) ∈ p.completed := by
  obtain ⟨⟨j, _⟩, found, rfl⟩ := Option.map_eq_some_iff.mp h
  have same : j = k := by simpa using List.find?_some found
  exact same ▸ List.mem_of_find?_eq_some found

/-- What waits after a task has settled is its result, or waited before. -/
theorem mem_completed_settle {j k : Nat} {x r : Result α} (h : (j, x) ∈ (p.settle k r).completed) :
    j = k ∧ x = r ∨ (j, x) ∈ p.completed := by
  unfold Prefetch.settle at h
  by_cases closed : p.closed = true
  · exact .inr (by simpa [closed] using h)
  · have known : (j, x) = (k, r) ∨ (j, x) ∈ p.completed ∧ j ≠ k := by
      simpa [closed, insertChunk] using h
    rcases known with same | ⟨before, _⟩
    · exact .inl (Prod.mk.inj same)
    · exact .inr before

theorem mem_keys_of_lookup {k : Nat} {r : Result α} (h : p.lookup k = some r) : k ∈ p.keys :=
  List.mem_map_of_mem (mem_completed_of_lookup h)

theorem window_new (count limit : Nat) : Window count limit (new count limit : Prefetch α) [] := by
  constructor <;> simp [new, keys, resident]

namespace Window

theorem resident_eq (w : Window count limit p reserved) : p.resident = p.nextToLaunch - p.nextExpected := by
  have h := w.interval.length_eq
  simp only [List.length_append, List.length_range', keys, List.length_map] at h
  rw [resident, w.inFlight_eq, List.length_append]
  exact h

theorem nodup (w : Window count limit p reserved) : (p.running ++ reserved ++ p.keys).Nodup :=
  w.interval.nodup_iff.mpr List.nodup_range'

theorem mem_interval (w : Window count limit p reserved) {k : Nat} :
    k ∈ p.running ++ reserved ++ p.keys ↔ p.nextExpected ≤ k ∧ k < p.nextToLaunch := by
  have := w.expected_le
  rw [w.interval.mem_iff, List.mem_range'_1]
  omega

/-- In a full window the next chunk is on its way or here. -/
theorem expected_mem (w : Window count limit p reserved) (full : p.Full) (h : p.nextExpected < count) :
    p.nextExpected ∈ p.running ++ reserved ++ p.keys := by
  refine w.mem_interval.mpr ⟨Nat.le_refl _, ?_⟩
  have hr := w.resident_eq
  rcases full with all | noRoom
  · rw [all, w.count_eq]
    exact h
  · rw [w.limit_eq] at noRoom
    omega

theorem perm (w : Window count limit p reserved) {other : List Nat} (h : reserved.Perm other) :
    Window count limit p other :=
  ⟨w.count_eq, w.limit_eq, w.isOpen, w.expected_le, w.launch_le, w.launched_eq,
    ((h.symm.append_left _).append_right _).trans w.interval,
    w.inFlight_eq.trans (h.append_left _).length_eq, w.resident_le, w.peak_le⟩

theorem reserve (w : Window count limit p reserved) :
    Window count limit p.reserve.2 (reserved ++ p.reserve.1) := by
  have hr := w.resident_eq
  have room_le : p.room ≤ p.count - p.nextToLaunch ∧ p.room ≤ p.limit - p.resident := by
    unfold room
    split <;> omega
  have bounds := w.resident_le
  have count_eq := w.count_eq
  have limit_eq := w.limit_eq
  have expected_le := w.expected_le
  have launch_le := w.launch_le
  refine ⟨count_eq, limit_eq, w.isOpen, ?_, ?_, ?_, ?_, ?_, ?_, ?_⟩
  · simp only [Prefetch.reserve]
    omega
  · simp only [Prefetch.reserve]
    omega
  · simp only [Prefetch.reserve, w.launched_eq]
  · have grown : List.range' p.nextExpected (p.nextToLaunch + p.room - p.nextExpected) =
        List.range' p.nextExpected (p.nextToLaunch - p.nextExpected) ++
          List.range' p.nextToLaunch p.room := by
      have := @List.range'_append_1 p.nextExpected (p.nextToLaunch - p.nextExpected) p.room
      rw [Nat.add_sub_cancel' expected_le] at this
      rw [this]
      congr 1
      omega
    simp only [Prefetch.reserve, grown]
    have moved : (p.running ++ (reserved ++ List.range' p.nextToLaunch p.room) ++ p.keys).Perm
        (p.running ++ reserved ++ p.keys ++ List.range' p.nextToLaunch p.room) := by
      simp only [List.append_assoc]
      exact ((List.perm_append_comm).append_left _).append_left _
    exact moved.trans (w.interval.append_right _)
  · simp only [Prefetch.reserve, w.inFlight_eq, List.length_append, List.length_range']
    omega
  · simp only [Prefetch.reserve, resident] at *
    omega
  · have peak_le := w.peak_le
    simp only [Prefetch.reserve]
    split <;> omega

theorem full_reserve (w : Window count limit p reserved) (h : p.cancelled = false) : p.reserve.2.Full := by
  have launch_le := w.launch_le
  have resident_le := w.resident_le
  have limit_eq := w.limit_eq
  have count_eq := w.count_eq
  have room_eq : p.room = min (p.count - p.nextToLaunch) (p.limit - p.resident) := by
    simp [room, w.isOpen, h]
  simp only [Full, Prefetch.reserve, resident] at *
  omega

/-- A task for every chunk of some caller. -/
theorem spawn {before ordinals after : List Nat}
    (w : Window count limit p (before ++ ordinals ++ after)) :
    Window count limit (p.spawn ordinals) (before ++ after) := by
  have moved : (p.running ++ ordinals ++ (before ++ after)).Perm (p.running ++ (before ++ ordinals ++ after)) := by
    simp only [List.append_assoc]
    exact (List.perm_append_comm_assoc _ _ _).append_left _
  refine ⟨w.count_eq, w.limit_eq, w.isOpen, w.expected_le, w.launch_le, w.launched_eq, ?_, ?_,
    w.resident_le, w.peak_le⟩
  · exact (moved.append_right _).trans w.interval
  · exact w.inFlight_eq.trans moved.length_eq.symm

theorem settle (w : Window count limit p reserved) {k : Nat} (r : Result α) (h : k ∈ p.running) :
    Window count limit (p.settle k r) reserved := by
  have fresh : k ∉ p.keys := by
    have := List.nodup_append.mp w.nodup
    exact fun hk => this.2.2 k (List.mem_append_left _ h) k hk rfl
  have kept : p.completed.filter (·.1 != k) = p.completed := by
    rw [List.filter_eq_self]
    intro c hc
    have : c.1 ≠ k := fun e => fresh (e ▸ List.mem_map_of_mem hc)
    simpa using this
  have moved : (p.running.erase k ++ reserved ++ k :: p.keys).Perm (p.running ++ reserved ++ p.keys) := by
    refine List.perm_middle.trans ?_
    rw [← List.cons_append, ← List.cons_append]
    exact ((List.perm_cons_erase h).symm.append_right _).append_right _
  have running_pos : 0 < p.running.length := List.length_pos_of_mem h
  have inFlight_eq := w.inFlight_eq
  have resident_le := w.resident_le
  have erased := List.length_erase_of_mem h
  simp only [List.length_append, resident] at inFlight_eq resident_le
  refine ⟨w.count_eq, w.limit_eq, w.isOpen, w.expected_le, w.launch_le, w.launched_eq, ?_, ?_, ?_, w.peak_le⟩
  · simpa [Prefetch.settle, w.isOpen, insertChunk, kept, keys] using moved.trans w.interval
  · simp only [Prefetch.settle, List.length_append, erased]
    omega
  · simp only [Prefetch.settle, resident, w.isOpen, insertChunk, kept, Bool.false_eq_true, if_false,
      List.length_cons]
    omega

theorem full_settle (w : Window count limit p reserved) {k : Nat} (r : Result α) (h : k ∈ p.running)
    (full : p.Full) : (p.settle k r).Full := by
  have before := w.resident_eq
  have after := (w.settle r h).resident_eq
  have same : (p.settle k r).resident = p.resident := after.trans before.symm
  rw [Full, same]
  exact full

/-- What is released leaves the window at its lower end. -/
theorem take (w : Window count limit p reserved) {k : Nat} {r : Result α} {q : Prefetch α}
    (h : p.take = (.chunk k r, q)) : Window count limit q reserved := by
  obtain ⟨rfl, found, rfl⟩ := take_eq_chunk h
  have known : p.nextExpected ∈ p.keys := mem_keys_of_lookup found
  have keys_nodup : p.keys.Nodup := (List.nodup_append.mp w.nodup).2.1
  have fresh : p.nextExpected ∉ p.running ++ reserved :=
    fun hk => (List.nodup_append.mp w.nodup).2.2 _ hk _ known rfl
  have erased : (p.completed.filter (·.1 != p.nextExpected)).map (·.1) = p.keys.erase p.nextExpected := by
    rw [keys_nodup.erase_eq_filter, keys, List.filter_map]
    rfl
  have in_range := (w.mem_interval.mp (List.mem_append_right _ known)).2
  have shorter : p.nextToLaunch - p.nextExpected = p.nextToLaunch - (p.nextExpected + 1) + 1 := by omega
  have lower : (p.nextExpected :: (p.running ++ reserved ++ p.keys.erase p.nextExpected)).Perm
      (p.nextExpected :: List.range' (p.nextExpected + 1) (p.nextToLaunch - (p.nextExpected + 1))) := by
    rw [← List.range'_succ, ← shorter]
    refine List.Perm.trans ?_ w.interval
    exact List.perm_middle.symm.trans ((List.perm_cons_erase known).symm.append_left _)
  have count_lt := length_filter_lt found
  have resident_le := w.resident_le
  simp only [resident] at resident_le
  refine ⟨w.count_eq, w.limit_eq, w.isOpen, in_range, w.launch_le, w.launched_eq, ?_, w.inFlight_eq, ?_,
    w.peak_le⟩
  · simpa only [keys, erased] using lower.cons_inv
  · simp only [resident]
    omega

theorem cancel (w : Window count limit p reserved) : Window count limit p.cancel reserved :=
  ⟨w.count_eq, w.limit_eq, w.isOpen, w.expected_le, w.launch_le, w.launched_eq, w.interval,
    w.inFlight_eq, w.resident_le, w.peak_le⟩

theorem launch (w : Window count limit p []) : Window count limit p.launch [] := by
  have reserved : Window count limit p.reserve.2 ([] ++ p.reserve.1 ++ []) := by simpa using w.reserve
  exact reserved.spawn

end Window

/-- A prefetch that nobody has stopped and no caller is about to fill. -/
structure Live (count limit : Nat) (p : Prefetch α) : Prop where
  window : Window count limit p []
  running : p.cancelled = false
  full : p.Full

theorem live_launch (w : Window count limit p []) (running : p.cancelled = false) : Live count limit p.launch :=
  ⟨w.launch, running, w.full_reserve running⟩

inductive Next (count limit : Nat) (p : Prefetch α) : Prop
  | finished (all : count ≤ p.nextExpected) (next : p.next = (.finished, p))
  | waiting (running : p.nextExpected ∈ p.running) (next : p.next = (.waiting p.nextExpected, p))
  | chunk {r q} (found : (p.nextExpected, r) ∈ p.completed)
      (next : p.next = (.chunk p.nextExpected (r.mapError (·.withChunk p.nextExpected)), q))
      (more : p.nextExpected < count) (live : Live count limit q)
      (expected : q.nextExpected = p.nextExpected + 1) (kept : ∀ c ∈ q.completed, c ∈ p.completed)

namespace Live

theorem settle (live : Live count limit p) {k : Nat} (r : Result α) (h : k ∈ p.running) :
    Live count limit (p.settle k r) :=
  ⟨live.window.settle r h, live.running, live.window.full_settle r h live.full⟩

theorem next_chunk (live : Live count limit p) {q : Prefetch α} {k : Nat} {r : Result α}
    (take : p.take = (.chunk k r, q)) :
    p.next = (.chunk k (r.mapError (·.withChunk k)), q.launch) := by
  rw [Prefetch.next, live.running, take]
  rfl

theorem next_other (live : Live count limit p) {turn : Turn α} (take : p.take = (turn, p))
    (other : ∀ k r, turn ≠ .chunk k r) : p.next = (turn, p) := by
  rw [Prefetch.next, live.running, take]
  cases turn with
  | chunk k r => exact absurd rfl (other k r)
  | _ => rfl

theorem next (live : Live count limit p) : Next count limit p := by
  have w := live.window
  by_cases all : count ≤ p.nextExpected
  · have take : p.take = (.finished, p) := by rw [Prefetch.take, if_pos (.inr (w.count_eq ▸ all))]
    exact .finished all (live.next_other take (by simp))
  · have more : p.nextExpected < count := Nat.lt_of_not_le all
    have looks : ¬(p.closed ∨ p.count ≤ p.nextExpected) := by simp [w.isOpen, w.count_eq, more]
    cases found : p.lookup p.nextExpected with
    | none =>
      have absent : p.nextExpected ∉ p.keys := by
        intro known
        obtain ⟨c, hc, same⟩ := List.mem_map.mp known
        have : ∀ c ∈ p.completed, c.1 ≠ p.nextExpected := by simpa [Prefetch.lookup] using found
        exact this c hc same
      have onItsWay : p.nextExpected ∈ p.running := by
        simpa [absent] using w.expected_mem live.full more
      have take : p.take = (.waiting p.nextExpected, p) := by rw [Prefetch.take, if_neg looks, found]
      exact .waiting onItsWay (live.next_other take (by simp))
    | some r =>
      have take : p.take = (.chunk p.nextExpected r, { p with
          completed := p.completed.filter (·.1 != p.nextExpected)
          nextExpected := p.nextExpected + 1 }) := by
        rw [Prefetch.take, if_neg looks, found]
      refine .chunk (mem_completed_of_lookup found) (live.next_chunk take) more
        (live_launch (w.take take) live.running) rfl ?_
      exact fun c hc => List.mem_of_mem_filter hc

end Live
end RowStream.Prefetch
