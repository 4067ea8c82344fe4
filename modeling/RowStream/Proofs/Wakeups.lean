import RowStream.Proofs.InterleavingSteps

/-! # No wake-up is lost

Tasks settle first and wake the consumer afterwards, and the consumer looks first and parks afterwards. One
permit is enough for all tasks: where it is used up the consumer looks again. -/
namespace RowStream.Interleaving
open RowStream.Prefetch
variable {α : Type}

theorem wake_awaited (s : State α) : (wake s).consumer.awaited = s.consumer.awaited := by
  unfold wake
  split
  · rename_i parked
    rw [parked]
    rfl
  · rfl

theorem wake_taken (s : State α) : (wake s).consumer.taken = s.consumer.taken := by
  unfold wake
  split
  · rename_i parked
    rw [parked]
    rfl
  · rfl

/-- Whoever is not woken by a wake-up finds its permit. -/
theorem wake_unwoken {s : State α} {k : Nat} (h : (wake s).consumer.unwoken = some k) : (wake s).permit = true := by
  unfold wake at h ⊢
  split at h
  · simp [Consumer.unwoken] at h
  · rfl

/-- A call waits for the next chunk, and if that has settled then the permit is there or its task is still
to wake the consumer. -/
structure Alert (s : State α) : Prop where
  place : ∀ k, s.consumer.awaited = some k → k = s.chunks.nextExpected ∧ k < s.chunks.count
  heard : ∀ k, s.consumer.unwoken = some k → k ∈ s.chunks.keys → s.permit = true ∨ k ∈ s.notifying

theorem alert_of_free {s : State α} (free : s.consumer.awaited = none) : Alert s := by
  refine ⟨fun k h => ?_, fun k h => ?_⟩
  · rw [free] at h
    cases h
  · rw [Consumer.awaited_of_unwoken h] at free
    cases free

theorem alert_initial (count limit : Nat) : Alert (initial count limit : State α) := alert_of_free rfl

/-- After a wake-up only the place has to be known. -/
theorem alert_wake {s : State α}
    (place : ∀ k, s.consumer.awaited = some k → k = s.chunks.nextExpected ∧ k < s.chunks.count) : Alert (wake s) := by
  refine ⟨fun k waits => ?_, fun k waits _ => .inl (wake_unwoken waits)⟩
  rw [wake_chunks]
  exact place k ((wake_awaited s).symm.trans waits)

theorem mem_keys_settle {p : Prefetch α} {j k : Nat} {r : Result α} (h : j ∈ (p.settle k r).keys) :
    j = k ∨ j ∈ p.keys := by
  obtain ⟨⟨_, x⟩, settled, rfl⟩ := List.mem_map.mp h
  rcases mem_completed_settle settled with ⟨same, _⟩ | before
  · exact .inl same
  · exact .inr (List.mem_map_of_mem before)

theorem not_mem_keys_of_lookup {p : Prefetch α} {k : Nat} (h : p.lookup k = none) : k ∉ p.keys := by
  intro known
  obtain ⟨c, settled, same⟩ := List.mem_map.mp known
  have other : ∀ c ∈ p.completed, c.1 ≠ k := by simpa [lookup] using h
  exact other c settled same

theorem answer_awaited (c : Option (Nat × Result α)) : (answer c).awaited = none := by
  cases c <;> rfl

theorem Alert.step {s t : State α} {e : Event α} (alert : Alert s) (act : Act s e t) : Alert t := by
  obtain ⟨place, heard⟩ := alert
  cases act with
  | turn _ _ free => exact alert_of_free free.awaited
  | miss checked take =>
    obtain ⟨rfl, more, missing⟩ := take_eq_waiting take
    refine ⟨?_, ?_⟩
    · rintro _ ⟨⟩
      exact ⟨rfl, more⟩
    · rintro _ ⟨⟩ settled
      exact (not_mem_keys_of_lookup missing settled).elim
  | park missed noPermit =>
    refine ⟨?_, ?_⟩
    · rintro _ ⟨⟩
      exact place _ (by rw [missed]; rfl)
    · rintro _ ⟨⟩ settled
      exact heard _ (by rw [missed]; rfl) settled
  | release | reserve => exact alert_of_free rfl
  | spawn => exact alert_of_free (answer_awaited _)
  | settle running =>
    refine ⟨place, fun j waits settled => ?_⟩
    rcases mem_keys_settle settled with rfl | before
    · exact .inr List.mem_cons_self
    · exact (heard j waits before).imp_right (List.mem_cons_of_mem _)
  | notify => exact alert_wake place
  | rouse => exact ⟨(alert_wake place).place, (alert_wake place).heard⟩
  | close | clear => exact ⟨place, fun _ _ settled => by simp [keys, close, clear] at settled⟩
  | cancel | fire | join | abort => exact ⟨place, heard⟩

theorem Alert.run {s t : State α} {events : List (Event α)} (alert : Alert s) (run : run? s events = some t) :
    Alert t :=
  run?_keeps (fun _ _ _ alert step => alert.step (act_of_step? step)) alert run

def Consumer.returning (c : Consumer α) : Event α → List Nat
  | .spawn => c.taken
  | _ => []

/-- The chunks that calls return along a run, in order. -/
def returnedAlong (s : State α) : List (Event α) → List Nat
  | [] => []
  | e :: es =>
    s.consumer.returning e ++ match step? s e with
      | some t => returnedAlong t es
      | none => []

theorem returning_of_taken {c : Consumer α} (e : Event α) (h : c.taken = []) : c.returning e = [] := by
  cases e <;> first | exact h | rfl

theorem taken_answer (c : Option (Nat × Result α)) : (answer c).taken = [] := by
  cases c <;> rfl

/-- What was returned and what is held are the chunks before the next one. -/
structure Counted (s t : State α) (returned : List Nat) : Prop where
  count : t.chunks.count = s.chunks.count
  forward : s.chunks.nextExpected ≤ t.chunks.nextExpected
  range : returned ++ t.consumer.taken =
    s.consumer.taken ++ List.range' s.chunks.nextExpected (t.chunks.nextExpected - s.chunks.nextExpected)

theorem counted_of_same {s t : State α} {e : Event α} (count : t.chunks.count = s.chunks.count)
    (next : t.chunks.nextExpected = s.chunks.nextExpected)
    (held : s.consumer.returning e ++ t.consumer.taken = s.consumer.taken) :
    Counted s t (s.consumer.returning e) :=
  ⟨count, Nat.le_of_eq next.symm, by rw [held, next, Nat.sub_self, List.range'_zero, List.append_nil]⟩

theorem Act.counted {s t : State α} {e : Event α} (act : Act s e t) : Counted s t (s.consumer.returning e) := by
  cases act with
  | turn taken _ free =>
    refine counted_of_same rfl rfl ?_
    rw [returning_of_taken _ taken, taken]
    exact free.taken
  | release checked take =>
    obtain ⟨rfl, _, rfl⟩ := take_eq_chunk take
    refine ⟨rfl, Nat.le_succ _, ?_⟩
    rw [checked, Nat.add_sub_cancel_left]
    rfl
  | reserve filling => exact counted_of_same rfl rfl (by rw [filling]; exact Consumer.taken_spawning _ _)
  | spawn spawning =>
    refine counted_of_same rfl rfl ?_
    rw [spawning, taken_answer, List.append_nil]
    rfl
  | miss checked => exact counted_of_same rfl rfl (by rw [checked]; rfl)
  | park missed => exact counted_of_same rfl rfl (by rw [missed]; rfl)
  | notify => exact counted_of_same (by rw [wake_chunks]) (by rw [wake_chunks]) (wake_taken _)
  | rouse => exact counted_of_same (by simp) (by simp) (wake_taken s)
  | settle | cancel | close | fire | join | abort | clear => exact counted_of_same rfl rfl rfl

theorem Counted.trans {s t u : State α} {first rest : List Nat} (before : Counted s t first)
    (after : Counted t u rest) :
    Counted s u (first ++ rest) := by
  refine ⟨after.count.trans before.count, Nat.le_trans before.forward after.forward, ?_⟩
  have forward := before.forward
  have later := after.forward
  have joined := @List.range'_append_1 s.chunks.nextExpected (t.chunks.nextExpected - s.chunks.nextExpected)
    (u.chunks.nextExpected - t.chunks.nextExpected)
  rw [Nat.add_sub_cancel' forward] at joined
  rw [List.append_assoc, after.range, ← List.append_assoc, before.range, List.append_assoc, joined]
  congr 2
  omega

/-- As long as no chunk was returned or taken the next one is the same. -/
theorem Counted.same {s t : State α} (counted : Counted s t []) (held : t.consumer.taken = []) :
    t.chunks.nextExpected = s.chunks.nextExpected := by
  have range := counted.range
  rw [held] at range
  have length := congrArg List.length range
  simp only [List.append_nil, List.length_nil, List.length_append, List.length_range'] at length
  have forward := counted.forward
  omega

theorem run?_counted {s t : State α} {events : List (Event α)} (run : run? s events = some t) :
    Counted s t (returnedAlong s events) := by
  induction events generalizing s with
  | nil =>
    cases run
    exact ⟨rfl, Nat.le_refl _, by simp [returnedAlong]⟩
  | cons e es ih =>
    obtain ⟨v, first, rest⟩ := Option.bind_eq_some_iff.mp run
    rw [returnedAlong, first]
    exact (act_of_step? first).counted.trans (ih rest)

/-- A call that has ended without a chunk was stopped. -/
def Excused (s : State α) : Prop :=
  ∀ turn, s.consumer = .returned turn → (∀ k r, turn ≠ .chunk k r) ∧ Stopped s.chunks

theorem Act.stopped {s t : State α} {e : Event α} (act : Act s e t) (stopped : Stopped s.chunks) :
    Stopped t.chunks := by
  have forward := act.counted.forward
  have count := act.counted.count
  rcases stopped with fired | closed | all
  · exact .inl (act.fired fired)
  · exact .inr (.inl (act.closed closed))
  · exact .inr (.inr (by omega))

theorem returned_of_wake {s : State α} {turn : Turn α} (h : (wake s).consumer = .returned turn) :
    s.consumer = .returned turn := by
  unfold wake at h
  split at h
  · cases h
  · exact h

theorem Excused.step {s t : State α} {e : Event α} (excused : Excused s) (act : Act s e t)
    (none : s.consumer.returning e = []) : Excused t := by
  have kept (same : ∀ turn, t.consumer = .returned turn → s.consumer = .returned turn) : Excused t := by
    intro turn ended
    obtain ⟨noChunk, stopped⟩ := excused turn (same turn ended)
    exact ⟨noChunk, act.stopped stopped⟩
  cases act with
  | turn _ _ _ ended => exact ended
  | miss | park | release | reserve =>
    rintro _ ⟨⟩
  | @spawn taken _ spawning =>
    -- Whoever returns a chunk here returns one in this step.
    rw [spawning] at none
    cases taken with
    | none => rintro _ ⟨⟩
    | some c => cases none
  | notify => exact kept fun _ => returned_of_wake
  | rouse => exact kept fun _ => returned_of_wake (s := s)
  | settle | cancel | close | fire | join | abort | clear => exact kept fun _ ended => ended

theorem Excused.run {s t : State α} {events : List (Event α)} (excused : Excused s) (run : run? s events = some t)
    (none : returnedAlong s events = []) : Excused t := by
  induction events generalizing s with
  | nil =>
    cases run
    exact excused
  | cons e es ih =>
    obtain ⟨v, first, rest⟩ := Option.bind_eq_some_iff.mp run
    rw [returnedAlong, first, List.append_eq_nil_iff] at none
    exact ih (excused.step (act_of_step? first) none.1) rest none.2

/-- What a dropped call leaves behind: its wake-up, if there was one, and everything else as it was. -/
def dropped (s : State α) (woken : Bool) : State α := { s with consumer := .idle, permit := s.permit || woken }

theorem giveUp_parked {s : State α} {k : Nat} {woken : Bool} (parked : s.consumer = .parked k woken) :
    step? s .giveUp = some (dropped s woken) := by
  simp [step?, consume?, parked, dropped]

theorem range'_of_append {a m : Nat} {xs ys : List Nat} (h : xs ++ ys = List.range' a m) :
    ∃ n, xs = List.range' a n := by
  obtain ⟨n, _, rfl, _⟩ := List.range'_eq_append_iff.mp h.symm
  exact ⟨n, rfl⟩

/-- The next chunk, once it has settled, is what an uninterrupted call returns. -/
theorem next_of_lookup {p : Prefetch α} {r : Result α} (running : p.cancelled = false) (isOpen : p.closed = false)
    (more : p.nextExpected < p.count) (settled : p.lookup p.nextExpected = some r) :
    ∃ q, p.next = (.chunk p.nextExpected (r.mapError (·.withChunk p.nextExpected)), q) := by
  have looks : ¬(p.closed = true ∨ p.count ≤ p.nextExpected) := by simp [isOpen, more]
  rw [next, running, take, if_neg looks, settled]
  exact ⟨_, rfl⟩

/-- No wake-up is lost: whoever is parked for a chunk that has settled has a permit, a wake-up on its way, or
a task that is still to wake it. A parked call that is dropped takes nothing with it: from then on the calls
return the chunk that it waited for and those after it, in order, the next call returns that chunk as soon as it
has settled, and no call ends without a chunk before it unless the token was fired or shutdown has begun. -/
theorem no_lost_wakeup {count limit : Nat} {events : List (Event α)} {s : State α}
    (run : run? (initial count limit) events = some s) :
    (¬∃ k, s.consumer = .parked k false ∧ k ∈ s.chunks.keys ∧ s.permit = false ∧ s.notifying = []) ∧
    ∀ k woken, s.consumer = .parked k woken →
      step? s .giveUp = some (dropped s woken) ∧
      ∀ more t, run? (dropped s woken) more = some t →
        (∃ n, returnedAlong (dropped s woken) more = List.range' k n) ∧
        (returnedAlong (dropped s woken) more = [] →
          (∀ turn, t.consumer = .returned turn → t.chunks.cancelled = true ∨ t.chunks.closed = true) ∧
          ∀ r, t.consumer = .idle → t.chunks.cancelled = false → t.chunks.closed = false →
            t.chunks.lookup k = some r →
            ∃ u, run? t [.call, .check, .look, .reserve, .spawn] = some u ∧
              u.consumer = .returned (.chunk k (r.mapError (·.withChunk k)))) := by
  obtain ⟨place, heard⟩ := (alert_initial count limit).run run
  constructor
  · rintro ⟨k, parked, settled, noPermit, noTask⟩
    rcases heard k (by rw [parked]; rfl) settled with permit | task
    · rw [noPermit] at permit
      cases permit
    · rw [noTask] at task
      cases task
  · intro k woken parked
    obtain ⟨rfl, inside⟩ := place k (by rw [parked]; rfl)
    refine ⟨giveUp_parked parked, fun more t rest => ?_⟩
    have counted := run?_counted rest
    refine ⟨range'_of_append counted.range, fun none => ?_⟩
    rw [none] at counted
    have count : t.chunks.count = s.chunks.count := counted.count
    constructor
    · intro turn ended
      obtain ⟨_, stopped⟩ := (Excused.run (by rintro _ ⟨⟩) rest none : Excused t) turn ended
      have same : t.chunks.nextExpected = s.chunks.nextExpected := counted.same (by rw [ended]; rfl)
      rcases stopped with fired | closed | all
      · exact .inl fired
      · exact .inr closed
      · omega
    · intro r idle running isOpen settled
      have same : t.chunks.nextExpected = s.chunks.nextExpected := counted.same (by rw [idle]; rfl)
      rw [← same, ← count] at inside
      rw [← same] at settled ⊢
      obtain ⟨q, next⟩ := next_of_lookup running isOpen inside settled
      exact ⟨_, run?_next t idle next, rfl⟩

/-- The chunk settles while a call is parked for it, and its task is still to wake the call. -/
def settledFirst : List (Event Nat) := [.start, .reserve, .spawn, .call, .check, .look, .park, .settle 0 (.ok 7)]

def afterSettledFirst : State Nat where
  chunks := { count := 2, limit := 1, completed := [(0, .ok 7)], nextToLaunch := 1, launched := 1, peak := 1 }
  consumer := .parked 0 false
  notifying := [0]

/-- The call is dropped before it is woken, and the next one returns the chunk. -/
theorem no_lost_wakeup_settledFirst :
    run? (initial 2 1) settledFirst = some afterSettledFirst ∧ afterSettledFirst.consumer = .parked 0 false ∧
    0 ∈ afterSettledFirst.chunks.keys ∧
    ∃ t u, run? (dropped afterSettledFirst false) [.notify 0] = some t ∧
      run? t [.call, .check, .look, .reserve, .spawn] = some u ∧ u.consumer = .returned (.chunk 0 (.ok 7)) := by
  have run : run? (initial 2 1) settledFirst = some afterSettledFirst := rfl
  obtain ⟨_, later⟩ := no_lost_wakeup run
  have rest : run? (dropped afterSettledFirst false) [.notify 0] =
      some { dropped afterSettledFirst false with permit := true, notifying := [] } := rfl
  obtain ⟨_, unreturned⟩ := (later 0 false rfl).2 _ _ rest
  obtain ⟨u, next, returned⟩ := (unreturned rfl).2 (.ok 7) rfl rfl rfl rfl
  exact ⟨run, rfl, List.mem_cons_self, _, u, rest, next, returned⟩

end RowStream.Interleaving
