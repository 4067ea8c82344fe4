import RowStream.Proofs.InterleavingSteps

/-! # After shutdown

Shutdown waits for the tasks that there are when it takes them over. Whoever has reserved chunks before it and
starts their tasks afterwards leaves tasks that nobody waits for; nothing that they bring is kept. -/
namespace RowStream.Interleaving
open RowStream.Prefetch
variable {α : Type}

def Shutdown.hasJoined : Shutdown → Bool
  | .joining _ | .finished => true
  | _ => false

/-- The chunks whose task runs, is still to wake the consumer, or is still to be started. -/
def remaining (s : State α) : List Nat := s.chunks.running ++ s.notifying ++ s.consumer.reserved

/-- Shutdown closes first and fires the token next. -/
structure Announced (s : State α) : Prop where
  closed : s.shutdown ≠ .notCalled → s.chunks.closed = true
  fired : s.shutdown ≠ .notCalled → s.shutdown ≠ .closed → s.chunks.cancelled = true

theorem Announced.step {s t : State α} {e : Event α} (announced : Announced s) (act : Act s e t) : Announced t := by
  have kept (same : t.shutdown = s.shutdown) : Announced t :=
    ⟨fun called => act.closed (announced.closed (same ▸ called)),
      fun called later => act.fired (announced.fired (same ▸ called) (same ▸ later))⟩
  have moved (stage : s.shutdown ≠ .notCalled) (next : s.shutdown ≠ .closed) : Announced t :=
    ⟨fun _ => act.closed (announced.closed stage), fun _ _ => act.fired (announced.fired stage next)⟩
  cases act with
  | close => exact ⟨fun _ => rfl, fun _ later => (later rfl).elim⟩
  | fire stage => exact ⟨fun _ => announced.closed (by simp [stage]), fun _ _ => rfl⟩
  | rouse stage | join stage | clear stage => exact moved (by simp [stage]) (by simp [stage])
  | notify => exact kept (wake_shutdown _)
  | _ => exact kept rfl

theorem Announced.run {s t : State α} {events : List (Event α)} (announced : Announced s)
    (run : run? s events = some t) : Announced t :=
  run?_keeps (fun _ _ _ announced step => announced.step (act_of_step? step)) announced run

theorem Act.join_of_hasJoined {s t : State α} {e : Event α} (act : Act s e t) (before : s.shutdown.hasJoined = false)
    (after : t.shutdown.hasJoined = true) : e = .join ∧ s.shutdown = .roused := by
  cases act with
  | join stage => exact ⟨rfl, stage⟩
  | close | fire | rouse => cases after
  | clear stage =>
    rw [stage] at before
    cases before
  | notify =>
    rw [wake_shutdown] at after
    rw [after] at before
    cases before
  | _ =>
    rw [after] at before
    cases before

/-- A run that ends with the tasks taken over has a moment at which that was done. -/
theorem exists_join {s t : State α} {events : List (Event α)} (run : run? s events = some t)
    (before : s.shutdown.hasJoined = false) (after : t.shutdown.hasJoined = true) :
    ∃ front back j, events = front ++ .join :: back ∧ run? s front = some j ∧ j.shutdown = .roused ∧
      run? j (.join :: back) = some t := by
  induction events generalizing s with
  | nil =>
    cases run
    rw [after] at before
    cases before
  | cons e es ih =>
    obtain ⟨v, first, rest⟩ := Option.bind_eq_some_iff.mp run
    cases joined : v.shutdown.hasJoined with
    | true =>
      obtain ⟨rfl, roused⟩ := (act_of_step? first).join_of_hasJoined before joined
      exact ⟨[], es, s, rfl, rfl, roused, run⟩
    | false =>
      obtain ⟨front, back, j, rfl, toJoin, roused, fromJoin⟩ := ih rest joined
      refine ⟨e :: front, back, j, rfl, ?_, roused, fromJoin⟩
      rw [run?_cons, first]
      exact toJoin

/-- The task of a chunk is one that shutdown waits for, or one of those in `left`, which it does not know. -/
def Accounted (left : List Nat) (s : State α) (k : Nat) : Prop :=
  k ∈ left ∨ ∃ tasks, s.shutdown = .joining tasks ∧ k ∈ tasks

structure Leaving (left : List Nat) (s : State α) : Prop where
  closed : s.chunks.closed = true
  fired : s.chunks.cancelled = true
  reserved : ∀ k ∈ s.consumer.reserved, k ∈ left
  running : ∀ k ∈ s.chunks.running, Accounted left s k
  notifying : ∀ k ∈ s.notifying, Accounted left s k
  stage : (∃ tasks, s.shutdown = .joining tasks) ∨
    s.shutdown = .finished ∧ s.chunks.inFlight = 0 ∧ s.chunks.completed = []

theorem leaving_of_join {s t : State α} (announced : Announced s) (h : step? s .join = some t) :
    Leaving s.consumer.reserved t := by
  simp only [step?, shut?, Option.ite_none_right_eq_some, Option.some.injEq] at h
  obtain ⟨roused, rfl⟩ := h
  refine ⟨announced.closed (by simp [roused]), announced.fired (by simp [roused]) (by simp [roused]),
    fun k hk => hk, fun k hk => .inr ⟨_, rfl, List.mem_append_left _ hk⟩,
    fun k hk => .inr ⟨_, rfl, List.mem_append_right _ hk⟩, .inl ⟨_, rfl⟩⟩

theorem take_of_closed {p : Prefetch α} (h : p.closed = true) : p.take = (.finished, p) := by
  rw [take, if_pos (.inl h)]

theorem room_of_closed {p : Prefetch α} (h : p.closed = true) : p.room = 0 := by
  simp [room, h]

theorem Leaving.step {left : List Nat} {s t : State α} {e : Event α} (leaving : Leaving left s) (act : Act s e t) :
    Leaving left t := by
  obtain ⟨closed, fired, reserved, running, notifying, stage⟩ := leaving
  have closedAfter := act.closed closed
  have firedAfter := act.fired fired
  cases act with
  | turn _ _ free => exact ⟨closed, fired, by simp [free.reserved], running, notifying, stage⟩
  | miss | park => exact ⟨closed, fired, by simp [Consumer.reserved], running, notifying, stage⟩
  | release _ take =>
    rw [take_of_closed closed] at take
    cases take
  | reserve =>
    have none : s.chunks.reserve.1 = [] := by simp [Prefetch.reserve, room_of_closed closed]
    refine ⟨closedAfter, firedAfter, by simp [none], running, notifying, ?_⟩
    simpa [Prefetch.reserve, room_of_closed closed] using stage
  | spawn spawning =>
    rw [spawning] at reserved
    refine ⟨closedAfter, firedAfter, by simp, fun k started => ?_, notifying, stage⟩
    rcases List.mem_append.mp started with before | now
    · exact running k before
    · exact .inl (reserved k now)
  | settle known =>
    refine ⟨closedAfter, firedAfter, reserved, fun k hk => running k (List.mem_of_mem_erase hk), ?_, ?_⟩
    · exact List.forall_mem_cons.mpr ⟨running _ known, notifying⟩
    · rcases stage with joining | ⟨finished, noneInFlight, empty⟩
      · exact .inl joining
      · exact .inr ⟨finished, by simp [Prefetch.settle, noneInFlight], by simp [Prefetch.settle, closed, empty]⟩
  | notify =>
    refine ⟨closedAfter, firedAfter, ?_, ?_, ?_, ?_⟩
    · rw [wake_reserved]
      exact reserved
    · simpa [Accounted] using running
    · simpa [Accounted] using fun k hk => notifying k (List.mem_of_mem_erase hk)
    · simpa using stage
  | cancel => exact ⟨closedAfter, firedAfter, reserved, running, notifying, stage⟩
  | close first | fire first | rouse first | join first => simp [first] at stage
  | abort => exact ⟨closedAfter, firedAfter, reserved, fun k hk => running k (List.mem_of_mem_erase hk), notifying,
      stage⟩
  | clear joining ended =>
    -- Whatever has not ended is none of the tasks that were waited for.
    have unknown {k : Nat} (accounted : Accounted left s k) (lasts : k ∈ s.chunks.running ∨ k ∈ s.notifying) :
        k ∈ left := by
      rcases accounted with known | ⟨tasks, same, waited⟩
      · exact known
      · rw [joining] at same
        cases same
        exact (lasts.elim (ended k waited).1 (ended k waited).2).elim
    exact ⟨closedAfter, firedAfter, reserved, fun k hk => .inl (unknown (running k hk) (.inl hk)),
      fun k hk => .inl (unknown (notifying k hk) (.inr hk)), .inr ⟨rfl, rfl, rfl⟩⟩

theorem Leaving.run {left : List Nat} {s t : State α} {events : List (Event α)} (leaving : Leaving left s)
    (run : run? s events = some t) : Leaving left t :=
  run?_keeps (fun _ _ _ leaving step => leaving.step (act_of_step? step)) leaving run

/-- What lasts after shutdown was reserved before it. -/
theorem Leaving.remaining {left : List Nat} {s : State α} (leaving : Leaving left s)
    (finished : s.shutdown = .finished) :
    ∀ k ∈ remaining s, k ∈ left := by
  have known {k : Nat} (accounted : Accounted left s k) : k ∈ left := by
    rcases accounted with known | ⟨tasks, joining, _⟩
    · exact known
    · rw [finished] at joining
      cases joining
  intro k lasts
  rcases List.mem_append.mp lasts with task | kept
  · rcases List.mem_append.mp task with runs | wakes
    · exact known (leaving.running k runs)
    · exact known (leaving.notifying k wakes)
  · exact leaving.reserved k kept

theorem Leaving.empty {left : List Nat} {s : State α} (leaving : Leaving left s) (finished : s.shutdown = .finished) :
    s.chunks.inFlight = 0 ∧ s.chunks.completed = [] := by
  rcases leaving.stage with ⟨tasks, joining⟩ | ⟨_, counts⟩
  · rw [finished] at joining
    cases joining
  · exact counts

theorem Act.finished {s t : State α} {e : Event α} (act : Act s e t) (finished : s.shutdown = .finished) :
    t.shutdown = .finished := by
  cases act with
  | close stage | fire stage | rouse stage | join stage =>
    rw [finished] at stage
    cases stage
  | notify => rwa [wake_shutdown]
  | clear => rfl
  | _ => exact finished

theorem run?_finished {s t : State α} {events : List (Event α)} (finished : s.shutdown = .finished)
    (run : run? s events = some t) : t.shutdown = .finished :=
  run?_keeps (fun _ _ _ finished step => (act_of_step? step).finished finished) finished run

/-- A call that is about to see the token, or has seen it. -/
def Refused (s : State α) : Prop := s.consumer = .begun ∨ s.consumer = .returned .cancelled

theorem Refused.wake {s : State α} (refused : Refused s) : Refused (wake s) := by
  rcases refused with same | same <;> simp [Refused, Interleaving.wake, same]

theorem Refused.step {s t : State α} {e : Event α} (refused : Refused s) (fired : s.chunks.cancelled = true)
    (h : step? s e = some t) : Refused t := by
  cases e with
  | start | look | park | poll | timeOut | giveUp | reserve | spawn =>
    rcases refused with same | same <;> simp [step?, consume?, same] at h
  | call =>
    rcases refused with same | same <;> simp only [step?, consume?, same, reduceCtorEq, Option.some.injEq] at h
    subst h
    exact .inl rfl
  | check =>
    rcases refused with same | same <;> simp only [step?, consume?, same, fired, reduceCtorEq, Option.some.injEq] at h
    subst h
    exact .inr rfl
  | settle | close | fire | join =>
    simp only [step?, shut?, Option.ite_none_right_eq_some, Option.some.injEq] at h
    obtain ⟨_, rfl⟩ := h
    exact refused
  | notify | rouse =>
    simp only [step?, shut?, Option.ite_none_right_eq_some, Option.some.injEq] at h
    obtain ⟨_, rfl⟩ := h
    exact Refused.wake refused
  | cancel =>
    simp only [step?, Option.some.injEq] at h
    subst h
    exact refused
  | abort | clear =>
    simp only [step?, shut?] at h
    split at h <;> simp only [reduceCtorEq, Option.ite_none_right_eq_some, Option.some.injEq] at h
    obtain ⟨_, rfl⟩ := h
    exact refused

theorem Refused.run {s t : State α} {events : List (Event α)} (refused : Refused s) (fired : s.chunks.cancelled = true)
    (run : run? s events = some t) : Refused t := by
  have kept (s : State α) (e : Event α) (t : State α) (holds : Refused s ∧ s.chunks.cancelled = true)
      (step : step? s e = some t) : Refused t ∧ t.chunks.cancelled = true :=
    ⟨holds.1.step holds.2 step, (act_of_step? step).fired holds.2⟩
  exact (run?_keeps kept ⟨refused, fired⟩ run).1

theorem refused_of_call {s t : State α} (h : step? s .call = some t) : t.consumer = .begun := by
  cases called : s.consumer <;> simp only [step?, consume?, called, reduceCtorEq, Option.some.injEq] at h
  all_goals
    subst h
    rfl

/-- Once shutdown has returned nothing is in flight or buffered, now and later, and no later call returns a chunk.
The only tasks that run then or are started later are those of chunks that the consumer had reserved, without
having started their tasks, at the moment at which shutdown took the tasks over. -/
theorem after_shutdown {count limit : Nat} {events : List (Event α)} {s : State α}
    (run : run? (initial count limit) events = some s) (finished : s.shutdown = .finished) :
    (∀ more t, run? s more = some t →
      t.shutdown = .finished ∧ t.chunks.inFlight = 0 ∧ t.chunks.completed = []) ∧
    (∀ more t, run? s (.call :: more) = some t → t.consumer = .begun ∨ t.consumer = .returned .cancelled) ∧
    ∃ front back j, events = front ++ .join :: back ∧ run? (initial count limit) front = some j ∧
      ∀ more t, run? s more = some t → ∀ k ∈ remaining t, k ∈ j.consumer.reserved := by
  have start : Announced (initial count limit : State α) :=
    ⟨fun called => (called rfl).elim, fun called => (called rfl).elim⟩
  obtain ⟨front, back, j, split, toJoin, _, fromJoin⟩ := exists_join run rfl (by rw [finished]; rfl)
  obtain ⟨v, joined, rest⟩ := Option.bind_eq_some_iff.mp fromJoin
  have leaving : Leaving j.consumer.reserved s := (leaving_of_join (start.run toJoin) joined).run rest
  refine ⟨fun more t later => ?_, fun more t later => ?_, front, back, j, split, toJoin, fun more t later k hk => ?_⟩
  · have last := run?_finished finished later
    exact ⟨last, (leaving.run later).empty last⟩
  · obtain ⟨u, called, rest⟩ := Option.bind_eq_some_iff.mp later
    exact Refused.run (.inl (refused_of_call called)) ((act_of_step? called).fired leaving.fired) rest
  · exact (leaving.run later).remaining (run?_finished finished later) k hk

/-- The consumer has taken its chunk and reserved the next one when shutdown begins. -/
def reservedAhead : List (Event Nat) :=
  [.start, .reserve, .spawn, .settle 0 (.ok 7), .notify 0, .call, .check, .look, .reserve,
    .close, .fire, .rouse, .join, .clear]

def afterReservedAhead : State Nat where
  chunks := {
    count := 2, limit := 1, nextExpected := 1, nextToLaunch := 2, launched := 2, peak := 1, closed := true
    cancelled := true }
  consumer := .spawning (some (0, .ok 7)) [1]
  permit := true
  shutdown := .finished

theorem after_shutdown_reservedAhead :
    run? (initial 2 1) reservedAhead = some afterReservedAhead ∧ afterReservedAhead.shutdown = .finished ∧
    ∃ t, run? afterReservedAhead [.spawn, .settle 1 (.ok 8)] = some t ∧ t.chunks.inFlight = 0 ∧
      t.chunks.completed = [] := by
  have run : run? (initial 2 1) reservedAhead = some afterReservedAhead := rfl
  have later : run? afterReservedAhead [.spawn, .settle 1 (.ok 8)] =
      some { afterReservedAhead with consumer := .returned (.chunk 0 (.ok 7)), notifying := [1] } := rfl
  exact ⟨run, rfl, _, later, ((after_shutdown run rfl).1 _ _ later).2⟩

/-- A task is started after shutdown has returned, and runs. -/
theorem task_after_shutdown :
    ∃ s t : State Nat, run? (initial 2 1) reservedAhead = some s ∧ s.shutdown = .finished ∧
      step? s .spawn = some t ∧ t.shutdown = .finished ∧ t.chunks.running = [1] :=
  ⟨afterReservedAhead, _, rfl, rfl, rfl, rfl, rfl⟩

end RowStream.Interleaving
