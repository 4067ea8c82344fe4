import RowStream.Stream.Callers
import RowStream.Proofs.PrefetchWindow

/-! # The window holds in every interleaving

A step either leaves the chunks alone or is one of the sections whose effect on the window is known. -/
namespace RowStream.Interleaving
open RowStream.Prefetch
variable {α : Type}

/-- A step before any shutdown, by what it does to the chunks and to the place of the caller. -/
inductive Move (s t : State α) : Event α → Prop
  | quiet {e} (chunks : t.chunks = s.chunks) (reserved : t.consumer.reserved = s.consumer.reserved)
      (filling : t.consumer.isFilling = s.consumer.isFilling) (notStart : e ≠ .start)
      (notSpawn : e ≠ .spawn) : Move s t e
  | start (chunks : t.chunks = s.chunks) (idle : s.consumer = .idle)
      (filling : t.consumer = .filling none) : Move s t .start
  | release {k r} (checked : s.consumer = .checked) (take : s.chunks.take = (.chunk k r, t.chunks))
      (filling : t.consumer = .filling (some (k, r))) : Move s t .look
  | reserve {taken} (filling : s.consumer = .filling taken) (chunks : t.chunks = s.chunks.reserve.2)
      (spawning : t.consumer = .spawning taken s.chunks.reserve.1) : Move s t .reserve
  | spawn {taken ordinals} (spawning : s.consumer = .spawning taken ordinals)
      (chunks : t.chunks = s.chunks.spawn ordinals) (answer : t.consumer = answer taken) : Move s t .spawn
  | settle {k r} (running : k ∈ s.chunks.running) (chunks : t.chunks = s.chunks.settle k r)
      (consumer : t.consumer = s.consumer) : Move s t (.settle k r)
  | cancel (chunks : t.chunks = s.chunks.cancel) (consumer : t.consumer = s.consumer) : Move s t .cancel

theorem consume?_move {s t : State α} {e : Event α} (h : consume? s e = some t) :
    t.shutdown = s.shutdown ∧ Move s t e := by
  obtain ⟨chunks, consumer, permit, notifying, shutdown⟩ := s
  cases e with
  | start =>
    cases consumer <;> simp only [consume?, reduceCtorEq, Option.some.injEq] at h
    subst h
    exact ⟨rfl, .start rfl rfl rfl⟩
  | look =>
    cases consumer <;> simp only [consume?, reduceCtorEq] at h
    split at h <;> simp only [Option.some.injEq] at h <;> subst h
    · rename_i take
      exact ⟨rfl, .release rfl take rfl⟩
    · rename_i take
      exact ⟨rfl, .quiet (take_eq_self take (by simp)) rfl rfl (by simp) (by simp)⟩
    · rename_i noChunk _ take
      refine ⟨rfl, .quiet (take_eq_self take ?_) rfl rfl (by simp) (by simp)⟩
      rintro k r rfl
      exact noChunk k r rfl
  | reserve =>
    cases consumer <;> simp only [consume?, reduceCtorEq, Option.some.injEq] at h
    subst h
    exact ⟨rfl, .reserve rfl rfl rfl⟩
  | spawn =>
    cases consumer <;> simp only [consume?, reduceCtorEq, Option.some.injEq] at h
    subst h
    exact ⟨rfl, .spawn rfl rfl rfl⟩
  | call | check | park | poll | timeOut | giveUp =>
    cases consumer <;> simp only [consume?, reduceCtorEq, Option.some.injEq] at h
    all_goals
      repeat' split at h
      all_goals simp_all only [reduceCtorEq, Option.some.injEq]
      all_goals
        subst h
        exact ⟨rfl, .quiet rfl rfl rfl (by simp) (by simp)⟩
  | settle | notify | cancel | close | fire | rouse | join | abort | clear => simp [consume?] at h

theorem shut?_called {s t : State α} {e : Event α} (h : shut? s e = some t) : t.shutdown ≠ .notCalled := by
  cases e with
  | join | clear | abort | close | fire | rouse =>
    simp only [shut?] at h
    repeat' split at h
    all_goals simp_all only [reduceCtorEq, Option.some.injEq]
    all_goals
      subst h
      simp_all
  | start | call | check | look | park | poll | reserve | spawn | timeOut | giveUp | settle | notify | cancel =>
    simp [shut?] at h

/-- Where shutdown has not been called it was not called before either. -/
theorem step?_move {s t : State α} {e : Event α} (h : step? s e = some t) (noShutdown : t.shutdown = .notCalled) :
    s.shutdown = .notCalled ∧ Move s t e := by
  cases e with
  | settle k r =>
    simp only [step?, Option.ite_none_right_eq_some, Option.some.injEq] at h
    obtain ⟨running, rfl⟩ := h
    exact ⟨noShutdown, .settle running rfl rfl⟩
  | notify k =>
    simp only [step?, Option.ite_none_right_eq_some, Option.some.injEq] at h
    obtain ⟨_, rfl⟩ := h
    rw [wake_shutdown] at noShutdown
    exact ⟨noShutdown, .quiet (wake_chunks _) (wake_reserved _) (wake_isFilling _) (by simp) (by simp)⟩
  | cancel =>
    simp only [step?, Option.some.injEq] at h
    subst h
    exact ⟨noShutdown, .cancel rfl rfl⟩
  | start | call | check | look | park | poll | timeOut | giveUp | reserve | spawn =>
    simp only [step?] at h
    obtain ⟨same, move⟩ := consume?_move h
    exact ⟨same ▸ noShutdown, move⟩
  | close | fire | rouse | join | abort | clear =>
    simp only [step?] at h
    exact (shut?_called h noShutdown).elim

namespace Move
variable {count limit : Nat} {s t : State α} {e : Event α} {before rest : List Nat}

/-- The caller stands between others, who have reserved `before` and `rest`. -/
theorem window (move : Move s t e)
    (w : Window count limit s.chunks (before ++ s.consumer.reserved ++ rest)) :
    Window count limit t.chunks (before ++ t.consumer.reserved ++ rest) := by
  cases move with
  | quiet chunks reserved => rwa [chunks, reserved]
  | start chunks idle filling => simpa [chunks, idle, filling] using w
  | release checked take filling => simpa [checked, filling] using w.take take
  | reserve filling chunks spawning =>
    rw [filling] at w
    rw [chunks, spawning]
    refine w.reserve.perm ?_
    simpa using (@List.perm_append_comm _ rest _).append_left before
  | spawn spawning chunks answer =>
    rw [spawning, Consumer.reserved_spawning] at w
    simpa [chunks, answer] using w.spawn
  | settle running chunks consumer =>
    rw [chunks, consumer]
    exact w.settle _ running
  | cancel chunks consumer =>
    rw [chunks, consumer]
    exact w.cancel

/-- What was handed out or is reserved are all chunks below the next one to launch. -/
theorem log_perm (move : Move s t e) {log : List Nat}
    (h : (log ++ (before ++ s.consumer.reserved ++ rest)).Perm (List.range s.chunks.nextToLaunch)) :
    (log ++ s.consumer.handed e ++ (before ++ t.consumer.reserved ++ rest)).Perm
      (List.range t.chunks.nextToLaunch) := by
  cases move with
  | quiet chunks reserved filling notStart notSpawn =>
    have none_handed : s.consumer.handed e = [] := by
      cases e <;> first | rfl | exact (notSpawn rfl).elim
    simpa [chunks, reserved, none_handed] using h
  | start chunks idle filling => simpa [chunks, idle, filling, Consumer.handed] using h
  | release checked take filling =>
    have kept : t.chunks.nextToLaunch = s.chunks.nextToLaunch := by rw [(take_eq_chunk take).2.2]
    simpa [kept, checked, filling, Consumer.handed] using h
  | reserve filling chunks spawning =>
    have grown : List.range t.chunks.nextToLaunch =
        List.range s.chunks.nextToLaunch ++ s.chunks.reserve.1 := by
      have := @List.range'_append_1 0 s.chunks.nextToLaunch s.chunks.room
      rw [Nat.zero_add] at this
      rw [chunks, List.range_eq_range', List.range_eq_range']
      exact this.symm
    rw [filling] at h
    rw [grown, spawning]
    refine List.Perm.trans ?_ (h.append_right _)
    simpa [Consumer.handed] using
      ((@List.perm_append_comm _ _ rest).append_left before).append_left log
  | spawn spawning chunks answer =>
    have kept : t.chunks.nextToLaunch = s.chunks.nextToLaunch := by
      rw [chunks]
      rfl
    rw [spawning] at h
    rw [kept, answer, spawning]
    refine List.Perm.trans ?_ h
    simpa [Consumer.handed] using
      ((List.perm_append_comm_assoc _ before rest).append_left log)
  | settle running chunks consumer =>
    have kept : t.chunks.nextToLaunch = s.chunks.nextToLaunch := by
      rw [chunks]
      rfl
    simpa [kept, consumer, Consumer.handed] using h
  | cancel chunks consumer =>
    have kept : t.chunks.nextToLaunch = s.chunks.nextToLaunch := by
      rw [chunks]
      rfl
    simpa [kept, consumer, Consumer.handed] using h

/-- A caller that is not about to fill a full window leaves it full, and whoever fills it makes it full. -/
theorem full (move : Move s t e) (w : Window count limit s.chunks (before ++ s.consumer.reserved ++ rest))
    (before_full : e ≠ .start → s.chunks.cancelled = false → s.consumer.isFilling = false → s.chunks.Full)
    (running : t.chunks.cancelled = false) (settled : t.consumer.isFilling = false) : t.chunks.Full := by
  cases move with
  | quiet chunks reserved filling notStart =>
    rw [chunks] at running ⊢
    exact before_full notStart running (filling ▸ settled)
  | start chunks idle filling => simp [filling, Consumer.isFilling] at settled
  | release checked take filling => simp [filling, Consumer.isFilling] at settled
  | reserve filling chunks =>
    rw [chunks] at running ⊢
    exact w.full_reserve running
  | spawn spawning chunks =>
    rw [chunks] at running ⊢
    exact before_full (by simp) running (by simp [spawning, Consumer.isFilling])
  | settle known chunks consumer =>
    rw [chunks] at running ⊢
    exact w.full_settle _ known (before_full (by simp) running (consumer ▸ settled))
  | cancel chunks => simp [chunks, Prefetch.cancel] at running

end Move

namespace Crowd
variable {count limit : Nat} {s t : Crowd α} {e : Nat × Event α}

/-- What a crowd keeps up: `log` are the chunks that were handed to tasks so far. -/
structure Sound (count limit : Nat) (log : List Nat) (started : Prop) (s : Crowd α) : Prop where
  window : Window count limit s.chunks s.reserved
  log_perm : (log ++ s.reserved).Perm (List.range s.chunks.nextToLaunch)
  full : started → s.chunks.cancelled = false → s.Settled → s.chunks.Full

theorem sound_initial (count limit callers : Nat) :
    Sound count limit [] False (initial count limit callers : Crowd α) := by
  have none_reserved : (initial count limit callers : Crowd α).reserved = [] := by
    simp [reserved, initial, Consumer.reserved]
  refine ⟨?_, ?_, False.elim⟩
  · rw [none_reserved]
    exact window_new count limit
  · rw [none_reserved]
    rfl

theorem callers_split {i : Nat} {c : Consumer α} (h : s.callers[i]? = some c) :
    ∃ before rest, s.callers = before ++ c :: rest ∧ ∀ d, s.callers.set i d = before ++ d :: rest := by
  obtain ⟨hi, rfl⟩ := List.getElem?_eq_some_iff.mp h
  refine ⟨s.callers.take i, s.callers.drop (i + 1), ?_, ?_⟩
  · rw [← List.drop_eq_getElem_cons hi, List.take_append_drop]
  · intro d
    rw [List.set_eq_take_append_cons_drop, if_pos hi]

theorem step?_eq_some (h : s.step? e = some t) :
    ∃ c u, s.callers[e.1]? = some c ∧ Interleaving.step? (s.seenBy c) e.2 = some u ∧ t = s.after e.1 u := by
  simp only [step?, Option.bind_eq_bind, Option.bind_eq_some_iff, Option.map_eq_some_iff] at h
  obtain ⟨c, found, u, hu, rfl⟩ := h
  exact ⟨c, u, found, hu, rfl⟩

theorem step?_notCalled (h : s.step? e = some t) (noShutdown : t.shutdown = .notCalled) :
    s.shutdown = .notCalled := by
  obtain ⟨c, u, _, hu, rfl⟩ := step?_eq_some h
  exact (step?_move hu noShutdown).1

theorem run?_notCalled {events : List (Nat × Event α)} (h : s.run? events = some t)
    (noShutdown : t.shutdown = .notCalled) : s.shutdown = .notCalled := by
  induction events generalizing s with
  | nil =>
    cases h
    exact noShutdown
  | cons e es ih =>
    obtain ⟨v, hv, rest⟩ := Option.bind_eq_some_iff.mp h
    exact step?_notCalled hv (ih rest)

theorem Sound.step {log : List Nat} {started : Prop} (sound : Sound count limit log started s)
    (h : s.step? e = some t) (noShutdown : t.shutdown = .notCalled) :
    Sound count limit (log ++ s.handed e) (started ∨ e.2 = .start) t := by
  obtain ⟨i, e⟩ := e
  obtain ⟨c, u, found, hu, rfl⟩ := step?_eq_some h
  obtain ⟨before, rest, callers, setTo⟩ := callers_split found
  have move := (step?_move hu noShutdown).2
  have reserved_before : s.reserved = before.flatMap Consumer.reserved ++ c.reserved ++
      rest.flatMap Consumer.reserved := by
    simp [Crowd.reserved, callers]
  have reserved_after : (s.after i u).reserved = before.flatMap Consumer.reserved ++ u.consumer.reserved ++
      rest.flatMap Consumer.reserved := by
    simp [Crowd.reserved, after, setTo]
  have settled_iff : (s.after i u).Settled ↔
      (∀ d ∈ before, d.isFilling = false) ∧ u.consumer.isFilling = false ∧ ∀ d ∈ rest, d.isFilling = false := by
    simp [Settled, after, setTo, or_imp, forall_and]
  have handed_eq : s.handed (i, e) = c.handed e := by
    simp [Crowd.handed, found]
  obtain ⟨window, log_perm, full⟩ := sound
  rw [reserved_before] at window log_perm
  refine ⟨?_, ?_, ?_⟩
  · rw [reserved_after]
    exact move.window window
  · rw [reserved_after, handed_eq]
    exact move.log_perm log_perm
  · intro begun running settled
    obtain ⟨beforeSettled, callerSettled, restSettled⟩ := settled_iff.mp settled
    refine move.full window ?_ running callerSettled
    intro notStart wasRunning wasSettled
    refine full (begun.resolve_right notStart) wasRunning ?_
    simpa [Settled, callers, or_imp, forall_and] using ⟨beforeSettled, wasSettled, restSettled⟩

theorem Sound.run {events : List (Nat × Event α)} {log : List Nat} {started : Prop}
    (sound : Sound count limit log started s) (h : s.run? events = some t)
    (noShutdown : t.shutdown = .notCalled) :
    Sound count limit (log ++ s.handedAlong events) (started ∨ ∃ i, (i, .start) ∈ events) t := by
  induction events generalizing s log started with
  | nil =>
    cases h
    simpa [handedAlong] using sound
  | cons e es ih =>
    obtain ⟨v, hv, rest⟩ := Option.bind_eq_some_iff.mp h
    have next := ih (sound.step hv (run?_notCalled rest noShutdown)) rest
    have begun : (started ∨ ∃ i, (i, Event.start) ∈ e :: es) ↔
        (started ∨ e.2 = .start) ∨ ∃ i, (i, Event.start) ∈ es := by
      obtain ⟨i, e⟩ := e
      simp [List.mem_cons, exists_or, or_assoc, eq_comm]
    rw [begun]
    simpa [handedAlong, hv] using next

end Crowd

/-- In every state that callers, tasks and cancellations lead to, the chunks that were launched and not
taken fill the window without a gap and each of them once. The window is never larger than its limit, no
chunk is handed to two tasks, and whoever waits for the next chunk waits for one that is on its way or
here. -/
theorem window_invariant {count limit callers : Nat} {events : List (Nat × Event α)} {s : Crowd α}
    (run : (Crowd.initial count limit callers).run? events = some s) (noShutdown : s.shutdown = .notCalled) :
    s.chunks.nextExpected ≤ s.chunks.nextToLaunch ∧ s.chunks.nextToLaunch ≤ count ∧
    s.chunks.launched = s.chunks.nextToLaunch ∧
    (s.unsettled ++ s.chunks.keys).Perm
      (List.range' s.chunks.nextExpected (s.chunks.nextToLaunch - s.chunks.nextExpected)) ∧
    s.chunks.inFlight = s.unsettled.length ∧
    s.chunks.inFlight + s.chunks.completed.length ≤ max limit 1 ∧ s.chunks.peak ≤ max limit 1 ∧
    ((Crowd.initial count limit callers).handedAlong events).Nodup ∧
    ((∃ i, (i, .start) ∈ events) → s.chunks.cancelled = false → s.Settled →
      (s.chunks.nextToLaunch = count ∨ s.chunks.inFlight + s.chunks.completed.length = max limit 1) ∧
      (s.chunks.nextExpected < count →
        s.chunks.nextExpected ∈ s.unsettled ∨ s.chunks.nextExpected ∈ s.chunks.keys)) := by
  have sound := (Crowd.sound_initial count limit callers).run run noShutdown
  obtain ⟨window, log_perm, full⟩ := sound
  have handed_nodup := log_perm.nodup_iff.mpr List.nodup_range
  refine ⟨window.expected_le, window.launch_le, window.launched_eq, window.interval, window.inFlight_eq,
    window.resident_le, window.peak_le, (List.nodup_append.mp handed_nodup).1, ?_⟩
  intro started running settled
  have isFull := full (.inr started) running settled
  refine ⟨?_, fun more => List.mem_append.mp (window.expected_mem isFull more)⟩
  have count_eq := window.count_eq
  have limit_eq := window.limit_eq
  rwa [Full, count_eq, limit_eq] at isFull

/-- A second caller waits, and the later chunk settles first. -/
def laterFirst : List (Nat × Event Nat) :=
  [(0, .start), (0, .reserve), (0, .spawn), (1, .call), (1, .check), (1, .look), (1, .park),
    (0, .settle 1 (.ok 10)), (1, .notify 1)]

def afterLaterFirst : Crowd Nat where
  chunks := {
    count := 3, limit := 2, completed := [(1, .ok 10)], nextToLaunch := 2, inFlight := 1, launched := 2
    peak := 2, running := [0] }
  callers := [.idle, .parked 0 true]

theorem window_invariant_laterFirst :
    (Crowd.initial 3 2 2).run? laterFirst = some afterLaterFirst ∧
    afterLaterFirst.shutdown = .notCalled ∧ (∃ i, (i, .start) ∈ laterFirst) ∧
    afterLaterFirst.chunks.cancelled = false ∧ afterLaterFirst.Settled ∧
    (afterLaterFirst.unsettled ++ afterLaterFirst.chunks.keys).Perm (List.range' 0 2) ∧
    (afterLaterFirst.chunks.nextExpected ∈ afterLaterFirst.unsettled ∨
      afterLaterFirst.chunks.nextExpected ∈ afterLaterFirst.chunks.keys) := by
  have run : (Crowd.initial 3 2 2).run? laterFirst = some afterLaterFirst := rfl
  have started : ∃ i, (i, .start) ∈ laterFirst := ⟨0, List.mem_cons_self⟩
  have settled : afterLaterFirst.Settled := by simp [Crowd.Settled, afterLaterFirst, Consumer.isFilling]
  obtain ⟨_, _, _, interval, _, _, _, _, full⟩ := window_invariant run rfl
  exact ⟨run, rfl, started, rfl, settled, interval, (full started rfl settled).2 (by decide)⟩

end RowStream.Interleaving
