import RowStream.Stream.Callers
import RowStream.Proofs.PrefetchWindow

/-! # The steps of an interleaving

Everything that a step can do, said once, with shutdown included. -/
namespace RowStream.Interleaving
open RowStream.Prefetch
variable {α : Type}

namespace Consumer

/-- The chunk that a call waits for, or is about to. -/
def awaited : Consumer α → Option Nat
  | .missed k | .parked k _ => some k
  | _ => none

/-- The same, as long as no wake-up is on its way. -/
def unwoken : Consumer α → Option Nat
  | .missed k | .parked k false => some k
  | _ => none

/-- The chunk that a call has taken and not returned yet. -/
def taken : Consumer α → List Nat
  | .filling (some (k, _)) | .spawning (some (k, _)) _ => [k]
  | _ => []

@[simp] theorem taken_spawning (c : Option (Nat × Result α)) (ordinals : List Nat) :
    (spawning c ordinals).taken = (filling c).taken := by
  cases c <;> rfl

theorem awaited_of_unwoken {c : Consumer α} {k : Nat} (h : c.unwoken = some k) : c.awaited = some k := by
  unfold unwoken at h
  split at h
  · exact h
  · exact h
  · cases h

end Consumer

/-- A consumer that holds no chunk, has nothing reserved and does not wait. -/
structure Consumer.Free (c : Consumer α) : Prop where
  taken : c.taken = []
  reserved : c.reserved = []
  awaited : c.awaited = none

def Stopped (p : Prefetch α) : Prop := p.cancelled = true ∨ p.closed = true ∨ p.count ≤ p.nextExpected

/-- What a step does to the state. -/
inductive Act (s : State α) : Event α → State α → Prop
  /-- The consumer goes on without a chunk, waiting no longer if it did. -/
  | turn {e c permit} (taken : s.consumer.taken = []) (reserved : s.consumer.reserved = []) (free : c.Free)
      (ended : ∀ turn, c = .returned turn → (∀ k r, turn ≠ .chunk k r) ∧ Stopped s.chunks) :
      Act s e { s with consumer := c, permit }
  | miss {k} (checked : s.consumer = .checked) (take : s.chunks.take = (.waiting k, s.chunks)) :
      Act s .look { s with consumer := .missed k }
  | park {k} (missed : s.consumer = .missed k) (noPermit : s.permit = false) :
      Act s .park { s with consumer := .parked k false }
  | release {k r p} (checked : s.consumer = .checked) (take : s.chunks.take = (.chunk k r, p)) :
      Act s .look { s with chunks := p, consumer := .filling (some (k, r)) }
  | reserve {taken} (filling : s.consumer = .filling taken) :
      Act s .reserve { s with chunks := s.chunks.reserve.2, consumer := .spawning taken s.chunks.reserve.1 }
  | spawn {taken ordinals} (spawning : s.consumer = .spawning taken ordinals) :
      Act s .spawn { s with chunks := s.chunks.spawn ordinals, consumer := answer taken }
  | settle {k r} (running : k ∈ s.chunks.running) :
      Act s (.settle k r) { s with chunks := s.chunks.settle k r, notifying := k :: s.notifying }
  | notify {k} (settled : k ∈ s.notifying) : Act s (.notify k) (wake { s with notifying := s.notifying.erase k })
  | cancel : Act s .cancel { s with chunks := s.chunks.cancel }
  | close (first : s.shutdown = .notCalled) :
      Act s .close { s with chunks := s.chunks.close, shutdown := .closed }
  | fire (closed : s.shutdown = .closed) : Act s .fire { s with chunks := s.chunks.cancel, shutdown := .fired }
  | rouse (fired : s.shutdown = .fired) : Act s .rouse { wake s with shutdown := .roused }
  | join (roused : s.shutdown = .roused) :
      Act s .join { s with shutdown := .joining (s.chunks.running ++ s.notifying) }
  | abort {k tasks} (joining : s.shutdown = .joining tasks) (running : k ∈ s.chunks.running) :
      Act s (.abort k) { s with chunks := { s.chunks with running := s.chunks.running.erase k } }
  | clear {tasks} (joining : s.shutdown = .joining tasks)
      (ended : ∀ k ∈ tasks, k ∉ s.chunks.running ∧ k ∉ s.notifying) :
      Act s .clear { s with chunks := s.chunks.clear, shutdown := .finished }

theorem turn_cancelled {s : State α} {e : Event α} {permit : Bool} (taken : s.consumer.taken = [])
    (reserved : s.consumer.reserved = []) (fired : s.chunks.cancelled = true) :
    Act s e { s with consumer := .returned .cancelled, permit } := by
  refine .turn taken reserved ⟨rfl, rfl, rfl⟩ ?_
  rintro _ ⟨⟩
  exact ⟨by simp, .inl fired⟩

theorem act_of_consume? {s t : State α} {e : Event α} (h : consume? s e = some t) : Act s e t := by
  obtain ⟨chunks, consumer, permit, notifying, shutdown⟩ := s
  cases e with
  | look =>
    cases consumer <;> simp only [consume?, reduceCtorEq] at h
    split at h <;> simp only [Option.some.injEq] at h <;> subst h
    · rename_i take
      exact .release rfl take
    · rename_i k p take
      obtain rfl := take_eq_self take (by simp)
      exact .miss rfl take
    · rename_i noChunk noWait take
      obtain rfl := take_eq_self take fun k r same => noChunk k r same
      refine .turn rfl rfl ⟨rfl, rfl, rfl⟩ ?_
      rintro _ ⟨⟩
      exact ⟨fun k r same => noChunk k r same, .inr (take_ended take (fun k r same => noChunk k r same) noWait)⟩
  | reserve =>
    cases consumer <;> simp only [consume?, reduceCtorEq, Option.some.injEq] at h
    subst h
    exact .reserve rfl
  | spawn =>
    cases consumer <;> simp only [consume?, reduceCtorEq, Option.some.injEq] at h
    subst h
    exact .spawn rfl
  | check =>
    cases consumer <;> simp only [consume?, reduceCtorEq, Option.some.injEq] at h
    subst h
    by_cases fired : chunks.cancelled = true
    · rw [if_pos fired]
      exact turn_cancelled rfl rfl fired
    · rw [if_neg fired]
      exact .turn rfl rfl ⟨rfl, rfl, rfl⟩ (by simp)
  | park =>
    cases consumer <;> simp only [consume?, reduceCtorEq] at h
    by_cases fired : chunks.cancelled = true
    · rw [if_pos fired, Option.some.injEq] at h
      subst h
      exact turn_cancelled rfl rfl fired
    · rw [if_neg fired] at h
      cases permit <;> simp only [Bool.false_eq_true, if_true, if_false, Option.some.injEq] at h <;> subst h
      · exact .park rfl rfl
      · exact .turn rfl rfl ⟨rfl, rfl, rfl⟩ (by simp)
  | poll =>
    cases consumer <;> simp only [consume?, reduceCtorEq] at h
    by_cases fired : chunks.cancelled = true
    · rw [if_pos fired, Option.some.injEq] at h
      subst h
      exact turn_cancelled rfl rfl fired
    · rw [if_neg fired, Option.ite_none_right_eq_some, Option.some.injEq] at h
      obtain ⟨_, rfl⟩ := h
      exact .turn rfl rfl ⟨rfl, rfl, rfl⟩ (by simp)
  | start | call | timeOut | giveUp =>
    cases consumer <;> simp only [consume?, reduceCtorEq, Option.some.injEq] at h
    all_goals
      subst h
      exact .turn rfl rfl ⟨rfl, rfl, rfl⟩ (by simp)
  | settle | notify | cancel | close | fire | rouse | join | abort | clear => simp [consume?] at h

theorem act_of_shut? {s t : State α} {e : Event α} (h : shut? s e = some t) : Act s e t := by
  cases e with
  | close | fire | rouse | join =>
    simp only [shut?, Option.ite_none_right_eq_some, Option.some.injEq] at h
    obtain ⟨stage, rfl⟩ := h
    constructor
    exact stage
  | abort k =>
    simp only [shut?] at h
    split at h
    · rename_i tasks joining
      simp only [Option.ite_none_right_eq_some, Option.some.injEq] at h
      obtain ⟨⟨_, running⟩, rfl⟩ := h
      exact .abort joining running
    · cases h
  | clear =>
    simp only [shut?] at h
    split at h
    · rename_i tasks joining
      simp only [Option.ite_none_right_eq_some, Option.some.injEq] at h
      obtain ⟨ended, rfl⟩ := h
      exact .clear joining ended
    · cases h
  | start | call | check | look | park | poll | reserve | spawn | timeOut | giveUp | settle | notify | cancel =>
    simp [shut?] at h

theorem act_of_step? {s t : State α} {e : Event α} (h : step? s e = some t) : Act s e t := by
  cases e with
  | settle k r =>
    simp only [step?, Option.ite_none_right_eq_some, Option.some.injEq] at h
    obtain ⟨running, rfl⟩ := h
    exact .settle running
  | notify k =>
    simp only [step?, Option.ite_none_right_eq_some, Option.some.injEq] at h
    obtain ⟨settled, rfl⟩ := h
    exact .notify settled
  | cancel =>
    simp only [step?, Option.some.injEq] at h
    subst h
    exact .cancel
  | start | call | check | look | park | poll | timeOut | giveUp | reserve | spawn => exact act_of_consume? h
  | close | fire | rouse | join | abort | clear => exact act_of_shut? h

theorem Act.fired {s t : State α} {e : Event α} (act : Act s e t) (fired : s.chunks.cancelled = true) :
    t.chunks.cancelled = true := by
  cases act with
  | release _ take =>
    rw [(take_eq_chunk take).2.2]
    exact fired
  | notify | rouse => simpa using fired
  | cancel | fire => rfl
  | _ => exact fired

theorem Act.closed {s t : State α} {e : Event α} (act : Act s e t) (closed : s.chunks.closed = true) :
    t.chunks.closed = true := by
  cases act with
  | release _ take =>
    rw [(take_eq_chunk take).2.2]
    exact closed
  | notify | rouse => simpa using closed
  | close => rfl
  | _ => exact closed

end RowStream.Interleaving
