import RowStream.Stream.Prefetch

/-! # Interleavings of prefetching

One consumer, the tasks and one caller of shutdown. A step is a section under the lock, a wake-up or
the end of a task; steps follow each other in any order that `step?` allows. Handles of tasks that
have ended are not kept, so that nothing is left to reap. -/
namespace RowStream.Interleaving
open RowStream.Prefetch

inductive Consumer (α : Type) where
  | idle
  /-- Looks at the token next. -/
  | begun
  /-- Looks for its chunk next. -/
  | checked
  /-- Found no chunk and waits next. -/
  | missed (ordinal : Nat)
  /-- Waits; `woken` if a wake-up is on its way. -/
  | parked (ordinal : Nat) (woken : Bool)
  /-- Makes room next, with the chunk that it took in a call, or without one at the start. -/
  | filling (taken : Option (Nat × Result α))
  /-- Starts tasks for reserved chunks next. -/
  | spawning (taken : Option (Nat × Result α)) (ordinals : List Nat)
  | returned (turn : Turn α)

inductive Shutdown | notCalled | closed | fired | roused | joining (tasks : List Nat) | finished
deriving Repr, DecidableEq

structure State (α : Type) where
  chunks : Prefetch α
  consumer : Consumer α := .idle
  /-- A wake-up that found nobody waiting. -/
  permit : Bool := false
  /-- Tasks that have settled and wake the consumer next. -/
  notifying : List Nat := []
  shutdown : Shutdown := .notCalled

inductive Event (α : Type) where
  /-- The consumer fills the window for the first time, or asks for a chunk. -/
  | start | call
  | check | look | park | poll | reserve | spawn
  /-- A waiting call runs out of time, or is dropped. -/
  | timeOut | giveUp
  | settle (ordinal : Nat) (r : Result α)
  | notify (ordinal : Nat)
  /-- The token is fired from outside. -/
  | cancel
  | close | fire | rouse | join | abort (ordinal : Nat) | clear

variable {α : Type}

/-- A wake-up reaches the consumer that waits, or is kept; two of them are kept as one. -/
def wake (s : State α) : State α :=
  match s.consumer with
  | .parked k false => { s with consumer := .parked k true }
  | _ => { s with permit := true }

@[simp] theorem wake_chunks (s : State α) : (wake s).chunks = s.chunks := by
  unfold wake
  split <;> rfl

@[simp] theorem wake_shutdown (s : State α) : (wake s).shutdown = s.shutdown := by
  unfold wake
  split <;> rfl

@[simp] theorem wake_notifying (s : State α) : (wake s).notifying = s.notifying := by
  unfold wake
  split <;> rfl

def answer (taken : Option (Nat × Result α)) : Consumer α :=
  match taken with
  | some (k, r) => .returned (.chunk k (r.mapError (·.withChunk k)))
  | none => .idle

def consume? (s : State α) : Event α → Option (State α)
  | .start =>
    match s.consumer with
    | .idle => some { s with consumer := .filling none }
    | _ => none
  | .call =>
    match s.consumer with
    | .idle | .returned _ => some { s with consumer := .begun }
    | _ => none
  | .check =>
    match s.consumer with
    | .begun => some { s with consumer := if s.chunks.cancelled then .returned .cancelled else .checked }
    | _ => none
  | .look =>
    match s.consumer with
    | .checked =>
      match s.chunks.take with
      | (.chunk k r, p) => some { s with chunks := p, consumer := .filling (some (k, r)) }
      | (.waiting k, p) => some { s with chunks := p, consumer := .missed k }
      | (turn, p) => some { s with chunks := p, consumer := .returned turn }
    | _ => none
  | .park =>
    match s.consumer with
    | .missed k =>
      if s.chunks.cancelled then some { s with consumer := .returned .cancelled }
      else if s.permit then some { s with consumer := .begun, permit := false }
      else some { s with consumer := .parked k false }
    | _ => none
  | .poll =>
    match s.consumer with
    | .parked _ woken =>
      if s.chunks.cancelled then
        some { s with consumer := .returned .cancelled, permit := s.permit || woken }
      else if woken then some { s with consumer := .begun }
      else none
    | _ => none
  | .timeOut =>
    match s.consumer with
    | .parked _ woken => some { s with consumer := .begun, permit := s.permit || woken }
    | _ => none
  | .giveUp =>
    match s.consumer with
    | .parked _ woken => some { s with consumer := .idle, permit := s.permit || woken }
    | _ => none
  | .reserve =>
    match s.consumer with
    | .filling taken =>
      some { s with chunks := s.chunks.reserve.2, consumer := .spawning taken s.chunks.reserve.1 }
    | _ => none
  | .spawn =>
    match s.consumer with
    | .spawning taken ordinals => some { s with chunks := s.chunks.spawn ordinals, consumer := answer taken }
    | _ => none
  | _ => none

/-- What the caller of shutdown does. It waits for the tasks that there are when it takes them over. -/
def shut? (s : State α) : Event α → Option (State α)
  | .close => if s.shutdown = .notCalled then some { s with chunks := s.chunks.close, shutdown := .closed } else none
  | .fire => if s.shutdown = .closed then some { s with chunks := s.chunks.cancel, shutdown := .fired } else none
  | .rouse => if s.shutdown = .fired then some { wake s with shutdown := .roused } else none
  | .join =>
    if s.shutdown = .roused then
      some { s with shutdown := .joining (s.chunks.running ++ s.notifying) }
    else none
  | .abort k =>
    match s.shutdown with
    | .joining tasks =>
      if k ∈ tasks ∧ k ∈ s.chunks.running then
        some { s with chunks := { s.chunks with running := s.chunks.running.erase k } }
      else none
    | _ => none
  | .clear =>
    match s.shutdown with
    | .joining tasks =>
      if ∀ k ∈ tasks, k ∉ s.chunks.running ∧ k ∉ s.notifying then
        some { s with chunks := s.chunks.clear, shutdown := .finished }
      else none
    | _ => none
  | _ => none

/-- One step, if it can be made. A task settles before it wakes the consumer. -/
def step? (s : State α) (e : Event α) : Option (State α) :=
  match e with
  | .settle k r =>
    if k ∈ s.chunks.running then
      some { s with chunks := s.chunks.settle k r, notifying := k :: s.notifying }
    else none
  | .notify k =>
    if k ∈ s.notifying then some (wake { s with notifying := s.notifying.erase k }) else none
  | .cancel => some { s with chunks := s.chunks.cancel }
  | .start | .call | .check | .look | .park | .poll | .timeOut | .giveUp | .reserve | .spawn => consume? s e
  | .close | .fire | .rouse | .join | .abort _ | .clear => shut? s e

def run? (s : State α) (events : List (Event α)) : Option (State α) := events.foldlM step? s

def initial (count limit : Nat) : State α := { chunks := Prefetch.new count limit }

def Reachable (count limit : Nat) (s : State α) : Prop := ∃ events, run? (initial count limit) events = some s

@[simp] theorem run?_nil (s : State α) : run? s [] = some s := rfl

theorem run?_cons (s : State α) (e : Event α) (es : List (Event α)) :
    run? s (e :: es) = (step? s e).bind fun t => run? t es := rfl

theorem run?_append (s : State α) (es fs : List (Event α)) :
    run? s (es ++ fs) = (run? s es).bind fun t => run? t fs := by
  induction es generalizing s with
  | nil => rfl
  | cons e es ih =>
    rw [List.cons_append, run?_cons, run?_cons]
    cases step? s e with
    | none => rfl
    | some t => exact ih t

/-- What every step keeps lasts for a whole run. -/
theorem run?_keeps {P : State α → Prop} (kept : ∀ s e t, P s → step? s e = some t → P t) {s t : State α}
    {events : List (Event α)} (holds : P s) (run : run? s events = some t) : P t := by
  induction events generalizing s with
  | nil =>
    cases run
    exact holds
  | cons e es ih =>
    obtain ⟨v, first, rest⟩ := Option.bind_eq_some_iff.mp run
    exact ih (kept s e v holds first) rest

theorem Reachable.step {count limit : Nat} {s t : State α} {e : Event α} (h : Reachable count limit s)
    (he : step? s e = some t) : Reachable count limit t := by
  obtain ⟨es, hs⟩ := h
  refine ⟨es ++ [e], ?_⟩
  rw [run?_append, hs]
  simp [run?_cons, he]

/-- A call without interruption that finds its chunk. -/
theorem run?_next (s : State α) (h : s.consumer = .idle) {k : Nat} {r : Result α} {p : Prefetch α}
    (hn : s.chunks.next = (.chunk k r, p)) :
    run? s [.call, .check, .look, .reserve, .spawn] =
      some { s with chunks := p, consumer := .returned (.chunk k r) } := by
  obtain ⟨chunks, consumer, permit, notifying, shutdown⟩ := s
  cases h
  simp only [next] at hn
  split at hn
  · simp at hn
  · rename_i hc
    split at hn
    · rename_i k' r' p' ht
      simp only [Prod.mk.injEq, Turn.chunk.injEq] at hn
      obtain ⟨⟨rfl, rfl⟩, rfl⟩ := hn
      simp [run?_cons, step?, consume?, hc, ht, answer, launch]
    · rename_i hne _
      simp only [Prod.mk.injEq] at hn
      exact (hne k r hn.1).elim

end RowStream.Interleaving
