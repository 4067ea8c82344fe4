import RowStream.Stream.Interleaving

/-! # Several callers of one prefetch

Callers share everything but the place that each of them has reached. An event names the caller that
makes the step or that a wake-up finds; whoever is woken in vain waits again. -/
namespace RowStream.Interleaving
variable {α : Type}

namespace Consumer

/-- The chunks that a caller has reserved and not yet started tasks for. -/
def reserved : Consumer α → List Nat
  | .spawning _ ordinals => ordinals
  | _ => []

/-- The chunks that a step of a caller hands to tasks, each of which fetches its chunk once. -/
def handed (c : Consumer α) : Event α → List Nat
  | .spawn => c.reserved
  | _ => []

/-- Between a release, or a start, and the filling of the window. -/
def isFilling : Consumer α → Bool
  | .filling _ => true
  | _ => false

@[simp] theorem reserved_idle : (idle : Consumer α).reserved = [] := rfl

@[simp] theorem reserved_checked : (checked : Consumer α).reserved = [] := rfl

@[simp] theorem reserved_filling (taken : Option (Nat × Result α)) : (filling taken).reserved = [] := rfl

@[simp] theorem reserved_spawning (taken : Option (Nat × Result α)) (ordinals : List Nat) :
    (spawning taken ordinals).reserved = ordinals := rfl

end Consumer

theorem wake_reserved (s : State α) : (wake s).consumer.reserved = s.consumer.reserved := by
  unfold wake
  split <;> simp_all [Consumer.reserved]

theorem wake_isFilling (s : State α) : (wake s).consumer.isFilling = s.consumer.isFilling := by
  unfold wake
  split <;> simp_all [Consumer.isFilling]

@[simp] theorem reserved_answer (taken : Option (Nat × Result α)) : (answer taken).reserved = [] := by
  cases taken <;> rfl

@[simp] theorem isFilling_answer (taken : Option (Nat × Result α)) : (answer taken).isFilling = false := by
  cases taken <;> rfl

structure Crowd (α : Type) where
  chunks : Prefetch α
  callers : List (Consumer α)
  permit : Bool := false
  notifying : List Nat := []
  shutdown : Shutdown := .notCalled

namespace Crowd

def seenBy (s : Crowd α) (caller : Consumer α) : State α :=
  ⟨s.chunks, caller, s.permit, s.notifying, s.shutdown⟩

/-- The crowd after the caller of that index has brought about a state. -/
def after (s : Crowd α) (i : Nat) (t : State α) : Crowd α :=
  ⟨t.chunks, s.callers.set i t.consumer, t.permit, t.notifying, t.shutdown⟩

def step? (s : Crowd α) (e : Nat × Event α) : Option (Crowd α) := do
  (Interleaving.step? (s.seenBy (← s.callers[e.1]?)) e.2).map (s.after e.1)

def run? (s : Crowd α) (events : List (Nat × Event α)) : Option (Crowd α) := events.foldlM step? s

def initial (count limit callers : Nat) : Crowd α :=
  { chunks := Prefetch.new count limit, callers := List.replicate callers .idle }

/-- All chunks that were reserved and have no task yet. -/
def reserved (s : Crowd α) : List Nat := s.callers.flatMap Consumer.reserved

/-- The chunks whose task has not settled. -/
def unsettled (s : Crowd α) : List Nat := s.chunks.running ++ s.reserved

def Settled (s : Crowd α) : Prop := ∀ c ∈ s.callers, c.isFilling = false

def handed (s : Crowd α) (e : Nat × Event α) : List Nat :=
  match s.callers[e.1]? with
  | some c => c.handed e.2
  | none => []

/-- The chunks that a run hands to tasks, in order. -/
def handedAlong (s : Crowd α) : List (Nat × Event α) → List Nat
  | [] => []
  | e :: es =>
    s.handed e ++ match s.step? e with
      | some t => t.handedAlong es
      | none => []

end Crowd
end RowStream.Interleaving
