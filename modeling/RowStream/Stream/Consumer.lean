import RowStream.Stream.Feed

/-! # Consumers

A call of a consumer looks for an answer until it has one or a chunk is missing. Between two looks
tasks settle and the token may be fired; `Run` follows a consumer through all of that. -/
namespace RowStream

/-- What a call comes to: an answer, or a chunk to wait for. -/
inductive Outcome (ρ : Type) where
  | answer (a : ρ)
  | waiting (ordinal : Nat)
deriving Repr, DecidableEq

/-- Whoever takes chunks of type `α` and answers calls by values of type `ρ`. -/
class Consumer (σ : Type) (α ρ : outParam Type) where
  feed : σ → Feed α
  withFeed : σ → Feed α → σ
  /-- How a downloaded chunk becomes a value. -/
  process : σ → Nat → List UInt8 → Result α
  /-- The checks at the start of a call; `none` to go on. -/
  enter : σ → Option ρ × σ
  /-- One look for an answer; `none` to look again. -/
  look : σ → Option (Outcome ρ) × σ
  close : σ → σ
  /-- What gets less from look to look. -/
  ready : σ → Nat
  look_ready {s t : σ} : look s = (none, t) → ready t < ready s

namespace Consumer
variable {σ α ρ : Type} [Consumer σ α ρ]

def resume (s : σ) : Outcome ρ × σ :=
  match _h : look s with
  | (some outcome, t) => (outcome, t)
  | (none, t) => resume t
termination_by ready s
decreasing_by exact look_ready _h

def call (s : σ) : Outcome ρ × σ :=
  match enter s with
  | (some a, t) => (.answer a, t)
  | (none, t) => resume t

def cancel (s : σ) : σ := withFeed s (feed s).cancel

def settle (s : σ) (ordinal : Nat) (r : Result α) : σ := withFeed s ((feed s).settle ordinal r)

def deliver (s : σ) (ordinal : Nat) (fetched : Result (List UInt8)) : σ :=
  settle s ordinal (Prefetch.taskResult (process s) ordinal fetched)

/-- A consumer in use: whether a call is under way, and the answers so far, the last one first, each
with the consumer that it left. -/
structure Use (σ ρ : Type) where
  consumer : σ
  calling : Bool := false
  answers : List (ρ × σ) := []

inductive Event (α : Type) where
  | call
  | look
  | settle (ordinal : Nat) (r : Result α)
  | cancel
  | close

def Use.answered (u : Use σ ρ) (a : ρ) (s : σ) : Use σ ρ := ⟨s, false, (a, s) :: u.answers⟩

/-- One event, if it can happen: calls and closing follow each other, and tasks settle once. -/
def step? (u : Use σ ρ) : Event α → Option (Use σ ρ)
  | .call =>
    if u.calling then none
    else match enter u.consumer with
      | (some a, s) => some (u.answered a s)
      | (none, s) => some { u with consumer := s, calling := true }
  | .look =>
    if u.calling then
      match look u.consumer with
      | (some (.answer a), s) => some (u.answered a s)
      | (_, s) => some { u with consumer := s }
    else none
  | .settle k r =>
    if k ∈ (feed u.consumer).running then some { u with consumer := settle u.consumer k r } else none
  | .cancel => some { u with consumer := cancel u.consumer }
  | .close => if u.calling then none else some { u with consumer := close u.consumer }

def run? (u : Use σ ρ) (events : List (Event α)) : Option (Use σ ρ) := events.foldlM step? u

def Reachable (s : σ) (u : Use σ ρ) : Prop := ∃ events, run? (⟨s, false, []⟩ : Use σ ρ) events = some u

theorem run?_append (u : Use σ ρ) (es fs : List (Event α)) :
    run? u (es ++ fs) = (run? u es).bind fun v => run? v fs := by
  simp [run?, List.foldlM_append]

end Consumer
end RowStream
