import RowStream.Manifest
import RowStream.Proofs.Traversal
import RowStream.Stream.Prefetch

/-! # What the chunks of a result hold

A tape has everything that comes out of the chunks of a result, one after the other. It ends with the last
chunk or with the error of the first bad one. -/
namespace RowStream

/-- An error as it is handed out for a chunk: it names that chunk unless it named one before, and nothing else of
it changes. -/
structure Error.HandedOut (k : Nat) (e f : Error) : Prop where
  chunk : f.chunk = some (e.chunk.getD k)
  kind : f.kind = e.kind
  message : f.message = e.message
  status : f.status = e.status

theorem Error.handedOut_iff {k : Nat} {e f : Error} : e.HandedOut k f ↔ e.withChunk k = f := by
  constructor
  · rintro ⟨chunk, kind, message, status⟩
    obtain ⟨_, _, _, _⟩ := f
    simp_all [withChunk]
  · rintro rfl
    exact ⟨rfl, rfl, rfl, rfl⟩

theorem Error.handedOut_withChunk (k : Nat) (e : Error) : e.HandedOut k (e.withChunk k) := handedOut_iff.mpr rfl

/-- Things in their order, and the error that ends them. -/
structure Tape (β : Type) where
  items : List β
  stop : Option Error

namespace Tape
variable {α β : Type} {items : α → List β}

def done : Tape β := ⟨[], none⟩

def before (front : List β) (t : Tape β) : Tape β := ⟨front ++ t.items, t.stop⟩

/-- The answer of each call in turn: the things, then the error once, then the end forever. -/
def answer (t : Tape β) (call : Nat) : Result (Option β) :=
  match t.items[call]? with
  | some x => .ok (some x)
  | none =>
    match t.stop with
    | some e => if call = t.items.length then .error e else .ok none
    | none => .ok none

/-- What results hold, one after the other up to the first one that is an error. -/
def ofResults (items : α → List β) : List (Result α) → Tape β
  | [] => done
  | .ok a :: rest => (ofResults items rest).before (items a)
  | .error e :: _ => ⟨[], some e⟩

@[simp] theorem answer_done (call : Nat) : (done : Tape β).answer call = .ok none := rfl

@[simp] theorem before_nil (t : Tape β) : t.before [] = t := rfl

theorem answer_item_succ (x : β) (front : List β) (t : Tape β) (call : Nat) :
    (t.before (x :: front)).answer (call + 1) = (t.before front).answer call := by
  simp [answer, before]

@[simp] theorem answer_stop (e : Error) : (⟨[], some e⟩ : Tape β).answer 0 = .error e := rfl

@[simp] theorem answer_stop_succ (e : Error) (call : Nat) :
    (⟨[], some e⟩ : Tape β).answer (call + 1) = .ok none := rfl

/-- Either every result is good, or the first bad one ends the tape. -/
theorem ofResults_cases (items : α → List β) (results : List (Result α)) :
    (∃ good : List α, results = good.map .ok ∧ ofResults items results = ⟨good.flatMap items, none⟩) ∨
    ∃ (good : List α) (e : Error) (rest : List (Result α)),
      results = good.map .ok ++ .error e :: rest ∧ ofResults items results = ⟨good.flatMap items, some e⟩ := by
  induction results with
  | nil => exact .inl ⟨[], rfl, rfl⟩
  | cons r rest ih =>
    cases r with
    | error e => exact .inr ⟨[], e, rest, rfl, rfl⟩
    | ok a =>
      rcases ih with ⟨good, rfl, tape⟩ | ⟨good, e, bad, rfl, tape⟩
      · exact .inl ⟨a :: good, rfl, by simp [ofResults, tape, before]⟩
      · exact .inr ⟨a :: good, e, bad, rfl, by simp [ofResults, tape, before]⟩

end Tape

namespace Manifest
variable {α : Type} {m : Manifest} {process : Nat → List UInt8 → Result α}
  {fetch : ChunkDescriptor → Result (List UInt8)}

/-- What the task of a chunk comes to, where the storage answers each descriptor in one way. -/
def outcome (m : Manifest) (process : Nat → List UInt8 → Result α) (fetch : ChunkDescriptor → Result (List UInt8))
    (ordinal : Nat) : Result α :=
  match m.get? ordinal with
  | some d => Prefetch.taskResult process ordinal (fetch d)
  | none => .error ((Error.invalidState "chunk missing from manifest").withChunk ordinal)

def outcomes (m : Manifest) (process : Nat → List UInt8 → Result α) (fetch : ChunkDescriptor → Result (List UInt8)) :
    List (Result α) :=
  (List.range m.chunks.length).map (m.outcome process fetch)

@[simp] theorem length_outcomes : (m.outcomes process fetch).length = m.chunks.length := by
  simp [outcomes]

theorem getElem?_outcomes {k : Nat} (h : k < m.chunks.length) :
    (m.outcomes process fetch)[k]? = some (m.outcome process fetch k) := by
  simp [outcomes, h]

theorem outcome_of_outcomes {k : Nat} {r : Result α} (here : (m.outcomes process fetch)[k]? = some r) :
    m.outcome process fetch k = r := by
  obtain ⟨inside, _⟩ := List.getElem?_eq_some_iff.mp here
  rw [length_outcomes] at inside
  exact Option.some.inj ((getElem?_outcomes inside).symm.trans here)

/-- A relation that says what becomes of what is fetched for a chunk says what the chunk comes to. -/
theorem comes_iff_outcome {k : Nat} {d : ChunkDescriptor} (known : m.get? k = some d)
    {Comes : Result (List UInt8) → Result α → Prop} (lost : ∀ e, Comes (.error e) (.error (e.withChunk k)))
    (taken : ∀ bytes, Comes (.ok bytes) (Result.mapError (·.withChunk k) (process k bytes)))
    (unique : ∀ {fetched r r'}, Comes fetched r → Comes fetched r' → r = r') {r : Result α} :
    Comes (fetch d) r ↔ m.outcome process fetch k = r := by
  have comes : Comes (fetch d) (m.outcome process fetch k) := by
    simp only [outcome, known, Prefetch.taskResult]
    cases fetch d with
    | error e => exact lost e
    | ok bytes => exact taken bytes
  exact ⟨unique comes, fun same => same ▸ comes⟩

/-- The error of a chunk names a chunk already. -/
theorem mapError_outcome (k : Nat) :
    Result.mapError (·.withChunk k) (m.outcome process fetch k) = m.outcome process fetch k := by
  unfold outcome
  split
  · unfold Prefetch.taskResult
    cases (fetch _).bind (process k) <;> rfl
  · rfl

/-- All outcomes before the first bad one are good, and it is the outcome of its own chunk. -/
theorem outcomes_error {good : List α} {back : List (Result α)} {e : Error}
    (h : m.outcomes process fetch = good.map .ok ++ .error e :: back) :
    ∃ d, m.get? good.length = some d ∧ m.outcome process fetch good.length = .error e ∧
      (List.range good.length).map (m.outcome process fetch) = good.map .ok := by
  have lengths : m.chunks.length = good.length + (back.length + 1) := by
    simpa [outcomes] using congrArg List.length h
  have inRange : good.length < m.chunks.length := by omega
  refine ⟨_, List.getElem?_eq_getElem inRange, ?_, ?_⟩
  · refine outcome_of_outcomes ?_
    rw [h, List.getElem?_append_right (by simp)]
    simp
  · have taken := congrArg (List.take good.length) h
    rw [List.take_left' (by simp), outcomes, ← List.map_take, List.take_range, lengths,
      Nat.min_eq_left (by omega)] at taken
    exact taken

end Manifest
end RowStream
