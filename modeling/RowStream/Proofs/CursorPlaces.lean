import Mathlib.Data.Prod.Lex
import Mathlib.Order.WithBot
import RowStream.Proofs.CursorSteps
import RowStream.Proofs.Traversal

/-! # The places of a cursor

A cursor names the place of its row: the chunk, none for inline rows, and the row in it. Whatever happens to
it, it holds the chunk that it names, and all that it has still to read comes after the places where it was. -/
namespace RowStream
open RowStream.Prefetch

/-- Places in their order: inline rows are before all chunks. -/
abbrev Place := WithBot Nat ×ₗ Nat

def place (chunk : Option Nat) (row : Nat) : Place := toLex (chunk, row)

theorem place_lt_next (chunk : Option Nat) (i : Nat) : place chunk i < place chunk (i + 1) :=
  Prod.Lex.toLex_lt_toLex.mpr (.inr ⟨rfl, Nat.lt_succ_self i⟩)

theorem place_lt_of_lt {j k : Nat} (h : j < k) (i : Nat) : place (some j) i < place (some k) 0 := by
  have chunks : (j : WithBot Nat) < (k : WithBot Nat) := WithBot.coe_lt_coe.mpr h
  exact Prod.Lex.toLex_lt_toLex.mpr (.inl chunks)

theorem place_none_lt (k i : Nat) : place none i < place (some k) 0 := by
  have chunks : (⊥ : WithBot Nat) < (k : WithBot Nat) := WithBot.bot_lt_coe k
  exact Prod.Lex.toLex_lt_toLex.mpr (.inl chunks)

def RowPlan.rowsAt (plan : RowPlan) (fetch : ChunkDescriptor → Result (List UInt8)) (inlineRows : List Row) :
    Option Nat → List Row
  | none => inlineRows
  | some k =>
    match plan.outcome fetch k with
    | .ok chunk => chunk.rows
    | .error _ => []

theorem RowPlan.ordinal_of_process {plan : RowPlan} {k : Nat} {bytes : List UInt8} {chunk : DecodedChunk}
    (h : plan.process k bytes = .ok chunk) : chunk.ordinal = some k := by
  obtain ⟨rows, _, counted⟩ := bind_eq_ok.mp h
  split at counted
  · split at counted
    · obtain rfl := Except.ok.inj counted
      rfl
    · cases counted
  · obtain rfl := Except.ok.inj counted
    rfl

theorem RowPlan.ordinal_of_outcome {plan : RowPlan} {fetch : ChunkDescriptor → Result (List UInt8)} {k : Nat}
    {chunk : DecodedChunk} (h : plan.outcome fetch k = .ok chunk) : chunk.ordinal = some k := by
  unfold outcome Manifest.outcome at h
  split at h
  · obtain ⟨bytes, _, processed⟩ := bind_eq_ok.mp (mapError_eq_ok.mp h)
    exact ordinal_of_process processed
  · cases h

/-- Everything that has settled is what its task brings, and after closing nothing is there. -/
structure Prefetch.Sourced {α : Type} (outcome : Nat → Result α) (p : Prefetch α) : Prop where
  arrived : ∀ k r, (k, r) ∈ p.completed → r = outcome k
  empty : p.closed = true → p.inFlight = 0 ∧ p.completed = [] ∧ p.running = []

theorem Prefetch.Sourced.settle {α : Type} {outcome : Nat → Result α} {p : Prefetch α} (sourced : p.Sourced outcome)
    {k : Nat} (running : k ∈ p.running) : (p.settle k (outcome k)).Sourced outcome := by
  cases closed : p.closed with
  | true => simp [(sourced.empty closed).2.2] at running
  | false =>
    refine ⟨?_, by simp [Prefetch.settle, closed]⟩
    intro j r known
    rcases mem_completed_settle known with ⟨rfl, rfl⟩ | known
    · rfl
    · exact sourced.arrived j r known

theorem Prefetch.Sourced.shutdown {α : Type} (outcome : Nat → Result α) (p : Prefetch α) :
    p.shutdown.Sourced outcome :=
  ⟨by simp [Prefetch.shutdown, clear], fun _ => ⟨rfl, rfl, rfl⟩⟩

namespace RowCursor
variable {plan : RowPlan} {fetch : ChunkDescriptor → Result (List UInt8)} {inlineRows : List Row} {c d : RowCursor}
  {u v : Use} {x : Place}

def rowPlace (c : RowCursor) : Place := place c.state.chunk c.state.rowOffset

/-- The row that the state names. -/
def namedRow? (plan : RowPlan) (fetch : ChunkDescriptor → Result (List UInt8)) (inlineRows : List Row) (c : RowCursor) :
    Option Row :=
  (plan.rowsAt fetch inlineRows c.state.chunk)[c.state.rowOffset]?

/-- The chunk that a cursor holds is the one that its state names, and everything before it has been taken. -/
structure Holds (plan : RowPlan) (fetch : ChunkDescriptor → Result (List UInt8)) (inlineRows : List Row) (c : RowCursor)
    (chunk : DecodedChunk) : Prop where
  named : c.state.chunk = chunk.ordinal
  rows : chunk.rows = plan.rowsAt fetch inlineRows chunk.ordinal
  inline : c.inline = none
  taken : ∀ k p, chunk.ordinal = some k → c.feed.prefetch = some p → k < p.nextExpected

/-- How a cursor stands, whatever has happened to it. -/
structure Kept (plan : RowPlan) (fetch : ChunkDescriptor → Result (List UInt8)) (inlineRows : List Row)
    (c : RowCursor) :
    Prop where
  sourced : ∀ p, c.feed.prefetch = some p → p.Sourced (plan.outcome fetch)
  holds : ∀ chunk, c.current = some chunk → c.Holds plan fetch inlineRows chunk
  inline : ∀ rows, c.inline = some rows → rows = inlineRows
  onRow : ∀ i, c.position = some i → ∃ chunk, c.current = some chunk ∧ i < chunk.rows.length ∧ c.state.rowOffset = i
  ended : c.state.terminal = true → c.current = none
  closed : c.closed = true → c.state.terminal = true ∧ ∀ p, c.feed.prefetch = some p → p.closed = true

/-- All that a cursor has still to read comes after a place. -/
structure Ahead (x : Place) (c : RowCursor) : Prop where
  inline : c.inline = none
  held : ∀ chunk, c.current = some chunk → x < place chunk.ordinal c.nextPlace
  later : ∀ p, c.feed.prefetch = some p → x < place (some p.nextExpected) 0

theorem Kept.position_none (kept : c.Kept plan fetch inlineRows) (h : c.current = none) : c.position = none := by
  cases position : c.position with
  | none => rfl
  | some i =>
    obtain ⟨chunk, current, _⟩ := kept.onRow i position
    simp [h] at current

/-- A cursor is on a row exactly if it has a position, and then on the one that its state names. -/
theorem Kept.currentRow?_eq (kept : c.Kept plan fetch inlineRows) :
    c.currentRow? = if c.position.isSome then namedRow? plan fetch inlineRows c else none := by
  cases position : c.position with
  | none => cases current : c.current <;> simp [currentRow?, position, current]
  | some i =>
    obtain ⟨chunk, current, inside, offset⟩ := kept.onRow i position
    have holds := kept.holds chunk current
    simp [currentRow?, position, current, namedRow?, holds.named, offset, ← holds.rows]

theorem Kept.isSome_currentRow? (kept : c.Kept plan fetch inlineRows) :
    c.currentRow?.isSome = c.position.isSome := by
  cases position : c.position with
  | none => cases current : c.current <;> simp [currentRow?, position, current]
  | some i =>
    obtain ⟨chunk, current, inside, _⟩ := kept.onRow i position
    simp [currentRow?, position, current, inside]

theorem Kept.sourced_taken (kept : c.Kept plan fetch inlineRows) {k : Nat} {r : Result DecodedChunk}
    {feed : Feed DecodedChunk} (taken : c.feed.Fetched (.chunk k r, feed)) :
    ∀ q, feed.prefetch = some q → q.Sourced (plan.outcome fetch) := by
  obtain ⟨p, q, _, prefetch, rfl, _, _, _, _, _, known, isOpen⟩ := taken.taken
  rintro _ ⟨⟩
  have sourced := kept.sourced p prefetch
  exact ⟨fun j r here => sourced.arrived j r (known _ here), by simp [isOpen]⟩

theorem Kept.outcome_of_taken (kept : c.Kept plan fetch inlineRows) {k : Nat} {chunk : DecodedChunk}
    {feed : Feed DecodedChunk} (taken : c.feed.Fetched (.chunk k (.ok chunk), feed)) :
    plan.outcome fetch k = .ok chunk := by
  obtain ⟨p, q, r, prefetch, _, _, _, _, here, same, _⟩ := taken.taken
  rw [← (kept.sourced p prefetch).arrived k r here]
  exact mapError_eq_ok.mp same.symm

theorem Kept.found (kept : c.Kept plan fetch inlineRows) (isOpen : c.closed = false)
    (more : c.state.terminal = false) {o : Option (Outcome (Result Bool))} (found : Found c (o, d)) :
    d.Kept plan fetch inlineRows := by
  cases found with
  | @row chunk current inside =>
    refine ⟨kept.sourced, ?_, kept.inline, ?_, by simp [onNextRow, more], by simp [onNextRow, isOpen]⟩
    · intro chunk current
      have holds := kept.holds chunk current
      exact ⟨holds.named, holds.rows, holds.inline, holds.taken⟩
    · rintro _ ⟨⟩
      exact ⟨chunk, current, inside, rfl⟩
  | @inline rows inline =>
    refine ⟨kept.sourced, ?_, by simp [enterChunk], by simp [enterChunk, dropChunk],
      by simp [enterChunk, dropChunk, more], by simp [enterChunk, dropChunk, isOpen]⟩
    rintro _ ⟨⟩
    exact ⟨rfl, kept.inline rows inline, rfl, by simp⟩
  | @chunk k chunk feed inline taken =>
    have outcome := kept.outcome_of_taken taken
    have ordinal := RowPlan.ordinal_of_outcome outcome
    refine ⟨kept.sourced_taken taken, ?_, by simp [enterChunk, dropChunk, inline], by simp [enterChunk, dropChunk],
      by simp [enterChunk, dropChunk, more], by simp [enterChunk, dropChunk, isOpen]⟩
    rintro _ ⟨⟩
    -- The feed expects the next chunk now, so the one that is held is behind it.
    refine ⟨rfl, ?_, inline, ?_⟩
    · rw [ordinal, RowPlan.rowsAt, outcome]
    · obtain ⟨p, q, _, _, rfl, _, expected, _⟩ := taken.taken
      rintro j _ named ⟨⟩
      obtain rfl : k = j := Option.some.inj (ordinal.symm.trans named)
      exact expected ▸ Nat.lt_succ_self k
  | failed inline taken =>
    exact ⟨kept.sourced_taken taken, by simp [fail, dropChunk], by simp [fail, dropChunk, inline],
      by simp [fail, dropChunk], fun _ => rfl, by simp [fail, dropChunk, isOpen]⟩
  | finished inline taken | cancelled inline taken | waiting inline taken =>
    obtain rfl := taken.same (by simp)
    exact ⟨kept.sourced, by simp [finish, fail, dropChunk], kept.inline, by simp [finish, fail, dropChunk],
      fun _ => rfl, by simp [finish, fail, dropChunk, isOpen]⟩

theorem Ahead.found (ahead : c.Ahead x) (kept : c.Kept plan fetch inlineRows)
    {o : Option (Outcome (Result Bool))} (found : Found c (o, d)) : d.Ahead x := by
  cases found with
  | @row chunk current inside =>
    refine ⟨ahead.inline, ?_, ahead.later⟩
    intro chunk current
    exact (ahead.held chunk current).trans (place_lt_next _ _)
  | inline inline => simp [ahead.inline] at inline
  | @chunk k chunk feed inline taken =>
    have ordinal := RowPlan.ordinal_of_outcome (kept.outcome_of_taken taken)
    obtain ⟨p, q, _, prefetch, rfl, rfl, expected, _⟩ := taken.taken
    have before := ahead.later p prefetch
    refine ⟨inline, ?_, ?_⟩
    · rintro _ ⟨⟩
      rw [ordinal]
      exact before
    · rintro _ ⟨⟩
      exact before.trans (place_lt_of_lt (expected ▸ Nat.lt_succ_self _) 0)
  | failed inline taken =>
    obtain ⟨p, q, _, prefetch, rfl, rfl, expected, _⟩ := taken.taken
    refine ⟨inline, by simp [fail, dropChunk], ?_⟩
    rintro _ ⟨⟩
    exact (ahead.later p prefetch).trans (place_lt_of_lt (expected ▸ Nat.lt_succ_self _) 0)
  | finished inline taken | cancelled inline taken | waiting inline taken =>
    obtain rfl := taken.same (by simp)
    exact ⟨inline, by simp [finish, fail, dropChunk], ahead.later⟩

/-- A row is behind whatever comes after it. -/
theorem Kept.ahead_onNextRow (kept : c.Kept plan fetch inlineRows) {chunk : DecodedChunk}
    (current : c.current = some chunk) : c.onNextRow.Ahead c.onNextRow.rowPlace := by
  have holds := kept.holds chunk current
  have here : c.onNextRow.rowPlace = place chunk.ordinal c.nextPlace := congrArg (place · _) holds.named
  rw [here]
  refine ⟨holds.inline, ?_, ?_⟩
  · intro other same
    obtain rfl : chunk = other := Option.some.inj (current.symm.trans same)
    exact place_lt_next _ _
  · intro p prefetch
    cases ordinal : chunk.ordinal with
    | none => exact place_none_lt _ _
    | some k => exact place_lt_of_lt (holds.taken k p ordinal prefetch) _

theorem Kept.finish_dropChunk (kept : c.Kept plan fetch inlineRows) : c.dropChunk.finish.Kept plan fetch inlineRows :=
  ⟨kept.sourced, by simp [finish, dropChunk], kept.inline, by simp [finish, dropChunk],
    fun _ => rfl, fun closed => ⟨rfl, (kept.closed closed).2⟩⟩

theorem Ahead.finish_dropChunk (ahead : c.Ahead x) : c.dropChunk.finish.Ahead x :=
  ⟨ahead.inline, by simp [finish, dropChunk], ahead.later⟩

theorem Kept.refused (kept : c.Kept plan fetch inlineRows) {a : Result Bool} (refused : Refused c a d) :
    d.Kept plan fetch inlineRows := by
  cases refused with
  | closed | ended => exact kept
  | cancelled => exact kept.finish_dropChunk

theorem Ahead.refused (ahead : c.Ahead x) {a : Result Bool} (refused : Refused c a d) : d.Ahead x := by
  cases refused with
  | closed | ended => exact ahead
  | cancelled => exact ahead.finish_dropChunk

/-- How far chunks have been taken, and whether anything is kept, is all that a new feed has to agree on. -/
theorem Kept.withFeed (kept : c.Kept plan fetch inlineRows) {feed : Feed DecodedChunk}
    (agrees : ∀ q, feed.prefetch = some q → q.Sourced (plan.outcome fetch) ∧
      ∃ p, c.feed.prefetch = some p ∧ q.nextExpected = p.nextExpected ∧ (p.closed = true → q.closed = true)) :
    ({ c with feed } : RowCursor).Kept plan fetch inlineRows := by
  refine ⟨fun q prefetch => (agrees q prefetch).1, ?_, kept.inline, kept.onRow, kept.ended, ?_⟩
  · intro chunk current
    have holds := kept.holds chunk current
    refine ⟨holds.named, holds.rows, holds.inline, ?_⟩
    intro k q ordinal prefetch
    obtain ⟨_, p, before, expected, _⟩ := agrees q prefetch
    exact expected ▸ holds.taken k p ordinal before
  · intro closed
    refine ⟨(kept.closed closed).1, ?_⟩
    intro q prefetch
    obtain ⟨_, p, before, _, stays⟩ := agrees q prefetch
    exact stays ((kept.closed closed).2 p before)

theorem Ahead.withFeed (ahead : c.Ahead x) {feed : Feed DecodedChunk}
    (agrees : ∀ q, feed.prefetch = some q → ∃ p, c.feed.prefetch = some p ∧ q.nextExpected = p.nextExpected) :
    ({ c with feed } : RowCursor).Ahead x := by
  refine ⟨ahead.inline, ahead.held, ?_⟩
  intro q prefetch
  obtain ⟨p, before, expected⟩ := agrees q prefetch
  exact expected ▸ ahead.later p before

theorem prefetch_settle {f : Feed DecodedChunk} {k : Nat} {r : Result DecodedChunk} {q : Prefetch DecodedChunk}
    (h : (f.settle k r).prefetch = some q) : ∃ p, f.prefetch = some p ∧ p.settle k r = q :=
  Option.map_eq_some_iff.mp h

theorem prefetch_cancel {f : Feed DecodedChunk} {q : Prefetch DecodedChunk} (h : f.cancel.prefetch = some q) :
    ∃ p, f.prefetch = some p ∧ p.cancel = q := by
  cases prefetch : f.prefetch with
  | none => simp [Feed.cancel, prefetch] at h
  | some p => exact ⟨p, rfl, by simpa [Feed.cancel, prefetch] using h⟩

theorem prefetch_shutdown {f : Feed DecodedChunk} {q : Prefetch DecodedChunk} (h : f.shutdown.prefetch = some q) :
    ∃ p, f.prefetch = some p ∧ p.shutdown = q := by
  cases prefetch : f.prefetch with
  | none => simp [Feed.shutdown, prefetch] at h
  | some p => exact ⟨p, rfl, by simpa [Feed.shutdown, prefetch] using h⟩

theorem Kept.settle (kept : c.Kept plan fetch inlineRows) {k : Nat} (running : k ∈ c.feed.running) :
    ({ c with feed := c.feed.settle k (plan.outcome fetch k) } : RowCursor).Kept plan fetch inlineRows := by
  refine kept.withFeed ?_
  intro q after
  obtain ⟨p, prefetch, rfl⟩ := prefetch_settle after
  have running : k ∈ p.running := by simpa [Feed.running, prefetch] using running
  exact ⟨(kept.sourced p prefetch).settle running, p, prefetch, rfl, fun closed => closed⟩

theorem Ahead.settle (ahead : c.Ahead x) (k : Nat) (r : Result DecodedChunk) :
    ({ c with feed := c.feed.settle k r } : RowCursor).Ahead x := by
  refine ahead.withFeed ?_
  intro q after
  obtain ⟨p, prefetch, rfl⟩ := prefetch_settle after
  exact ⟨p, prefetch, rfl⟩

theorem Kept.cancel (kept : c.Kept plan fetch inlineRows) :
    ({ c with feed := c.feed.cancel } : RowCursor).Kept plan fetch inlineRows := by
  refine kept.withFeed ?_
  intro q after
  obtain ⟨p, prefetch, rfl⟩ := prefetch_cancel after
  have sourced := kept.sourced p prefetch
  exact ⟨⟨sourced.arrived, sourced.empty⟩, p, prefetch, rfl, fun closed => closed⟩

theorem Ahead.cancel (ahead : c.Ahead x) : ({ c with feed := c.feed.cancel } : RowCursor).Ahead x := by
  refine ahead.withFeed ?_
  intro q after
  obtain ⟨p, prefetch, rfl⟩ := prefetch_cancel after
  exact ⟨p, prefetch, rfl⟩

theorem Kept.close (kept : c.Kept plan fetch inlineRows) : c.close.Kept plan fetch inlineRows := by
  unfold RowCursor.close
  split
  · exact kept
  · have sourced : ∀ q, c.feed.shutdown.prefetch = some q → q.Sourced (plan.outcome fetch) := by
      intro q after
      obtain ⟨p, _, rfl⟩ := prefetch_shutdown after
      exact .shutdown _ p
    refine ⟨sourced, by simp [finish, dropChunk], by simp, by simp [finish, dropChunk], fun _ => rfl, ?_⟩
    intro _
    refine ⟨rfl, ?_⟩
    intro q after
    obtain ⟨p, _, rfl⟩ := prefetch_shutdown after
    rfl

theorem Ahead.close (ahead : c.Ahead x) : c.close.Ahead x := by
  unfold RowCursor.close
  split
  · exact ahead
  · refine ⟨rfl, by simp [finish, dropChunk], ?_⟩
    intro q after
    obtain ⟨p, prefetch, rfl⟩ := prefetch_shutdown after
    exact ahead.later p prefetch

end RowCursor
end RowStream
