import RowStream.Proofs.CursorPlaces

/-! # From the first row to the last

Rows come in the order of their places, each at most once, until the cursor ends, is cancelled or is closed. -/
namespace RowStream.RowCursor
variable {plan : RowPlan} {fetch : ChunkDescriptor → Result (List UInt8)} {inlineRows : List Row} {c d : RowCursor}
  {u v : Use}

/-- The cursors that answers of true have left, the last one first. -/
def yielded (u : Use) : List RowCursor :=
  u.answers.filterMap fun a => if a.1.toOption = some true then some a.2 else none

def CameToRow (u : Use) : Prop := ∃ c before, u.answers = (.ok true, c) :: before

theorem yielded_true (u : Use) (c : RowCursor) : yielded (u.answered (.ok true) c) = c :: yielded u := rfl

theorem yielded_other (u : Use) {a : Result Bool} (other : a ≠ .ok true) (c : RowCursor) :
    yielded (u.answered a c) = yielded u := by
  have skipped : a.toOption ≠ some true := by
    rcases a with e | _ | _ <;> simp_all [Except.toOption]
  simp [yielded, Consumer.Use.answered, skipped]

theorem cameToRow_answered (u : Use) (a : Result Bool) (c : RowCursor) :
    CameToRow (u.answered a c) ↔ a = .ok true := by
  simp [CameToRow, Consumer.Use.answered]

/-- An answer of true is a step to the next row; any other answer leaves the cursor on no row. -/
theorem Found.answered {a : Result Bool} (found : Found c (some (.answer a), d)) :
    (∃ chunk, a = .ok true ∧ d = c.onNextRow ∧ c.current = some chunk ∧ c.nextPlace < chunk.rows.length) ∨
    (a ≠ .ok true ∧ d.position = none ∧ d.state.consumed = c.state.consumed) := by
  cases found with
  | row current inside => exact .inl ⟨_, rfl, rfl, current, inside⟩
  | failed | finished | cancelled => exact .inr ⟨by simp, rfl, rfl⟩

theorem Found.undecided {o : Option (Outcome (Result Bool))} (found : Found c (o, d))
    (noAnswer : ∀ a, o ≠ some (.answer a)) :
    d.state.consumed = c.state.consumed ∧ d.closed = c.closed ∧ d.state.terminal = c.state.terminal := by
  cases found with
  | inline | chunk | waiting => exact ⟨rfl, rfl, rfl⟩
  | row | failed | finished | cancelled => exact (noAnswer _ rfl).elim

theorem Refused.answered {a : Result Bool} (refused : Refused c a d) (kept : c.Kept plan fetch inlineRows) :
    a ≠ .ok true ∧ d.position = none ∧ d.state.consumed = c.state.consumed := by
  cases refused with
  | closed closed => exact ⟨by simp, kept.position_none (kept.ended (kept.closed closed).1), rfl⟩
  | cancelled => exact ⟨by simp [Prefetch.cancelledError], rfl, rfl⟩
  | ended terminal => exact ⟨by simp, kept.position_none (kept.ended terminal), rfl⟩

/-- Tasks bring what the storage answers. -/
def Delivers (plan : RowPlan) (fetch : ChunkDescriptor → Result (List UInt8)) : Happening → Prop
  | .plain (.settle k r) => r = plan.outcome fetch k
  | _ => True

structure Recorded (plan : RowPlan) (fetch : ChunkDescriptor → Result (List UInt8)) (inlineRows : List Row) (u : Use) :
    Prop where
  kept : u.consumer.Kept plan fetch inlineRows
  more : u.calling = true → u.consumer.closed = false ∧ u.consumer.state.terminal = false
  consumed : u.consumer.state.consumed = (yielded u).length
  rows : ∀ c ∈ yielded u, ∃ row, c.currentRow? = some row ∧ namedRow? plan fetch inlineRows c = some row
  increasing : (yielded u).Pairwise fun later earlier => earlier.rowPlace < later.rowPlace
  ahead : ∀ c ∈ yielded u, u.consumer.Ahead c.rowPlace
  onRow : u.calling = false → (u.consumer.position.isSome = true ↔ CameToRow u ∧ u.consumer.closed = false)

namespace Recorded

theorem idle (recorded : Recorded plan fetch inlineRows u) (terminal : u.consumer.state.terminal = true) :
    u.calling = false := by
  cases calling : u.calling with
  | false => rfl
  | true => simp [(recorded.more calling).2] at terminal

theorem answered_other (recorded : Recorded plan fetch inlineRows u) {a : Result Bool}
    (kept : d.Kept plan fetch inlineRows)
    (fits : a ≠ .ok true ∧ d.position = none ∧ d.state.consumed = u.consumer.state.consumed)
    (ahead : ∀ x, u.consumer.Ahead x → d.Ahead x) : Recorded plan fetch inlineRows (u.answered a d) := by
  obtain ⟨other, position, consumed⟩ := fits
  have same := yielded_other u other d
  refine ⟨kept, by simp [Consumer.Use.answered], ?_, ?_, ?_, ?_, ?_⟩
  · rw [same]
    exact consumed.trans recorded.consumed
  · rw [same]
    exact recorded.rows
  · rw [same]
    exact recorded.increasing
  · rw [same]
    exact fun c known => ahead _ (recorded.ahead c known)
  · intro _
    rw [cameToRow_answered]
    simp [Consumer.Use.answered, position, other]

theorem answered_true (recorded : Recorded plan fetch inlineRows u) (calling : u.calling = true)
    {chunk : DecodedChunk} (current : u.consumer.current = some chunk)
    (inside : u.consumer.nextPlace < chunk.rows.length) :
    Recorded plan fetch inlineRows (u.answered (.ok true) u.consumer.onNextRow) := by
  obtain ⟨isOpen, more⟩ := recorded.more calling
  have found : Found u.consumer (some (.answer (.ok true)), u.consumer.onNextRow) := .row current inside
  have kept := recorded.kept.found isOpen more found
  have holds := recorded.kept.holds chunk current
  have here : u.consumer.onNextRow.rowPlace = place chunk.ordinal u.consumer.nextPlace :=
    congrArg (place · _) holds.named
  have onRow : u.consumer.onNextRow.currentRow? = some chunk.rows[u.consumer.nextPlace] := by
    simp [currentRow?, onNextRow, current, inside]
  refine ⟨kept, by simp [Consumer.Use.answered], ?_, ?_, ?_, ?_, ?_⟩
  · rw [yielded_true, List.length_cons, ← recorded.consumed]
    rfl
  · rw [yielded_true]
    rintro c (_ | ⟨_, known⟩)
    · refine ⟨_, onRow, ?_⟩
      rw [kept.currentRow?_eq] at onRow
      simpa [onNextRow] using onRow
    · exact recorded.rows c known
  · rw [yielded_true]
    refine .cons ?_ recorded.increasing
    intro c known
    rw [here]
    -- The new row is in the chunk that the cursor held, and all of that was ahead of the rows before.
    exact (recorded.ahead c known).held chunk current
  · rw [yielded_true]
    rintro c (_ | ⟨_, known⟩)
    · exact recorded.kept.ahead_onNextRow current
    · exact (recorded.ahead c known).found recorded.kept found
  · intro _
    rw [cameToRow_answered]
    simp [Consumer.Use.answered, onNextRow, isOpen]

theorem looks (recorded : Recorded plan fetch inlineRows u) (calling : u.calling = true) (looks : Looks u v) :
    Recorded plan fetch inlineRows v := by
  obtain ⟨isOpen, more⟩ := recorded.more calling
  cases looks with
  | @answered a d found =>
    rcases found.answered with ⟨chunk, rfl, rfl, current, inside⟩ | fits
    · exact recorded.answered_true calling current inside
    · exact recorded.answered_other (recorded.kept.found isOpen more found) fits
        fun x ahead => ahead.found recorded.kept found
  | @undecided o d found noAnswer =>
    obtain ⟨consumed, closed, terminal⟩ := found.undecided noAnswer
    refine ⟨recorded.kept.found isOpen more found, ?_, consumed.trans recorded.consumed, recorded.rows,
      recorded.increasing, fun c known => (recorded.ahead c known).found recorded.kept found, ?_⟩
    · intro _
      exact ⟨closed.trans isOpen, terminal.trans more⟩
    · intro idle
      simp [calling] at idle

/-- Settling tasks and the token change the feed alone. -/
theorem withFeed (recorded : Recorded plan fetch inlineRows u) {feed : Feed DecodedChunk}
    (kept : ({ u.consumer with feed } : RowCursor).Kept plan fetch inlineRows)
    (ahead : ∀ x, u.consumer.Ahead x → ({ u.consumer with feed } : RowCursor).Ahead x) :
    Recorded plan fetch inlineRows { u with consumer := { u.consumer with feed } } :=
  ⟨kept, recorded.more, recorded.consumed, recorded.rows, recorded.increasing,
    fun c known => ahead _ (recorded.ahead c known), recorded.onRow⟩

theorem fired (recorded : Recorded plan fetch inlineRows u) : Recorded plan fetch inlineRows u.fired :=
  recorded.withFeed recorded.kept.cancel fun _ ahead => ahead.cancel

theorem close (recorded : Recorded plan fetch inlineRows u) (idle : u.calling = false) :
    Recorded plan fetch inlineRows { u with consumer := u.consumer.close } := by
  have closed := closed_close u.consumer
  have kept := recorded.kept.close
  have position := kept.position_none (kept.ended (kept.closed closed).1)
  have consumed : u.consumer.close.state.consumed = u.consumer.state.consumed := by
    unfold RowCursor.close
    split <;> rfl
  refine ⟨kept, by simp [idle], consumed.trans recorded.consumed, recorded.rows, recorded.increasing,
    fun c known => (recorded.ahead c known).close, ?_⟩
  intro _
  simp [position, closed]

theorem step {h : Happening} (recorded : Recorded plan fetch inlineRows u) (delivers : Delivers plan fetch h)
    (came : happen? u h = some v) : Recorded plan fetch inlineRows v := by
  cases happen?_change came with
  | refused idle refused =>
    exact recorded.answered_other (recorded.kept.refused refused) (refused.answered recorded.kept)
      fun x ahead => ahead.refused refused
  | begun idle isOpen more =>
    exact ⟨recorded.kept, fun _ => ⟨isOpen, more⟩, recorded.consumed, recorded.rows, recorded.increasing,
      recorded.ahead, by simp⟩
  | looks calling looks => exact recorded.looks calling looks
  | firedLook calling looks => exact (recorded.looks calling looks).fired
  | @settle k r running =>
    obtain rfl : r = plan.outcome fetch k := delivers
    exact recorded.withFeed (recorded.kept.settle running) fun _ ahead => ahead.settle _ _
  | cancel => exact recorded.fired
  | close idle => exact recorded.close idle

theorem run {happenings : List Happening} (recorded : Recorded plan fetch inlineRows u)
    (delivers : ∀ h ∈ happenings, Delivers plan fetch h) (life : live? u happenings = some v) :
    Recorded plan fetch inlineRows v := by
  induction happenings generalizing u with
  | nil =>
    cases life
    exact recorded
  | cons h hs ih =>
    obtain ⟨w, first, rest⟩ := Option.bind_eq_some_iff.mp life
    exact ih (recorded.step (delivers h List.mem_cons_self) first)
      (fun later known => delivers later (List.mem_cons_of_mem _ known)) rest

end Recorded

theorem recorded_start (config : Config) (plan : RowPlan) (fetch : ChunkDescriptor → Result (List UInt8))
    (inlineRows : List Row) : Recorded plan fetch inlineRows (start config plan inlineRows) := by
  have kept : (start config plan inlineRows).consumer.Kept plan fetch inlineRows := by
    refine ⟨?_, by simp [start, new], ?_, by simp [start, new], by simp [start, new], by simp [start, new]⟩
    · intro p prefetch
      simp only [start, new, Pipeline.startPrefetch, Option.ite_none_left_eq_some, Option.some.injEq] at prefetch
      obtain ⟨_, rfl⟩ := prefetch
      refine ⟨?_, ?_⟩ <;> simp [Prefetch.launch, Prefetch.reserve, Prefetch.spawn, Prefetch.new]
    · intro rows inline
      simp only [start, new, Option.ite_none_left_eq_some, Option.some.injEq] at inline
      exact inline.2.symm
  refine ⟨kept, by simp [start], rfl, by simp [yielded, start], by simp [yielded, start], by simp [yielded, start], ?_⟩
  simp [start, new, CameToRow]

theorem closed_run {happenings : List Happening} (life : live? u happenings = some v) :
    v.consumer.closed = true ↔ u.consumer.closed = true ∨ .plain .close ∈ happenings := by
  induction happenings generalizing u with
  | nil =>
    cases life
    simp
  | cons h hs ih =>
    obtain ⟨w, first, rest⟩ := Option.bind_eq_some_iff.mp life
    have change := happen?_change first
    have now : w.consumer.closed = true ↔ u.consumer.closed = true ∨ h = .plain .close := by
      by_cases closing : h = .plain .close
      · subst closing
        cases change with
        | close => simp [closed_close]
      · rw [change.closed_eq closing]
        simp [closing]
    rw [ih rest, now, List.mem_cons, or_assoc, eq_comm (a := h)]

theorem fired_run {happenings : List Happening} (life : live? u happenings = some v)
    (fired : u.consumer.feed.isCancelled = true ∨ .plain .cancel ∈ happenings ∨ .firedLook ∈ happenings) :
    v.consumer.feed.isCancelled = true := by
  induction happenings generalizing u with
  | nil =>
    cases life
    simpa using fired
  | cons h hs ih =>
    obtain ⟨w, first, rest⟩ := Option.bind_eq_some_iff.mp life
    have change := happen?_change first
    refine ih rest ?_
    rcases fired with before | plain | within
    · exact .inl (change.stays_fired before)
    · rcases List.mem_cons.mp plain with rfl | later
      · cases change with
        | cancel => exact .inl (Feed.isCancelled_cancel _)
      · exact .inr (.inl later)
    · rcases List.mem_cons.mp within with rfl | later
      · cases change with
        | firedLook => exact .inl (Feed.isCancelled_cancel _)
      · exact .inr (.inr later)

/-- Where no more rows will come, none come. -/
theorem yielded_run {happenings : List Happening} (terminal : u.consumer.state.terminal = true)
    (idle : u.calling = false) (life : live? u happenings = some v) :
    v.calling = false ∧ v.consumer.state.terminal = true ∧ yielded v = yielded u := by
  induction happenings generalizing u with
  | nil =>
    cases life
    exact ⟨idle, terminal, rfl⟩
  | cons h hs ih =>
    obtain ⟨w, first, rest⟩ := Option.bind_eq_some_iff.mp life
    have now : w.calling = false ∧ w.consumer.state.terminal = true ∧ yielded w = yielded u := by
      cases happen?_change first with
      | @refused a d _ refused =>
        have other : a ≠ .ok true := by cases refused <;> simp [Prefetch.cancelledError]
        have stays : d.state.terminal = true := by cases refused <;> first | exact terminal | rfl
        exact ⟨rfl, stays, yielded_other u other d⟩
      | begun _ _ more => simp [terminal] at more
      | looks calling => simp [idle] at calling
      | firedLook calling => simp [idle] at calling
      | settle => exact ⟨idle, terminal, rfl⟩
      | cancel => exact ⟨idle, terminal, rfl⟩
      | close =>
        refine ⟨idle, ?_, rfl⟩
        show u.consumer.close.state.terminal = true
        unfold RowCursor.close
        split
        · exact terminal
        · rfl
    obtain ⟨idle, terminal, same⟩ := now
    obtain ⟨stillIdle, stillTerminal, later⟩ := ih terminal idle rest
    exact ⟨stillIdle, stillTerminal, later.trans same⟩

/-- Whatever happens to a cursor: between calls it is on a row exactly if the last answer was true and it has
not been closed. It counts the rows that it has come to; each of them is the one that its state names, and
they come in the order of their places. After the end no row comes. Calls after the token was fired are told
so until the cursor is closed; after that nothing is on its way or kept, and nothing changes any more. -/
theorem lifecycle {config : Config} {plan : RowPlan} {fetch : ChunkDescriptor → Result (List UInt8)}
    {inlineRows : List Row} {happenings : List Happening} {u : Use} (delivers : ∀ h ∈ happenings, Delivers plan fetch h)
    (life : live? (start config plan inlineRows) happenings = some u) :
    (u.calling = false →
      (u.consumer.currentRow?.isSome = true ↔ CameToRow u ∧ .plain .close ∉ happenings)) ∧
    u.consumer.state.consumed = (yielded u).length ∧
    (∀ c ∈ yielded u, ∃ row, c.currentRow? = some row ∧ namedRow? plan fetch inlineRows c = some row) ∧
    (yielded u).Pairwise (fun later earlier => earlier.rowPlace < later.rowPlace) ∧
    (u.consumer.state.terminal = true → ∀ later v, live? u later = some v → yielded v = yielded u) ∧
    ((.plain .cancel ∈ happenings ∨ .firedLook ∈ happenings) → .plain .close ∉ happenings →
      u.consumer.advance = (.answer (.error Prefetch.cancelledError), u.consumer.dropChunk.finish)) ∧
    (.plain .close ∈ happenings → u.calling = false ∧ u.consumer.advance = (.answer (.ok false), u.consumer) ∧
      u.consumer.currentRow? = none ∧
      (∀ p, u.consumer.feed.prefetch = some p → p.inFlight = 0 ∧ p.completed = []) ∧
      u.consumer.close = u.consumer) := by
  have recorded := (recorded_start config plan fetch inlineRows).run delivers life
  have kept := recorded.kept
  have closed_iff : u.consumer.closed = true ↔ .plain .close ∈ happenings := by
    rw [closed_run life]
    simp [start, new]
  have isOpen_iff : u.consumer.closed = false ↔ .plain .close ∉ happenings := by
    rw [← closed_iff, Bool.not_eq_true]
  refine ⟨?_, recorded.consumed, recorded.rows, recorded.increasing, ?_, ?_, ?_⟩
  · intro idle
    rw [kept.isSome_currentRow?, recorded.onRow idle, isOpen_iff]
  · intro terminal later v further
    exact (yielded_run terminal (recorded.idle terminal) further).2.2
  · intro fired notClosed
    exact advance_fired (isOpen_iff.mpr notClosed) (fired_run life (.inr fired))
  · intro closing
    have closed := closed_iff.mpr closing
    have terminal := (kept.closed closed).1
    have position := kept.position_none (kept.ended terminal)
    refine ⟨recorded.idle terminal, advance_closed closed, ?_, ?_, ?_⟩
    · simp [kept.currentRow?_eq, position]
    · intro p prefetch
      have empty := (kept.sourced p prefetch).empty ((kept.closed closed).2 p prefetch)
      exact ⟨empty.1, empty.2.1⟩
    · rw [RowCursor.close, if_pos closed]

def oneMissing : RowPlan where
  format := .json
  schema := [{ name := "c", kind := .text }]
  options := {}
  manifest := { chunks := [⟨0, "a", 1, 5, 5⟩], inlineRows := 1 }

def noStorage (_ : ChunkDescriptor) : Result (List UInt8) := .error (.fetch "gone")

/-- The token is fired while the bad chunk is taken, and later the cursor is closed. -/
def firedAtTheEnd : List Happening :=
  [.plain .call, .plain .look, .plain .look, .plain (.settle 0 (.error ((Error.fetch "gone").withChunk 0))),
    .plain .call, .firedLook, .plain .call, .plain .close, .plain .call]

theorem lifecycle_firedAtTheEnd :
    (∀ h ∈ firedAtTheEnd, Delivers oneMissing noStorage h) ∧
    ∃ u, live? (start {} oneMissing [[.text "i"]]) firedAtTheEnd = some u ∧
      u.answers.reverse.map (·.1) = [.ok true, .error ((Error.fetch "gone").withChunk 0),
        .error Prefetch.cancelledError, .ok false] ∧
      u.consumer.state.consumed = 1 ∧ (yielded u).length = 1 ∧ u.consumer.currentRow? = none ∧
      u.consumer.advance = (.answer (.ok false), u.consumer) ∧ u.consumer.close = u.consumer := by
  have delivers : ∀ h ∈ firedAtTheEnd, Delivers oneMissing noStorage h := by
    have bad : oneMissing.outcome noStorage 0 = .error ((Error.fetch "gone").withChunk 0) := rfl
    simp [firedAtTheEnd, Delivers, bad]
  obtain ⟨u, life, answers, consumed⟩ : ∃ u, live? (start {} oneMissing [[.text "i"]]) firedAtTheEnd = some u ∧
      u.answers.reverse.map (·.1) = [.ok true, .error ((Error.fetch "gone").withChunk 0),
        .error Prefetch.cancelledError, .ok false] ∧ u.consumer.state.consumed = 1 := by
    refine ⟨_, rfl, ?_, ?_⟩ <;> rfl
  obtain ⟨_, counted, _, _, _, _, closed⟩ := lifecycle delivers life
  obtain ⟨_, ends, noRow, _, same⟩ := closed (by simp [firedAtTheEnd])
  exact ⟨delivers, u, life, answers, consumed, counted.symm.trans consumed, noRow, ends, same⟩

end RowStream.RowCursor
