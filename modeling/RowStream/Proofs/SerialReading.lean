import Mathlib.Tactic.Ring
import RowStream.Proofs.Answering
import RowStream.Proofs.FeedOutcomes
import RowStream.Stream.Pipeline

/-! # Reading ahead gives what reading in order gives

A cursor that is not disturbed answers its calls by the tape of its plan, whatever the order in which
its tasks settle. -/
namespace RowStream

namespace RowPlan
variable {plan : RowPlan} {fetch : ChunkDescriptor → Result (List UInt8)} {k : Nat} {d : ChunkDescriptor}

/-- What the chunk of a descriptor comes to, by what is fetched for it: the rows that its bytes decode to, if they
are as many as the manifest declares, and otherwise the error that is handed out for it. -/
inductive Comes (plan : RowPlan) (k : Nat) (d : ChunkDescriptor) : Result (List UInt8) → Result DecodedChunk → Prop
  | rows {bytes : List UInt8} {rows : List Row}
      (decoded : Decode.chunk plan.format plan.schema plan.options k bytes = .ok rows)
      (counted : rows.length = d.rowCount) : Comes plan k d (.ok bytes) (.ok ⟨some k, rows⟩)
  | lost {e f : Error} (handedOut : e.HandedOut k f) : Comes plan k d (.error e) (.error f)
  | malformed {bytes : List UInt8} {e f : Error}
      (failed : Decode.chunk plan.format plan.schema plan.options k bytes = .error e) (handedOut : e.HandedOut k f) :
      Comes plan k d (.ok bytes) (.error f)
  | miscounted {bytes : List UInt8} {rows : List Row}
      (decoded : Decode.chunk plan.format plan.schema plan.options k bytes = .ok rows)
      (differ : rows.length ≠ d.rowCount) :
      Comes plan k d (.ok bytes) (.error {
        kind := .decode
        message := "chunk decoded to " ++ toString rows.length ++ " rows, manifest declares " ++ toString d.rowCount
        chunk := some k })

def outcome (plan : RowPlan) (fetch : ChunkDescriptor → Result (List UInt8)) : Nat → Result DecodedChunk :=
  plan.manifest.outcome plan.process fetch

def outcomes (plan : RowPlan) (fetch : ChunkDescriptor → Result (List UInt8)) : List (Result DecodedChunk) :=
  plan.manifest.outcomes plan.process fetch

theorem comes_process (known : plan.manifest.get? k = some d) (bytes : List UInt8) :
    plan.Comes k d (.ok bytes) (Result.mapError (·.withChunk k) (plan.process k bytes)) := by
  cases decoded : Decode.chunk plan.format plan.schema plan.options k bytes with
  | error e =>
    simp only [process, decoded, bind, Except.bind, Result.mapError]
    exact .malformed decoded (e.handedOut_withChunk k)
  | ok rows =>
    simp only [process, decoded, known, bind, Except.bind]
    split
    · rename_i counted
      exact .rows decoded counted.symm
    · rename_i differ
      exact .miscounted decoded (Ne.symm differ)

theorem Comes.unique {fetched : Result (List UInt8)} {r r' : Result DecodedChunk} (h : plan.Comes k d fetched r)
    (h' : plan.Comes k d fetched r') : r = r' := by
  cases h <;> cases h' <;> simp_all [Error.handedOut_iff]

theorem comes_iff (known : plan.manifest.get? k = some d) {r : Result DecodedChunk} :
    plan.Comes k d (fetch d) r ↔ plan.outcome fetch k = r :=
  Manifest.comes_iff_outcome known (fun e => .lost (e.handedOut_withChunk k)) (comes_process known) Comes.unique

theorem Comes.counted {fetched : Result (List UInt8)} {chunk : DecodedChunk}
    (h : plan.Comes k d fetched (.ok chunk)) : chunk.rows.length = d.rowCount := by
  cases h with
  | rows decoded counted => exact counted

def tape (plan : RowPlan) (fetch : ChunkDescriptor → Result (List UInt8)) (inlineRows : List Row) : Tape Row :=
  (Tape.ofResults (·.rows) (plan.outcomes fetch)).before inlineRows

/-- Good chunks have the rows that the manifest declares. -/
theorem length_rows {good : List DecodedChunk} (h : plan.outcomes fetch = good.map .ok) :
    (good.flatMap (·.rows)).length = (plan.manifest.chunks.map (·.rowCount)).sum := by
  have counts : good.map (·.rows.length) = plan.manifest.chunks.map (·.rowCount) := by
    refine List.ext_getElem ?_ ?_
    · simpa [outcomes] using (congrArg List.length h).symm
    · intro k hk hd
      simp only [List.length_map] at hk hd
      have known : plan.manifest.get? k = some plan.manifest.chunks[k] := List.getElem?_eq_getElem hd
      have good_k : plan.outcome fetch k = .ok good[k] := by
        refine Manifest.outcome_of_outcomes ?_
        rw [outcomes] at h
        simp [h, hk]
      simpa using ((comes_iff known).mpr good_k).counted
  rw [← counts, List.length_flatMap]

/-- Either all chunks are good, or the error of the first bad one ends the rows. -/
theorem tape_cases (plan : RowPlan) (fetch : ChunkDescriptor → Result (List UInt8)) (inlineRows : List Row) :
    (∃ good : List DecodedChunk, plan.outcomes fetch = good.map .ok ∧
      plan.tape fetch inlineRows = ⟨inlineRows ++ good.flatMap (·.rows), none⟩ ∧
      (good.flatMap (·.rows)).length = (plan.manifest.chunks.map (·.rowCount)).sum) ∨
    ∃ (k : Nat) (d : ChunkDescriptor) (good : List DecodedChunk) (e : Error),
      plan.manifest.get? k = some d ∧ (List.range k).map (plan.outcome fetch) = good.map .ok ∧
      plan.outcome fetch k = .error e ∧
      plan.tape fetch inlineRows = ⟨inlineRows ++ good.flatMap (·.rows), some e⟩ := by
  rcases Tape.ofResults_cases (·.rows) (plan.outcomes fetch) with ⟨good, all, rows⟩ | ⟨good, e, rest, first, rows⟩
  · refine .inl ⟨good, all, ?_, length_rows all⟩
    rw [tape, rows]
    rfl
  · obtain ⟨d, known, failed, before⟩ := Manifest.outcomes_error first
    refine .inr ⟨good.length, d, good, e, known, before, failed, ?_⟩
    rw [tape, rows]
    rfl

end RowPlan

namespace RowCursor
variable {plan : RowPlan} {fetch : ChunkDescriptor → Result (List UInt8)} {limit : Nat} {c d : RowCursor}

def nextPlace (c : RowCursor) : Nat :=
  match c.position with
  | some p => p + 1
  | none => 0

def rowsLeft (c : RowCursor) : List Row :=
  match c.current with
  | some chunk => chunk.rows.drop c.nextPlace
  | none => []

def tapeLeft (plan : RowPlan) (fetch : ChunkDescriptor → Result (List UInt8)) (c : RowCursor) : Tape Row :=
  if c.state.terminal then .done
  else ((Tape.ofResults (·.rows) (c.feed.left (plan.outcomes fetch))).before (c.inline.getD [])).before c.rowsLeft

/-- What a call on a tape of rows answers, with the row that it leaves. -/
def shown : Result (Option Row) → Result Bool × Option Row
  | .ok row => (.ok row.isSome, row)
  | .error e => (.error e, none)

/-- Neither closed nor cancelled, and every task that has settled brought the outcome of its chunk. -/
structure Undisturbed (plan : RowPlan) (fetch : ChunkDescriptor → Result (List UInt8)) (limit : Nat)
    (c : RowCursor) : Prop where
  isOpen : c.closed = false
  feed : c.feed.Undisturbed (plan.outcomes fetch) limit
  ended : c.state.terminal = true → c.current = none

/-- A cursor reads its tape. What there is to enter are the chunks that are left, and the inline rows. -/
def outlook (plan : RowPlan) (fetch : ChunkDescriptor → Result (List UInt8)) (limit : Nat) :
    Consumer.Outlook RowCursor (Result Bool) (Result Bool × Option Row) where
  undisturbed c := c.Undisturbed plan fetch limit
  more c := c.state.terminal = false
  seen a c := (a, c.currentRow?)
  ahead c i := shown ((c.tapeLeft plan fetch).answer i)
  unread c := (c.feed.left (plan.outcomes fetch)).length + if c.inline.isSome then 1 else 0

theorem stepInChunk?_eq {chunk : DecodedChunk} (current : c.current = some chunk) :
    c.stepInChunk? =
      if c.nextPlace < chunk.rows.length then
        some { c with
          position := some c.nextPlace
          state := { c.state with rowOffset := c.nextPlace, consumed := c.state.consumed + 1 } }
      else none := by
  rw [stepInChunk?, current]
  rfl

theorem stepInChunk?_none (h : c.stepInChunk? = none) : c.rowsLeft = [] := by
  cases current : c.current with
  | none => simp [rowsLeft, current]
  | some chunk =>
    rw [stepInChunk?_eq current] at h
    simpa [rowsLeft, current] using h

theorem stepInChunk?_some (h : c.stepInChunk? = some d) :
    ∃ row, c.rowsLeft = row :: d.rowsLeft ∧ d.currentRow? = some row ∧
      d.feed = c.feed ∧ d.inline = c.inline ∧ d.closed = c.closed ∧
      d.state.terminal = c.state.terminal := by
  cases current : c.current with
  | none => simp [stepInChunk?, current] at h
  | some chunk =>
    rw [stepInChunk?_eq current] at h
    simp only [Option.ite_none_right_eq_some, Option.some.injEq] at h
    obtain ⟨inside, rfl⟩ := h
    refine ⟨chunk.rows[c.nextPlace], ?_, ?_, rfl, rfl, rfl, rfl⟩
    · simp only [rowsLeft, current]
      exact List.drop_eq_getElem_cons inside
    · simp [currentRow?, current, inside]

theorem tapeLeft_between (more : c.state.terminal = false) (step : c.stepInChunk? = none) :
    c.tapeLeft plan fetch =
      (Tape.ofResults (·.rows) (c.feed.left (plan.outcomes fetch))).before (c.inline.getD []) := by
  simp [tapeLeft, more, stepInChunk?_none step]

theorem look_step (u : c.Undisturbed plan fetch limit) (more : c.state.terminal = false)
    (h : c.stepInChunk? = some d) : (outlook plan fetch limit).Looked c (some (.answer (.ok true)), d) := by
  obtain ⟨row, rows, current, feed, inline, closed, terminal⟩ := stepInChunk?_some h
  have left : c.tapeLeft plan fetch = (d.tapeLeft plan fetch).before [row] := by
    simp [tapeLeft, more, terminal, feed, inline, rows, Tape.before]
  refine .answer ⟨⟨closed.trans u.isOpen, feed ▸ u.feed, by simp [terminal, more]⟩, ?_, ?_⟩
  · show shown ((c.tapeLeft plan fetch).answer 0) = _
    rw [left]
    show _ = (_, d.currentRow?)
    rw [current]
    rfl
  · intro i
    show shown ((c.tapeLeft plan fetch).answer (i + 1)) = _
    rw [left, Tape.answer_item_succ]
    rfl

theorem look_enter_inline (u : c.Undisturbed plan fetch limit) (more : c.state.terminal = false)
    (h : c.stepInChunk? = none) {rows : List Row} (inline : c.inline = some rows) :
    (outlook plan fetch limit).Looked c
      (none, { c.dropChunk with inline := none }.enterChunk ⟨none, rows⟩) := by
  refine .again ⟨u.isOpen, u.feed, ?_⟩ more ?_ ?_
  · simp [enterChunk, dropChunk, more]
  · funext i
    show shown (Tape.answer (tapeLeft ..) i) = shown (Tape.answer _ i)
    rw [tapeLeft_between more h]
    simp [tapeLeft, rowsLeft, nextPlace, enterChunk, dropChunk, more, inline]
  · simp [outlook, enterChunk, dropChunk, inline]

/-- Where nothing lies ahead a call is told so, and the cursor says so from then on. -/
theorem looked_end (u : c.Undisturbed plan fetch limit) (left : c.tapeLeft plan fetch = .done) :
    (outlook plan fetch limit).Looked c (some (.answer (.ok false)), c.dropChunk.finish) := by
  refine .answer ⟨⟨u.isOpen, u.feed, fun _ => rfl⟩, ?_, ?_⟩
  · show shown ((c.tapeLeft plan fetch).answer 0) = _
    rw [left]
    rfl
  · intro i
    show shown ((c.tapeLeft plan fetch).answer (i + 1)) = _
    rw [left]
    rfl

/-- A chunk that is taken is the first one of those that are left. -/
theorem looked_chunk (u : c.Undisturbed plan fetch limit) (more : c.state.terminal = false)
    (step : c.stepInChunk? = none) (inline : c.inline = none) {feed : Feed DecodedChunk}
    (undisturbed : feed.Undisturbed (plan.outcomes fetch) limit) {r : Result DecodedChunk}
    (taken : c.feed.left (plan.outcomes fetch) = r :: feed.left (plan.outcomes fetch)) :
    (outlook plan fetch limit).Looked c (match r with
      | .ok chunk => (none, { c.dropChunk with feed }.enterChunk chunk)
      | .error e => (some (.answer (.error e)), { c.dropChunk with feed }.fail e)) := by
  have left : c.tapeLeft plan fetch = Tape.ofResults (·.rows) (r :: feed.left (plan.outcomes fetch)) := by
    simp [tapeLeft_between more step, inline, taken]
  cases r with
  | ok chunk =>
    refine .again ⟨u.isOpen, undisturbed, ?_⟩ more ?_ ?_
    · simp [enterChunk, dropChunk, more]
    · funext i
      show shown (Tape.answer (tapeLeft ..) i) = shown (Tape.answer _ i)
      rw [left]
      simp [tapeLeft, rowsLeft, nextPlace, enterChunk, dropChunk, more, inline, Tape.ofResults]
    · simp [outlook, enterChunk, dropChunk, inline, taken]
  | error e =>
    refine .answer ⟨⟨u.isOpen, undisturbed, fun _ => rfl⟩, ?_, ?_⟩
    · show shown ((c.tapeLeft plan fetch).answer 0) = _
      rw [left]
      rfl
    · intro i
      show shown ((c.tapeLeft plan fetch).answer (i + 1)) = _
      rw [left]
      rfl

theorem look_feed (u : c.Undisturbed plan fetch limit) (more : c.state.terminal = false)
    (step : c.stepInChunk? = none) (inline : c.inline = none) : (outlook plan fetch limit).Looked c c.look := by
  cases u.feed.gives with
  | finished next nothing =>
    simp only [look, step, inline, next]
    refine looked_end u ?_
    rw [tapeLeft_between more step, inline, nothing]
    rfl
  | waiting next prefetch running once =>
    simp only [look, step, inline, next]
    refine .waiting ⟨u.isOpen, u.feed, fun _ => rfl⟩ more ?_ prefetch running once
    funext i
    show shown (Tape.answer (tapeLeft ..) i) = shown (Tape.answer _ i)
    rw [tapeLeft_between more step]
    simp [tapeLeft, rowsLeft, dropChunk, more]
  | @chunk k r feed next undisturbed here taken =>
    have looked := looked_chunk u more step inline undisturbed taken
    -- An outcome names its chunk already, so naming it when it is taken changes nothing.
    have named : Result.mapError (·.withChunk k) r = r := by
      rw [← Manifest.outcome_of_outcomes here, Manifest.mapError_outcome]
    rw [named] at next
    simp only [look, step, inline, next]
    cases r <;> exact looked

theorem look_looked (u : c.Undisturbed plan fetch limit) (more : c.state.terminal = false) :
    (outlook plan fetch limit).Looked c c.look := by
  cases step : c.stepInChunk? with
  | some d => simpa only [look, step] using look_step u more step
  | none =>
    cases inline : c.inline with
    | some rows => simpa only [look, step, inline] using look_enter_inline u more step inline
    | none => exact look_feed u more step inline

theorem enter_entered (u : c.Undisturbed plan fetch limit) : (outlook plan fetch limit).Entered c c.enter := by
  cases terminal : c.state.terminal with
  | false =>
    simp only [enter, u.isOpen, u.feed.isCancelled, terminal, Bool.false_eq_true, if_false]
    exact .goesOn terminal
  | true =>
    simp only [enter, u.isOpen, u.feed.isCancelled, terminal, Bool.false_eq_true, if_false, if_true]
    have left : c.tapeLeft plan fetch = .done := by simp [tapeLeft, terminal]
    refine .answer ⟨u, ?_, ?_⟩
    · show shown ((c.tapeLeft plan fetch).answer 0) = (_, c.currentRow?)
      simp [left, shown, currentRow?, u.ended terminal]
    · intro i
      show shown ((c.tapeLeft plan fetch).answer (i + 1)) = shown ((c.tapeLeft plan fetch).answer i)
      rw [left]
      rfl

def reader (plan : RowPlan) (fetch : ChunkDescriptor → Result (List UInt8)) (limit : Nat) :
    Consumer.Reader RowCursor DecodedChunk (Result Bool) (Result Bool × Option Row) where
  toOutlook := outlook plan fetch limit
  outcome := plan.outcome fetch
  entered u := enter_entered u
  looked u more := look_looked u more
  settled {c k} u running := by
    have inside := u.feed.running_lt running
    rw [RowPlan.outcomes, Manifest.length_outcomes] at inside
    exact ⟨u.isOpen, u.feed.settle running (Manifest.getElem?_outcomes inside), u.ended⟩
  more_settle _ more := more
  ahead_settle c k := by
    funext i
    show shown (Tape.answer (tapeLeft plan fetch { c with feed := c.feed.settle k _ }) i) = shown (Tape.answer _ i)
    rw [tapeLeft, Feed.left_settle]
    rfl
  unread_settle c k := by
    show ((c.feed.settle k _).left _).length + _ = (c.feed.left _).length + _
    rw [Feed.left_settle]
    rfl
  feed_settle _ _ := rfl

/-- The answers in order, each with the row that it left. -/
def observed (u : Consumer.Use RowCursor (Result Bool)) : List (Result Bool × Option Row) :=
  u.answers.reverse.map fun a => (a.1, a.2.currentRow?)

def start (config : Config) (plan : RowPlan) (inlineRows : List Row) : Consumer.Use RowCursor (Result Bool) :=
  ⟨.new plan inlineRows (Pipeline.startPrefetch config plan.manifest), false, []⟩

/-- Before the first call a cursor has all of its tape ahead. -/
theorem follows_start (config : Config) (plan : RowPlan) (fetch : ChunkDescriptor → Result (List UInt8))
    (inlineRows : List Row) :
    (reader plan fetch config.prefetchLimit).Follows (fun i => shown ((plan.tape fetch inlineRows).answer i))
      (start config plan inlineRows) := by
  have chunks : (plan.outcomes fetch).length = plan.manifest.chunks.length := Manifest.length_outcomes
  obtain ⟨feed, left⟩ := Feed.undisturbed_begun (plan.outcomes fetch) config.prefetchLimit
  rw [chunks, ← Feed.startPrefetch_eq] at feed left
  have undisturbed : (start config plan inlineRows).consumer.Undisturbed plan fetch config.prefetchLimit :=
    ⟨rfl, feed, fun _ => rfl⟩
  have inline : (start config plan inlineRows).consumer.inline.getD [] = inlineRows := by
    cases inlineRows <;> rfl
  have tape : (start config plan inlineRows).consumer.tapeLeft plan fetch = plan.tape fetch inlineRows := by
    rw [tapeLeft, inline]
    show (Tape.ofResults _ (Feed.left _ { prefetch := Pipeline.startPrefetch config plan.manifest })).before _ = _
    rw [left]
    rfl
  rw [← tape]
  exact Consumer.Reader.follows_start (r := reader plan fetch config.prefetchLimit) undisturbed

/-- Whatever the window and whatever the order in which tasks settle, the answers are those of the program
that reads inline rows, then one chunk after the other, so that two uses never differ in what they have both
read; and every call has its answer. The rows end with the last chunk, after as many as the manifest declares,
or with the error of the first bad chunk: that of fetching or decoding it under its ordinal, unless that error
named a chunk before, or one that tells both numbers of rows. -/
theorem observed_eq_serial {config : Config} {plan : RowPlan} {fetch : ChunkDescriptor → Result (List UInt8)}
    {inlineRows : List Row} {events : List (Consumer.Event DecodedChunk)}
    {u : Consumer.Use RowCursor (Result Bool)} (brings : ∀ e ∈ events, Consumer.Brings (plan.outcome fetch) e)
    (run : Consumer.run? (start config plan inlineRows) events = some u) :
    observed u = (List.range u.answers.length).map (fun i => shown ((plan.tape fetch inlineRows).answer i)) ∧
    (∀ (other : Config) (events' : List (Consumer.Event DecodedChunk)) (v : Consumer.Use RowCursor (Result Bool)),
      (∀ e ∈ events', Consumer.Brings (plan.outcome fetch) e) →
      Consumer.run? (start other plan inlineRows) events' = some v →
      u.answers.length ≤ v.answers.length → observed u = (observed v).take u.answers.length) ∧
    (u.calling = true → Consumer.Answerable (plan.outcome fetch) u) ∧
    (∀ k d r, plan.manifest.get? k = some d → (plan.Comes k d (fetch d) r ↔ plan.outcome fetch k = r)) ∧
    ((∃ good : List DecodedChunk, plan.outcomes fetch = good.map .ok ∧
      plan.tape fetch inlineRows = ⟨inlineRows ++ good.flatMap (·.rows), none⟩ ∧
      (good.flatMap (·.rows)).length = (plan.manifest.chunks.map (·.rowCount)).sum) ∨
    ∃ (k : Nat) (d : ChunkDescriptor) (good : List DecodedChunk) (e : Error),
      plan.manifest.get? k = some d ∧ (List.range k).map (plan.outcome fetch) = good.map .ok ∧
      plan.outcome fetch k = .error e ∧
      plan.tape fetch inlineRows = ⟨inlineRows ++ good.flatMap (·.rows), some e⟩) := by
  have follows := (follows_start config plan fetch inlineRows).run brings run
  have serial : observed u = _ := follows.answers_eq
  refine ⟨serial, ?_, follows.answerable, fun k d r known => RowPlan.comes_iff known,
    plan.tape_cases fetch inlineRows⟩
  intro other events' v brings' run' shorter
  have serial' : observed v = _ := ((follows_start other plan fetch inlineRows).run brings' run').answers_eq
  rw [serial, serial', ← List.map_take, List.take_range, Nat.min_eq_left shorter]

/-- Two chunks, the second of which cannot be fetched. -/
def missingSecond : RowPlan where
  format := .json
  schema := [{ name := "c", kind := .text }]
  options := {}
  manifest := { chunks := [⟨0, "a", 1, 5, 5⟩, ⟨1, "b", 1, 5, 5⟩], inlineRows := 1 }

def fetchFirst (d : ChunkDescriptor) : Result (List UInt8) :=
  if d.ordinal = 0 then .ok [91, 34, 97, 34, 93] else .error { kind := .fetch, message := "gone", status := some 404 }

def goneSecond : Error := { kind := .fetch, message := "gone", chunk := some 1, status := some 404 }

def badFirst : List (Consumer.Event DecodedChunk) :=
  [.settle 1 (.error goneSecond), .call, .look, .look, .call, .look,
    .settle 0 (.ok ⟨some 0, [[.text "a"]]⟩), .look, .look, .call, .look, .call]

theorem observed_eq_serial_badFirst :
    (∀ e ∈ badFirst, Consumer.Brings (missingSecond.outcome fetchFirst) e) ∧
    ∃ u, Consumer.run? (start {} missingSecond [[.text "i"]]) badFirst = some u ∧
      observed u = [(.ok true, some [.text "i"]), (.ok true, some [.text "a"]), (.error goneSecond, none),
        (.ok false, none)] ∧
      observed u = (List.range 4).map (fun i => shown ((missingSecond.tape fetchFirst [[.text "i"]]).answer i)) ∧
      missingSecond.Comes 1 ⟨1, "b", 1, 5, 5⟩ (fetchFirst ⟨1, "b", 1, 5, 5⟩) (.error goneSecond) := by
  have chars : Text.Utf8.decode [91, 34, 97, 34, 93] = some ['[', '"', 'a', '"', ']'] := by
    simp [Text.Utf8.decode, Text.Utf8.lead]
  have texts : Decode.chunkRows [91, 34, 97, 34, 93] = .ok [[some "a"]] := by
    rw [Decode.chunkRows, Decode.chunkRows?, chars]
    rfl
  have rows : Decode.chunk missingSecond.format missingSecond.schema missingSecond.options 0 [91, 34, 97, 34, 93] =
      .ok [[.text "a"]] := by
    show Decode.chunk .json missingSecond.schema {} 0 _ = _
    rw [Decode.chunk, Decode.textChunk, texts]
    rfl
  have good : missingSecond.outcome fetchFirst 0 = .ok ⟨some 0, [[.text "a"]]⟩ :=
    (RowPlan.comes_iff rfl).mp (.rows rows rfl)
  have bad : missingSecond.outcome fetchFirst 1 = .error goneSecond := rfl
  have brings : ∀ e ∈ badFirst, Consumer.Brings (missingSecond.outcome fetchFirst) e := by
    simp [badFirst, Consumer.Brings, good, bad]
  obtain ⟨u, run, answers, counted⟩ : ∃ u, Consumer.run? (start {} missingSecond [[.text "i"]]) badFirst = some u ∧
      observed u = [(.ok true, some [.text "i"]), (.ok true, some [.text "a"]), (.error goneSecond, none),
        (.ok false, none)] ∧ u.answers.length = 4 := ⟨_, rfl, rfl, rfl⟩
  obtain ⟨serial, _, _, comes, _⟩ := observed_eq_serial brings run
  exact ⟨brings, u, run, answers, counted ▸ serial, (comes 1 _ _ rfl).mpr bad⟩

end RowCursor
end RowStream
