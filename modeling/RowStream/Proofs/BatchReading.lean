import RowStream.Proofs.Answering
import RowStream.Proofs.Conversion
import RowStream.Proofs.FeedSteps
import RowStream.Proofs.Openings

/-! # Batches in their order

A stream of batches hands out what the inline rows and the chunks become when they are converted one after the
other, whatever the order in which its tasks settle. -/
namespace RowStream

namespace Columnar
variable {options : BatchOptions} {o : DecodeOptions} {schema : Schema} {b c : Batch} {bs cs : List Batch}

theorem totalRows_append (bs cs : List Batch) : totalRows (bs ++ cs) = totalRows bs + totalRows cs := by
  induction bs with
  | nil => simp [totalRows]
  | cons b bs ih =>
    have tail : totalRows (b :: (bs ++ cs)) = b.rows + totalRows (bs ++ cs) := rfl
    have head : totalRows (b :: bs) = b.rows + totalRows bs := rfl
    rw [List.cons_append, tail, head, ih, Nat.add_assoc]

theorem counted_of_convert (h : convert options o schema b = .ok c) : b.columns.length = schema.length := by
  unfold convert at h
  split at h
  · assumption
  · cases h

theorem fieldTypes_convertAll (h : convertAll options o schema bs = .ok cs) :
    ∀ c ∈ cs, Column.fieldTypes c.columns = targetSchema options schema := by
  intro c member
  obtain ⟨i, here⟩ := List.mem_iff_getElem?.mp member
  obtain ⟨b, _, converted⟩ := get_of_forall₂ (mapM_eq_ok.mp h).flip here
  exact fieldTypes_convert (counted_of_convert converted) converted

/-- Conversion keeps the rows. -/
theorem totalRows_convertAll (h : convertAll options o schema bs = .ok cs) : totalRows cs = totalRows bs := by
  have converted := mapM_eq_ok.mp h
  clear h
  induction converted with
  | nil => rfl
  | @cons b c bs cs head _ ih =>
    have rows : c.rows = b.rows := ((convert_eq_ok (counted_of_convert head)).mp head).1
    show c.rows + totalRows cs = b.rows + totalRows bs
    rw [rows, ih]

end Columnar

open RowStream.Columnar

namespace BatchPlan
variable {plan : BatchPlan} {fetch : ChunkDescriptor → Result (List UInt8)} {k : Nat} {d : ChunkDescriptor}

/-- What the chunk of a descriptor comes to, by what is fetched for it: the batches that its bytes hold, converted, if
they have as many rows as the manifest declares, and otherwise the error that is handed out for it. -/
inductive Comes (plan : BatchPlan) (k : Nat) (d : ChunkDescriptor) : Result (List UInt8) → Result (List Batch) → Prop
  | batches {bytes : List UInt8} {raw bs : List Batch} (parsed : readStream bytes = .ok raw)
      (counted : totalRows raw = d.rowCount)
      (converted : convertAll plan.batchOptions plan.options plan.schema raw = .ok bs) :
      Comes plan k d (.ok bytes) (.ok bs)
  | lost {e f : Error} (handedOut : e.HandedOut k f) : Comes plan k d (.error e) (.error f)
  | malformed {bytes : List UInt8} {e f : Error} (failed : readStream bytes = .error e) (handedOut : e.HandedOut k f) :
      Comes plan k d (.ok bytes) (.error f)
  | miscounted {bytes : List UInt8} {raw : List Batch} (parsed : readStream bytes = .ok raw)
      (differ : totalRows raw ≠ d.rowCount) :
      Comes plan k d (.ok bytes) (.error {
        kind := .decode
        message := "chunk holds " ++ toString (totalRows raw) ++ " rows, manifest declares " ++ toString d.rowCount
        chunk := some k })
  | unconverted {bytes : List UInt8} {raw : List Batch} {e f : Error} (parsed : readStream bytes = .ok raw)
      (counted : totalRows raw = d.rowCount)
      (failed : convertAll plan.batchOptions plan.options plan.schema raw = .error e) (handedOut : e.HandedOut k f) :
      Comes plan k d (.ok bytes) (.error f)

def outcome (plan : BatchPlan) (fetch : ChunkDescriptor → Result (List UInt8)) : Nat → Result (List Batch) :=
  plan.manifest.outcome plan.process fetch

def outcomes (plan : BatchPlan) (fetch : ChunkDescriptor → Result (List UInt8)) : List (Result (List Batch)) :=
  plan.manifest.outcomes plan.process fetch

theorem comes_process (known : plan.manifest.get? k = some d) (bytes : List UInt8) :
    plan.Comes k d (.ok bytes) (Result.mapError (·.withChunk k) (plan.process k bytes)) := by
  have declared (rows : Nat) : ((plan.manifest.get? k).map (·.rowCount)).getD rows = d.rowCount := by
    rw [known]
    rfl
  cases parsed : readStream bytes with
  | error e =>
    simp only [process, parsed, bind, Except.bind, Result.mapError]
    exact .malformed parsed (e.handedOut_withChunk k)
  | ok raw =>
    simp only [process, parsed, declared, bind, Except.bind, Result.mapError]
    by_cases counted : d.rowCount = totalRows raw
    · rw [if_pos counted]
      cases converted : convertAll plan.batchOptions plan.options plan.schema raw with
      | ok bs =>
        simp only [convert, converted]
        exact .batches parsed counted.symm converted
      | error e =>
        simp only [convert, converted]
        exact .unconverted parsed counted.symm converted (e.handedOut_withChunk k)
    · rw [if_neg counted]
      exact .miscounted parsed (Ne.symm counted)

theorem Comes.unique {fetched : Result (List UInt8)} {r r' : Result (List Batch)} (h : plan.Comes k d fetched r)
    (h' : plan.Comes k d fetched r') : r = r' := by
  cases h <;> cases h' <;> simp_all [Error.handedOut_iff]

theorem comes_iff (known : plan.manifest.get? k = some d) {r : Result (List Batch)} :
    plan.Comes k d (fetch d) r ↔ plan.outcome fetch k = r :=
  Manifest.comes_iff_outcome known (fun e => .lost (e.handedOut_withChunk k)) (comes_process known) Comes.unique

theorem Comes.converted {fetched : Result (List UInt8)} {bs : List Batch} (h : plan.Comes k d fetched (.ok bs)) :
    ∃ raw, totalRows raw = d.rowCount ∧ convertAll plan.batchOptions plan.options plan.schema raw = .ok bs := by
  cases h with
  | batches _ counted converted => exact ⟨_, counted, converted⟩

def tape (plan : BatchPlan) (fetch : ChunkDescriptor → Result (List UInt8)) (inlineBatches : List Batch) :
    Tape Batch :=
  (Tape.ofResults id (plan.outcomes fetch)).before inlineBatches

end BatchPlan

namespace BatchStream
variable {plan : BatchPlan} {fetch : ChunkDescriptor → Result (List UInt8)} {limit : Nat} {s t : BatchStream}

def tapeLeft (plan : BatchPlan) (fetch : ChunkDescriptor → Result (List UInt8)) (s : BatchStream) : Tape Batch :=
  (if s.exhausted then Tape.done else Tape.ofResults id (s.feed.left (plan.outcomes fetch))).before s.buffer

def outlook (plan : BatchPlan) (fetch : ChunkDescriptor → Result (List UInt8)) (limit : Nat) :
    Consumer.Outlook BatchStream (Result (Option Batch)) (Result (Option Batch)) where
  undisturbed s := s.feed.Undisturbed (plan.outcomes fetch) limit
  more _ := True
  seen a _ := a
  ahead s := (s.tapeLeft plan fetch).answer
  unread s := (s.feed.left (plan.outcomes fetch)).length

theorem look_buffer (u : s.feed.Undisturbed (plan.outcomes fetch) limit) {b : Batch} {rest : List Batch}
    (buffer : s.buffer = b :: rest) : (outlook plan fetch limit).Looked s s.look := by
  have look : s.look = (some (.answer (.ok (some b))), { s with buffer := rest }) := by rw [BatchStream.look, buffer]
  rw [look]
  refine .answer ⟨u, ?_, ?_⟩
  · show (s.tapeLeft plan fetch).answer 0 = _
    rw [tapeLeft, buffer]
    rfl
  · intro i
    show (s.tapeLeft plan fetch).answer (i + 1) = _
    rw [tapeLeft, buffer, Tape.answer_item_succ]
    rfl

/-- Where nothing lies ahead a call is told so, and the stream says so from then on. -/
theorem looked_end (u : s.feed.Undisturbed (plan.outcomes fetch) limit) (empty : s.buffer = [])
    (left : s.tapeLeft plan fetch = .done) :
    (outlook plan fetch limit).Looked s (some (.answer (.ok none)), { s with exhausted := true }) := by
  refine .answer ⟨u, ?_, ?_⟩
  · show (s.tapeLeft plan fetch).answer 0 = _
    rw [left]
    rfl
  · intro i
    show (s.tapeLeft plan fetch).answer (i + 1) = _
    rw [left]
    simp [outlook, tapeLeft, empty]

/-- A chunk that is taken is the first one of those that are left. -/
theorem looked_chunk (more : s.exhausted = false) (empty : s.buffer = []) {feed : Feed (List Batch)}
    (u : feed.Undisturbed (plan.outcomes fetch) limit) {r : Result (List Batch)}
    (taken : s.feed.left (plan.outcomes fetch) = r :: feed.left (plan.outcomes fetch)) :
    (outlook plan fetch limit).Looked s (match r with
      | .ok bs => (none, { s with feed, buffer := bs })
      | .error e => (some (.answer (.error e)), { s with feed, exhausted := true })) := by
  have left : s.tapeLeft plan fetch = Tape.ofResults id (r :: feed.left (plan.outcomes fetch)) := by
    rw [tapeLeft, more, empty, taken]
    rfl
  cases r with
  | ok bs =>
    refine .again u trivial ?_ ?_
    · show Tape.answer _ = Tape.answer _
      rw [left, tapeLeft, more]
      rfl
    · show (feed.left (plan.outcomes fetch)).length < (s.feed.left (plan.outcomes fetch)).length
      rw [taken]
      exact Nat.lt_succ_self _
  | error e =>
    refine .answer ⟨u, ?_, ?_⟩
    · show (s.tapeLeft plan fetch).answer 0 = _
      rw [left]
      rfl
    · intro i
      show (s.tapeLeft plan fetch).answer (i + 1) = _
      rw [left]
      simp [outlook, tapeLeft, empty, Tape.ofResults]

theorem look_feed (u : s.feed.Undisturbed (plan.outcomes fetch) limit) (more : s.exhausted = false)
    (empty : s.buffer = []) : (outlook plan fetch limit).Looked s s.look := by
  obtain ⟨_, buffer, _, exhausted⟩ := s
  obtain rfl : buffer = [] := empty
  obtain rfl : exhausted = false := more
  cases u.gives with
  | finished next nothing =>
    simp only [look, next, Bool.false_eq_true, if_false]
    refine looked_end u rfl ?_
    simp only [tapeLeft, nothing, Bool.false_eq_true, if_false]
    rfl
  | waiting next prefetch running once =>
    simp only [look, next, Bool.false_eq_true, if_false]
    exact .waiting u trivial rfl prefetch running once
  | @chunk k r feed next undisturbed here taken =>
    have looked := looked_chunk rfl rfl undisturbed taken
    -- An outcome names its chunk already, so naming it when it is taken changes nothing.
    have named : Result.mapError (·.withChunk k) r = r := by
      rw [← Manifest.outcome_of_outcomes here, Manifest.mapError_outcome]
    rw [named] at next
    simp only [look, next, Bool.false_eq_true, if_false]
    cases r <;> exact looked

theorem look_looked (u : s.feed.Undisturbed (plan.outcomes fetch) limit) :
    (outlook plan fetch limit).Looked s s.look := by
  cases buffer : s.buffer with
  | cons b rest => exact look_buffer u buffer
  | nil =>
    cases exhausted : s.exhausted with
    | false => exact look_feed u exhausted buffer
    | true =>
      have left : s.tapeLeft plan fetch = .done := by
        rw [tapeLeft, exhausted, buffer]
        rfl
      have same : { s with exhausted := true } = s := by rw [← exhausted]
      have look : s.look = (some (.answer (.ok none)), s) := by
        rw [BatchStream.look, buffer]
        simp [exhausted]
      have looked := looked_end u buffer left
      rwa [same, ← look] at looked

def reader (plan : BatchPlan) (fetch : ChunkDescriptor → Result (List UInt8)) (limit : Nat) :
    Consumer.Reader BatchStream (List Batch) (Result (Option Batch)) (Result (Option Batch)) where
  toOutlook := outlook plan fetch limit
  outcome := plan.outcome fetch
  entered {s} u := by
    have running : s.feed.isCancelled = false := Feed.Undisturbed.isCancelled u
    show (outlook plan fetch limit).Entered s s.enter
    simp only [enter, running, Bool.false_eq_true, if_false]
    exact .goesOn trivial
  looked u _ := look_looked u
  more_settle _ _ := trivial
  settled {s k} u running := by
    have inside := Feed.Undisturbed.running_lt u running
    rw [BatchPlan.outcomes, Manifest.length_outcomes] at inside
    exact Feed.Undisturbed.settle u running (Manifest.getElem?_outcomes inside)
  ahead_settle s k := by
    show Tape.answer (tapeLeft plan fetch { s with feed := s.feed.settle k _ }) = Tape.answer _
    rw [tapeLeft, Feed.left_settle]
    rfl
  unread_settle s k := by
    show ((s.feed.settle k _).left _).length = (s.feed.left _).length
    rw [Feed.left_settle]
  feed_settle s k := rfl

theorem next_fired (fired : s.feed.isCancelled = true) : s.next = (.answer (.error Prefetch.cancelledError), s) := by
  have enter : Consumer.enter s = (some (.error Prefetch.cancelledError), s) := by
    show s.enter = _
    rw [BatchStream.enter, fired]
    rfl
  rw [next, Consumer.call, enter]

theorem look_fired (fired : s.feed.isCancelled = true) : s.look.2.feed.isCancelled = true := by
  have taken : s.feed.next.2.isCancelled = true := s.feed.fetched_next.fired fired
  rw [look]
  split
  · exact fired
  · split
    · exact fired
    · split <;> simp_all

theorem enter_feed (s : BatchStream) : s.enter.2.feed = s.feed := by
  rw [enter]
  split <;> rfl

variable {u v : Consumer.Use BatchStream (Result (Option Batch))}

theorem stays_fired {e : Consumer.Event (List Batch)} (h : Consumer.step? u e = some v)
    (fired : u.consumer.feed.isCancelled = true ∨ e = .cancel ∨ e = .close) : v.consumer.feed.isCancelled = true := by
  cases e with
  | call =>
    have before : u.consumer.feed.isCancelled = true := by simpa using fired
    rw [Consumer.step?_call h]
    show u.consumer.enter.2.feed.isCancelled = true
    rwa [enter_feed]
  | look =>
    have before : u.consumer.feed.isCancelled = true := by simpa using fired
    rw [Consumer.step?_look h]
    exact look_fired before
  | settle k r =>
    have before : u.consumer.feed.isCancelled = true := by simpa using fired
    simp only [Consumer.step?, Option.ite_none_right_eq_some, Option.some.injEq] at h
    obtain ⟨_, rfl⟩ := h
    exact (Feed.isCancelled_settle _ _ _).trans before
  | cancel =>
    obtain rfl := Option.some.inj h
    exact Feed.isCancelled_cancel _
  | close =>
    simp only [Consumer.step?, Option.ite_none_left_eq_some, Option.some.injEq] at h
    obtain ⟨_, rfl⟩ := h
    exact Feed.isCancelled_shutdown _

theorem fired_run {events : List (Consumer.Event (List Batch))} (h : Consumer.run? u events = some v)
    (fired : u.consumer.feed.isCancelled = true ∨ .cancel ∈ events ∨ .close ∈ events) :
    v.consumer.feed.isCancelled = true := by
  induction events generalizing u with
  | nil =>
    cases h
    simpa using fired
  | cons e es ih =>
    obtain ⟨w, first, rest⟩ := Option.bind_eq_some_iff.mp h
    refine ih rest ?_
    simp only [List.mem_cons] at fired
    rcases fired with before | (now | later) | now | later
    · exact .inl (stays_fired first (.inl before))
    · exact .inl (stays_fired first (.inr (.inl now.symm)))
    · exact .inr (.inl later)
    · exact .inl (stays_fired first (.inr (.inr now.symm)))
    · exact .inr (.inr later)

end BatchStream

namespace BatchPlan
variable {plan : BatchPlan} {fetch : ChunkDescriptor → Result (List UInt8)} {inlineBatches : List Batch}

/-- Good chunks have the rows that the manifest declares, and their batches have the announced schema. -/
theorem good_chunks {k : Nat} (inRange : k ≤ plan.manifest.chunks.length) {good : List (List Batch)}
    (h : (List.range k).map (plan.outcome fetch) = good.map .ok) :
    totalRows good.flatten = ((plan.manifest.chunks.take k).map (·.rowCount)).sum ∧
      ∀ b ∈ good.flatten, Column.fieldTypes b.columns = plan.target := by
  induction k generalizing good with
  | zero =>
    obtain rfl : good = [] := by simpa using h.symm
    exact ⟨rfl, by simp⟩
  | succ k ih =>
    have inside : k < plan.manifest.chunks.length := inRange
    have known : plan.manifest.get? k = some plan.manifest.chunks[k] := List.getElem?_eq_getElem inside
    rw [List.range_succ, List.map_append] at h
    obtain ⟨before, last, rfl, front, back⟩ := List.map_eq_append_iff.mp h.symm
    obtain ⟨bs, rfl, here⟩ := List.map_eq_singleton_iff.mp back
    obtain ⟨rows, types⟩ := ih (Nat.le_of_lt inside) front.symm
    obtain ⟨raw, counted, converted⟩ := ((comes_iff known).mpr here.symm).converted
    refine ⟨?_, ?_⟩
    · rw [List.take_succ_eq_append_getElem inside, List.map_append, List.sum_append, List.map_singleton,
        List.sum_singleton, List.flatten_append, totalRows_append, rows, List.flatten_singleton,
        totalRows_convertAll converted, counted]
    · intro b member
      rw [List.flatten_append, List.mem_append, List.flatten_singleton] at member
      rcases member with earlier | here
      · exact types b earlier
      · exact fieldTypes_convertAll converted b here

/-- Either all chunks are good, or the error of the first bad one ends the batches. -/
theorem tape_cases (plan : BatchPlan) (fetch : ChunkDescriptor → Result (List UInt8)) (inlineBatches : List Batch) :
    (∃ good : List (List Batch), plan.outcomes fetch = good.map .ok ∧
      plan.tape fetch inlineBatches = ⟨inlineBatches ++ good.flatten, none⟩ ∧
      totalRows good.flatten = (plan.manifest.chunks.map (·.rowCount)).sum ∧
      ∀ b ∈ good.flatten, Column.fieldTypes b.columns = plan.target) ∨
    ∃ (k : Nat) (d : ChunkDescriptor) (good : List (List Batch)) (e : Error),
      plan.manifest.get? k = some d ∧ (List.range k).map (plan.outcome fetch) = good.map .ok ∧
      plan.outcome fetch k = .error e ∧
      plan.tape fetch inlineBatches = ⟨inlineBatches ++ good.flatten, some e⟩ ∧
      ∀ b ∈ good.flatten, Column.fieldTypes b.columns = plan.target := by
  rcases Tape.ofResults_cases id (plan.outcomes fetch) with ⟨good, all, batches⟩ | ⟨good, e, rest, first, batches⟩
  · have chunks := good_chunks (Nat.le_refl plan.manifest.chunks.length) all
    rw [List.take_length] at chunks
    refine .inl ⟨good, all, ?_, chunks⟩
    rw [tape, batches, List.flatMap_id]
    rfl
  · obtain ⟨d, known, failed, before⟩ := Manifest.outcomes_error first
    have inRange := (List.getElem?_eq_some_iff.mp known).1
    have types := (good_chunks (Nat.le_of_lt inRange) before).2
    refine .inr ⟨good.length, d, good, e, known, before, failed, ?_, types⟩
    rw [tape, batches, List.flatMap_id]
    rfl

end BatchPlan

namespace BatchStream
variable {s : BatchStream}

/-- A stream that a response opens has all of its chunks ahead. -/
theorem Opens.feed_left {config : Config} {r : Response} (opens : s.Opens config r)
    (fetch : ChunkDescriptor → Result (List UInt8)) :
    ∃ limit, s.feed.Undisturbed (s.plan.outcomes fetch) limit ∧
      s.feed.left (s.plan.outcomes fetch) = s.plan.outcomes fetch := by
  obtain ⟨limit, _, feed⟩ := opens.feed
  have count : (s.plan.outcomes fetch).length = r.chunks.length := by
    rw [BatchPlan.outcomes, Manifest.length_outcomes, opens.chunks, List.length_mapIdx]
  rw [feed, ← count]
  exact ⟨limit, Feed.undisturbed_begun _ _⟩

/-- Whatever the window and whatever the order in which tasks settle, a stream of batches that nobody disturbs
answers its calls by its tape: the converted inline batches, those of the chunks in their order, then the error
of the first bad chunk once, which names that chunk unless the storage has named one, and the end forever; and
every call has its answer. All batches have the schema that was announced, and where no chunk is bad their rows
are as many as the manifest says. Once the token is fired or the stream is closed, calls hand out nothing. -/
theorem batches_in_order {config : Config} {r : Response} {s : BatchStream}
    (created : Pipeline.batchStream config r = .ok s) (fetch : ChunkDescriptor → Result (List UInt8)) :
    s.Opens config r ∧
    (∀ events u, (∀ e ∈ events, Consumer.Brings (s.plan.outcome fetch) e) →
      Consumer.run? (⟨s, false, []⟩ : Consumer.Use BatchStream (Result (Option Batch))) events = some u →
      u.answers.reverse.map (·.1) = (List.range u.answers.length).map (s.plan.tape fetch s.buffer).answer ∧
      (u.calling = true → Consumer.Answerable (s.plan.outcome fetch) u)) ∧
    (∀ k d x, s.plan.manifest.get? k = some d → (s.plan.Comes k d (fetch d) x ↔ s.plan.outcome fetch k = x)) ∧
    ((∃ good : List (List Batch), s.plan.outcomes fetch = good.map .ok ∧
      s.plan.tape fetch s.buffer = ⟨s.buffer ++ good.flatten, none⟩ ∧
      totalRows (s.buffer ++ good.flatten) =
        s.plan.manifest.inlineRows + (s.plan.manifest.chunks.map (·.rowCount)).sum) ∨
    ∃ (k : Nat) (d : ChunkDescriptor) (good : List (List Batch)) (e : Error),
      s.plan.manifest.get? k = some d ∧ (List.range k).map (s.plan.outcome fetch) = good.map .ok ∧
      s.plan.outcome fetch k = .error e ∧
      s.plan.tape fetch s.buffer = ⟨s.buffer ++ good.flatten, some e⟩) ∧
    (∀ b ∈ (s.plan.tape fetch s.buffer).items, Column.fieldTypes b.columns = s.plan.target) ∧
    ∀ events v,
      Consumer.run? (⟨s, false, []⟩ : Consumer.Use BatchStream (Result (Option Batch))) events = some v →
      (.cancel ∈ events ∨ .close ∈ events) →
      v.consumer.next =
        (.answer (.error { kind := .cancelled, message := "result stream cancelled" }), v.consumer) := by
  have opens := Pipeline.batchStream_eq_ok.mp created
  obtain ⟨raw, parsed, converted⟩ := opens.inline
  obtain ⟨limit, undisturbed, left⟩ := opens.feed_left fetch
  have inlineTypes := fieldTypes_convertAll converted
  have target : targetSchema s.plan.batchOptions r.schema = s.plan.target := by
    rw [BatchPlan.target, opens.schema]
  have tape : s.tapeLeft s.plan fetch = s.plan.tape fetch s.buffer := by
    rw [tapeLeft, opens.unread, left]
    rfl
  refine ⟨opens, ?_, fun k d x known => BatchPlan.comes_iff known, ?_, ?_, ?_⟩
  · intro events u brings run
    let reading := reader s.plan fetch limit
    have start : reading.Follows (reading.ahead s) ⟨s, false, []⟩ := Consumer.Reader.follows_start undisturbed
    have follows := start.run brings run
    refine ⟨?_, follows.answerable⟩
    rw [← tape]
    exact follows.answers_eq
  · rcases s.plan.tape_cases fetch s.buffer with ⟨good, all, batches, total, _⟩ | ⟨k, d, good, e, known, before,
      failed, batches, _⟩
    · refine .inl ⟨good, all, batches, ?_⟩
      rw [totalRows_append, opens.inlineRows, total]
    · exact .inr ⟨k, d, good, e, known, before, failed, batches⟩
  · intro b member
    rcases s.plan.tape_cases fetch s.buffer with ⟨good, _, batches, _, types⟩ | ⟨_, _, good, _, _, _, _, batches, types⟩
    all_goals
      rw [batches] at member
      rcases List.mem_append.mp member with inlined | remote
      · exact (inlineTypes b inlined).trans target
      · exact types b remote
  · intro events v run fired
    exact next_fired (fired_run run (.inr fired))

/-- The message that announces one column of 64-bit numbers named N. -/
def announcement : List UInt8 :=
  [255, 255, 255, 255, 120, 0, 0, 0, 16, 0, 0, 0, 0, 0, 10, 0, 12, 0, 10, 0, 9, 0, 4, 0, 10, 0, 0, 0, 16, 0, 0, 0, 0,
    1, 4, 0, 8, 0, 8, 0, 0, 0, 4, 0, 8, 0, 0, 0, 4, 0, 0, 0, 1, 0, 0, 0, 20, 0, 0, 0, 16, 0, 20, 0, 16, 0, 14, 0, 15,
    0, 4, 0, 0, 0, 8, 0, 16, 0, 0, 0, 24, 0, 0, 0, 32, 0, 0, 0, 0, 0, 1, 2, 28, 0, 0, 0, 8, 0, 12, 0, 4, 0, 11, 0, 8,
    0, 0, 0, 64, 0, 0, 0, 0, 0, 0, 1, 0, 0, 0, 0, 1, 0, 0, 0, 78, 0, 0, 0]

def pairMessage (a b : UInt8) : List UInt8 :=
  [255, 255, 255, 255, 136, 0, 0, 0, 16, 0, 0, 0, 12, 0, 26, 0, 24, 0, 23, 0, 4, 0, 8, 0, 12, 0, 0, 0, 32, 0, 0, 0,
    16, 0, 0, 0, 0, 0, 0, 0, 0, 0, 0, 0, 0, 0, 0, 3, 4, 0, 10, 0, 24, 0, 12, 0, 8, 0, 4, 0, 10, 0, 0, 0, 44, 0, 0, 0,
    16, 0, 0, 0, 2, 0, 0, 0, 0, 0, 0, 0, 0, 0, 0, 0, 1, 0, 0, 0, 2, 0, 0, 0] ++ List.replicate 16 0 ++ 2 ::
    List.replicate 27 0 ++ [16, 0, 0, 0, 0, 0, 0, 0, a, 0, 0, 0, 0, 0, 0, 0, b, 0, 0, 0, 0, 0, 0, 0]

def numberField : Columnar.Field DataType := ⟨"N", true, .word .int64⟩

def pair (name : String) (a b : Int) : Batch := ⟨2, [⟨name, true, .word .int64 [⟨true, a⟩, ⟨true, b⟩]⟩]⟩

def isNumberField : List (Columnar.Field DataType) → Bool
  | [⟨name, nullable, .word .int64⟩] => name == "N" && nullable
  | _ => false

def isPair (a b : Int) : Batch → Bool
  | ⟨rows, [⟨name, nullable, .word .int64 [x, y]⟩]⟩ =>
    rows == 2 && name == "N" && nullable && x.valid && x.value == a && y.valid && y.value == b
  | _ => false

theorem eq_of_isNumberField {fields : List (Columnar.Field DataType)} (h : isNumberField fields = true) :
    fields = [numberField] := by
  unfold isNumberField at h
  split at h
  · simp_all [numberField]
  · cases h

theorem eq_of_isPair {a b : Int} {batch : Batch} (h : isPair a b batch = true) : batch = pair "N" a b := by
  unfold isPair at h
  split at h
  · rename_i x y
    obtain ⟨_, _⟩ := x
    obtain ⟨_, _⟩ := y
    simp_all [pair]
  · cases h

theorem batches?_cons {fields : List (Columnar.Field DataType)} {bytes rest : List UInt8} {m : Message} {b : Batch}
    {more : List Batch} (message : message? bytes = some (some (m, rest))) (batch : batch? fields m = some b)
    (others : batches? fields rest = some more) : batches? fields bytes = some (b :: more) := by
  rw [batches?]
  split <;> simp_all

/-- A batch at the front of a stream, as an evaluation finds it. -/
theorem batches?_pair {a b : Int} {bytes rest : List UInt8} {more : List Batch}
    (found : ((message? bytes).bind id).any (fun p =>
      (batch? [numberField] p.1).any (isPair a b) && p.2 == rest) = true)
    (others : batches? [numberField] rest = some more) :
    batches? [numberField] bytes = some (pair "N" a b :: more) := by
  cases message : message? bytes with
  | none => simp [message] at found
  | some next =>
    cases next with
    | none => simp [message] at found
    | some p =>
      cases batch : batch? [numberField] p.1 with
      | none => simp [message, batch] at found
      | some b' =>
        simp only [message, batch, Option.bind_some, id, Option.any_some, Bool.and_eq_true, beq_iff_eq] at found
        obtain ⟨isPair, rfl⟩ := found
        exact batches?_cons message (eq_of_isPair isPair ▸ batch) others

/-- A stream of two batches is read message by message. -/
theorem readStream_pairs :
    readStream (announcement ++ (pairMessage 1 2 ++ pairMessage 3 4)) = .ok [pair "N" 1 2, pair "N" 3 4] := by
  have announced : (schema? (announcement ++ (pairMessage 1 2 ++ pairMessage 3 4))).any (fun p =>
      isNumberField p.1 && p.2 == pairMessage 1 2 ++ pairMessage 3 4) = true := by decide +kernel
  have first : ((message? (pairMessage 1 2 ++ pairMessage 3 4)).bind id).any (fun p =>
      (batch? [numberField] p.1).any (isPair 1 2) && p.2 == pairMessage 3 4) = true := by decide +kernel
  have second : ((message? (pairMessage 3 4)).bind id).any (fun p =>
      (batch? [numberField] p.1).any (isPair 3 4) && p.2 == []) = true := by decide +kernel
  have noMore : batches? [numberField] [] = some [] := by
    rw [batches?]
    rfl
  have batches := batches?_pair first (batches?_pair second noMore)
  have filled : (announcement ++ (pairMessage 1 2 ++ pairMessage 3 4)).isEmpty = false := rfl
  cases schema : schema? (announcement ++ (pairMessage 1 2 ++ pairMessage 3 4)) with
  | none => simp [schema] at announced
  | some p =>
    simp only [schema, Option.any_some, Bool.and_eq_true, beq_iff_eq] at announced
    obtain ⟨isNumber, rest⟩ := announced
    rw [readStream, filled, schema]
    simp only [Bool.false_eq_true, if_false, eq_of_isNumberField isNumber, rest, batches]

def threeChunks : Response where
  schema := [{ name := "n", kind := .fixed }]
  total := some 5
  chunks := [⟨"a", 4, 0, 0⟩, ⟨"b", 0, 0, 0⟩, ⟨"c", 1, 0, 0⟩]
  formatName := some "arrow"

/-- The first chunk has two batches, the second one has none, and the third one is gone. -/
def stored (d : ChunkDescriptor) : Result (List UInt8) :=
  if d.ordinal = 0 then .ok (announcement ++ (pairMessage 1 2 ++ pairMessage 3 4))
  else if d.ordinal = 1 then .ok []
  else .error { kind := .fetch, message := "gone", status := some 404 }

/-- What is handed out for the third chunk. -/
def goneThird : Error := { kind := .fetch, message := "gone", chunk := some 2, status := some 404 }

/-- The bad chunk settles first; the one without batches settles while a call waits for it. -/
def fourCalls : List (Consumer.Event (List Batch)) :=
  [.settle 2 (.error goneThird), .settle 0 (.ok [pair "n" 1 2, pair "n" 3 4]), .call, .look, .look, .call, .look, .call,
    .look, .settle 1 (.ok []), .look, .look, .call, .look]

theorem batches_in_order_threeChunks :
    ∃ s u v, Pipeline.batchStream {} threeChunks = .ok s ∧
      (∀ e ∈ fourCalls, Consumer.Brings (s.plan.outcome stored) e) ∧
      Consumer.run? (⟨s, false, []⟩ : Consumer.Use BatchStream (Result (Option Batch))) fourCalls = some u ∧
      u.answers.reverse.map (·.1) =
        [.ok (some (pair "n" 1 2)), .ok (some (pair "n" 3 4)), .error goneThird, .ok none] ∧
      u.answers.reverse.map (·.1) = (List.range 4).map (s.plan.tape stored s.buffer).answer ∧
      s.plan.Comes 2 ⟨2, "c", 1, 0, 0⟩ (stored ⟨2, "c", 1, 0, 0⟩) (.error goneThird) ∧
      Consumer.run? u [.close] = some v ∧
      v.consumer.next =
        (.answer (.error { kind := .cancelled, message := "result stream cancelled" }), v.consumer) := by
  obtain ⟨s, u, v, created, run, answers, counted, closed, first, second, third⟩ :
      ∃ s u v, Pipeline.batchStream {} threeChunks = .ok s ∧
        Consumer.run? (⟨s, false, []⟩ : Consumer.Use BatchStream (Result (Option Batch))) fourCalls = some u ∧
        u.answers.reverse.map (·.1) =
          [.ok (some (pair "n" 1 2)), .ok (some (pair "n" 3 4)), .error goneThird, .ok none] ∧
        u.answers.length = 4 ∧ Consumer.run? u [.close] = some v ∧
        s.plan.outcome stored 0 = .ok [pair "n" 1 2, pair "n" 3 4] ∧ s.plan.outcome stored 1 = .ok [] ∧
        s.plan.outcome stored 2 = .error goneThird := by
    refine ⟨_, _, _, rfl, rfl, rfl, rfl, rfl, ?_, rfl, rfl⟩
    exact (BatchPlan.comes_iff rfl).mp (.batches readStream_pairs rfl rfl)
  obtain ⟨_, answered, comes, _, _, ends⟩ := batches_in_order created stored
  have brings : ∀ e ∈ fourCalls, Consumer.Brings (s.plan.outcome stored) e := by
    simp [fourCalls, Consumer.Brings, first, second, third]
  have all : Consumer.run? (⟨s, false, []⟩ : Consumer.Use BatchStream (Result (Option Batch)))
      (fourCalls ++ [.close]) = some v := by
    rw [Consumer.run?_append, run]
    exact closed
  refine ⟨s, u, v, created, brings, run, answers, counted ▸ (answered _ u brings run).1, ?_, closed, ?_⟩
  · refine (comes 2 _ _ ?_).mpr third
    obtain rfl := Except.ok.inj created
    rfl
  · exact ends _ v all (.inr (by simp))

def oneChunk : Response where
  schema := [{ name := "n", kind := .fixed }]
  chunks := [⟨"a", 1, 0, 0⟩]
  formatName := some "arrow"

/-- What the storage tells of a chunk that has become another one. -/
def movedChunk : Error := { kind := .fetch, message := "moved", chunk := some 7 }

def twoCalls : List (Consumer.Event (List Batch)) := [.settle 0 (.error movedChunk), .call, .look, .call, .look]

/-- Where the storage names a chunk, its error is handed out with that one and not with the chunk that failed. -/
theorem error_names_other_chunk :
    ∃ s u, Pipeline.batchStream {} oneChunk = .ok s ∧
      (∀ event ∈ twoCalls, Consumer.Brings (s.plan.outcome fun _ => .error movedChunk) event) ∧
      Consumer.run? (⟨s, false, []⟩ : Consumer.Use BatchStream (Result (Option Batch))) twoCalls = some u ∧
      s.plan.outcomes (fun _ => .error movedChunk) = [.error movedChunk] ∧
      u.answers.reverse.map (·.1) = [.error movedChunk, .ok none] ∧
      movedChunk.chunk = some 7 ∧ movedChunk.chunk ≠ some 0 := by
  obtain ⟨s, u, created, run, outcomes, answers, failed⟩ : ∃ s u, Pipeline.batchStream {} oneChunk = .ok s ∧
      Consumer.run? (⟨s, false, []⟩ : Consumer.Use BatchStream (Result (Option Batch))) twoCalls = some u ∧
      s.plan.outcomes (fun _ => .error movedChunk) = [.error movedChunk] ∧
      u.answers.reverse.map (·.1) = [.error movedChunk, .ok none] ∧
      s.plan.outcome (fun _ => .error movedChunk) 0 = .error movedChunk := ⟨_, _, rfl, rfl, rfl, rfl, rfl⟩
  refine ⟨s, u, created, ?_, run, outcomes, answers, rfl, by decide⟩
  simp [twoCalls, Consumer.Brings, failed]

end BatchStream
end RowStream
