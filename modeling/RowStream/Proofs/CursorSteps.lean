import RowStream.Proofs.FeedSteps
import RowStream.Proofs.SerialReading

/-! # What can happen to a cursor

Every step of a use of a cursor is one of a few cases, each with all that it changes. -/
namespace RowStream
open RowStream.Prefetch

namespace RowCursor
variable {c d : RowCursor} {u v : Use}

def onNextRow (c : RowCursor) : RowCursor :=
  { c with
    position := some c.nextPlace
    state := { c.state with rowOffset := c.nextPlace, consumed := c.state.consumed + 1 } }

/-- What a look comes to, whether or not the token is fired within it. -/
inductive Found (c : RowCursor) : Option (Outcome (Result Bool)) × RowCursor → Prop
  | row {chunk : DecodedChunk} (current : c.current = some chunk) (inside : c.nextPlace < chunk.rows.length) :
      Found c (some (.answer (.ok true)), c.onNextRow)
  | inline {rows : List Row} (inline : c.inline = some rows) :
      Found c (none, { c.dropChunk with inline := none }.enterChunk ⟨none, rows⟩)
  | chunk {k : Nat} {chunk : DecodedChunk} {feed : Feed DecodedChunk} (inline : c.inline = none)
      (fetched : c.feed.Fetched (.chunk k (.ok chunk), feed)) :
      Found c (none, { c.dropChunk with feed }.enterChunk chunk)
  | failed {k : Nat} {e : Error} {feed : Feed DecodedChunk} (inline : c.inline = none)
      (fetched : c.feed.Fetched (.chunk k (.error e), feed)) :
      Found c (some (.answer (.error e)), { c.dropChunk with feed }.fail e)
  | finished {feed : Feed DecodedChunk} (inline : c.inline = none) (fetched : c.feed.Fetched (.finished, feed)) :
      Found c (some (.answer (.ok false)), { c.dropChunk with feed }.finish)
  | cancelled {feed : Feed DecodedChunk} (inline : c.inline = none)
      (fetched : c.feed.Fetched (.cancelled, feed)) :
      Found c (some (.answer (.error Prefetch.cancelledError)),
        { c.dropChunk with feed }.fail Prefetch.cancelledError)
  | waiting {k : Nat} {feed : Feed DecodedChunk} (inline : c.inline = none)
      (fetched : c.feed.Fetched (.waiting k, feed)) : Found c (some (.waiting k), { c.dropChunk with feed })

theorem found_turned (inline : c.inline = none) {x : Turn DecodedChunk × Feed DecodedChunk}
    (fetched : c.feed.Fetched x) : Found c (c.turned x) := by
  obtain ⟨turn, feed⟩ := x
  cases turn with
  | cancelled => exact .cancelled inline fetched
  | finished => exact .finished inline fetched
  | waiting k => exact .waiting inline fetched
  | chunk k r =>
    cases r with
    | ok chunk => exact .chunk inline fetched
    | error e => exact .failed inline fetched

theorem found_row (h : c.stepInChunk? = some d) : Found c (some (.answer (.ok true)), d) := by
  cases current : c.current with
  | none => simp [stepInChunk?, current] at h
  | some chunk =>
    rw [stepInChunk?_eq current] at h
    simp only [Option.ite_none_right_eq_some, Option.some.injEq] at h
    obtain ⟨inside, rfl⟩ := h
    exact .row current inside

theorem found_look (c : RowCursor) : Found c c.look := by
  cases step : c.stepInChunk? with
  | some d =>
    rw [look, step]
    exact found_row step
  | none =>
    cases inline : c.inline with
    | some rows =>
      simp only [look, step, inline]
      exact .inline inline
    | none =>
      rw [look_eq_turned step inline]
      exact found_turned inline c.feed.fetched_next

theorem found_lookFired (c : RowCursor) : Found c c.lookFired := by
  rw [lookFired]
  split
  · rename_i inline
    exact found_turned inline c.feed.fetched_nextFired
  · exact found_look c

inductive Refused (c : RowCursor) : Result Bool → RowCursor → Prop
  | closed (closed : c.closed = true) : Refused c (.ok false) c
  | cancelled (isOpen : c.closed = false) (fired : c.feed.isCancelled = true) :
      Refused c (.error Prefetch.cancelledError) c.dropChunk.finish
  | ended (terminal : c.state.terminal = true) : Refused c (.ok false) c

/-- A call is refused, or it may look for a row. -/
theorem enter_cases (c : RowCursor) :
    (∃ a d, c.enter = (some a, d) ∧ Refused c a d) ∨
    (c.enter = (none, c) ∧ c.closed = false ∧ c.state.terminal = false) := by
  rw [enter]
  split
  · rename_i closed
    exact .inl ⟨_, _, rfl, .closed closed⟩
  · rename_i isOpen
    split
    · rename_i fired
      exact .inl ⟨_, _, rfl, .cancelled (by simpa using isOpen) fired⟩
    · split
      · rename_i terminal
        exact .inl ⟨_, _, rfl, .ended terminal⟩
      · rename_i more
        exact .inr ⟨rfl, by simpa using isOpen, by simpa using more⟩

/-- What a look makes of a use. -/
inductive Looks (u : Use) : Use → Prop
  | answered {a : Result Bool} {d : RowCursor} (found : Found u.consumer (some (.answer a), d)) :
      Looks u (u.answered a d)
  | undecided {o : Option (Outcome (Result Bool))} {d : RowCursor} (found : Found u.consumer (o, d))
      (noAnswer : ∀ a, o ≠ some (.answer a)) : Looks u { u with consumer := d }

/-- Everything that can happen to a use. -/
inductive Change (u : Use) : Happening → Use → Prop
  | refused {a : Result Bool} {d : RowCursor} (idle : u.calling = false) (refused : Refused u.consumer a d) :
      Change u (.plain .call) (u.answered a d)
  | begun (idle : u.calling = false) (isOpen : u.consumer.closed = false)
      (more : u.consumer.state.terminal = false) : Change u (.plain .call) { u with calling := true }
  | looks {w : Use} (calling : u.calling = true) (looks : Looks u w) : Change u (.plain .look) w
  | firedLook {w : Use} (calling : u.calling = true) (looks : Looks u w) : Change u .firedLook w.fired
  | settle {k : Nat} {r : Result DecodedChunk} (running : k ∈ u.consumer.feed.running) :
      Change u (.plain (.settle k r)) { u with consumer := { u.consumer with feed := u.consumer.feed.settle k r } }
  | cancel : Change u (.plain .cancel) u.fired
  | close (idle : u.calling = false) : Change u (.plain .close) { u with consumer := u.consumer.close }

theorem looks_looked {x : Option (Outcome (Result Bool)) × RowCursor} (found : Found u.consumer x) :
    Looks u (u.looked x) := by
  obtain ⟨o, d⟩ := x
  rcases o with _ | _ | k
  · exact .undecided found (by simp)
  · exact .answered found
  · exact .undecided found (by simp)

theorem step?_look (calling : u.calling = true) : Consumer.step? u .look = some (u.looked u.consumer.look) := by
  have looking : Consumer.look u.consumer = u.consumer.look := rfl
  rw [Consumer.step?, if_pos calling, looking]
  rcases u.consumer.look with ⟨_ | _ | k, d⟩ <;> rfl

theorem happen?_change {h : Happening} (came : happen? u h = some v) : Change u h v := by
  cases h with
  | firedLook =>
    simp only [happen?, Option.ite_none_right_eq_some, Option.some.injEq] at came
    obtain ⟨calling, rfl⟩ := came
    exact .firedLook calling (looks_looked (found_lookFired _))
  | plain e =>
    simp only [happen?] at came
    cases e with
    | call =>
      simp only [Consumer.step?, Option.ite_none_left_eq_some] at came
      obtain ⟨idle, came⟩ := came
      have idle : u.calling = false := by simpa using idle
      rcases enter_cases u.consumer with ⟨a, d, enter, refused⟩ | ⟨enter, isOpen, more⟩
      · have entered : Consumer.enter u.consumer = (some a, d) := enter
        rw [entered] at came
        obtain rfl := Option.some.inj came
        exact .refused idle refused
      · have entered : Consumer.enter u.consumer = (none, u.consumer) := enter
        rw [entered] at came
        obtain rfl := Option.some.inj came
        exact .begun idle isOpen more
    | look =>
      by_cases calling : u.calling = true
      · rw [step?_look calling] at came
        obtain rfl := Option.some.inj came
        exact .looks calling (looks_looked (found_look _))
      · simp [Consumer.step?, calling] at came
    | settle k r =>
      simp only [Consumer.step?, Option.ite_none_right_eq_some, Option.some.injEq] at came
      obtain ⟨running, rfl⟩ := came
      exact .settle running
    | cancel =>
      obtain rfl := Option.some.inj came
      exact .cancel
    | close =>
      simp only [Consumer.step?, Option.ite_none_left_eq_some, Option.some.injEq] at came
      obtain ⟨idle, rfl⟩ := came
      exact .close (by simpa using idle)

theorem Found.closed_eq {o : Option (Outcome (Result Bool))} (found : Found c (o, d)) : d.closed = c.closed := by
  cases found <;> rfl

theorem Refused.closed_eq {a : Result Bool} (refused : Refused c a d) : d.closed = c.closed := by
  cases refused <;> rfl

theorem Looks.closed_eq (looks : Looks u v) : v.consumer.closed = u.consumer.closed := by
  cases looks with
  | answered found => exact found.closed_eq
  | undecided found => exact found.closed_eq

theorem Change.closed_eq {h : Happening} (change : Change u h v) (other : h ≠ .plain .close) :
    v.consumer.closed = u.consumer.closed := by
  cases change with
  | refused idle refused => exact refused.closed_eq
  | begun => rfl
  | looks calling looks => exact looks.closed_eq
  | firedLook calling looks => exact looks.closed_eq
  | settle => rfl
  | cancel => rfl
  | close => exact (other rfl).elim

theorem closed_close (c : RowCursor) : c.close.closed = true := by
  unfold close
  split
  · assumption
  · rfl

theorem advance_fired (isOpen : c.closed = false) (fired : c.feed.isCancelled = true) :
    c.advance = (.answer (.error Prefetch.cancelledError), c.dropChunk.finish) := by
  have enter : Consumer.enter c = (some (.error Prefetch.cancelledError), c.dropChunk.finish) := by
    show c.enter = _
    rw [RowCursor.enter, isOpen, fired]
    rfl
  rw [advance, Consumer.call, enter]

theorem advance_closed (closed : c.closed = true) : c.advance = (.answer (.ok false), c) := by
  have enter : Consumer.enter c = (some (.ok false), c) := by
    show c.enter = _
    rw [RowCursor.enter, if_pos closed]
  rw [advance, Consumer.call, enter]

/-- A call to a closed cursor is over at once. -/
theorem Change.idle_of_closed {h : Happening} (change : Change u h v)
    (idle : u.consumer.closed = true → u.calling = false) (other : h ≠ .plain .close)
    (closed : v.consumer.closed = true) : v.calling = false := by
  have before : u.consumer.closed = true := change.closed_eq other ▸ closed
  cases change with
  | refused => rfl
  | begun _ isOpen => simp [isOpen] at before
  | looks calling => simp [idle before] at calling
  | firedLook calling => simp [idle before] at calling
  | settle => exact idle before
  | cancel => exact idle before
  | close idle => exact idle

theorem Found.fired {o : Option (Outcome (Result Bool))} (found : Found c (o, d))
    (fired : c.feed.isCancelled = true) : d.feed.isCancelled = true := by
  cases found with
  | row | inline => exact fired
  | chunk _ fetched | failed _ fetched => exact fetched.fired fired
  | finished _ fetched | cancelled _ fetched | waiting _ fetched => exact fetched.fired fired

theorem Looks.fired (looks : Looks u v) (fired : u.consumer.feed.isCancelled = true) :
    v.consumer.feed.isCancelled = true := by
  cases looks with
  | answered found => exact found.fired fired
  | undecided found => exact found.fired fired

theorem fired_close (fired : c.feed.isCancelled = true) : c.close.feed.isCancelled = true := by
  unfold RowCursor.close
  split
  · exact fired
  · exact Feed.isCancelled_shutdown _

theorem Change.stays_fired {h : Happening} (change : Change u h v) (fired : u.consumer.feed.isCancelled = true) :
    v.consumer.feed.isCancelled = true := by
  cases change with
  | refused idle refused => cases refused <;> exact fired
  | begun => exact fired
  | looks calling looks => exact looks.fired fired
  | firedLook => exact Feed.isCancelled_cancel _
  | settle => exact (Feed.isCancelled_settle _ _ _).trans fired
  | cancel => exact Feed.isCancelled_cancel _
  | close => exact fired_close fired

end RowCursor
end RowStream
