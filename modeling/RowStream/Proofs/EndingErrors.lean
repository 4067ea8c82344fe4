import RowStream.Proofs.CursorLifecycle

/-! # The error that ended the rows

A cursor that comes to a failed chunk, or to the fired token while it looks for a chunk, keeps the error for good.
A call that finds the token fired before it looks ends the rows too, but its error is not kept. -/
namespace RowStream.RowCursor
open RowStream.Prefetch

variable {c d : RowCursor} {u v w : Use} {h : Happening}

/-- A look goes on, or it comes to the end with or without an error, which is kept. -/
inductive LookEnds (c : RowCursor) : Option (Outcome (Result Bool)) → RowCursor → Prop
  | goesOn {o : Option (Outcome (Result Bool))} {d : RowCursor} (row : ∀ a, o = some (.answer a) → a = .ok true)
      (terminal : d.state.terminal = c.state.terminal) (same : d.error? = c.error?) : LookEnds c o d
  | finished {d : RowCursor} (terminal : d.state.terminal = true) (same : d.error? = c.error?) :
      LookEnds c (some (.answer (.ok false))) d
  | failed {e : Error} {d : RowCursor} (terminal : d.state.terminal = true) (kept : d.error? = some e) :
      LookEnds c (some (.answer (.error e))) d

theorem Found.ends {o : Option (Outcome (Result Bool))} (found : Found c (o, d)) : LookEnds c o d := by
  cases found with
  | row =>
    refine .goesOn ?_ rfl rfl
    intro a same
    cases same
    rfl
  | inline | chunk => exact .goesOn (by simp) rfl rfl
  | waiting => exact .goesOn (by simp) rfl rfl
  | finished => exact .finished rfl rfl
  | failed | cancelled => exact .failed rfl rfl

/-- What becomes of a use whose cursor has not come to its end. -/
inductive Fate (u : Use) : Happening → Use → Prop
  | goesOn {h : Happening} {v : Use} (more : v.consumer.state.terminal = false) (isOpen : v.consumer.closed = false)
      (clear : v.consumer.error? = none) (row : ∀ a d, v.answers = (a, d) :: u.answers → a = .ok true) : Fate u h v
  | finished {h : Happening} {v : Use} (idle : v.calling = false) (terminal : v.consumer.state.terminal = true)
      (clear : v.consumer.error? = none) (noError : ∀ a d, v.answers = (a, d) :: u.answers → a = .ok false) :
      Fate u h v
  | refused {v : Use} (idle : v.calling = false) (terminal : v.consumer.state.terminal = true)
      (clear : v.consumer.error? = none) (fired : u.consumer.feed.isCancelled = true)
      (answer : ∀ a d, v.answers = (a, d) :: u.answers → a = .error cancelledError) : Fate u (.plain .call) v
  | failed {h : Happening} {v : Use} {e : Error} (looked : h ≠ .plain .call) (idle : v.calling = false)
      (terminal : v.consumer.state.terminal = true) (kept : v.consumer.error? = some e)
      (answer : ∀ a d, v.answers = (a, d) :: u.answers → a = .error e) : Fate u h v

/-- No call looks on after the end, closing is an end, and before the end there is no error. -/
structure Clean (u : Use) : Prop where
  more : u.calling = true → u.consumer.state.terminal = false
  closed : u.consumer.closed = true → u.consumer.state.terminal = true
  clear : u.consumer.state.terminal = false → u.consumer.error? = none

theorem answers_ne (xs : List (Result Bool × RowCursor)) (x : Result Bool × RowCursor) : xs ≠ x :: xs := by
  intro same
  have lengths := congrArg List.length same
  simp at lengths

theorem close_eq (isOpen : c.closed = false) :
    c.close.state.terminal = true ∧ c.close.error? = c.error? := by
  rw [RowCursor.close, isOpen]
  exact ⟨rfl, rfl⟩

theorem Looks.fate (looks : Looks u v) (more : u.consumer.state.terminal = false)
    (isOpen : u.consumer.closed = false) (clear : u.consumer.error? = none) (looked : h ≠ .plain .call) :
    Fate u h v := by
  have stillOpen : v.consumer.closed = false := looks.closed_eq.trans isOpen
  cases looks with
  | @answered a d found =>
    have answer : ∀ b e, (u.answered a d).answers = (b, e) :: u.answers → a = b := by
      intro b e same
      exact congrArg Prod.fst (List.cons.inj same).1
    cases found.ends with
    | goesOn row terminal same =>
      refine .goesOn (terminal.trans more) stillOpen (same.trans clear) ?_
      intro b e known
      exact answer b e known ▸ row a rfl
    | finished terminal same => exact .finished rfl terminal (same.trans clear) fun b e known => (answer b e known).symm
    | failed terminal kept => exact .failed looked rfl terminal kept fun b e known => (answer b e known).symm
  | @undecided o d found noAnswer =>
    cases found.ends with
    | goesOn _ terminal same =>
      exact .goesOn (terminal.trans more) stillOpen (same.trans clear) fun a e known => (answers_ne _ _ known).elim
    | finished | failed => exact (noAnswer _ rfl).elim

theorem Fate.fired (fate : Fate u h v) : Fate u h v.fired := by
  cases fate with
  | goesOn more isOpen clear row => exact .goesOn more isOpen clear row
  | finished idle terminal clear noError => exact .finished idle terminal clear noError
  | refused idle terminal clear fired answer => exact .refused idle terminal clear fired answer
  | failed looked idle terminal kept answer => exact .failed looked idle terminal kept answer

theorem Change.fate (change : Change u h v) (clean : Clean u) (more : u.consumer.state.terminal = false) :
    Fate u h v := by
  have clear := clean.clear more
  have isOpen : u.consumer.closed = false := by
    cases closed : u.consumer.closed with
    | true => simp [clean.closed closed] at more
    | false => rfl
  have noAnswer {a : Result Bool} {d : RowCursor} (known : u.answers = (a, d) :: u.answers) : False :=
    answers_ne _ _ known
  cases change with
  | @refused a d idle refused =>
    cases refused with
    | closed closed => simp [closed] at isOpen
    | ended terminal => simp [terminal] at more
    | cancelled _ fired =>
      refine .refused rfl rfl clear fired ?_
      intro b e same
      exact (congrArg Prod.fst (List.cons.inj same).1).symm
  | looks _ looks => exact looks.fate more isOpen clear (by simp)
  | firedLook _ looks => exact (looks.fate more isOpen clear (by simp)).fired
  | begun | settle | cancel => exact .goesOn more isOpen clear fun _ _ known => (noAnswer known).elim
  | close idle =>
    obtain ⟨terminal, same⟩ := close_eq isOpen
    exact .finished idle terminal (same.trans clear) fun _ _ known => (noAnswer known).elim

/-- After the end nothing happens to the error any more. -/
theorem Change.error_eq (change : Change u h v) (idle : u.calling = false)
    (terminal : u.consumer.state.terminal = true) : v.consumer.error? = u.consumer.error? := by
  cases change with
  | refused _ refused => cases refused <;> rfl
  | begun _ _ more => simp [terminal] at more
  | looks calling | firedLook calling => simp [idle] at calling
  | settle | cancel => rfl
  | close =>
    cases closed : u.consumer.closed with
    | true => exact congrArg error? (by rw [RowCursor.close, if_pos closed])
    | false => exact (close_eq closed).2

theorem after_end (came : happen? u h = some v) (idle : u.calling = false)
    (terminal : u.consumer.state.terminal = true) :
    v.calling = false ∧ v.consumer.state.terminal = true ∧ v.consumer.error? = u.consumer.error? := by
  have life : live? u [h] = some v := by simp [live?, came]
  obtain ⟨stillIdle, stillTerminal, _⟩ := yielded_run terminal idle life
  exact ⟨stillIdle, stillTerminal, (happen?_change came).error_eq idle terminal⟩

theorem error_kept {happenings : List Happening} (idle : u.calling = false)
    (terminal : u.consumer.state.terminal = true) (life : live? u happenings = some v) :
    v.consumer.error? = u.consumer.error? := by
  induction happenings generalizing u with
  | nil =>
    cases life
    rfl
  | cons h hs ih =>
    obtain ⟨w, first, rest⟩ := Option.bind_eq_some_iff.mp life
    obtain ⟨stillIdle, stillTerminal, same⟩ := after_end first idle terminal
    exact (ih stillIdle stillTerminal rest).trans same

theorem Clean.step (clean : Clean u) (came : happen? u h = some v) : Clean v := by
  have ended (idle : v.calling = false) (terminal : v.consumer.state.terminal = true) : Clean v :=
    ⟨by simp [idle], fun _ => terminal, by simp [terminal]⟩
  cases terminal : u.consumer.state.terminal with
  | true =>
    have idle : u.calling = false := by
      cases calling : u.calling with
      | true => simp [clean.more calling] at terminal
      | false => rfl
    obtain ⟨stillIdle, stillTerminal, _⟩ := after_end came idle terminal
    exact ended stillIdle stillTerminal
  | false =>
    cases (happen?_change came).fate clean terminal with
    | goesOn more isOpen clear => exact ⟨fun _ => more, by simp [isOpen], fun _ => clear⟩
    | finished idle terminal | refused idle terminal => exact ended idle terminal
    | failed _ idle terminal => exact ended idle terminal

theorem Clean.run {happenings : List Happening} (clean : Clean u) (life : live? u happenings = some v) : Clean v := by
  induction happenings generalizing u with
  | nil =>
    cases life
    exact clean
  | cons h hs ih =>
    obtain ⟨w, first, rest⟩ := Option.bind_eq_some_iff.mp life
    exact ih (clean.step first) rest

theorem clean_new (plan : RowPlan) (inlineRows : List Row) (prefetch : Option (Prefetch DecodedChunk)) :
    Clean ⟨RowCursor.new plan inlineRows prefetch, false, []⟩ :=
  ⟨by simp, by simp [RowCursor.new], fun _ => rfl⟩

/-- Whatever the chunks come to and whenever the token is fired: the answer that ends the rows leaves its error, if
it came from a look, and the error stays, whatever happens later, closing included. Without an error there is none.
A call that is refused at once as the token had been fired ends the rows with an error that is not kept. -/
theorem ending_error_kept {plan : RowPlan} {inlineRows : List Row} {prefetch : Option (Prefetch DecodedChunk)}
    {before later : List Happening} {a : Result Bool}
    (life : live? ⟨RowCursor.new plan inlineRows prefetch, false, []⟩ before = some u)
    (more : u.consumer.state.terminal = false) (came : happen? u h = some v)
    (answered : v.answers = (a, d) :: u.answers) (further : live? v later = some w) :
    (∀ e, a = .error e → h ≠ .plain .call → w.consumer.error? = some e) ∧
    (∀ e, a = .error e → h = .plain .call →
      u.consumer.feed.isCancelled = true ∧ e = cancelledError ∧ w.consumer.error? = none) ∧
    (a = .ok false → w.consumer.error? = none) := by
  have clean := (clean_new plan inlineRows prefetch).run life
  cases (happen?_change came).fate clean more with
  | goesOn _ _ _ row =>
    obtain rfl := row a d answered
    simp
  | finished idle terminal clear noError =>
    obtain rfl := noError a d answered
    have kept := error_kept idle terminal further
    simp [kept, clear]
  | refused idle terminal clear fired answer =>
    obtain rfl := answer a d answered
    have kept := error_kept idle terminal further
    simp [kept, clear, fired]
  | failed looked idle terminal kept answer =>
    obtain rfl := answer a d answered
    have stays := error_kept idle terminal further
    simp [stays, kept, looked]

def oneRow : RowPlan where
  format := .json
  schema := [{ name := "c", kind := .text }]
  options := {}
  manifest := { chunks := [], inlineRows := 1 }

/-- A chunk cannot be fetched; then the cursor is closed and called again. -/
theorem ending_error_kept_gone :
    ∃ u v w : Use,
      live? ⟨RowCursor.new oneRow [] (some (Prefetch.new 1 4).launch), false, []⟩
        [.plain .call, .plain (.settle 0 (.error (.fetch "gone")))] = some u ∧
      u.consumer.state.terminal = false ∧ happen? u (.plain .look) = some v ∧
      v.answers = (.error ((Error.fetch "gone").withChunk 0), v.consumer) :: u.answers ∧
      live? v [.plain .cancel, .plain .close, .plain .call] = some w ∧
      w.consumer.error? = some ((Error.fetch "gone").withChunk 0) := by
  obtain ⟨u, v, w, life, more, came, answered, further⟩ :
      ∃ u v w : Use,
        live? ⟨RowCursor.new oneRow [] (some (Prefetch.new 1 4).launch), false, []⟩
          [.plain .call, .plain (.settle 0 (.error (.fetch "gone")))] = some u ∧
        u.consumer.state.terminal = false ∧ happen? u (.plain .look) = some v ∧
        v.answers = (.error ((Error.fetch "gone").withChunk 0), v.consumer) :: u.answers ∧
        live? v [.plain .cancel, .plain .close, .plain .call] = some w :=
    ⟨_, _, _, rfl, rfl, rfl, rfl, rfl⟩
  obtain ⟨kept, -, -⟩ := ending_error_kept life more came answered further
  exact ⟨u, v, w, life, more, came, answered, further, kept _ rfl (by simp)⟩

/-- The token is fired between two calls: the next call ends the rows with an error that is not kept. -/
theorem refused_error_forgotten :
    ∃ u v : Use,
      live? ⟨RowCursor.new oneRow [[.text "i"]] none, false, []⟩
        [.plain .call, .plain .look, .plain .look, .plain .cancel] = some u ∧
      u.consumer.state.terminal = false ∧ happen? u (.plain .call) = some v ∧
      v.answers.map (·.1) = [.error cancelledError, .ok true] ∧ v.consumer.state.terminal = true ∧
      v.consumer.error? = none :=
  ⟨_, _, rfl, rfl, rfl, rfl, rfl, rfl⟩

end RowStream.RowCursor
