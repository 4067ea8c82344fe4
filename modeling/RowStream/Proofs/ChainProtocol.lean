import RowStream.Stream.Chain
import RowStream.Proofs.CursorSteps
import RowStream.Proofs.Openings

/-! # One result after the other

A chain asks for its results in order and for each of them once. It ends with the last one, with the first
one that cannot be loaded, or when it is closed. -/
namespace RowStream
open RowStream.Text

theorem Text.splitAt_eq_splitOn (sep : Char) (cs : List Char) : splitAt sep cs = cs.splitOn sep := by
  induction cs with
  | nil => rfl
  | cons c cs ih =>
    have step := List.splitOnP_cons_eq_if_modifyHead (p := (· == sep)) c cs
    rw [splitAt, List.splitOn, step, ← List.splitOn, ← ih]
    by_cases here : c = sep
    · simp [here]
    · cases parts : splitAt sep cs with
      | nil => exact (splitAt_ne_nil sep cs parts).elim
      | cons part parts => simp [here]

/-- An id that a list of ids can carry: not blank, without blanks at its ends and without a comma. -/
def Response.IsPlainId (id : String) : Prop :=
  id.toList ≠ [] ∧ trim id.toList = id.toList ∧ ',' ∉ id.toList

/-- Plain ids that are joined by commas are found again. -/
theorem Response.children_joined {r : Response} {ids : List String} (plain : ∀ id ∈ ids, IsPlainId id)
    (joined : r.childIds = some (",".intercalate ids)) : r.children = ids := by
  have comma : ",".toList = [','] := rfl
  have parts : ((splitAt ',' (",".intercalate ids).toList).map trim).filter (fun id => !id.isEmpty) =
      ids.map String.toList := by
    rw [splitAt_eq_splitOn, String.toList_intercalate, comma]
    by_cases noIds : ids = []
    · subst noIds
      rfl
    · have split : List.splitOn ',' ([','].intercalate (ids.map String.toList)) = ids.map String.toList := by
        refine List.splitOn_intercalate ',' ?_ (by simpa using noIds)
        intro cs known
        obtain ⟨id, listed, rfl⟩ := List.mem_map.mp known
        exact (plain id listed).2.2
      have trimmed : (ids.map String.toList).map trim = ids.map String.toList := by
        rw [List.map_map]
        exact List.map_congr_left fun id known => (plain id known).2.1
      rw [split, trimmed, List.filter_eq_self]
      intro cs known
      obtain ⟨id, listed, rfl⟩ := List.mem_map.mp known
      simpa using (plain id listed).1
  rw [children, joined]
  simp only [parts]
  simp

namespace ResultSet
variable {f : Factory} {r : Response} {s t : ResultSet} {u v : Use} {ids asked : List String}

inductive Moved (f : Factory) (s : ResultSet) : Except Overflow (Result Bool × ResultSet) → Prop
  | activated {id : String} {rest : List String} {child : Response} {cursor : RowCursor}
      (pending : s.pending = id :: rest) (loaded : load f s.requested id = .ok child)
      (built : Pipeline.rowCursor f.config child = .ok cursor) :
      Moved f s (.ok (.ok true, ⟨cursor, rest, chainAfter rest, child.queryId, s.requested ++ [id]⟩))
  | failed {id : String} {rest : List String} {e : Error} (pending : s.pending = id :: rest)
      (failure : ∀ child, load f s.requested id = .ok child →
        Pipeline.rowCursor f.config child = .error (.error e)) :
      Moved f s (.ok (.error e, ⟨s.cursor.close, [], .exhausted, s.queryId, requestedAfter f s.requested id⟩))
  | ended (noMore : s.pending = []) : Moved f s (.ok (.ok false, { s with chain := .exhausted }))
  | stopped {id : String} {rest : List String} {child : Response} {o : Overflow} (pending : s.pending = id :: rest)
      (loaded : load f s.requested id = .ok child)
      (overflow : Pipeline.rowCursor f.config child = .error (.overflow o)) : Moved f s (.error o)

/-- The ids that were asked for begin the ids of the chain, and more follow where some are pending. -/
structure Chained (ids : List String) (s : ResultSet) : Prop where
  asked : s.requested <+: ids
  hasNext_iff : s.chain = .hasNext ↔ s.pending ≠ []
  rest : s.pending ≠ [] → s.requested ++ s.pending = ids

/-- Only a service can have loaded something. -/
theorem load_eq_ok {requested : List String} {id : String} {child : Response} :
    load f requested id = .ok child ↔
      ∃ service, f.service = some service ∧ service requested.length id = .ok child := by
  cases service : f.service with
  | none => simp [load, service]
  | some _ => simp [load, service]

theorem requestedAfter_of_load {requested : List String} {id : String} {child : Response}
    (h : load f requested id = .ok child) : requestedAfter f requested id = requested ++ [id] := by
  obtain ⟨_, service, _⟩ := load_eq_ok.mp h
  simp [requestedAfter, service]

theorem next_moved (f : Factory) (chained : Chained ids s) : Moved f s (next f s) := by
  cases pending : s.pending with
  | nil =>
    have ended : next f s = .ok (.ok false, { s with chain := .exhausted }) := by
      rw [next]
      split
      · simp_all
      · rfl
    rw [ended]
    exact .ended pending
  | cons id rest =>
    have chain : s.chain = .hasNext := chained.hasNext_iff.mpr (by simp [pending])
    simp only [next, chain, pending]
    cases loaded : load f s.requested id with
    | error e => exact .failed pending (by simp [loaded])
    | ok child =>
      have asked := requestedAfter_of_load loaded
      simp only [liftM, monadLift, MonadLift.monadLift, Checked.ofResult, bind, Except.bind]
      cases built : Pipeline.rowCursor f.config child with
      | error failure =>
        cases failure with
        | error e => exact .failed pending (by simp [loaded, built])
        | overflow o => exact .stopped pending loaded built
      | ok cursor =>
        simp only [asked]
        exact .activated pending loaded built

theorem Moved.asks_on {a : Result Bool} (moved : Moved f s (.ok (a, t))) : s.requested <+: t.requested := by
  cases moved with
  | activated => exact List.prefix_append _ _
  | @failed id =>
    unfold requestedAfter
    split
    · exact List.prefix_append _ _
    · exact List.prefix_refl _
  | ended => exact List.prefix_refl _

theorem chainAfter_eq_hasNext {pending : List String} : chainAfter pending = .hasNext ↔ pending ≠ [] := by
  cases pending <;> simp [chainAfter]

theorem requestedAfter_begins (f : Factory) {requested rest : List String} {id : String}
    (all : requested ++ id :: rest = ids) : requestedAfter f requested id <+: ids := by
  unfold requestedAfter
  split
  · exact ⟨rest, by simpa using all⟩
  · exact ⟨id :: rest, all⟩

namespace Chained

theorem moved (chained : Chained ids s) {a : Result Bool} (moved : Moved f s (.ok (a, t))) : Chained ids t := by
  cases moved with
  | @activated id rest child cursor pending =>
    have all := chained.rest (by simp [pending])
    rw [pending] at all
    refine ⟨⟨rest, by simpa using all⟩, chainAfter_eq_hasNext, ?_⟩
    intro _
    simpa using all
  | failed pending =>
    have all := chained.rest (by simp [pending])
    rw [pending] at all
    exact ⟨requestedAfter_begins f all, by simp, by simp⟩
  | ended noMore => exact ⟨chained.asked, by simp [noMore], by simp [noMore]⟩

theorem close (chained : Chained ids s) : Chained ids s.close := by
  refine ⟨chained.asked, ?_, by simp [ResultSet.close]⟩
  by_cases more : s.chain = .hasNext <;> simp [ResultSet.close, more]

end Chained

/-- A result set that has asked for one more result, which is the current one now and has not been used. -/
def Activated (f : Factory) (ids asked : List String) (t : ResultSet) : Prop :=
  ∃ id service child, ids[asked.length]? = some id ∧ f.service = some service ∧
    service asked.length id = .ok child ∧ t.cursor.Opens f.config child ∧ t.queryId = child.queryId ∧
    t.requested = asked ++ [id]

/-- A result set is made of the response alone, or of the first of its results. -/
theorem create_cases (created : create f r = (asked, .ok s)) :
    asked = s.requested ∧ s.requested ++ s.pending = r.children ∧ s.chain = (match r.children with
      | [] => .single
      | _ => chainAfter s.pending) ∧
    ((r.children = [] ∧ s.requested = [] ∧ s.cursor.Opens f.config r ∧ s.queryId = r.queryId) ∨
      Activated f r.children [] s) := by
  unfold create at created
  split at created
  · rename_i alone
    obtain ⟨rfl, made⟩ := Prod.mk.inj created
    obtain ⟨cursor, built, same⟩ := bind_eq_ok.mp made
    obtain rfl := Except.ok.inj same
    rw [alone]
    exact ⟨rfl, rfl, rfl, .inl ⟨rfl, rfl, Pipeline.rowCursor_eq_ok.mp built, rfl⟩⟩
  · rename_i first pending several
    obtain ⟨rfl, made⟩ := Prod.mk.inj created
    obtain ⟨child, loaded, made⟩ := bind_eq_ok.mp made
    obtain ⟨cursor, built, same⟩ := bind_eq_ok.mp made
    obtain rfl := Except.ok.inj same
    have loaded := Checked.ofResult_eq_ok.mp loaded
    obtain ⟨service, serves, answered⟩ := load_eq_ok.mp loaded
    rw [several, requestedAfter_of_load loaded]
    exact ⟨rfl, rfl, rfl, .inr ⟨first, service, child, rfl, serves, answered, Pipeline.rowCursor_eq_ok.mp built, rfl,
      rfl⟩⟩

theorem chained_create (created : create f r = (asked, .ok s)) : Chained r.children s := by
  obtain ⟨_, all, chain, _⟩ := create_cases created
  refine ⟨⟨s.pending, all⟩, ?_, fun _ => all⟩
  rw [chain]
  split
  · rename_i alone
    rw [alone] at all
    simp [(List.append_eq_nil_iff.mp all).2]
  · exact chainAfter_eq_hasNext

/-- Everything that an event does to a result set in use. -/
inductive Change (f : Factory) (u : Use) : Event → Use → Prop
  | rows {e : Consumer.Event DecodedChunk} {c : RowCursor.Use} (other : e ≠ .close)
      (change : RowCursor.Change u.current (.plain e) c) : Change f u (.rows e) (u.withCurrent c)
  | scan : Change f u .scan u
  | next {a : Result Bool} {t : ResultSet} (idle : u.advancing = false) (came : ResultSet.next f u.set = .ok (a, t)) :
      Change f u .next (u.moved a t)
  | close (idle : u.advancing = false) : Change f u .close { u with set := u.set.close }

theorem step?_change {e : Event} (h : step? f u e = some v) : Change f u e v := by
  cases e with
  | rows e =>
    have other : e ≠ .close := by
      rintro rfl
      simp [step?] at h
    have step : (Consumer.step? u.current e).map u.withCurrent = some v := by
      rw [← h]
      cases e <;> first | rfl | exact (other rfl).elim
    obtain ⟨c, came, rfl⟩ := Option.map_eq_some_iff.mp step
    exact .rows other (RowCursor.happen?_change came)
  | scan =>
    simp only [step?, Option.ite_none_left_eq_some, Option.some.injEq] at h
    obtain ⟨_, rfl⟩ := h
    exact .scan
  | next =>
    simp only [step?, Option.ite_none_left_eq_some] at h
    obtain ⟨idle, h⟩ := h
    split at h
    · rename_i a t came
      obtain rfl := Option.some.inj h
      exact .next (by simpa using idle) came
    · cases h
  | close =>
    simp only [step?, Option.ite_none_left_eq_some, Option.some.injEq] at h
    obtain ⟨idle, rfl⟩ := h
    exact .close (by simpa using idle)

/-- How a result set in use stands; `wasClosed` says whether it has been closed. -/
structure Sound (ids : List String) (wasClosed : Prop) (u : Use) : Prop where
  chained : Chained ids u.set
  finished : (wasClosed ∨ ∃ a ∈ u.moves, a ≠ .ok true) → u.set.pending = []
  closed : (wasClosed ∨ ∃ e, .error e ∈ u.moves) → u.set.cursor.closed = true
  idle : u.set.cursor.closed = true → u.advancing = false

namespace Sound
variable {wasClosed : Prop}

theorem moved (sound : Sound ids wasClosed u) (idle : u.advancing = false) {a : Result Bool}
    (came : next f u.set = .ok (a, t)) : Sound ids wasClosed (u.moved a t) := by
  have moved := came ▸ next_moved f sound.chained
  obtain ⟨chained, finished, closed, _⟩ := sound
  have chained := chained.moved moved
  cases moved with
  | activated pending =>
    -- Something was pending, so nothing has ended the chain before this move.
    have notFinished : ¬(wasClosed ∨ ∃ a ∈ u.moves, a ≠ .ok true) := by
      intro isFinished
      simp [finished isFinished] at pending
    refine ⟨chained, ?_, ?_, fun _ => idle⟩
    · rintro (was | ⟨a, known, bad⟩)
      · exact (notFinished (.inl was)).elim
      · have known : a ∈ u.moves := by simpa [Use.moved, bad] using known
        exact (notFinished (.inr ⟨a, known, bad⟩)).elim
    · rintro (was | ⟨e, known⟩)
      · exact (notFinished (.inl was)).elim
      · have known : .error e ∈ u.moves := by simpa [Use.moved] using known
        exact (notFinished (.inr ⟨_, known, by simp⟩)).elim
  | failed => exact ⟨chained, fun _ => rfl, fun _ => RowCursor.closed_close _, fun _ => idle⟩
  | ended noMore =>
    refine ⟨chained, fun _ => noMore, ?_, fun _ => idle⟩
    rintro (was | ⟨e, known⟩)
    · exact closed (.inl was)
    · exact closed (.inr ⟨e, by simpa [Use.moved] using known⟩)

theorem withCurrent (sound : Sound ids wasClosed u) {e : Consumer.Event DecodedChunk} {c : RowCursor.Use}
    (other : e ≠ .close) (change : RowCursor.Change u.current (.plain e) c) :
    Sound ids wasClosed (u.withCurrent c) := by
  have kept : c.consumer.closed = u.set.cursor.closed := change.closed_eq (by simpa using other)
  obtain ⟨chained, finished, closed, idle⟩ := sound
  refine ⟨⟨chained.asked, chained.hasNext_iff, chained.rest⟩, finished, ?_, ?_⟩
  · intro wasFinished
    exact kept.trans (closed wasFinished)
  · exact change.idle_of_closed idle (by simpa using other)

theorem step {e : Event} (sound : Sound ids wasClosed u) (h : step? f u e = some v) :
    Sound ids (wasClosed ∨ e = .close) v := by
  cases step?_change h with
  | rows other change => simpa using sound.withCurrent other change
  | scan => simpa using sound
  | next idle came => simpa using sound.moved idle came
  | close idle =>
    exact ⟨sound.chained.close, fun _ => rfl, fun _ => RowCursor.closed_close _, fun _ => idle⟩

theorem run {events : List Event} (sound : Sound ids wasClosed u) (h : run? f u events = some v) :
    Sound ids (wasClosed ∨ .close ∈ events) v := by
  induction events generalizing u wasClosed with
  | nil =>
    cases h
    simpa using sound
  | cons e es ih =>
    obtain ⟨w, first, rest⟩ := Option.bind_eq_some_iff.mp h
    have later := ih (sound.step first) rest
    have somewhere : wasClosed ∨ Event.close ∈ e :: es ↔ (wasClosed ∨ e = .close) ∨ .close ∈ es := by
      rw [List.mem_cons, or_assoc, eq_comm]
    rwa [somewhere]

end Sound

theorem sound_create (created : create f r = (asked, .ok s)) : Sound r.children False (fresh s) :=
  ⟨chained_create created, by simp [fresh], by simp [fresh], fun _ => rfl⟩

/-- Whatever was asked for stays asked for. -/
theorem asked_run {events : List Event} {wasClosed : Prop} (sound : Sound ids wasClosed u)
    (h : run? f u events = some v) : u.set.requested <+: v.set.requested := by
  induction events generalizing u wasClosed with
  | nil =>
    cases h
    exact List.prefix_refl _
  | cons e es ih =>
    obtain ⟨w, first, rest⟩ := Option.bind_eq_some_iff.mp h
    have now : u.set.requested <+: w.set.requested := by
      cases step?_change first with
      | rows => exact List.prefix_refl _
      | scan => exact List.prefix_refl _
      | next _ came => exact (came ▸ next_moved f sound.chained).asks_on
      | close => exact List.prefix_refl _
    exact now.trans (ih (sound.step first) rest)

/-- A chain that is over stays as it is: it asks for nothing, and every further move finds nothing. -/
theorem finished_run {events : List Event} {wasClosed : Prop} (sound : Sound ids wasClosed u)
    (finished : u.set.pending = []) (h : run? f u events = some v) :
    v.set.pending = [] ∧ v.set.requested = u.set.requested ∧
      ∃ n, v.moves = List.replicate n (.ok false) ++ u.moves := by
  induction events generalizing u wasClosed with
  | nil =>
    cases h
    exact ⟨finished, rfl, 0, rfl⟩
  | cons e es ih =>
    obtain ⟨w, first, rest⟩ := Option.bind_eq_some_iff.mp h
    have now : w.set.pending = [] ∧ w.set.requested = u.set.requested ∧
        ∃ n, w.moves = List.replicate n (.ok false) ++ u.moves := by
      cases step?_change first with
      | rows => exact ⟨finished, rfl, 0, rfl⟩
      | scan => exact ⟨finished, rfl, 0, rfl⟩
      | next _ came =>
        cases came ▸ next_moved f sound.chained with
        | activated pending => simp [finished] at pending
        | failed pending => simp [finished] at pending
        | ended => exact ⟨finished, rfl, 1, rfl⟩
      | close => exact ⟨rfl, rfl, 0, rfl⟩
    obtain ⟨finished, asked, n, moves⟩ := now
    obtain ⟨stillFinished, stillAsked, m, later⟩ := ih (sound.step first) finished rest
    refine ⟨stillFinished, stillAsked.trans asked, m + n, ?_⟩
    rw [later, moves, List.replicate_add, List.append_assoc]

theorem advance_closed (closed : s.cursor.closed = true) : advance s = (.answer (.ok false), s) := by
  rw [advance, RowCursor.advance_closed closed]

/-- Every result of the chain can be loaded and opened. -/
def Loads (f : Factory) (ids : List String) : Prop :=
  ∀ i id, ids[i]? = some id → ∃ service child cursor, f.service = some service ∧ service i id = .ok child ∧
    RowCursor.Opens f.config child cursor

theorem Loads.rowCursor_eq (loads : Loads f ids) {asked : List String} {id : String}
    (place : ids[asked.length]? = some id) :
    ∃ child cursor, load f asked id = .ok child ∧ Pipeline.rowCursor f.config child = .ok cursor := by
  obtain ⟨service, child, cursor, serves, answered, opens⟩ := loads _ id place
  exact ⟨child, cursor, load_eq_ok.mpr ⟨service, serves, answered⟩, Pipeline.rowCursor_eq_ok.mpr opens⟩

/-- Where all results load, a move brings the next one or finds that there is none. -/
theorem Loads.moved (loads : Loads f ids) (chained : Chained ids s) :
    ∃ a t, next f s = .ok (a, t) ∧ ∀ e, a ≠ .error e := by
  have moved := next_moved f chained
  generalize next f s = result at moved ⊢
  have place {id : String} {rest : List String} (pending : s.pending = id :: rest) :
      ids[s.requested.length]? = some id := by
    have all := chained.rest (by simp [pending])
    simp [← all, pending]
  cases moved with
  | activated => exact ⟨_, _, rfl, by simp⟩
  | ended => exact ⟨_, _, rfl, by simp⟩
  | failed pending failure =>
    obtain ⟨child, cursor, loaded, built⟩ := loads.rowCursor_eq (place pending)
    cases built.symm.trans (failure child loaded)
  | stopped pending loaded overflow =>
    obtain ⟨child', cursor, loaded', built⟩ := loads.rowCursor_eq (place pending)
    obtain rfl := Except.ok.inj (loaded.symm.trans loaded')
    cases built.symm.trans overflow

/-- A chain in use that nothing has ended but its own end. -/
structure Unbroken (ids : List String) (u : Use) : Prop where
  all : u.set.requested ++ u.set.pending = ids
  asked : u.set.requested.length = min (u.moves.length + 1) ids.length
  moves : u.moves.reverse = (List.range u.moves.length).map fun i => .ok (decide (i + 1 < ids.length))

theorem Unbroken.moved (unbroken : Unbroken ids u) (chained : Chained ids u.set) (loads : Loads f ids)
    {a : Result Bool} (came : next f u.set = .ok (a, t)) : Unbroken ids (u.moved a t) := by
  obtain ⟨_, _, came', noError⟩ := loads.moved chained
  obtain ⟨rfl, rfl⟩ := Prod.mk.inj (Except.ok.inj (came.symm.trans came'))
  have moved := came ▸ next_moved f chained
  obtain ⟨all, asked, moves⟩ := unbroken
  have count := congrArg List.length all
  rw [List.length_append] at count
  cases moved with
  | @activated id rest child cursor pending =>
    rw [pending, List.length_cons] at count
    rw [pending] at all
    have more : u.moves.length + 1 < ids.length := by omega
    refine ⟨by simpa [Use.moved] using all, ?_, ?_⟩
    · simp only [Use.moved, List.length_append, List.length_cons, List.length_nil]
      omega
    · simp [Use.moved, List.range_succ, moves, more]
  | failed => exact (noError _ rfl).elim
  | ended noMore =>
    rw [noMore, List.length_nil] at count
    have noneLeft : ¬u.moves.length + 1 < ids.length := by omega
    refine ⟨all, ?_, ?_⟩
    · simp only [Use.moved, List.length_cons]
      omega
    · simp [Use.moved, List.range_succ, moves, noneLeft]

theorem Unbroken.run {events : List Event} {wasClosed : Prop} (unbroken : Unbroken ids u)
    (sound : Sound ids wasClosed u) (loads : Loads f ids) (notClosed : .close ∉ events)
    (h : run? f u events = some v) : Unbroken ids v := by
  induction events generalizing u wasClosed with
  | nil =>
    cases h
    exact unbroken
  | cons e es ih =>
    obtain ⟨w, first, rest⟩ := Option.bind_eq_some_iff.mp h
    have now : Unbroken ids w := by
      cases step?_change first with
      | rows => exact ⟨unbroken.all, unbroken.asked, unbroken.moves⟩
      | scan => exact unbroken
      | next _ came => exact unbroken.moved sound.chained loads came
      | close => exact (notClosed List.mem_cons_self).elim
    exact ih now (sound.step first) (fun later => notClosed (List.mem_cons_of_mem _ later)) rest

theorem unbroken_create (created : create f r = (asked, .ok s)) : Unbroken r.children (fresh s) := by
  obtain ⟨_, all, _, alone | activated⟩ := create_cases created
  · obtain ⟨alone, asked, _⟩ := alone
    exact ⟨all, by simp [fresh, alone, asked], rfl⟩
  · obtain ⟨id, _, _, place, _, _, _, _, asked⟩ := activated
    refine ⟨all, ?_, rfl⟩
    have filled : 0 < r.children.length := (List.getElem?_eq_some_iff.mp place).1
    simp only [fresh, asked, List.nil_append, List.length_singleton, List.length_nil]
    omega

theorem next_true_iff (chained : Chained ids s) {a : Result Bool} (came : next f s = .ok (a, t)) :
    a = .ok true ↔ Activated f ids s.requested t := by
  have moved := came ▸ next_moved f chained
  cases moved with
  | activated pending loaded built =>
    have all := chained.rest (by simp [pending])
    obtain ⟨service, serves, answered⟩ := load_eq_ok.mp loaded
    refine iff_of_true rfl ⟨_, service, _, ?_, serves, answered, Pipeline.rowCursor_eq_ok.mp built, rfl, rfl⟩
    simp [← all, pending]
  | failed =>
    refine iff_of_false (by simp) ?_
    rintro ⟨id, service, child, _, _, _, opens, _⟩
    obtain ⟨_, _, _, isOpen⟩ := opens.unread
    cases (RowCursor.closed_close s.cursor).symm.trans isOpen
  | ended =>
    refine iff_of_false (by simp) ?_
    rintro ⟨id, service, child, _, _, _, _, _, asked⟩
    simp at asked

/-- A move stops the program only where the next result declares a total and has `2 ^ 63` rows or more. -/
theorem next_overflow (chained : Chained ids s) {o : Overflow} (came : next f s = .error o) :
    ∃ id service child, ids[s.requested.length]? = some id ∧ f.service = some service ∧
      service s.requested.length id = .ok child ∧ child.total.isSome ∧
      ∃ n, 2 ^ 63 ≤ Manifest.rows n child.chunks := by
  cases came ▸ next_moved f chained with
  | stopped pending loaded overflow =>
    have all := chained.rest (by simp [pending])
    obtain ⟨service, serves, answered⟩ := load_eq_ok.mp loaded
    obtain ⟨total, _, rows, _, _, large⟩ := Pipeline.rowCursor_overflow overflow
    exact ⟨_, service, _, by simp [← all, pending], serves, answered, total, rows.length, large⟩

/-- A result set asks for the results of its chain in order and for none of them twice, and says that another
one follows exactly while ids are left. A move comes to a result exactly if it has made it the current one: the cursor
is that of the next result then, before its first row. The first move that does not, and closing, end the chain: nobody
is asked again, later moves find nothing, and after an error or closing neither do advances. Where all results load,
each of them has its move. -/
theorem chain_protocol {events : List Event} (created : create f r = (asked, .ok s))
    (run : run? f (fresh s) events = some u) :
    asked = s.requested ∧ asked <+: u.set.requested ∧ u.set.requested <+: r.children ∧
    ((r.children = [] ∧ s.requested = [] ∧ s.cursor.Opens f.config r ∧ s.queryId = r.queryId) ∨
      Activated f r.children [] s) ∧
    (u.set.chain = .hasNext ↔ u.set.pending ≠ []) ∧
    (u.set.pending ≠ [] → u.set.requested ++ u.set.pending = r.children) ∧
    (∀ a t, next f u.set = .ok (a, t) → (a = .ok true ↔ Activated f r.children u.set.requested t)) ∧
    (∀ o, next f u.set = .error o →
      ∃ id service child, r.children[u.set.requested.length]? = some id ∧ f.service = some service ∧
        service u.set.requested.length id = .ok child ∧ child.total.isSome ∧
        ∃ n, 2 ^ 63 ≤ Manifest.rows n child.chunks) ∧
    ((.close ∈ events ∨ ∃ a ∈ u.moves, a ≠ .ok true) → ∀ later v, run? f u later = some v →
      v.set.requested = u.set.requested ∧ ∃ n, v.moves = List.replicate n (.ok false) ++ u.moves) ∧
    ((.close ∈ events ∨ ∃ e, .error e ∈ u.moves) → ∀ later v, run? f u later = some v →
      v.advancing = false ∧ advance v.set = (.answer (.ok false), v.set)) ∧
    (.close ∉ events → Loads f r.children → (∃ a t, next f u.set = .ok (a, t)) ∧
      u.moves.reverse = (List.range u.moves.length).map fun i => .ok (decide (i + 1 < r.children.length))) ∧
    ∀ ids, (∀ id ∈ ids, Response.IsPlainId id) → r.childIds = some (",".intercalate ids) → r.children = ids := by
  have fresh_sound := sound_create created
  have sound : Sound r.children (.close ∈ events) u := by simpa using fresh_sound.run run
  have chained := sound.chained
  obtain ⟨asked_eq, _, _, opened⟩ := create_cases created
  have grown : asked <+: u.set.requested := asked_eq ▸ asked_run fresh_sound run
  refine ⟨asked_eq, grown, chained.asked, opened, chained.hasNext_iff, chained.rest,
    fun _ _ => next_true_iff chained, fun _ => next_overflow chained, ?_, ?_, ?_, ?_⟩
  · intro ended later v further
    exact (finished_run sound (sound.finished ended) further).2
  · intro ended later v further
    have pending : u.set.pending = [] := sound.finished (ended.imp_right fun ⟨e, known⟩ => ⟨_, known, by simp⟩)
    obtain ⟨_, _, n, moves⟩ := finished_run sound pending further
    have laterSound := sound.run further
    have stillClosed : v.set.cursor.closed = true := by
      refine laterSound.closed ?_
      rcases ended with was | ⟨e, known⟩
      · exact .inl (.inl was)
      · exact .inr ⟨e, moves ▸ List.mem_append_right _ known⟩
    exact ⟨laterSound.idle stillClosed, advance_closed stillClosed⟩
  · intro notClosed loads
    obtain ⟨a, t, came, _⟩ := loads.moved chained
    exact ⟨⟨a, t, came⟩, ((unbroken_create created).run fresh_sound loads notClosed run).moves⟩
  · intro ids plain joined
    exact Response.children_joined plain joined

/-- The results a and b have a row each; c cannot be loaded. -/
def lastGone : Factory where
  config := {}
  service := some fun n id =>
    if id = "c" then .error { kind := .fetch, message := "gone" }
    else .ok { schema := [{ name := "t", kind := .text }], rowset := [[some (id ++ toString n)]], queryId := id }

def threeResults : Response := { childIds := some "a, b, c" }

/-- The row of the second result is read, the third result fails, and then there is nothing more. -/
def readOn : List Event := [.next, .rows .call, .rows .look, .rows .look, .scan, .next, .next, .rows .call]

theorem chain_protocol_lastGone :
    ∃ s t u, create lastGone threeResults = (["a"], .ok s) ∧ s.cursor.inline = some [[.text "a0"]] ∧
      next lastGone s = .ok (.ok true, t) ∧ Activated lastGone threeResults.children ["a"] t ∧
      t.cursor.inline = some [[.text "b1"]] ∧ run? lastGone (fresh s) readOn = some u ∧
      u.moves = [.ok false, .error { kind := .fetch, message := "gone" }, .ok true] ∧
      u.advances.map (fun a => (a.1, a.2.currentRow?)) = [(.ok false, none), (.ok true, some [.text "b1"])] ∧
      u.set.requested = ["a", "b", "c"] ∧
      ∀ later v, run? lastGone u later = some v →
        v.set.requested = ["a", "b", "c"] ∧ advance v.set = (.answer (.ok false), v.set) := by
  obtain ⟨s, t, u, created, first, came, second, asked, run, moves, rows, asked'⟩ :
      ∃ s t u, create lastGone threeResults = (["a"], .ok s) ∧ s.cursor.inline = some [[.text "a0"]] ∧
        next lastGone s = .ok (.ok true, t) ∧ t.cursor.inline = some [[.text "b1"]] ∧ s.requested = ["a"] ∧
        run? lastGone (fresh s) readOn = some u ∧
        u.moves = [.ok false, .error { kind := .fetch, message := "gone" }, .ok true] ∧
        u.advances.map (fun a => (a.1, a.2.currentRow?)) = [(.ok false, none), (.ok true, some [.text "b1"])] ∧
        u.set.requested = ["a", "b", "c"] := by
    refine ⟨_, _, _, rfl, rfl, rfl, rfl, rfl, rfl, rfl, rfl, rfl⟩
  have failed : ∃ e, .error e ∈ u.moves := ⟨{ kind := .fetch, message := "gone" }, by simp [moves]⟩
  have unmoved : run? lastGone (fresh s) [] = some (fresh s) := rfl
  obtain ⟨_, _, _, _, _, _, comes, _⟩ := chain_protocol created unmoved
  obtain ⟨_, _, _, _, _, _, _, _, finished, closed, _⟩ := chain_protocol created run
  have activated : Activated lastGone threeResults.children s.requested t := (comes (.ok true) t came).mp rfl
  refine ⟨s, t, u, created, first, came, asked ▸ activated, second, run, moves, rows, asked', ?_⟩
  intro later v further
  have ended : .close ∈ readOn ∨ ∃ a ∈ u.moves, a ≠ .ok true := by
    obtain ⟨e, known⟩ := failed
    exact .inr ⟨_, known, by simp⟩
  exact ⟨(finished ended later v further).1.trans asked', (closed (.inr failed) later v further).2⟩

end ResultSet
end RowStream
