import RowStream.Stream.Consumer

/-! # Consumers whose answers are known

Where every look fits the answers that lie ahead, so do runs, whatever the order in which tasks settle; and
every call comes to its answer. -/
namespace RowStream.Consumer
variable {σ α ρ : Type}

theorem step?_call [Consumer σ α ρ] {u v : Use σ ρ} (h : step? u .call = some v) :
    v.consumer = (enter u.consumer).2 := by
  simp only [step?, Option.ite_none_left_eq_some] at h
  obtain ⟨_, h⟩ := h
  generalize enter u.consumer = entered at h ⊢
  rcases entered with ⟨_ | a, s⟩ <;> cases h <;> rfl

theorem step?_look [Consumer σ α ρ] {u v : Use σ ρ} (h : step? u .look = some v) :
    v.consumer = (look u.consumer).2 := by
  simp only [step?, Option.ite_none_right_eq_some] at h
  obtain ⟨_, h⟩ := h
  generalize look u.consumer = looked at h ⊢
  rcases looked with ⟨_ | _ | _, s⟩ <;> cases h <;> rfl

/-- Calls, looks, and tasks that bring their outcomes. -/
def Brings (outcome : Nat → Result α) : Event α → Prop
  | .call | .look => True
  | .settle k r => r = outcome k
  | .cancel | .close => False

/-- Tasks that settle and looks that follow bring a call to its answer. -/
def Answerable [Consumer σ α ρ] (outcome : Nat → Result α) (u : Use σ ρ) : Prop :=
  ∃ events v, (∀ e ∈ events, Brings outcome e) ∧ run? u events = some v ∧ v.calling = false ∧
    v.answers.length = u.answers.length + 1

theorem Answerable.of_step [Consumer σ α ρ] {outcome : Nat → Result α} {u v : Use σ ρ} {e : Event α}
    (brings : Brings outcome e) (h : step? u e = some v) (same : v.answers.length = u.answers.length)
    (ih : Answerable outcome v) : Answerable outcome u := by
  obtain ⟨events, w, bring, run, idle, answered⟩ := ih
  refine ⟨e :: events, w, ?_, ?_, idle, same ▸ answered⟩
  · rintro e' (_ | ⟨_, known⟩)
    · exact brings
    · exact bring e' known
  · show (step? u e).bind _ = _
    rw [h]
    exact run

/-- What is known of a consumer that nobody disturbs: what is seen of the answers of its next calls, and how much
there is still to take. -/
structure Outlook (σ ρ ω : Type) where
  undisturbed : σ → Prop
  /-- A call that has been entered may look. -/
  more : σ → Prop
  /-- What is seen of an answer and of the consumer that it leaves. -/
  seen : ρ → σ → ω
  ahead : σ → Nat → ω
  unread : σ → Nat

namespace Outlook
variable {ω : Type} [Consumer σ α ρ]

/-- An answer fits what lies ahead, and what lies ahead after it is the rest. -/
structure Answers (o : Outlook σ ρ ω) (s : σ) (a : ρ) (t : σ) : Prop where
  undisturbed : o.undisturbed t
  now : o.ahead s 0 = o.seen a t
  later : ∀ i, o.ahead s (i + 1) = o.ahead t i

/-- How the start of a call fits the answers ahead. -/
inductive Entered (o : Outlook σ ρ ω) (s : σ) : Option ρ × σ → Prop
  | answer {a : ρ} {t : σ} (fits : o.Answers s a t) : Entered o s (some a, t)
  | goesOn (more : o.more s) : Entered o s (none, s)

/-- How one look fits the answers ahead. -/
inductive Looked (o : Outlook σ ρ ω) (s : σ) : Option (Outcome ρ) × σ → Prop
  | answer {a : ρ} {t : σ} (fits : o.Answers s a t) : Looked o s (some (.answer a), t)
  | again {t : σ} (undisturbed : o.undisturbed t) (more : o.more t) (same : o.ahead t = o.ahead s)
      (less : o.unread t < o.unread s) : Looked o s (none, t)
  | waiting {p : Prefetch α} {t : σ} (undisturbed : o.undisturbed t) (more : o.more t) (same : o.ahead t = o.ahead s)
      (prefetch : (feed s).prefetch = some p) (running : p.nextExpected ∈ p.running) (once : p.running.Nodup) :
      Looked o s (some (.waiting p.nextExpected), t)

end Outlook

/-- A consumer whose looks fit the answers ahead; tasks that bring their outcomes change nothing of them. -/
structure Reader (σ α ρ ω : Type) [Consumer σ α ρ] extends Outlook σ ρ ω where
  outcome : Nat → Result α
  entered {s : σ} (h : undisturbed s) : toOutlook.Entered s (enter s)
  looked {s : σ} (h : undisturbed s) (m : more s) : toOutlook.Looked s (look s)
  settled {s : σ} {k : Nat} (h : undisturbed s) (running : k ∈ (feed s).running) :
    undisturbed (settle s k (outcome k))
  more_settle {s : σ} (k : Nat) (m : more s) : more (settle s k (outcome k))
  ahead_settle (s : σ) (k : Nat) : ahead (settle s k (outcome k)) = ahead s
  unread_settle (s : σ) (k : Nat) : unread (settle s k (outcome k)) = unread s
  feed_settle (s : σ) (k : Nat) : feed (settle s k (outcome k)) = (feed s).settle k (outcome k)

namespace Reader
variable {ω : Type} [Consumer σ α ρ] {r : Reader σ α ρ ω} {answers : Nat → ω} {u v : Use σ ρ} {s : σ}

/-- A use in which what was seen so far is the beginning of the given answers, with the others ahead of it. -/
structure Follows (r : Reader σ α ρ ω) (answers : Nat → ω) (u : Use σ ρ) : Prop where
  undisturbed : r.undisturbed u.consumer
  more : u.calling = true → r.more u.consumer
  answers_eq : u.answers.reverse.map (fun a => r.seen a.1 a.2) = (List.range u.answers.length).map answers
  ahead : ∀ i, answers (u.answers.length + i) = r.ahead u.consumer i

theorem follows_start (h : r.undisturbed s) : r.Follows (r.ahead s) ⟨s, false, []⟩ := by
  refine ⟨h, by simp, rfl, ?_⟩
  intro i
  rw [List.length_nil, Nat.zero_add]

namespace Follows

theorem answered (f : r.Follows answers u) {a : ρ} (fits : r.Answers u.consumer a s) :
    r.Follows answers (u.answered a s) := by
  have here : answers u.answers.length = r.seen a s := by
    rw [← fits.now, ← f.ahead 0, Nat.add_zero]
  refine ⟨fits.undisturbed, by simp [Use.answered], ?_, ?_⟩
  · simp [Use.answered, List.range_succ, f.answers_eq, here]
  · intro i
    have next : (u.answered a s).answers.length + i = u.answers.length + (i + 1) := by
      simp only [Use.answered, List.length_cons]
      omega
    rw [next, f.ahead, fits.later]
    rfl

theorem moved (f : r.Follows answers u) (undisturbed : r.undisturbed s) (same : r.ahead s = r.ahead u.consumer)
    {calling : Bool} (more : calling = true → r.more s) : r.Follows answers ⟨s, calling, u.answers⟩ := by
  refine ⟨undisturbed, more, f.answers_eq, ?_⟩
  intro i
  rw [same]
  exact f.ahead i

theorem step {e : Event α} (f : r.Follows answers u) (brings : Brings r.outcome e) (h : step? u e = some v) :
    r.Follows answers v := by
  have undisturbed := f.undisturbed
  cases e with
  | call =>
    simp only [step?, Option.ite_none_left_eq_some] at h
    obtain ⟨_, h⟩ := h
    have entered := r.entered undisturbed
    generalize enter u.consumer = result at h entered
    cases entered with
    | answer fits =>
      obtain rfl := Option.some.inj h
      exact f.answered fits
    | goesOn more =>
      obtain rfl := Option.some.inj h
      exact f.moved undisturbed rfl fun _ => more
  | look =>
    simp only [step?, Option.ite_none_right_eq_some] at h
    obtain ⟨calling, h⟩ := h
    have looked := r.looked undisturbed (f.more calling)
    generalize look u.consumer = result at h looked
    cases looked with
    | answer fits =>
      obtain rfl := Option.some.inj h
      exact f.answered fits
    | again undisturbed more same less =>
      obtain rfl := Option.some.inj h
      exact f.moved undisturbed same fun _ => more
    | waiting undisturbed more same =>
      obtain rfl := Option.some.inj h
      exact f.moved undisturbed same fun _ => more
  | settle k x =>
    obtain rfl : x = r.outcome k := brings
    simp only [step?, Option.ite_none_right_eq_some, Option.some.injEq] at h
    obtain ⟨running, rfl⟩ := h
    exact f.moved (r.settled undisturbed running) (r.ahead_settle _ _) fun calling => r.more_settle k (f.more calling)
  | cancel => exact brings.elim
  | close => exact brings.elim

theorem run {events : List (Event α)} (f : r.Follows answers u) (brings : ∀ e ∈ events, Brings r.outcome e)
    (h : run? u events = some v) : r.Follows answers v := by
  induction events generalizing u with
  | nil =>
    cases h
    exact f
  | cons e es ih =>
    obtain ⟨w, first, rest⟩ := Option.bind_eq_some_iff.mp h
    exact ih (f.step (brings e List.mem_cons_self) first)
      (fun later known => brings later (List.mem_cons_of_mem _ known)) rest

/-- A look answers, or leaves less to take, or finds that the next chunk is on its way. -/
theorem answerable_or_waiting (f : r.Follows answers u) (calling : u.calling = true)
    (ih : ∀ v, r.Follows answers v → v.calling = true → r.unread v.consumer < r.unread u.consumer →
      Answerable r.outcome v) :
    Answerable r.outcome u ∨
      ∃ p, (feed u.consumer).prefetch = some p ∧ p.nextExpected ∈ p.running ∧ p.running.Nodup := by
  have looked := r.looked f.undisturbed (f.more calling)
  cases looking : look u.consumer with
  | mk outcome t =>
    rw [looking] at looked
    cases looked with
    | @answer a _ fits =>
      refine .inl ⟨[.look], u.answered a t, by simp [Brings], ?_, rfl, rfl⟩
      simp [run?, step?, calling, looking]
    | again undisturbed more same less =>
      have step : step? u .look = some ⟨t, true, u.answers⟩ := by simp [step?, calling, looking]
      have brings : Brings r.outcome .look := trivial
      exact .inl (.of_step brings step rfl (ih _ (f.step brings step) rfl less))
    | waiting undisturbed more same prefetch running once => exact .inr ⟨_, prefetch, running, once⟩

/-- Where the next chunk is on its way its task settles, and no later look waits for it. -/
theorem answerable (f : r.Follows answers u) (calling : u.calling = true) : Answerable r.outcome u := by
  -- The induction is on what there is still to take. A look that waits takes nothing, but its task can settle,
  -- and the look after that does not wait.
  induction left : r.unread u.consumer using Nat.strongRecOn generalizing u with
  | ind n ih =>
    have smaller : ∀ v, r.Follows answers v → v.calling = true → r.unread v.consumer < r.unread u.consumer →
        Answerable r.outcome v := fun v g again less => ih _ (left ▸ less) g again rfl
    rcases f.answerable_or_waiting calling smaller with done | ⟨p, prefetch, running, once⟩
    · exact done
    · let k := p.nextExpected
      have known : k ∈ (feed u.consumer).running := by simpa [Feed.running, prefetch] using running
      have settles : step? u (.settle k (r.outcome k)) =
          some ⟨settle u.consumer k (r.outcome k), true, u.answers⟩ := by
        rw [step?, if_pos known, calling]
      have brings : Brings r.outcome (.settle k (r.outcome k)) := rfl
      refine .of_step brings settles rfl ?_
      have g := f.step brings settles
      rcases g.answerable_or_waiting rfl (by simpa [r.unread_settle] using smaller) with
        done | ⟨q, after, again, _⟩
      · exact done
      · have same : p.settle k (r.outcome k) = q := by
          rw [r.feed_settle, Feed.settle, prefetch] at after
          exact Option.some.inj after
        rw [← same] at again
        exact (once.not_mem_erase again).elim

end Follows
end Reader
end RowStream.Consumer
