import Mathlib.Data.List.Basic
import RowStream.Json.Printer
import RowStream.Json.Reading

/-! # Rendered documents

What the printer writes, the reader reads back: a run of the reader over each kind of text, and from these
the run over whole documents. -/
namespace RowStream.Json

namespace Source

mutual
def ofJson : Json → Source
  | .null => .null
  | .bool b => .bool b
  | .number text => .number text
  | .string text => .string (some text)
  | .array items => .array (ofJsonItems items)
  | .object members => .object (ofJsonMembers members)

def ofJsonItems : List Json → List Source
  | [] => []
  | item :: items => ofJson item :: ofJsonItems items

def ofJsonMembers : List (String × Json) → List (Option String × Source)
  | [] => []
  | (name, value) :: members => (some name, ofJson value) :: ofJsonMembers members
end

theorem ofJsonItems_eq (items : List Json) : ofJsonItems items = items.map ofJson := by
  induction items with
  | nil => rfl
  | cons item items ih => rw [ofJsonItems, ih, List.map_cons]

theorem ofJsonMembers_eq (members : List (String × Json)) :
    ofJsonMembers members = members.map fun m => (some m.1, ofJson m.2) := by
  induction members with
  | nil => rfl
  | cons m members ih => rw [ofJsonMembers, ih, List.map_cons]

/-- Characters that lead from a phase to the end of a number and stand for themselves. -/
inductive NumberPhase.Completed : NumberPhase → List Char → Prop
  | nil {p} (complete : p.complete = true) : Completed p []
  | cons {p q c cs} (step : p.step c = some (q, [c])) (rest : Completed q cs) : Completed p (c :: cs)

/-- The texts of numbers that are read as they are. Without a minus they begin as after one. -/
inductive IsNumber : List Char → Prop
  | minus {cs} (rest : NumberPhase.minus.Completed cs) : IsNumber ('-' :: cs)
  | unsigned {cs} (all : NumberPhase.minus.Completed cs) : IsNumber cs

end Source

/-- A document whose numbers are written as the reader keeps them. -/
inductive Literal : Json → Prop
  | null : Literal .null
  | bool (b) : Literal (.bool b)
  | number {text} (number : Source.IsNumber text.toList) : Literal (.number text)
  | string (text) : Literal (.string text)
  | array {items} (inside : ∀ j ∈ items, Literal j) : Literal (.array items)
  | object {members} (inside : ∀ m ∈ members, Literal m.2) : Literal (.object members)

namespace Source.Reader
variable {frames : List Frame} {v : Source} {r : Reader}

theorem run_cons (r : Reader) (c : Char) (cs : List Char) : r.run (c :: cs) = (r.step c).bind (·.run cs) := by
  rw [run]
  cases r.step c <;> rfl

/-- A reader that has come to the end of a value. The end of a number shows only with what follows it. -/
inductive Ended (frames : List Frame) : Source → Reader → Prop
  | after (value) : Ended frames value ⟨frames, .after value⟩
  | number {p text} (complete : p.complete = true) : Ended frames (numberOf text) ⟨frames, .number p text⟩

def closers : List Char := [',', ']', '\x7d']

theorem phase_closes (p : NumberPhase) {c : Char} (closer : c ∈ closers) : p.step c = none ∧ isDigit c = false := by
  simp only [closers, List.mem_cons, List.not_mem_nil, or_false] at closer
  rcases closer with rfl | rfl | rfl <;> cases p <;> exact ⟨by decide, by decide⟩

theorem Ended.step (h : Ended frames v r) {c : Char} (closer : c ∈ closers) : r.step c = stepAfter frames v c := by
  cases h with
  | after => rfl
  | @number p text complete =>
    obtain ⟨stuck, noDigit⟩ := phase_closes p closer
    simp only [Reader.step, stuck, complete, noDigit]
    rfl

theorem Ended.finish (h : Ended [] v r) : r.finish = some v := by
  cases h with
  | after => rfl
  | @number p text complete => simp only [Reader.finish, complete, if_true]

theorem run_completed (frames : List Frame) {p : NumberPhase} {cs : List Char} (h : p.Completed cs) (text : List Char) :
    ∃ q, run ⟨frames, .number p text⟩ cs = some ⟨frames, .number q (cs.reverse ++ text)⟩ ∧ q.complete = true := by
  induction h generalizing text with
  | @nil p complete => exact ⟨p, rfl, complete⟩
  | @cons p q c cs step _ ih =>
    obtain ⟨last, reached, complete⟩ := ih (c :: text)
    refine ⟨last, ?_, complete⟩
    have one : Reader.step ⟨frames, .number p text⟩ c = some ⟨frames, .number q (c :: text)⟩ := by
      simp only [Reader.step, step]
      rfl
    rw [run_cons, one, Option.bind_some, reached, List.reverse_cons, List.append_assoc]
    rfl

theorem noBlank_of_digit {c : Char} (digit : isDigit c = true) : isBlank c = false := by
  have other : ∀ d, isDigit d = false → c ≠ d := by
    rintro d none rfl
    rw [digit] at none
    cases none
  simp [isBlank, other ' ' rfl, other '\n' rfl, other '\t' rfl, other '\r' rfl]

/-- The first digit of a number begins a value. -/
theorem first_digit (frames : List Frame) {q : NumberPhase} {c : Char} (h : NumberPhase.minus.step c = some (q, [c])) :
    isDigit c = true ∧ stepValue frames .value c = some ⟨frames, .number q [c]⟩ := by
  simp only [NumberPhase.step] at h
  split at h
  · rename_i zero
    subst zero
    cases h
    exact ⟨rfl, rfl⟩
  rename_i nonzero
  split at h
  · rename_i digit
    cases h
    refine ⟨digit, ?_⟩
    unfold stepValue
    rw [noBlank_of_digit digit]
    split
    · contradiction
    · split <;> first | exact absurd digit (by decide) | exact absurd rfl nonzero | exact if_pos digit
  · cases h

theorem run_number (frames : List Frame) {cs : List Char} (h : IsNumber cs) :
    ∃ r, run ⟨frames, .value⟩ cs = some r ∧ Ended frames (.number (String.ofList cs)) r := by
  have start : ∀ (p : NumberPhase) (c : Char) (rest : List Char), p.Completed rest →
      Reader.step ⟨frames, .value⟩ c = some ⟨frames, .number p [c]⟩ →
      ∃ r, run ⟨frames, .value⟩ (c :: rest) = some r ∧ Ended frames (.number (String.ofList (c :: rest))) r := by
    intro p c rest completed first
    obtain ⟨q, reached, complete⟩ := run_completed frames completed [c]
    refine ⟨_, by rw [run_cons, first, Option.bind_some, reached], ?_⟩
    have read : numberOf (rest.reverse ++ [c]) = .number (String.ofList (c :: rest)) := by
      rw [numberOf, List.reverse_append, List.reverse_reverse]
      rfl
    rw [← read]
    exact .number complete
  cases h with
  | minus rest => exact start _ _ _ rest rfl
  | unsigned all =>
    cases all with
    | nil complete => cases complete
    | cons step rest => exact start _ _ _ rest (first_digit frames step).2

/-- Both modes of a reader inside of a string: they differ in what follows the closing quote. -/
def InString (frames : List Frame) (mode : StringScan → Mode) : Prop :=
  ∀ (scan : StringScan) (c : Char), ¬(c = '"' ∧ scan.phase = .plain) →
    Reader.step ⟨frames, mode scan⟩ c = (scan.step c).map fun scan => ⟨frames, mode scan⟩

theorem inString_string : InString frames .string := by
  intro scan c more
  exact if_neg more

theorem inString_nameString : InString frames .nameString := by
  intro scan c more
  exact if_neg more

variable {mode : StringScan → Mode}

/-- Characters that lead a scan on to another one without ending the string. -/
inductive Scans : StringScan → List Char → StringScan → Prop
  | nil (scan) : Scans scan [] scan
  | cons {scan next last c cs} (more : ¬(c = '"' ∧ scan.phase = .plain)) (step : scan.step c = some next)
      (rest : Scans next cs last) : Scans scan (c :: cs) last

theorem InString.run_scans (h : InString frames mode) {scan last : StringScan} {cs : List Char}
    (scans : Scans scan cs last) : run ⟨frames, mode scan⟩ cs = some ⟨frames, mode last⟩ := by
  induction scans with
  | nil => rfl
  | cons more step _ ih => rw [run_cons, h _ _ more, step, Option.map_some, Option.bind_some, ih]

theorem hexValue?_hexDigit {n : Nat} (h : n < 16) : StringScan.hexValue? (hexDigit n) = some n := by
  have all : ∀ n < 16, StringScan.hexValue? (hexDigit n) = some n := by decide
  exact all n h

theorem pushUnit_control (done : List Char) {c : Char} (control : c.toNat < 0x20) :
    StringScan.pushUnit { text := done } c.toNat = { text := c :: done } := by
  have noLow : ¬(0xDC00 ≤ c.toNat ∧ c.toNat ≤ 0xDFFF) := by omega
  have noHigh : ¬(0xD800 ≤ c.toNat ∧ c.toNat ≤ 0xDBFF) := by omega
  simp only [StringScan.pushUnit, noLow, noHigh, if_false, Char.ofNat_toNat]

/-- A character is read back from its escape. -/
theorem scans_escape (done : List Char) (c : Char) : Scans { text := done } (escape c) { text := c :: done } := by
  have short : ∀ (letter : Char) (c : Char), letter ≠ 'u' → StringScan.unescape? letter = some c →
      Scans { text := done } ['\\', letter] { text := c :: done } := by
    intro letter c noUnit known
    refine .cons (by simp) rfl (.cons (by simp) ?_ (.nil _))
    simp only [StringScan.step, if_neg noUnit, known]
    rfl
  unfold escape
  split
  · exact short '"' '"' (by decide) rfl
  · exact short '\\' '\\' (by decide) rfl
  · exact short 'b' '\x08' (by decide) rfl
  · exact short 'f' '\x0c' (by decide) rfl
  · exact short 'n' '\n' (by decide) rfl
  · exact short 'r' '\r' (by decide) rfl
  · exact short 't' '\t' (by decide) rfl
  · rename_i noQuote noBackslash _ _ _ _ _
    split
    · rename_i control
      have unit : 16 * (c.toNat / 16) + c.toNat % 16 = c.toNat := by omega
      have high : StringScan.step { text := done, phase := .hex 2 0 } (hexDigit (c.toNat / 16)) =
          some { text := done, phase := .hex 3 (c.toNat / 16) } := by
        simp only [StringScan.step, hexValue?_hexDigit (show c.toNat / 16 < 16 by omega)]
        simp
      have low : StringScan.step { text := done, phase := .hex 3 (c.toNat / 16) } (hexDigit (c.toNat % 16)) =
          some { text := c :: done } := by
        simp only [StringScan.step, hexValue?_hexDigit (show c.toNat % 16 < 16 by omega), Option.bind_eq_bind,
          Option.bind_some, if_true, unit]
        exact congrArg some (pushUnit_control done control)
      exact .cons (by simp) rfl (.cons (by simp) rfl (.cons (by simp) rfl (.cons (by simp) rfl
        (.cons (by simp) high (.cons (by simp) low (.nil _))))))
    · rename_i printed
      refine .cons (fun close => noQuote close.1) ?_ (.nil _)
      simp only [StringScan.step, if_neg printed]
      rw [if_neg noBackslash]
      rfl

theorem Scans.append {first next last : StringScan} {cs ds : List Char} (h : Scans first cs next)
    (rest : Scans next ds last) : Scans first (cs ++ ds) last := by
  induction h with
  | nil => exact rest
  | cons more step _ ih => exact .cons more step (ih rest)

theorem scans_escapes (done cs : List Char) :
    Scans { text := done } (cs.flatMap escape) { text := cs.reverse ++ done } := by
  induction cs generalizing done with
  | nil => exact .nil _
  | cons c cs ih =>
    rw [List.flatMap_cons, List.reverse_cons, List.append_assoc]
    exact (scans_escape done c).append (ih (c :: done))

/-- The scan of a text whose closing quote comes next. -/
def scanOf (text : String) : StringScan := { text := text.toList.reverse }

theorem result_scanOf (text : String) : (scanOf text).result = some text := by
  rw [StringScan.result, scanOf, List.reverse_reverse, String.ofList_toList]
  rfl

/-- A quoted text is read from the opening quote to the closing one. -/
theorem InString.run_quote (h : InString frames mode) {start closed : Reader}
    (opened : start.step '"' = some ⟨frames, mode {}⟩) {text : String}
    (close : Reader.step ⟨frames, mode (scanOf text)⟩ '"' = some closed) :
    start.run (quote text.toList) = some closed := by
  have scans : Scans {} (text.toList.flatMap escape) (scanOf text) := by
    rw [scanOf, ← List.append_nil text.toList.reverse]
    exact scans_escapes [] text.toList
  rw [quote, run_cons, opened, Option.bind_some, run_append, h.run_scans scans, Option.bind_some, run_cons, close]
  rfl

theorem run_string (text : String) :
    run ⟨frames, .value⟩ (quote text.toList) = some ⟨frames, .after (.string (some text))⟩ := by
  refine inString_string.run_quote rfl ?_
  rw [← result_scanOf text]
  rfl

theorem run_name (name : String) : run ⟨frames, .name⟩ (quote name.toList) = some ⟨frames, .colon (some name)⟩ := by
  refine inString_nameString.run_quote rfl ?_
  rw [← result_scanOf name]
  rfl

theorem renderItems_cons_cons (item next : Json) (items : List Json) :
    renderItems (item :: next :: items) = renderChars item ++ ',' :: renderItems (next :: items) := rfl

theorem renderMembers_cons_cons (m next : String × Json) (members : List (String × Json)) :
    renderMembers (m :: next :: members) =
      quote m.1.toList ++ ':' :: (renderChars m.2 ++ ',' :: renderMembers (next :: members)) := rfl

/-- A rendered document is read to its end, wherever it stands. -/
def Reads (j : Json) : Prop := ∀ frames, ∃ r, run ⟨frames, .value⟩ j.renderChars = some r ∧ Ended frames (ofJson j) r

theorem run_items (frames : List Frame) {item : Json} {items : List Json} (reads : ∀ j ∈ item :: items, Reads j)
    (done : List Source) :
    run ⟨.array done :: frames, .value⟩ (renderItems (item :: items) ++ [']']) =
      some ⟨frames, .after (.array (done.reverse ++ (item :: items).map ofJson))⟩ := by
  induction items generalizing item done with
  | nil =>
    obtain ⟨r, reached, ended⟩ := reads item List.mem_cons_self (.array done :: frames)
    rw [renderItems, run_append, reached, Option.bind_some, run_cons, ended.step (by decide), List.map_singleton,
      ← List.reverse_cons]
    rfl
  | cons next items ih =>
    obtain ⟨r, reached, ended⟩ := reads item List.mem_cons_self (.array done :: frames)
    have rest := @ih next (fun j member => reads j (List.mem_cons_of_mem item member)) (ofJson item :: done)
    rw [List.reverse_cons, List.append_assoc] at rest
    rw [renderItems_cons_cons, List.append_assoc, run_append, reached, Option.bind_some, List.cons_append, run_cons,
      ended.step (by decide)]
    exact rest

theorem run_members (frames : List Frame) {m : String × Json} {members : List (String × Json)}
    (reads : ∀ m' ∈ m :: members, Reads m'.2) (done : List (Option String × Source)) :
    run ⟨.object done :: frames, .name⟩ (renderMembers (m :: members) ++ ['\x7d']) =
      some ⟨frames, .after (.object (done.reverse ++ ofJsonMembers (m :: members)))⟩ := by
  induction members generalizing m done with
  | nil =>
    obtain ⟨r, reached, ended⟩ := reads m List.mem_cons_self (.member done (some m.1) :: frames)
    have colon : Reader.step ⟨.object done :: frames, .colon (some m.1)⟩ ':' =
        some ⟨.member done (some m.1) :: frames, .value⟩ := rfl
    rw [renderMembers, List.append_assoc, run_append, run_name, Option.bind_some, List.cons_append, run_cons, colon,
      Option.bind_some, run_append, reached, Option.bind_some, run_cons, ended.step (by decide)]
    show some _ = _
    rw [List.reverse_cons]
    rfl
  | cons next members ih =>
    obtain ⟨r, reached, ended⟩ := reads m List.mem_cons_self (.member done (some m.1) :: frames)
    have colon : Reader.step ⟨.object done :: frames, .colon (some m.1)⟩ ':' =
        some ⟨.member done (some m.1) :: frames, .value⟩ := rfl
    have rest := @ih next (fun m' member => reads m' (List.mem_cons_of_mem m member)) ((some m.1, ofJson m.2) :: done)
    rw [List.reverse_cons, List.append_assoc] at rest
    rw [renderMembers_cons_cons, List.append_assoc, run_append, run_name, Option.bind_some, List.cons_append,
      run_cons, colon, Option.bind_some, List.append_assoc, run_append, reached, Option.bind_some, List.cons_append,
        run_cons, ended.step (by decide)]
    exact rest

/-- No document begins with a blank or with the end of an array. -/
theorem head_renderChars {j : Json} (h : Literal j) :
    ∃ c cs, j.renderChars = c :: cs ∧ c ≠ ']' ∧ isBlank c = false := by
  cases h with
  | null => exact ⟨_, _, rfl, by decide, rfl⟩
  | bool b => cases b <;> exact ⟨_, _, rfl, by decide, rfl⟩
  | @number text number =>
    rw [renderChars]
    generalize text.toList = cs at number ⊢
    cases number with
    | minus => exact ⟨_, _, rfl, by decide, rfl⟩
    | unsigned all =>
      cases all with
      | nil complete => cases complete
      | cons step =>
        have digit := (first_digit [] step).1
        refine ⟨_, _, rfl, ?_, noBlank_of_digit digit⟩
        rintro rfl
        cases digit
  | string => exact ⟨_, _, rfl, by decide, rfl⟩
  | array => exact ⟨_, _, rfl, by decide, rfl⟩
  | object => exact ⟨_, _, rfl, by decide, rfl⟩

theorem head_renderItems {item : Json} (h : Literal item) (items : List Json) :
    ∃ c cs, renderItems (item :: items) = c :: cs ∧ c ≠ ']' ∧ isBlank c = false := by
  obtain ⟨c, cs, first, noEnd, noBlank⟩ := head_renderChars h
  cases items with
  | nil => exact ⟨c, cs, first, noEnd, noBlank⟩
  | cons next items =>
    rw [renderItems_cons_cons, first, List.cons_append]
    exact ⟨c, _, rfl, noEnd, noBlank⟩

theorem head_renderMembers (m : String × Json) (members : List (String × Json)) :
    ∃ cs, renderMembers (m :: members) = '"' :: cs := by
  cases members with
  | nil => exact ⟨_, rfl⟩
  | cons next members => exact ⟨_, rfl⟩

theorem step_firstItem {c : Char} (noEnd : c ≠ ']') (noBlank : isBlank c = false) :
    Reader.step ⟨frames, .firstItem⟩ c = Reader.step ⟨frames, .value⟩ c := by
  show (if c = ']' then _ else stepValue frames .firstItem c) = stepValue frames .value c
  unfold stepValue
  rw [if_neg noEnd, noBlank]
  rfl

theorem reads_of_literal {j : Json} (h : Literal j) : Reads j := by
  induction h with
  | null => exact fun frames => ⟨_, rfl, .after _⟩
  | bool b =>
    cases b with
    | true => exact fun frames => ⟨_, rfl, .after _⟩
    | false => exact fun frames => ⟨_, rfl, .after _⟩
  | @number text number =>
    intro frames
    have read := run_number frames number
    rwa [String.ofList_toList] at read
  | string text => exact fun frames => ⟨_, run_string text, .after _⟩
  | @array items inside ih =>
    intro frames
    refine ⟨⟨frames, .after (ofJson (.array items))⟩, ?_, .after _⟩
    cases items with
    | nil => rfl
    | cons item items =>
      have rest := run_items frames ih []
      rw [List.reverse_nil, List.nil_append, ← ofJsonItems_eq] at rest
      obtain ⟨c, cs, first, noEnd, noBlank⟩ := head_renderItems (inside item List.mem_cons_self) items
      rw [first, List.cons_append, run_cons] at rest
      have opened : Reader.step ⟨frames, .value⟩ '[' = some ⟨.array [] :: frames, .firstItem⟩ := rfl
      rw [renderChars, run_cons, opened, Option.bind_some, first, List.cons_append, run_cons,
        step_firstItem noEnd noBlank]
      exact rest
  | @object members inside ih =>
    intro frames
    refine ⟨⟨frames, .after (ofJson (.object members))⟩, ?_, .after _⟩
    cases members with
    | nil => rfl
    | cons m members =>
      have rest := run_members frames ih []
      obtain ⟨cs, first⟩ := head_renderMembers m members
      rw [first, List.cons_append, run_cons] at rest
      have opened : Reader.step ⟨frames, .value⟩ '\x7b' = some ⟨.object [] :: frames, .firstName⟩ := rfl
      rw [renderChars, run_cons, opened, Option.bind_some, first, List.cons_append, run_cons]
      exact rest

end Source.Reader

/-- Rendering loses nothing. -/
theorem read?_renderChars {j : Json} (h : Literal j) : Source.read? j.renderChars = some (Source.ofJson j) := by
  obtain ⟨r, reached, ended⟩ := Source.Reader.reads_of_literal h []
  rw [Source.read?, reached, Option.bind_some, ended.finish]

end RowStream.Json
