import RowStream.Proofs.WrittenDocuments

/-! # Spelled documents are read

The reader takes every text that spells a document, wherever it stands, and finds what the document says. -/
namespace RowStream.Json.Source
open RowStream.Number RowStream.Number.Decimal

namespace Reader
variable {frames : List Frame} {v : Source} {r : Reader} {cs ds : List Char}

theorem phase_blank (p : NumberPhase) {c : Char} (blank : isBlank c = true) : p.step c = none ∧ isDigit c = false := by
  simp only [isBlank, Bool.or_eq_true, beq_iff_eq] at blank
  rcases blank with ((rfl | rfl) | rfl) | rfl <;> cases p <;> exact ⟨by decide, by decide⟩

/-- A blank after a value is dropped. -/
theorem Ended.step_blank (h : Ended frames v r) {c : Char} (blank : isBlank c = true) :
    r.step c = some ⟨frames, .after v⟩ := by
  have dropped : stepAfter frames v c = some ⟨frames, .after v⟩ := if_pos blank
  cases h with
  | after => exact dropped
  | @number p text complete =>
    obtain ⟨stuck, noDigit⟩ := phase_blank p blank
    simp only [Reader.step, stuck, complete, noDigit]
    exact dropped

theorem step_value_blank {c : Char} (blank : isBlank c = true) :
    Reader.step ⟨frames, .value⟩ c = some ⟨frames, .value⟩ :=
  if_pos blank

/-- Blanks change nothing in a mode that drops them. -/
theorem run_blanks (kept : ∀ c, isBlank c = true → r.step c = some r) (blank : AllBlank cs) : r.run cs = some r := by
  induction cs with
  | nil => rfl
  | cons c cs ih =>
    rw [run_cons, kept c (blank c List.mem_cons_self), Option.bind_some]
    exact ih fun d member => blank d (List.mem_cons_of_mem c member)

theorem run_blanks_append (kept : ∀ c, isBlank c = true → r.step c = some r) (blank : AllBlank cs) (ds : List Char) :
    r.run (cs ++ ds) = r.run ds := by
  rw [run_append, run_blanks kept blank, Option.bind_some]

theorem run_leads (frames : List Frame) {p q : NumberPhase} {kept : List Char} (h : p.Leads cs q kept)
    (text : List Char) :
    run ⟨frames, .number p text⟩ cs = some ⟨frames, .number q (kept.reverse ++ text)⟩ := by
  induction h generalizing text with
  | nil => rfl
  | @cons p q last c cs added kept step _ ih =>
    have one : Reader.step ⟨frames, .number p text⟩ c = some ⟨frames, .number q (added.reverse ++ text)⟩ := by
      simp only [Reader.step, step]
    rw [run_cons, one, Option.bind_some, ih, List.reverse_append, List.append_assoc]

/-- The first digit of a number is kept as it is. -/
theorem added_minus {p : NumberPhase} {c : Char} {added : List Char}
    (step : NumberPhase.minus.step c = some (p, added)) :
    added = [c] := by
  simp only [NumberPhase.step] at step
  split at step
  · cases step
    rfl
  · split at step
    · cases step
      rfl
    · cases step

theorem run_numeral (frames : List Frame) {n : Numeral} (h : IsNumeral n) :
    ∃ r, run ⟨frames, .value⟩ n.text = some r ∧ Ended frames (.number (String.ofList n.kept.text)) r := by
  have ended : ∀ {q : NumberPhase}, q.complete = true →
      Ended frames (.number (String.ofList n.kept.text)) ⟨frames, .number q n.kept.text.reverse⟩ := by
    intro q complete
    have read : numberOf n.kept.text.reverse = .number (String.ofList n.kept.text) := by
      rw [numberOf, List.reverse_reverse]
    rw [← read]
    exact .number complete
  obtain ⟨q, leads, complete⟩ := NumberPhase.leads_numeral h
  refine ⟨_, ?_, ended complete⟩
  have written : n.text = n.sign.text ++ (n.mantissa ++ n.exponent.elim [] Exponent.text) := rfl
  have kept : n.kept.text = n.sign.text ++ (n.mantissa ++ n.kept.exponent.elim [] Exponent.text) := rfl
  rw [written, kept]
  generalize n.mantissa ++ n.exponent.elim [] Exponent.text = body at leads
  generalize n.mantissa ++ n.kept.exponent.elim [] Exponent.text = keptBody at leads
  cases sign : n.sign with
  | plus => exact absurd sign h.sign
  | minus =>
    have first : Reader.step ⟨frames, .value⟩ '-' = some ⟨frames, .number .minus ['-']⟩ := rfl
    rw [Sign.text, List.singleton_append, List.singleton_append, run_cons, first, Option.bind_some, run_leads _ leads,
      List.reverse_cons]
  | bare =>
    rw [Sign.text, List.nil_append, List.nil_append]
    cases leads with
    | nil => cases complete
    | @cons _ p _ c cs added kept step rest =>
      obtain rfl := added_minus step
      have first : Reader.step ⟨frames, .value⟩ c = some ⟨frames, .number p [c]⟩ := (first_digit frames step).2
      rw [run_cons, first, Option.bind_some, run_leads _ rest, List.reverse_append]
      rfl

/-- A string is read from its opening quote to its closing one. -/
theorem InString.run_quoted {mode : StringScan → Mode} (h : InString frames mode) {us : List StringUnit}
    (units : StringUnit.SpellsAll us cs) {start closed : Reader} (opened : start.step '"' = some ⟨frames, mode {}⟩)
    (close : Reader.step ⟨frames, mode (StringUnit.scanned us)⟩ '"' = some closed) :
    start.run (quoted cs) = some closed := by
  rw [quoted, run_cons, opened, Option.bind_some, run_append, h.run_scans (StringUnit.scans_spellsAll units),
    Option.bind_some, run_cons, close]
  rfl

theorem run_named {us : List StringUnit} {done : List (Option String × Source)} (h : Named us cs) :
    run ⟨.object done :: frames, .name⟩ cs = some ⟨.member done (StringUnit.text? us) :: frames, .value⟩ := by
  cases h with
  | @intro cs front back units blankBefore blankAfter =>
    have drops : ∀ c, isBlank c = true → Reader.step ⟨.object done :: frames, .name⟩ c =
        some ⟨.object done :: frames, .name⟩ := fun c blank => if_pos blank
    have dropsAfter : ∀ name c, isBlank c = true → Reader.step ⟨.object done :: frames, .colon name⟩ c =
        some ⟨.object done :: frames, .colon name⟩ := fun name c blank => if_pos blank
    have closed : Reader.step ⟨.object done :: frames, .nameString (StringUnit.scanned us)⟩ '"' =
        some ⟨.object done :: frames, .colon (StringUnit.text? us)⟩ := by
      rw [← StringUnit.result_scanned]
      exact if_pos ⟨rfl, StringUnit.phase_scanned us⟩
    rw [run_blanks_append drops blankBefore, run_append,
      inString_nameString.run_quoted units rfl closed, Option.bind_some, run_blanks_append (dropsAfter _) blankAfter]
    rfl

def ReadsAs (cs : List Char) : Part → Prop
  | .value w => ∀ frames, ∃ r, run ⟨frames, .value⟩ cs = some r ∧ Ended frames w.source r
  | .items ws => ws ≠ [] → ∀ frames done, run ⟨.array done :: frames, .value⟩ (cs ++ [']']) =
      some ⟨frames, .after (.array (done.reverse ++ Written.itemSources ws))⟩
  | .members ms => ms ≠ [] → ∀ frames done, run ⟨.object done :: frames, .name⟩ (cs ++ ['\x7d']) =
      some ⟨frames, .after (.object (done.reverse ++ Written.memberSources ms))⟩

/-- A text that goes on after blanks with a character that neither is one nor ends an array. -/
def Begins (cs : List Char) : Prop :=
  ∃ front c rest, cs = front ++ c :: rest ∧ AllBlank front ∧ isBlank c = false ∧ c ≠ ']'

theorem begins_append (h : Begins cs) (ds : List Char) : Begins (cs ++ ds) := by
  obtain ⟨front, c, rest, rfl, blank, noBlank, noEnd⟩ := h
  exact ⟨front, c, rest ++ ds, by simp, blank, noBlank, noEnd⟩

theorem begins_cons {c : Char} (noBlank : isBlank c = false) (noEnd : c ≠ ']') (cs : List Char) : Begins (c :: cs) :=
  ⟨[], c, cs, rfl, nofun, noBlank, noEnd⟩

theorem begins_numeral {n : Numeral} (h : IsNumeral n) : Begins n.text := by
  obtain ⟨d, rest, split⟩ := List.exists_cons_of_ne_nil h.whole.filled
  have digit : isDigit d = true := allDigits_iff.mp h.whole.digits d (split ▸ List.mem_cons_self)
  have noEnd : d ≠ ']' := by
    rintro rfl
    cases digit
  rw [Numeral.text, Numeral.mantissa, split]
  cases sign : n.sign with
  | plus => exact absurd sign h.sign
  | minus => exact begins_cons rfl (by decide) _
  | bare => exact begins_cons (noBlank_of_digit digit) noEnd _

def HasValue : Part → Prop
  | .value _ => True
  | .items ws => ws ≠ []
  | .members _ => False

theorem begins_of_spells {part : Part} (h : Spells part cs) (hasValue : HasValue part) : Begins cs := by
  induction h with
  | null | true | false | string | array | object => exact begins_cons rfl (by decide) _
  | number n => exact begins_numeral n.form
  | @before w c cs blank _ ih =>
    obtain ⟨front, d, rest, rfl, blanks, noBlank, noEnd⟩ := ih trivial
    exact ⟨c :: front, d, rest, rfl, List.forall_mem_cons.mpr ⟨blank, blanks⟩, noBlank, noEnd⟩
  | after _ _ ih => exact begins_append (ih trivial) _
  | noItems => exact absurd rfl hasValue
  | item _ ih => exact ih trivial
  | items _ _ _ first => exact begins_append (first trivial) _
  | noMembers | member | members => cases hasValue

/-- At the first item of an array a value is read as anywhere. -/
theorem run_firstItem (h : Begins cs) : run ⟨frames, .firstItem⟩ cs = run ⟨frames, .value⟩ cs := by
  obtain ⟨front, c, rest, rfl, blank, noBlank, noEnd⟩ := h
  have drops : ∀ c, isBlank c = true → Reader.step ⟨frames, .firstItem⟩ c = some ⟨frames, .firstItem⟩ := by
    intro c blank
    have noEnd : c ≠ ']' := by
      rintro rfl
      cases blank
    exact (if_neg noEnd).trans (if_pos blank)
  rw [run_blanks_append drops blank, run_blanks_append (fun c blank => step_value_blank blank) blank, run_cons,
    run_cons, step_firstItem noEnd noBlank]

theorem run_firstName {us : List StringUnit} {name : List Char} (h : Named us name) (ds : List Char) :
    run ⟨frames, .firstName⟩ (name ++ ds) = run ⟨frames, .name⟩ (name ++ ds) := by
  cases h with
  | @intro cs front back units blankBefore blankAfter =>
    have drops : ∀ c, isBlank c = true → Reader.step ⟨frames, .firstName⟩ c = some ⟨frames, .firstName⟩ :=
      fun c blank => if_pos blank
    have dropsName : ∀ c, isBlank c = true → Reader.step ⟨frames, .name⟩ c = some ⟨frames, .name⟩ :=
      fun c blank => if_pos blank
    rw [List.append_assoc, run_blanks_append drops blankBefore, run_blanks_append dropsName blankBefore]
    rfl

theorem readsAs_of_spells {part : Part} (h : Spells part cs) : ReadsAs cs part := by
  induction h with
  | null | true | false => exact fun frames => ⟨_, rfl, .after _⟩
  | number n => exact fun frames => run_numeral frames n.form
  | @string us cs units =>
    intro frames
    have closed : Reader.step ⟨frames, .string (StringUnit.scanned us)⟩ '"' =
        some ⟨frames, .after (.string (StringUnit.text? us))⟩ := by
      rw [← StringUnit.result_scanned]
      exact if_pos ⟨rfl, StringUnit.phase_scanned us⟩
    exact ⟨_, inString_string.run_quoted units rfl closed, .after _⟩
  | @array ws cs inside ih =>
    intro frames
    refine ⟨⟨frames, .after (.array (Written.itemSources ws))⟩, ?_, .after _⟩
    have opened : Reader.step ⟨frames, .value⟩ '[' = some ⟨.array [] :: frames, .firstItem⟩ := rfl
    rw [run_cons, opened, Option.bind_some]
    cases ws with
    | nil =>
      cases inside with
      | noItems blank =>
        have drops : ∀ c, isBlank c = Bool.true → Reader.step ⟨.array [] :: frames, .firstItem⟩ c =
            some ⟨.array [] :: frames, .firstItem⟩ := by
          intro c blank
          have noEnd : c ≠ ']' := by
            rintro rfl
            cases blank
          exact (if_neg noEnd).trans (if_pos blank)
        rw [run_blanks_append drops blank]
        rfl
    | cons w ws =>
      rw [run_firstItem (begins_append (begins_of_spells inside (List.cons_ne_nil w ws)) _)]
      exact ih (List.cons_ne_nil _ _) frames []
  | @object ms cs inside ih =>
    intro frames
    refine ⟨⟨frames, .after (.object (Written.memberSources ms))⟩, ?_, .after _⟩
    have opened : Reader.step ⟨frames, .value⟩ '\x7b' = some ⟨.object [] :: frames, .firstName⟩ := rfl
    rw [run_cons, opened, Option.bind_some]
    cases inside with
    | noMembers blank =>
      have drops : ∀ c, isBlank c = Bool.true → Reader.step ⟨.object [] :: frames, .firstName⟩ c =
          some ⟨.object [] :: frames, .firstName⟩ := fun c blank => if_pos blank
      rw [run_blanks_append drops blank]
      rfl
    | member named value =>
      rw [List.append_assoc, run_firstName named, ← List.append_assoc]
      exact ih (List.cons_ne_nil _ _) frames []
    | members named first rest filled =>
      rw [List.append_assoc, run_firstName named, ← List.append_assoc]
      exact ih (List.cons_ne_nil _ _) frames []
  | before blank _ ih =>
    intro frames
    obtain ⟨r, reached, ended⟩ := ih frames
    exact ⟨r, by rw [run_cons, step_value_blank blank, Option.bind_some, reached], ended⟩
  | after _ blank ih =>
    intro frames
    obtain ⟨r, reached, ended⟩ := ih frames
    refine ⟨_, ?_, .after _⟩
    rw [run_append, reached, Option.bind_some, run_cons, ended.step_blank blank]
    rfl
  | noItems | noMembers => exact fun none => absurd rfl none
  | @item w cs _ ih =>
    intro _ frames done
    obtain ⟨r, reached, ended⟩ := ih (.array done :: frames)
    have single : done.reverse ++ Written.itemSources [w] = (w.source :: done).reverse := List.reverse_cons.symm
    rw [run_append, reached, Option.bind_some, run_cons, ended.step (by decide), single]
    rfl
  | @items w cs ws ds _ _ filled first rest =>
    intro _ frames done
    obtain ⟨r, reached, ended⟩ := first (.array done :: frames)
    have later := rest filled frames (w.source :: done)
    rw [List.reverse_cons, List.append_assoc] at later
    rw [List.append_assoc, run_append, reached, Option.bind_some, List.cons_append, run_cons, ended.step (by decide)]
    exact later
  | @member us name w cs named _ ih =>
    intro _ frames done
    obtain ⟨r, reached, ended⟩ := ih (.member done (StringUnit.text? us) :: frames)
    have single : done.reverse ++ Written.memberSources [(us, w)] = ((StringUnit.text? us, w.source) :: done).reverse :=
      List.reverse_cons.symm
    rw [List.append_assoc, run_append, run_named named, Option.bind_some, run_append, reached, Option.bind_some,
      run_cons, ended.step (by decide), single]
    rfl
  | @members us name w cs ms ds named _ _ filled first rest =>
    intro _ frames done
    obtain ⟨r, reached, ended⟩ := first (.member done (StringUnit.text? us) :: frames)
    have later := rest filled frames ((StringUnit.text? us, w.source) :: done)
    rw [List.reverse_cons, List.append_assoc] at later
    rw [List.append_assoc, run_append, run_named named, Option.bind_some, List.append_assoc, run_append, reached,
      Option.bind_some, List.cons_append, run_cons, ended.step (by decide)]
    exact later

end Reader

theorem read?_of_spells {w : Written} {cs : List Char} (h : Spells (.value w) cs) : read? cs = some w.source := by
  obtain ⟨r, reached, ended⟩ := Reader.readsAs_of_spells h []
  rw [read?, reached, Option.bind_some, ended.finish]

end RowStream.Json.Source
