import RowStream.Proofs.SpelledDocuments

/-! # What is read is spelled

Whatever the reader has taken of a text spells the parts it has put together so far: each open container with its
parts, then the part that is being read. So a text that is read to its end spells a document, and no other text is. -/
namespace RowStream.Json.Source
open RowStream.Number RowStream.Number.Decimal

/-- A text of items to which more of them can be added. -/
def Leads (ws : List Written) (ds : List Char) : Prop :=
  ∀ more cs, more ≠ [] → Spells (.items more) cs → Spells (.items (ws ++ more)) (ds ++ cs)

/-- A text of members to which more of them can be added. -/
def LeadsMembers (ms : List (List StringUnit × Written)) (ds : List Char) : Prop :=
  ∀ more cs, more ≠ [] → Spells (.members more) cs → Spells (.members (ms ++ more)) (ds ++ cs)

variable {w : Written} {ws : List Written} {ms : List (List StringUnit × Written)} {us : List StringUnit}
  {cs ds name front back : List Char} {c : Char}

theorem leads_nil : Leads [] [] := fun _ _ _ rest => rest

theorem leadsMembers_nil : LeadsMembers [] [] := fun _ _ _ rest => rest

theorem Leads.snoc (h : Leads ws ds) (value : Spells (.value w) cs) : Leads (ws ++ [w]) (ds ++ (cs ++ [','])) := by
  intro more es filled rest
  have longer := h (w :: more) (cs ++ ',' :: es) (List.cons_ne_nil _ _) (.items value rest filled)
  simpa using longer

theorem LeadsMembers.snoc (h : LeadsMembers ms ds) (named : Named us name) (value : Spells (.value w) cs) :
    LeadsMembers (ms ++ [(us, w)]) (ds ++ (name ++ (cs ++ [',']))) := by
  intro more es filled rest
  have longer := h ((us, w) :: more) (name ++ (cs ++ ',' :: es)) (List.cons_ne_nil _ _)
      (.members named value rest filled)
  simpa using longer

theorem source_array_snoc {done : List Source} (same : Written.itemSources ws = done.reverse) :
    Written.source (.array (ws ++ [w])) = .array (w.source :: done).reverse := by
  rw [Written.source, Written.itemSources_eq, List.map_append, ← Written.itemSources_eq, same, List.reverse_cons]
  rfl

theorem source_object_snoc {done : List (Option String × Source)} (same : Written.memberSources ms = done.reverse) :
    Written.source (.object (ms ++ [(us, w)])) = .object ((StringUnit.text? us, w.source) :: done).reverse := by
  rw [Written.source, Written.memberSources_eq, List.map_append, ← Written.memberSources_eq, same, List.reverse_cons]
  rfl

theorem Spells.blanks (blank : AllBlank front) (value : Spells (.value w) cs) : Spells (.value w) (front ++ cs) := by
  induction front with
  | nil => exact value
  | cons c front ih =>
    exact .before (blank c List.mem_cons_self) (ih fun d member => blank d (List.mem_cons_of_mem c member))

theorem AllBlank.snoc (blank : AllBlank cs) (last : isBlank c = true) : AllBlank (cs ++ [c]) := by
  intro d member
  rcases List.mem_append.mp member with before | after
  · exact blank d before
  · rwa [List.mem_singleton.mp after]

theorem allBlank_nil : AllBlank [] := nofun

theorem scanned_nil : StringUnit.Scanned [] {} := .plain .nil

/-- Where a quote ends a string, whole units have been read. -/
theorem StringUnit.Scanned.units {raw : List Char} {scan : StringScan} (h : StringUnit.Scanned raw scan)
    (plain : scan.phase = .plain) : ∃ us, StringUnit.SpellsAll us raw ∧ scan.result = StringUnit.text? us := by
  cases h with
  | plain units => exact ⟨_, units, StringUnit.result_scanned _⟩
  | escape | hex => cases plain

/-- The containers that are open while a value is awaited, and the text up to where the value may begin. -/
inductive Opened : List Frame → List Char → Prop
  | nil : Opened [] []
  | array {frames pre front ws ds done} (outer : Opened frames pre) (blank : AllBlank front) (leads : Leads ws ds)
      (same : Written.itemSources ws = done.reverse) : Opened (.array done :: frames) (pre ++ (front ++ '[' :: ds))
  | member {frames pre front ms ds us name done} (outer : Opened frames pre) (blank : AllBlank front)
      (leads : LeadsMembers ms ds) (same : Written.memberSources ms = done.reverse) (named : Named us name) :
      Opened (.member done (StringUnit.text? us) :: frames) (pre ++ (front ++ '\x7b' :: (ds ++ name)))

inductive Reached : Reader → List Char → Prop
  | value {frames pre front} (outer : Opened frames pre) (blank : AllBlank front) :
      Reached ⟨frames, .value⟩ (pre ++ front)
  | firstItem {frames pre front back} (outer : Opened frames pre) (blank : AllBlank front) (inner : AllBlank back) :
      Reached ⟨.array [] :: frames, .firstItem⟩ (pre ++ (front ++ '[' :: back))
  | firstName {frames pre front back} (outer : Opened frames pre) (blank : AllBlank front) (inner : AllBlank back) :
      Reached ⟨.object [] :: frames, .firstName⟩ (pre ++ (front ++ '\x7b' :: back))
  | name {frames pre front ms ds done back} (outer : Opened frames pre) (blank : AllBlank front)
      (leads : LeadsMembers ms ds) (same : Written.memberSources ms = done.reverse) (inner : AllBlank back) :
      Reached ⟨.object done :: frames, .name⟩ (pre ++ (front ++ '\x7b' :: (ds ++ back)))
  | nameString {frames pre front ms ds done back raw scan} (outer : Opened frames pre) (blank : AllBlank front)
      (leads : LeadsMembers ms ds) (same : Written.memberSources ms = done.reverse) (inner : AllBlank back)
      (scanned : StringUnit.Scanned raw scan) :
      Reached ⟨.object done :: frames, .nameString scan⟩ (pre ++ (front ++ '\x7b' :: (ds ++ (back ++ '"' :: raw))))
  | colon {frames pre front ms ds done back raw us after} (outer : Opened frames pre) (blank : AllBlank front)
      (leads : LeadsMembers ms ds) (same : Written.memberSources ms = done.reverse) (inner : AllBlank back)
      (units : StringUnit.SpellsAll us raw) (blankAfter : AllBlank after) :
      Reached ⟨.object done :: frames, .colon (StringUnit.text? us)⟩
        (pre ++ (front ++ '\x7b' :: (ds ++ (back ++ (quoted raw ++ after)))))
  | after {frames pre w cs} (outer : Opened frames pre) (value : Spells (.value w) cs) :
      Reached ⟨frames, .after w.source⟩ (pre ++ cs)
  | word {frames pre front w done rest} (outer : Opened frames pre) (blank : AllBlank front)
      (whole : Spells (.value w) (done ++ rest)) : Reached ⟨frames, .word rest w.source⟩ (pre ++ (front ++ done))
  | number {frames pre front p raw kept} (outer : Opened frames pre) (blank : AllBlank front)
      (begun : NumberPhase.Partial p raw kept) : Reached ⟨frames, .number p kept.reverse⟩ (pre ++ (front ++ raw))
  | string {frames pre front raw scan} (outer : Opened frames pre) (blank : AllBlank front)
      (scanned : StringUnit.Scanned raw scan) : Reached ⟨frames, .string scan⟩ (pre ++ (front ++ '"' :: raw))

variable {frames : List Frame} {pre : List Char} {r r' : Reader}

/-- The first character of a value that is no blank. -/
theorem Reached.of_stepValue {waiting : Mode} (outer : Opened frames pre) (blank : AllBlank front)
    (noBlank : isBlank c = false) (step : Reader.stepValue frames waiting c = some r) :
    Reached r (pre ++ (front ++ [c])) := by
  simp only [Reader.stepValue, noBlank, Bool.false_eq_true, if_false] at step
  split at step
  · cases step
    exact .string outer blank scanned_nil
  · cases step
    exact .firstItem outer blank allBlank_nil
  · cases step
    exact .firstName outer blank allBlank_nil
  · cases step
    exact @Reached.word frames pre front (.bool true) ['t'] _ outer blank .true
  · cases step
    exact @Reached.word frames pre front (.bool false) ['f'] _ outer blank .false
  · cases step
    exact @Reached.word frames pre front .null ['n'] _ outer blank .null
  · cases step
    exact .number outer blank .minus
  · cases step
    exact .number outer blank (@NumberPhase.Partial.zero .bare nofun)
  · rename_i noZero
    split at step
    · rename_i digit
      cases step
      exact .number outer blank (@NumberPhase.Partial.whole .bare c [] nofun noZero
        (NumberPhase.allDigits_singleton digit))
    · cases step

/-- A character after a value: a blank, or what goes on with the container or closes it. -/
theorem Reached.of_stepAfter (outer : Opened frames pre) (value : Spells (.value w) cs)
    (step : Reader.stepAfter frames w.source c = some r) : Reached r (pre ++ cs ++ [c]) := by
  rw [Reader.stepAfter.eq_def] at step
  split at step
  · rename_i blank
    cases step
    rw [List.append_assoc]
    exact .after outer (.after value blank)
  split at step
  · cases step
    cases outer with
    | array outer blank leads same =>
      have longer := Opened.array outer blank (leads.snoc value) (Source.array.inj (source_array_snoc same))
      simpa using Reached.value longer allBlank_nil
  · cases step
    cases outer with
    | array outer blank leads same =>
      have whole := Spells.array (leads [w] cs (List.cons_ne_nil _ _) (.item value))
      rw [← source_array_snoc same]
      simpa using Reached.after outer (whole.blanks blank)
  · cases step
    cases outer with
    | member outer blank leads same named =>
      have longer :=
        Reached.name outer blank (leads.snoc named value) (Source.object.inj (source_object_snoc same)) allBlank_nil
      simpa using longer
  · cases step
    cases outer with
    | member outer blank leads same named =>
      have whole := Spells.object (leads _ _ (List.cons_ne_nil _ _) (.member named value))
      rw [← source_object_snoc same]
      simpa using Reached.after outer (whole.blanks blank)
  · cases step

/-- One more character is taken as the grammar has it. -/
theorem Reached.step (h : Reached r cs) (step : r.step c = some r') : Reached r' (cs ++ [c]) := by
  cases h with
  | @value frames pre front outer blank =>
    by_cases isBlank : isBlank c = true
    · rw [Reader.step_value_blank isBlank] at step
      cases step
      rw [List.append_assoc]
      exact .value outer (blank.snoc isBlank)
    · rw [List.append_assoc]
      exact .of_stepValue outer blank (by simpa using isBlank) step
  | @firstItem frames pre front back outer blank inner =>
    simp only [Reader.step] at step
    split at step
    · rename_i close
      cases step
      have whole := (Spells.array (.noItems inner)).blanks blank
      have found : Written.source (.array []) = .array [] := rfl
      rw [close, ← found]
      simpa using Reached.after outer whole
    · by_cases isBlank : isBlank c = true
      · have dropped : Reader.stepValue (.array [] :: frames) .firstItem c = some ⟨.array [] :: frames, .firstItem⟩ :=
          if_pos isBlank
        rw [dropped] at step
        cases step
        simpa using Reached.firstItem outer blank (inner.snoc isBlank)
      · have opened : Opened (.array [] :: frames) (pre ++ (front ++ ['['])) := .array outer blank leads_nil rfl
        simpa using Reached.of_stepValue opened inner (by simpa using isBlank) step
  | @firstName frames pre front back outer blank inner =>
    simp only [Reader.step] at step
    split at step
    · rename_i isBlank
      cases step
      simpa using Reached.firstName outer blank (inner.snoc isBlank)
    · split at step
      · rename_i close
        cases step
        have whole := (Spells.object (.noMembers inner)).blanks blank
        have found : Written.source (.object []) = .object [] := rfl
        rw [close, ← found]
        simpa using Reached.after outer whole
      · split at step
        · rename_i quote
          cases step
          rw [quote]
          simpa using Reached.nameString outer blank leadsMembers_nil rfl inner scanned_nil
        · cases step
  | @name frames pre front ms ds done back outer blank leads same inner =>
    simp only [Reader.step] at step
    split at step
    · rename_i isBlank
      cases step
      simpa using Reached.name outer blank leads same (inner.snoc isBlank)
    · split at step
      · rename_i quote
        cases step
        rw [quote]
        simpa using Reached.nameString outer blank leads same inner scanned_nil
      · cases step
  | @nameString frames pre front ms ds done back raw scan outer blank leads same inner scanned =>
    simp only [Reader.step] at step
    split at step
    · rename_i close
      cases step
      obtain ⟨us, units, result⟩ := scanned.units close.2
      rw [close.1, result]
      simpa [quoted] using Reached.colon outer blank leads same inner units allBlank_nil
    · rename_i more
      obtain ⟨next, scanStep, rfl⟩ := Option.map_eq_some_iff.mp step
      simpa using Reached.nameString outer blank leads same inner (scanned.step more scanStep)
  | @colon frames pre front ms ds done back raw us after outer blank leads same inner units blankAfter =>
    simp only [Reader.step] at step
    split at step
    · rename_i isBlank
      cases step
      simpa using Reached.colon outer blank leads same inner units (blankAfter.snoc isBlank)
    · split at step
      · rename_i found _
        cases found
        cases step
        have opened := Opened.member outer blank leads same (.intro units inner blankAfter)
        simpa using Reached.value opened allBlank_nil
      · cases step
  | @after frames pre w cs outer value => exact .of_stepAfter outer value step
  | @word frames pre front w done rest outer blank whole =>
    cases rest with
    | nil => cases step
    | cons d rest =>
      simp only [Reader.step] at step
      split at step
      · rename_i same
        cases step
        rw [same]
        cases rest with
        | nil => simpa using Reached.after outer (whole.blanks blank)
        | cons e rest =>
          have longer : Spells (.value w) ((done ++ [d]) ++ e :: rest) := by simpa using whole
          simpa using Reached.word outer blank longer
      · cases step
  | @number frames pre front p raw kept outer blank begun =>
    simp only [Reader.step] at step
    split at step
    · rename_i q added phaseStep
      cases step
      simpa using Reached.number outer blank (begun.step phaseStep)
    · split at step
      · rename_i ended
        obtain ⟨n, numeral, rfl, rfl⟩ := begun.numeral (Bool.and_eq_true_iff.mp ended).1
        have read : Reader.numberOf n.kept.text.reverse = Written.source (.number ⟨n, numeral⟩) := by
          rw [Reader.numberOf, List.reverse_reverse]
          rfl
        rw [read] at step
        exact .of_stepAfter outer ((Spells.number ⟨n, numeral⟩).blanks blank) step
      · cases step
  | @string frames pre front raw scan outer blank scanned =>
    simp only [Reader.step] at step
    split at step
    · rename_i close
      cases step
      obtain ⟨us, units, result⟩ := scanned.units close.2
      have found : Source.string scan.result = Written.source (.string us) := by rw [result]; rfl
      rw [close.1, found]
      simpa [quoted] using Reached.after outer ((Spells.string units).blanks blank)
    · rename_i more
      obtain ⟨next, scanStep, rfl⟩ := Option.map_eq_some_iff.mp step
      simpa using Reached.string outer blank (scanned.step more scanStep)

theorem Reached.run (h : Reached r ds) (run : r.run cs = some r') : Reached r' (ds ++ cs) := by
  induction cs generalizing r ds with
  | nil =>
    cases run
    rwa [List.append_nil]
  | cons c cs ih =>
    rw [Reader.run_cons] at run
    obtain ⟨next, step, rest⟩ := Option.bind_eq_some_iff.mp run
    rw [List.append_cons]
    exact ih (h.step step) rest

/-- The document, once no container is open and the value is at its end. -/
theorem Reached.finish {s : Source} (h : Reached r cs) (finish : r.finish = some s) :
    ∃ w, Spells (.value w) cs ∧ w.source = s := by
  cases h with
  | value | firstItem | firstName | name | nameString | colon | word | string => simp [Reader.finish] at finish
  | @after frames pre w cs outer value =>
    cases outer with
    | nil => exact ⟨w, value, Option.some.inj finish⟩
    | array | member => cases finish
  | @number frames pre front p raw kept outer blank begun =>
    cases outer with
    | nil =>
      simp only [Reader.finish] at finish
      split at finish
      · rename_i complete
        obtain ⟨n, numeral, rfl, rfl⟩ := begun.numeral complete
        have whole := (Spells.number ⟨n, numeral⟩).blanks blank
        refine ⟨.number ⟨n, numeral⟩, whole, ?_⟩
        rw [← Option.some.inj finish, Reader.numberOf, List.reverse_reverse]
        rfl
      · cases finish
    | array | member => cases finish

/-- A text is read exactly if it spells a document, and then what is read is what the document says. -/
theorem read?_eq_some_iff {s : Source} : read? cs = some s ↔ ∃ w, Spells (.value w) cs ∧ w.source = s := by
  constructor
  · intro read
    obtain ⟨r, run, finish⟩ := Option.bind_eq_some_iff.mp read
    have start : Reached {} [] := .value .nil allBlank_nil
    exact (start.run run).finish finish
  · rintro ⟨w, spelled, rfl⟩
    exact read?_of_spells spelled

end RowStream.Json.Source
