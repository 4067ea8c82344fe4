import RowStream.Response
import RowStream.Proofs.Lexemes

/-! # Settings that are not set

A blank setting counts as none, so a kind of timestamp takes the common format in its place. A setting without a
value is read as null, and null is taken for the text that it is written as. -/
namespace RowStream
open RowStream.Text (sameIgnoringCase trimmed)
open RowStream.Json (Source Record)

theorem Text.sameIgnoringCase_of_same {a b c : String} (first : sameIgnoringCase a b = true)
    (second : sameIgnoringCase c b = true) : sameIgnoringCase a c = true := by
  rw [sameIgnoringCase, beq_iff_eq] at *
  exact first.trans second.symm

namespace SessionFormat

/-- A format whose fractional seconds follow a point and whose quotes are closed becomes the pattern of its lexemes. -/
theorem pattern_of_lexed {format : String} {ls : List Lexeme} (lexed : Lexed format.toList ls) (placed : ¬Misplaced ls)
    (closed : ¬Unclosed ls) : pattern format = .ok ((absorbed (emitted ls)).flatMap Piece.spelling) := by
  have outcome : Outcome [] ls (pieces format.toList) := outcome_cut lexed []
  rw [pattern]
  generalize pieces format.toList = r at outcome
  cases outcome with
  | misplaced misplaced => exact absurd misplaced placed
  | unclosed _ unclosed => exact absurd unclosed closed
  | ok => rfl

/-- The text `null` is a format without fields. -/
theorem pattern_null : pattern "null" = .ok "null".toList := by
  have lexed : Lexed "null".toList ("null".toList.map .other) := by
    refine .step (next_iff.mp rfl) ?_
    refine .step (next_iff.mp rfl) ?_
    refine .step (next_iff.mp rfl) ?_
    exact .step (next_iff.mp rfl) .done
  refine pattern_of_lexed lexed ?_ ?_
  · simp [Misplaced, misplacedAfter_cons, misplacedAfter_nil]
  · simp [Unclosed]

end SessionFormat

namespace Json.Record

variable {names : List String} {members : List (Option String × Source)} {fields : List (String × Source)} {n : String}

theorem mem_of_knownMembers? (read : knownMembers? names members = some fields) {f : String × Source}
    (member : f ∈ fields) : (some f.1, f.2) ∈ members := by
  induction members generalizing fields with
  | nil =>
    cases read
    cases member
  | cons m ms ih =>
    obtain ⟨name, value⟩ := m
    rw [knownMembers?] at read
    obtain ⟨name, rfl, named⟩ := Option.bind_eq_some_iff.mp read
    obtain ⟨known, earlier, taken⟩ := Option.bind_eq_some_iff.mp named
    split at taken
    · cases taken
      exact List.mem_cons_of_mem _ (ih earlier member)
    · split at taken
      · cases taken
      · cases taken
        rcases List.mem_cons.mp member with rfl | member
        · exact List.mem_cons_self
        · exact List.mem_cons_of_mem _ (ih earlier member)

/-- A known member at the end, whose name has not come before, is one more field. -/
theorem knownMembers?_concat (known : n ∈ names) (absent : ∀ m ∈ members, m.1 ≠ some n) (value : Source) :
    knownMembers? names (members ++ [(some n, value)]) =
      (knownMembers? names members).map (· ++ [(n, value)]) := by
  induction members with
  | nil => simp [knownMembers?, known]
  | cons m ms ih =>
    obtain ⟨here, later⟩ := List.forall_mem_cons.mp absent
    obtain ⟨name, source⟩ := m
    rw [List.cons_append, knownMembers?, knownMembers?, ih later]
    cases name with
    | none => rfl
    | some name =>
      cases knownMembers? names ms with
      | none => rfl
      | some fields =>
        have other : n ≠ name := fun same => here (congrArg some same.symm)
        by_cases listed : name ∈ names
        · by_cases twice : fields.any (·.1 == name) <;> simp_all
        · simp [listed]

end Json.Record

namespace SessionParameter

def isBlank (p : SessionParameter) : Bool := (trimmed p.valueText).isEmpty

def isNull (p : SessionParameter) : Bool :=
  match p.value with
  | .null => true
  | _ => false

def isSet (p : SessionParameter) : Bool := !p.isBlank && !p.isNull

theorem valueText_of_isNull {p : SessionParameter} (null : p.isNull = true) : p.valueText = "null" := by
  obtain ⟨name, value⟩ := p
  cases value with
  | null => rfl
  | _ => cases null

/-- A setting without a value, and the same one with null for it. -/
inductive WithNull : Source → Source → Prop
  | object {members : List (Option String × Source)} (absent : ∀ m ∈ members, m.1 ≠ some "value") :
      WithNull (.object members) (.object (members ++ [(some "value", .null)]))
  | array {name : Source} : WithNull (.array [name]) (.array [name, .null])

theorem readParameter_withNull {s t : Source} (filled : WithNull s t) (depth : Nat) :
    Response.readParameter depth s = Response.readParameter depth t := by
  cases depth with
  | zero => cases filled <;> rfl
  | succ depth =>
    cases filled with
    | array => rfl
    | @object members absent =>
      have read : Record.knownMembers? ["name", "value"] (members ++ [(some "value", .null)]) = _ :=
        Record.knownMembers?_concat (by decide) absent .null
      rw [Response.readParameter, Response.readParameter, Record.read?, Record.read?, read]
      cases known : Record.knownMembers? ["name", "value"] members with
      | none => rfl
      | some fields =>
        have missing : fields.find? (·.1 == "value") = none := by
          rw [List.find?_eq_none]
          intro f member same
          exact absent _ (Record.mem_of_knownMembers? known member) (congrArg some (eq_of_beq same))
        have name : (fields ++ [("value", Source.null)]).find? (·.1 == "name") = fields.find? (·.1 == "name") := by
          simp [List.find?_append]
        have value : (fields ++ [("value", Source.null)]).find? (·.1 == "value") = some ("value", .null) := by
          rw [List.find?_append, missing]
          rfl
        simp only [Option.map_some, Option.bind_eq_bind, Option.bind_some, Record.required, Record.withDefault,
          Record.source?, name, missing, value]
        rfl

/-- Any two names differ in more than case. -/
def NamesDiffer (ps : List SessionParameter) : Prop := ps.Pairwise fun p q => sameIgnoringCase p.name q.name = false

instance (ps : List SessionParameter) : Decidable (NamesDiffer ps) := inferInstanceAs (Decidable (ps.Pairwise _))

variable {ps : List SessionParameter} {p : SessionParameter} {name : String}

theorem NamesDiffer.head_other {q : SessionParameter} (distinct : NamesDiffer (q :: ps)) (member : p ∈ ps)
    (named : sameIgnoringCase p.name name = true) : sameIgnoringCase q.name name = false := by
  cases also : sameIgnoringCase q.name name with
  | false => rfl
  | true =>
    have same : sameIgnoringCase q.name p.name = true := Text.sameIgnoringCase_of_same also named
    rw [List.rel_of_pairwise_cons distinct member] at same
    cases same

theorem find?_eq_some (distinct : NamesDiffer ps) :
    find? ps name = some p ↔ p ∈ ps ∧ sameIgnoringCase p.name name = true := by
  constructor
  · intro found
    have named := List.find?_some found
    exact ⟨List.mem_of_find?_eq_some found, named⟩
  · rintro ⟨member, named⟩
    induction ps with
    | nil => cases member
    | cons q qs ih =>
      rw [find?, List.find?_cons]
      rcases List.mem_cons.mp member with rfl | member
      · rw [named]
      · rw [distinct.head_other member named]
        exact ih (List.Pairwise.of_cons distinct) member

/-- Of entries with different names the removed ones leave the others where they are found. -/
theorem find?_filter (distinct : NamesDiffer ps) (keep : SessionParameter → Bool) :
    find? (ps.filter keep) name = (find? ps name).filter keep := by
  apply Option.ext
  intro p
  have kept : NamesDiffer (ps.filter keep) := List.Pairwise.filter keep distinct
  rw [find?_eq_some kept, Option.filter_eq_some_iff, find?_eq_some distinct, List.mem_filter]
  exact and_right_comm

end SessionParameter

namespace OutputFormats
open SessionParameter

variable {ps : List SessionParameter} {p : SessionParameter} {kind : TypeKind} {name : String}

def ownFormat? : TypeKind → Option String
  | .date => some "DATE_OUTPUT_FORMAT"
  | .time => some "TIME_OUTPUT_FORMAT"
  | .timestampNtz => some "TIMESTAMP_NTZ_OUTPUT_FORMAT"
  | .timestampLtz => some "TIMESTAMP_LTZ_OUTPUT_FORMAT"
  | .timestampTz => some "TIMESTAMP_TZ_OUTPUT_FORMAT"
  | _ => none

/-- The name of the format for where a kind has none of its own. -/
def commonFormat? : TypeKind → Option String
  | .timestampNtz | .timestampLtz | .timestampTz => some "TIMESTAMP_OUTPUT_FORMAT"
  | _ => none

/-- The setting whose format is the one for texts of a kind. -/
inductive Decides (ps : List SessionParameter) (kind : TypeKind) (p : SessionParameter) : Prop
  | own {name : String} (format : ownFormat? kind = some name) (member : p ∈ ps)
      (named : sameIgnoringCase p.name name = true) (filled : p.isBlank = false)
  | common {name shared : String} (format : ownFormat? kind = some name)
      (unset : ∀ q ∈ ps, sameIgnoringCase q.name name = true → q.isBlank = true)
      (fallback : commonFormat? kind = some shared) (member : p ∈ ps)
      (named : sameIgnoringCase p.name shared = true) (filled : p.isBlank = false)

/-- The entry of a name that is not blank. -/
def filled? (ps : List SessionParameter) (name : String) : Option SessionParameter :=
  (find? ps name).filter fun p => !p.isBlank

def deciding? (ps : List SessionParameter) (kind : TypeKind) : Option SessionParameter :=
  ((ownFormat? kind).bind (filled? ps)).or ((commonFormat? kind).bind (filled? ps))

theorem setting?_eq : setting? ps name = (filled? ps name).map (·.valueText) :=
  Option.filter_map

/-- Each kind of text has the pattern of its deciding setting. -/
theorem pattern?_eq :
    (ofParameters ps).pattern? kind = (deciding? ps kind).bind fun p =>
    (SessionFormat.pattern p.valueText).toOption := by
  have usable (e : Option SessionParameter) : usable? (e.map (·.valueText)) =
      e.bind fun p => (SessionFormat.pattern p.valueText).toOption := by
    cases e <;> rfl
  cases kind with
  | date | time =>
    simp only [ofParameters, pattern?, setting?_eq, usable, deciding?, ownFormat?, commonFormat?, Option.bind_some,
      Option.bind_none, Option.or_none]
  | timestampNtz | timestampLtz | timestampTz =>
    simp only [ofParameters, pattern?, timestampSetting?, setting?_eq, ← Option.map_or, usable, deciding?, ownFormat?,
      commonFormat?, Option.bind_some]
  | _ => rfl

theorem eq_of_pattern? {f g : OutputFormats} (same : ∀ kind, f.pattern? kind = g.pattern? kind) : f = g := by
  cases f
  cases g
  simp only [mk.injEq]
  exact ⟨same .date, same .time, same .timestampNtz, same .timestampLtz, same .timestampTz⟩

theorem filled?_eq_some (distinct : NamesDiffer ps) :
    filled? ps name = some p ↔ p ∈ ps ∧ sameIgnoringCase p.name name = true ∧ p.isBlank = false := by
  rw [filled?, Option.filter_eq_some_iff, find?_eq_some distinct, Bool.not_eq_true', and_assoc]

theorem filled?_eq_none (distinct : NamesDiffer ps) :
    filled? ps name = none ↔ ∀ q ∈ ps, sameIgnoringCase q.name name = true → q.isBlank = true := by
  rw [Option.eq_none_iff_forall_ne_some]
  simp [filled?_eq_some distinct]

theorem decides_iff (distinct : NamesDiffer ps) : Decides ps kind p ↔ deciding? ps kind = some p := by
  constructor
  · intro decides
    cases decides with
    | own format member named filled =>
      have found := (filled?_eq_some distinct).mpr ⟨member, named, filled⟩
      rw [deciding?, format, Option.bind_some, found, Option.some_or]
    | common format unset fallback member named filled =>
      have missing := (filled?_eq_none distinct).mpr unset
      have found := (filled?_eq_some distinct).mpr ⟨member, named, filled⟩
      rw [deciding?, format, Option.bind_some, missing, Option.none_or, fallback, Option.bind_some, found]
  · intro found
    rcases Option.or_eq_some_iff.mp found with found | ⟨missing, found⟩
    · obtain ⟨name, format, found⟩ := Option.bind_eq_some_iff.mp found
      obtain ⟨member, named, filled⟩ := (filled?_eq_some distinct).mp found
      exact .own format member named filled
    · obtain ⟨shared, fallback, found⟩ := Option.bind_eq_some_iff.mp found
      obtain ⟨member, named, filled⟩ := (filled?_eq_some distinct).mp found
      obtain ⟨name, format⟩ : ∃ name, ownFormat? kind = some name := by
        cases kind <;> first | exact ⟨_, rfl⟩ | cases fallback
      rw [format, Option.bind_some] at missing
      exact .common format ((filled?_eq_none distinct).mp missing) fallback member named filled

theorem filled?_filter_blank (distinct : NamesDiffer ps) :
    filled? (ps.filter fun p => !p.isBlank) name = filled? ps name := by
  rw [filled?, find?_filter distinct, Option.filter_filter, filled?]
  simp

theorem filled?_filter_set (distinct : NamesDiffer ps) :
    filled? (ps.filter (·.isSet)) name = (filled? ps name).filter fun p => !p.isNull := by
  rw [filled?, find?_filter distinct, Option.filter_filter, filled?, Option.filter_filter]
  congr 1
  funext p
  cases blank : p.isBlank <;> simp [isSet, blank]

theorem deciding?_filter_blank (distinct : NamesDiffer ps) :
    deciding? (ps.filter fun p => !p.isBlank) kind = deciding? ps kind := by
  have same : filled? (ps.filter fun p => !p.isBlank) = filled? ps := funext fun _ => filled?_filter_blank distinct
  rw [deciding?, same, deciding?]

/-- Unset settings may be left out where the one that decides has a value. -/
theorem deciding?_filter_set (distinct : NamesDiffer ps) (valued : ∀ p, deciding? ps kind = some p → p.isNull = false) :
    deciding? (ps.filter (·.isSet)) kind = deciding? ps kind := by
  have entries (format : Option String) : format.bind (filled? (ps.filter (·.isSet))) =
      (format.bind (filled? ps)).filter fun p => !p.isNull := by
    cases format with
    | none => rfl
    | some name => exact filled?_filter_set distinct
  rw [deciding?] at valued
  rw [deciding?, entries, entries, deciding?]
  cases own : (ownFormat? kind).bind (filled? ps) with
  | some p =>
    have kept : p.isNull = false := valued p (by rw [own, Option.some_or])
    rw [Option.filter_some_pos (by rw [kept, Bool.not_false])]
    rfl
  | none =>
    cases shared : (commonFormat? kind).bind (filled? ps) with
    | some p =>
      have kept : p.isNull = false := valued p (by rw [own, shared, Option.none_or])
      rw [Option.filter_some_pos (by rw [kept, Bool.not_false])]
      rfl
    | none => rfl

/-- Where no two settings have the same name: blank ones have no influence, and null ones none except on a kind of
text that takes its format from one. Each kind has the pattern of the one setting that decides, its own one first, or
none where the format cannot be used; a null setting makes it the text `null`. -/
theorem formats_from_set_parameters (distinct : NamesDiffer ps) :
    ofParameters (ps.filter fun p => !p.isBlank) = ofParameters ps ∧
    ((∀ kind p, Decides ps kind p → p.isNull = false) → ofParameters (ps.filter (·.isSet)) = ofParameters ps) ∧
    (∀ kind, (∀ p, Decides ps kind p → p.isNull = false) →
      (ofParameters (ps.filter (·.isSet))).pattern? kind = (ofParameters ps).pattern? kind) ∧
    (∀ kind p, Decides ps kind p →
      (ofParameters ps).pattern? kind = (SessionFormat.pattern p.valueText).toOption ∧
      (p.isNull = true → (ofParameters ps).pattern? kind = some "null".toList)) ∧
    (∀ kind, (∀ p, ¬Decides ps kind p) → (ofParameters ps).pattern? kind = none) ∧
    ∀ depth s t, WithNull s t → Response.readParameter depth s = Response.readParameter depth t := by
  have decided {kind p} (decides : Decides ps kind p) :
      (ofParameters ps).pattern? kind = (SessionFormat.pattern p.valueText).toOption := by
    rw [pattern?_eq, (decides_iff distinct).mp decides, Option.bind_some]
  have agree (kind : TypeKind) (valued : ∀ p, Decides ps kind p → p.isNull = false) :
      (ofParameters (ps.filter (·.isSet))).pattern? kind = (ofParameters ps).pattern? kind := by
    have same := deciding?_filter_set distinct fun p found => valued p ((decides_iff distinct).mpr found)
    rw [pattern?_eq, same, pattern?_eq]
  refine ⟨?_, ?_, agree, ?_, ?_, ?_⟩
  · apply eq_of_pattern?
    intro kind
    rw [pattern?_eq, deciding?_filter_blank distinct, pattern?_eq]
  · intro valued
    apply eq_of_pattern?
    exact fun kind => agree kind (valued kind)
  · intro kind p decides
    refine ⟨decided decides, ?_⟩
    intro null
    rw [decided decides, valueText_of_isNull null, SessionFormat.pattern_null]
    rfl
  · intro kind undecided
    have nothing : deciding? ps kind = none := by
      rw [Option.eq_none_iff_forall_ne_some]
      exact fun p found => undecided p ((decides_iff distinct).mpr found)
    rw [pattern?_eq, nothing, Option.bind_none]
  · exact fun depth s t filled => readParameter_withNull filled depth

/-- A common format, a blank one, and a null for something else. -/
def partlySet : List SessionParameter :=
  [{ name := "TIMESTAMP_OUTPUT_FORMAT", value := .string "YYYY-MM-DD" },
    { name := "timestamp_ntz_output_format", value := .string " " }, { name := "TIMEZONE", value := .null }]

theorem pattern_days : SessionFormat.pattern "YYYY-MM-DD" = .ok "%Y-%m-%d".toList := by
  have lexed : SessionFormat.Lexed "YYYY-MM-DD".toList
      [.token .year, .other '-', .token .month, .other '-', .token .day] := by
    refine .step (SessionFormat.next_iff.mp rfl) ?_
    refine .step (SessionFormat.next_iff.mp rfl) ?_
    refine .step (SessionFormat.next_iff.mp rfl) ?_
    refine .step (SessionFormat.next_iff.mp rfl) ?_
    exact .step (SessionFormat.next_iff.mp rfl) .done
  refine SessionFormat.pattern_of_lexed lexed ?_ ?_
  · simp [SessionFormat.Misplaced, SessionFormat.misplacedAfter_cons, SessionFormat.misplacedAfter_nil]
  · simp [SessionFormat.Unclosed]

theorem formats_from_set_parameters_partly :
    NamesDiffer partlySet ∧ partlySet.filter (·.isSet) = partlySet.take 1 ∧
    ofParameters (partlySet.take 1) = ofParameters partlySet ∧
    (ofParameters partlySet).pattern? .timestampNtz = some "%Y-%m-%d".toList := by
  have distinct : NamesDiffer partlySet := by decide
  obtain ⟨-, unset, -, decided, -⟩ := formats_from_set_parameters distinct
  have valued : ∀ kind p, Decides partlySet kind p → p.isNull = false := by
    intro kind p decides
    have found := (decides_iff distinct).mp decides
    cases kind <;> cases found <;> rfl
  have decides : Decides partlySet .timestampNtz
      { name := "TIMESTAMP_OUTPUT_FORMAT", value := .string "YYYY-MM-DD" } := by
    rw [decides_iff distinct]
    rfl
  obtain ⟨pattern, -⟩ := decided _ _ decides
  rw [SessionParameter.valueText, pattern_days] at pattern
  exact ⟨distinct, rfl, unset valued, pattern⟩

/-- A common format, and a null where the own format of a kind could be. -/
def nullSet : List SessionParameter :=
  [{ name := "TIMESTAMP_OUTPUT_FORMAT", value := .string "YYYY-MM-DD" },
    { name := "TIMESTAMP_NTZ_OUTPUT_FORMAT", value := .null }]

/-- The null is not passed over, as it would be if it were left out. -/
theorem null_setting_taken :
    NamesDiffer nullSet ∧ nullSet.filter (·.isSet) = nullSet.take 1 ∧
    (ofParameters nullSet).pattern? .timestampNtz = some "null".toList ∧
    (ofParameters (nullSet.take 1)).pattern? .timestampNtz = some "%Y-%m-%d".toList := by
  have decides : deciding? nullSet .timestampNtz = some { name := "TIMESTAMP_NTZ_OUTPUT_FORMAT", value := .null } := rfl
  have common : deciding? (nullSet.take 1) .timestampNtz =
      some { name := "TIMESTAMP_OUTPUT_FORMAT", value := .string "YYYY-MM-DD" } := rfl
  refine ⟨by decide, rfl, ?_, ?_⟩
  · rw [pattern?_eq, decides, Option.bind_some, valueText_of_isNull rfl, SessionFormat.pattern_null]
    rfl
  · rw [pattern?_eq, common, Option.bind_some, SessionParameter.valueText, pattern_days]
    rfl

end OutputFormats
end RowStream
