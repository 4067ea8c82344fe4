import RowStream.Proofs.WrittenNumbers

/-! # Documents as they are written

The texts of documents by the grammar of JSON: numbers with every digit, strings unit by unit, blanks wherever they
may stand. A scan of a string takes exactly the spellings of its units, and brings their text. -/
namespace RowStream.Json.Source
open RowStream.Number RowStream.Number.Decimal

/-- What a string is written with: characters, and code units that may be halves of one. -/
inductive StringUnit
  | char (c : Char)
  | code (n : Nat)

namespace StringUnit

def IsHigh (n : Nat) : Prop := 0xD800 ≤ n ∧ n ≤ 0xDBFF
def IsLow (n : Nat) : Prop := 0xDC00 ≤ n ∧ n ≤ 0xDFFF

instance (n : Nat) : Decidable (IsHigh n) := inferInstanceAs (Decidable (_ ∧ _))
instance (n : Nat) : Decidable (IsLow n) := inferInstanceAs (Decidable (_ ∧ _))

def pair (high low : Nat) : Char := Char.ofNat (0x10000 + (high - 0xD800) * 0x400 + (low - 0xDC00))

/-- The text of units; `high` is a half that waits for the other one. No half may stay alone. -/
def textAfter? : Option Nat → List StringUnit → Option (List Char)
  | none, [] => some []
  | some _, [] => none
  | none, .char c :: us => (textAfter? none us).map (c :: ·)
  | some _, .char _ :: _ => none
  | none, .code n :: us =>
    if IsHigh n then textAfter? (some n) us
    else if IsLow n then none
    else (textAfter? none us).map (Char.ofNat n :: ·)
  | some high, .code n :: us => if IsLow n then (textAfter? none us).map (pair high n :: ·) else none

def text? (us : List StringUnit) : Option String := (textAfter? none us).map String.ofList

def hexNumber? (ds : List Char) : Option Nat := ds.foldlM (fun n d => (StringScan.hexValue? d).map (16 * n + ·)) 0

/-- How a unit is written: a character as itself or by its letter, a code unit by four digits. -/
inductive Spells : StringUnit → List Char → Prop
  | char {c : Char} (printed : 0x20 ≤ c.toNat) (noQuote : c ≠ '"') (noBackslash : c ≠ '\\') : Spells (.char c) [c]
  | letter {l c : Char} (known : StringScan.unescape? l = some c) : Spells (.char c) ['\\', l]
  | code {ds : List Char} {n : Nat} (four : ds.length = 4) (value : hexNumber? ds = some n) :
      Spells (.code n) ('\\' :: 'u' :: ds)

/-- The inside of a string: its units one after the other. -/
inductive SpellsAll : List StringUnit → List Char → Prop
  | nil : SpellsAll [] []
  | snoc {us cs u ds} (front : SpellsAll us cs) (last : Spells u ds) : SpellsAll (us ++ [u]) (cs ++ ds)

end StringUnit

/-- A document as it is written. -/
inductive Written where
  | null
  | bool (b : Bool)
  | number (n : JsonNumeral)
  | string (units : List StringUnit)
  | array (items : List Written)
  | object (members : List (List StringUnit × Written))

namespace Written

mutual
def source : Written → Source
  | null => .null
  | bool b => .bool b
  | number n => .number (String.ofList n.kept.text)
  | string units => .string (StringUnit.text? units)
  | array items => .array (itemSources items)
  | object members => .object (memberSources members)

def itemSources : List Written → List Source
  | [] => []
  | w :: ws => w.source :: itemSources ws

def memberSources : List (List StringUnit × Written) → List (Option String × Source)
  | [] => []
  | m :: ms => (StringUnit.text? m.1, m.2.source) :: memberSources ms
end

theorem itemSources_eq (ws : List Written) : itemSources ws = ws.map source := by
  induction ws with
  | nil => rfl
  | cons w ws ih => rw [itemSources, ih, List.map_cons]

theorem memberSources_eq (ms : List (List StringUnit × Written)) :
    memberSources ms = ms.map fun m => (StringUnit.text? m.1, m.2.source) := by
  induction ms with
  | nil => rfl
  | cons m ms ih => rw [memberSources, ih, List.map_cons]

end Written

def AllBlank (cs : List Char) : Prop := ∀ c ∈ cs, isBlank c = true

def quoted (cs : List Char) : List Char := '"' :: (cs ++ ['"'])

inductive Named : List StringUnit → List Char → Prop
  | intro {us cs front back} (units : StringUnit.SpellsAll us cs) (blankBefore : AllBlank front)
      (blankAfter : AllBlank back) :
      Named us (front ++ (quoted cs ++ (back ++ [':'])))

/-- What can be spelled: a document, and the inside of a container. -/
inductive Part
  | value (w : Written)
  | items (ws : List Written)
  | members (ms : List (List StringUnit × Written))

/-- The texts of documents and of the insides of containers. Blanks may stand around every value and every name. -/
inductive Spells : Part → List Char → Prop
  | null : Spells (.value .null) ['n', 'u', 'l', 'l']
  | true : Spells (.value (.bool true)) ['t', 'r', 'u', 'e']
  | false : Spells (.value (.bool false)) ['f', 'a', 'l', 's', 'e']
  | number (n : JsonNumeral) : Spells (.value (.number n)) n.text
  | string {us cs} (units : StringUnit.SpellsAll us cs) : Spells (.value (.string us)) (quoted cs)
  | array {ws cs} (inside : Spells (.items ws) cs) : Spells (.value (.array ws)) ('[' :: (cs ++ [']']))
  | object {ms cs} (inside : Spells (.members ms) cs) : Spells (.value (.object ms)) ('\x7b' :: (cs ++ ['\x7d']))
  | before {w c cs} (blank : isBlank c = Bool.true) (value : Spells (.value w) cs) : Spells (.value w) (c :: cs)
  | after {w c cs} (value : Spells (.value w) cs) (blank : isBlank c = Bool.true) : Spells (.value w) (cs ++ [c])
  | noItems {cs} (blank : AllBlank cs) : Spells (.items []) cs
  | item {w cs} (value : Spells (.value w) cs) : Spells (.items [w]) cs
  | items {w cs ws ds} (first : Spells (.value w) cs) (rest : Spells (.items ws) ds) (filled : ws ≠ []) :
      Spells (.items (w :: ws)) (cs ++ ',' :: ds)
  | noMembers {cs} (blank : AllBlank cs) : Spells (.members []) cs
  | member {us name w cs} (named : Named us name) (value : Spells (.value w) cs) :
      Spells (.members [(us, w)]) (name ++ cs)
  | members {us name w cs ms ds} (named : Named us name) (first : Spells (.value w) cs) (rest : Spells (.members ms) ds)
      (filled : ms ≠ []) : Spells (.members ((us, w) :: ms)) (name ++ (cs ++ ',' :: ds))

namespace StringUnit

/-- A scan that has come to the end of one more unit. -/
def into (s : StringScan) : StringUnit → StringScan
  | .char c => s.push c
  | .code n => s.pushUnit n

def scanned (us : List StringUnit) : StringScan := us.foldl into {}

theorem scanned_snoc (us : List StringUnit) (u : StringUnit) : scanned (us ++ [u]) = into (scanned us) u := by
  rw [scanned, List.foldl_append]
  rfl

theorem phase_into (s : StringScan) (u : StringUnit) : (into s u).phase = .plain := by
  cases u with
  | char c => rfl
  | code n =>
    simp only [into, StringScan.pushUnit]
    split
    · split <;> rfl
    · split
      · rfl
      · split <;> rfl

theorem phase_scanned (us : List StringUnit) : (scanned us).phase = .plain := by
  induction us using List.reverseRecOn with
  | nil => rfl
  | append_singleton us u _ =>
    rw [scanned_snoc]
    exact phase_into _ u

/-- What a scan makes of the units that are still to come. -/
theorem result_foldl (us : List StringUnit) (s : StringScan) : (us.foldl into s).result =
    if s.sound then (textAfter? s.high us).map fun cs => String.ofList (s.text.reverse ++ cs) else none := by
  have lost : ∀ (us : List StringUnit) (s : StringScan), s.sound = false → (us.foldl into s).result = none := by
    intro us
    induction us with
    | nil =>
      intro s broken
      simp [StringScan.result, broken]
    | cons u us ih =>
      intro s broken
      refine ih _ ?_
      cases u with
      | char c => simp [into, StringScan.push, broken]
      | code n =>
        simp only [into, StringScan.pushUnit]
        split
        · split <;> simp [broken]
        · split
          · simp [broken]
          · split <;> simp [broken]
  induction us generalizing s with
  | nil =>
    cases high : s.high <;> simp [StringScan.result, textAfter?, high]
  | cons u us ih =>
    by_cases sound : s.sound = true
    · rw [List.foldl_cons, sound, if_pos rfl]
      cases u with
      | char c =>
        rw [ih]
        cases high : s.high <;> simp [into, StringScan.push, textAfter?, high, sound, Function.comp_def]
      | code n =>
        rw [ih]
        cases high : s.high with
        | none =>
          by_cases isHigh : IsHigh n
          · have range : 0xD800 ≤ n ∧ n ≤ 0xDBFF := isHigh
            simp [into, StringScan.pushUnit, textAfter?, high, sound, isHigh, range]
          · have range : ¬(0xD800 ≤ n ∧ n ≤ 0xDBFF) := isHigh
            by_cases isLow : IsLow n
            · have low : 0xDC00 ≤ n ∧ n ≤ 0xDFFF := isLow
              simp only [into, StringScan.pushUnit, textAfter?, high, isHigh, isLow, if_neg range, if_pos low]
              simp
            · have low : ¬(0xDC00 ≤ n ∧ n ≤ 0xDFFF) := isLow
              simp only [into, StringScan.pushUnit, textAfter?, high, isHigh, isLow, if_neg range, if_neg low]
              simp [sound, Function.comp_def]
        | some h =>
          by_cases isLow : IsLow n
          · have low : 0xDC00 ≤ n ∧ n ≤ 0xDFFF := isLow
            simp only [into, StringScan.pushUnit, textAfter?, high, isLow, if_pos low]
            simp [sound, pair, Function.comp_def]
          · have low : ¬(0xDC00 ≤ n ∧ n ≤ 0xDFFF) := isLow
            simp only [into, StringScan.pushUnit, textAfter?, high, isLow, if_neg low]
            simp
    · rw [if_neg sound]
      exact lost (u :: us) s (by simpa using sound)

theorem result_scanned (us : List StringUnit) : (scanned us).result = text? us := by
  have read := result_foldl us {}
  simpa [text?, scanned] using read

open Reader

/-- Every spelling of a unit leads the scan on. -/
theorem scans_spells {u : StringUnit} {ds : List Char} (h : Spells u ds) {s : StringScan} (plain : s.phase = .plain) :
    Scans s ds (into s u) := by
  have started : ∀ {c : Char}, c ≠ '"' → ¬(c = '"' ∧ s.phase = .plain) := fun noQuote both => noQuote both.1
  cases h with
  | @char c printed noQuote noBackslash =>
    refine .cons (started noQuote) ?_ (.nil _)
    simp [StringScan.step, plain, noBackslash, Nat.not_lt.mpr printed, into]
  | @letter l c known =>
    have noUnit : l ≠ 'u' := by
      rintro rfl
      cases known
    refine .cons (started (by decide)) (by simp [StringScan.step, plain]; rfl) (.cons (by simp) ?_ (.nil _))
    simp [StringScan.step, noUnit, known, into, StringScan.push]
  | @code ds n four value =>
    obtain ⟨a, ds, rfl⟩ := List.exists_cons_of_length_eq_add_one four
    obtain ⟨b, ds, rfl⟩ := List.exists_cons_of_length_eq_add_one (Nat.succ.inj four)
    obtain ⟨c, ds, rfl⟩ := List.exists_cons_of_length_eq_add_one (Nat.succ.inj (Nat.succ.inj four))
    obtain ⟨d, rfl⟩ := List.length_eq_one_iff.mp (Nat.succ.inj (Nat.succ.inj (Nat.succ.inj four)))
    simp only [hexNumber?, List.foldlM_cons, List.foldlM_nil, Option.bind_eq_bind, Option.bind_eq_some_iff,
      Option.map_eq_some_iff] at value
    obtain ⟨_, ⟨w, first, rfl⟩, _, ⟨x, second, rfl⟩, _, ⟨y, third, rfl⟩, _, ⟨z, fourth, rfl⟩, same⟩ := value
    cases same
    have digit : ∀ {count value n : Nat} {d : Char}, count ≠ 3 → StringScan.hexValue? d = some n →
        StringScan.step { s with phase := .hex count value } d =
          some { s with phase := .hex (count + 1) (16 * value + n) } := by
      intro count value n d early known
      simp [StringScan.step, known, early]
    have last : ∀ {value n : Nat} {d : Char}, StringScan.hexValue? d = some n →
        StringScan.step { s with phase := .hex 3 value } d = some (into s (.code (16 * value + n))) := by
      intro value n d known
      simp [StringScan.step, known, into, StringScan.pushUnit]
    exact .cons (started (by decide)) (by simp [StringScan.step, plain]; rfl) (.cons (by simp) rfl
      (.cons (by simp) (digit (by decide) first) (.cons (by simp) (digit (by decide) second)
        (.cons (by simp) (digit (by decide) third) (.cons (by simp) (last fourth) (.nil _))))))

theorem scans_spellsAll {us : List StringUnit} {cs : List Char} (h : SpellsAll us cs) : Scans {} cs (scanned us) := by
  induction h with
  | nil => exact .nil _
  | @snoc us cs u ds _ last ih =>
    rw [scanned_snoc]
    exact ih.append (scans_spells last (phase_scanned us))

/-- What a scan has read is spelled by units, and by the beginning of one. -/
inductive Scanned : List Char → StringScan → Prop
  | plain {us cs} (units : SpellsAll us cs) : Scanned cs (scanned us)
  | escape {us cs} (units : SpellsAll us cs) : Scanned (cs ++ ['\\']) { scanned us with phase := .escape }
  | hex {us cs ds n} (units : SpellsAll us cs) (few : ds.length ≤ 3) (value : hexNumber? ds = some n) :
      Scanned (cs ++ '\\' :: 'u' :: ds) { scanned us with phase := .hex ds.length n }

theorem hexNumber?_snoc {ds : List Char} {d : Char} {n digit : Nat} (front : hexNumber? ds = some n)
    (last : StringScan.hexValue? d = some digit) : hexNumber? (ds ++ [d]) = some (16 * n + digit) := by
  rw [hexNumber?] at front ⊢
  rw [List.foldlM_append, front]
  simp [last]

theorem Scanned.step {raw : List Char} {scan next : StringScan} {c : Char} (h : Scanned raw scan)
    (more : ¬(c = '"' ∧ scan.phase = .plain)) (step : scan.step c = some next) : Scanned (raw ++ [c]) next := by
  cases h with
  | @plain us cs units =>
    simp only [StringScan.step, phase_scanned] at step
    split at step
    · rename_i backslash
      cases step
      rw [backslash]
      exact .escape units
    · rename_i noBackslash
      split at step
      · cases step
      · rename_i printed
        cases step
        have noQuote : c ≠ '"' := fun quote => more ⟨quote, phase_scanned us⟩
        have longer := Scanned.plain (units.snoc (.char (Nat.not_lt.mp printed) noQuote noBackslash))
        rwa [scanned_snoc] at longer
  | @escape us cs units =>
    simp only [StringScan.step] at step
    split at step
    · rename_i isUnit
      cases step
      rw [isUnit, List.append_assoc]
      exact @Scanned.hex us cs [] 0 units (by decide) rfl
    · obtain ⟨e, known, rfl⟩ := Option.map_eq_some_iff.mp step
      have longer := Scanned.plain (units.snoc (.letter known))
      rw [scanned_snoc] at longer
      rw [List.append_assoc]
      exact longer
  | @hex us cs ds n units few value =>
    simp only [StringScan.step, Option.bind_eq_bind, Option.bind_eq_some_iff] at step
    obtain ⟨digit, known, step⟩ := step
    have number := hexNumber?_snoc value known
    have length : (ds ++ [c]).length = ds.length + 1 := List.length_append
    rw [List.append_assoc, List.cons_append, List.cons_append]
    split at step
    · rename_i full
      cases step
      have longer := Scanned.plain (units.snoc (.code (by omega) number))
      rw [scanned_snoc] at longer
      exact longer
    · rename_i early
      cases step
      rw [← length]
      exact .hex units (by omega) number

end StringUnit

end RowStream.Json.Source
