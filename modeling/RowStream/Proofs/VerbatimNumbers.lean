import RowStream.Proofs.DocumentReading
import RowStream.Proofs.NestedPositions
import RowStream.Proofs.ReadDocuments

/-! # Numbers inside of documents

A number inside of a document is read with all of its digits: where a FIXED value is expected, it becomes what its own
text becomes as the text of a column. -/
namespace RowStream
open RowStream.Number RowStream.Number.Decimal

namespace Json

def keptNumber (text : String) : String := (Source.number? text.toList).getD text

mutual
/-- A document with its numbers as the reader keeps them. -/
def kept : Json → Json
  | .null => .null
  | .bool b => .bool b
  | .number text => .number (keptNumber text)
  | .string text => .string text
  | .array items => .array (keptItems items)
  | .object members => .object (keptMembers members)

def keptItems : List Json → List Json
  | [] => []
  | item :: items => kept item :: keptItems items

def keptMembers : List (String × Json) → List (String × Json)
  | [] => []
  | (name, value) :: members => (name, kept value) :: keptMembers members
end

theorem keptItems_eq (items : List Json) : keptItems items = items.map kept := by
  induction items with
  | nil => rfl
  | cons item items ih => rw [keptItems, ih, List.map_cons]

theorem keptMembers_eq (members : List (String × Json)) : keptMembers members = members.map (Prod.map id kept) := by
  induction members with
  | nil => rfl
  | cons m members ih =>
    rw [keptMembers, ih, List.map_cons]
    rfl

theorem setMember_map (f : Json → Json) (name : String) (value : Json) (members : List (String × Json)) :
    setMember name (f value) (members.map (Prod.map id f)) = (setMember name value members).map (Prod.map id f) := by
  induction members with
  | nil => rfl
  | cons m members ih =>
    rw [List.map_cons, setMember, setMember]
    by_cases same : m.1 = name
    · rw [if_pos same, if_pos (show (Prod.map id f m).1 = name from same)]
      rfl
    · rw [if_neg same, if_neg (show ¬(Prod.map id f m).1 = name from same), ih]
      rfl

theorem mergeMembers_map (f : Json → Json) (members : List (String × Json)) :
    mergeMembers (members.map (Prod.map id f)) = (mergeMembers members).map (Prod.map id f) := by
  have onto : ∀ done : List (String × Json),
      (members.map (Prod.map id f)).foldl (fun done m => setMember m.1 m.2 done) (done.map (Prod.map id f)) =
        (members.foldl (fun done m => setMember m.1 m.2 done) done).map (Prod.map id f) := by
    induction members with
    | nil => exact fun _ => rfl
    | cons m members ih =>
      intro done
      rw [List.map_cons, List.foldl_cons, List.foldl_cons, ← ih, ← setMember_map]
      rfl
  exact onto []

namespace Source

theorem isBlank_text {c : Char} (blank : isBlank c = true) : Text.isBlank c = true := by
  simp only [isBlank, Bool.or_eq_true, beq_iff_eq] at blank
  rcases blank with ((rfl | rfl) | rfl) | rfl <;> rfl

theorem number?_text (n : JsonNumeral) : number? n.text = some (String.ofList n.kept.text) := by
  have noBlank : ¬n.text.any isBlank = true := by
    intro some
    obtain ⟨c, member, blank⟩ := List.any_eq_true.mp some
    have none := n.noBlank c member
    rw [isBlank_text blank] at none
    cases none
  rw [number?, if_neg noBlank, read?_of_spells (.number n)]
  rfl

example : number? ['-', '0'] = some "-0" := by decide +kernel

/-- A text that is a number with nothing around it is a numeral. -/
theorem numeral_of_number? {cs : List Char} {text : String} (h : number? cs = some text) :
    ∃ n : JsonNumeral, n.text = cs ∧ text = String.ofList n.kept.text := by
  rw [number?] at h
  split at h
  · cases h
  rename_i noBlank
  have clean : ∀ c ∈ cs, ¬isBlank c = true :=
    fun c member blank => noBlank (List.any_eq_true.mpr ⟨c, member, blank⟩)
  split at h
  · rename_i text' read
    cases h
    obtain ⟨w, spelled, source⟩ := read?_eq_some_iff.mp read
    cases w with
    | number n =>
      refine ⟨n, ?_, (Source.number.inj source).symm⟩
      cases spelled with
      | number => rfl
      | before blank => exact absurd blank (clean _ List.mem_cons_self)
      | after _ blank => exact absurd blank (clean _ (List.mem_append_right _ (List.mem_singleton_self _)))
    | _ => cases source
  · cases h

theorem unscaled?_keptNumber (text : String) (scale : Nat) :
    unscaled? (keptNumber text).toList scale = unscaled? text.toList scale := by
  rw [keptNumber]
  cases found : number? text.toList with
  | none => rfl
  | some kept =>
    obtain ⟨n, written, rfl⟩ := numeral_of_number? found
    rw [Option.getD_some, String.toList_ofList, ← written, unscaled?_kept]

namespace Written

mutual
/-- The document with its numbers as they are written, if it has no more than `depth` containers inside one another,
all of its strings denote texts, and no object begins with the name of numbers. -/
def tree? (depth : Nat) : Written → Option Json
  | null => some .null
  | bool b => some (.bool b)
  | number n => some (.number (String.ofList n.text))
  | string units => (StringUnit.text? units).map .string
  | array items =>
    match depth with
    | 0 => none
    | depth + 1 => (itemTrees? depth items).map .array
  | object members =>
    match depth with
    | 0 => none
    | depth + 1 =>
      if namesNumber (memberSources members) then none
      else (memberTrees? depth members).map fun ms => .object (mergeMembers ms)

def itemTrees? (depth : Nat) : List Written → Option (List Json)
  | [] => some []
  | w :: ws => do some ((← tree? depth w) :: (← itemTrees? depth ws))

def memberTrees? (depth : Nat) : List (List StringUnit × Written) → Option (List (String × Json))
  | [] => some []
  | m :: ms => do some ((← StringUnit.text? m.1, ← tree? depth m.2) :: (← memberTrees? depth ms))
end

theorem parts_induction {motive : Written → Prop} (null : motive null) (bool : ∀ b, motive (bool b))
    (number : ∀ n, motive (number n)) (string : ∀ us, motive (string us))
    (array : ∀ ws, (∀ w ∈ ws, motive w) → motive (array ws))
    (object : ∀ ms, (∀ m ∈ ms, motive m.2) → motive (object ms)) (w : Written) : motive w := by
  refine @Written.rec motive (fun ws => ∀ w ∈ ws, motive w) (fun ms => ∀ m ∈ ms, motive m.2) (fun m => motive m.2)
    null bool number string array object ?_ ?_ ?_ ?_ ?_ w
  · intro w member
    cases member
  · exact fun w ws first rest => List.forall_mem_cons.mpr ⟨first, rest⟩
  · intro m member
    cases member
  · exact fun m ms first rest => List.forall_mem_cons.mpr ⟨first, rest⟩
  · exact fun _ _ inside => inside

theorem itemTrees?_eq (depth : Nat) (ws : List Written) : itemTrees? depth ws = ws.mapM (tree? depth) := by
  induction ws with
  | nil => rfl
  | cons w ws ih => rw [itemTrees?, List.mapM_cons, ih]; rfl

def memberTree? (depth : Nat) (m : List StringUnit × Written) : Option (String × Json) := do
  some (← StringUnit.text? m.1, ← tree? depth m.2)

theorem memberTrees?_eq (depth : Nat) (ms : List (List StringUnit × Written)) :
    memberTrees? depth ms = ms.mapM (memberTree? depth) := by
  induction ms with
  | nil => rfl
  | cons m ms ih =>
    rw [memberTrees?, List.mapM_cons, ih, memberTree?]
    cases StringUnit.text? m.1 <;> cases tree? depth m.2 <;> rfl

theorem ofSource?_source {w : Written} {depth : Nat} {j : Json} (tree : w.tree? depth = some j) :
    ofSource? depth w.source = some j.kept := by
  induction w using parts_induction generalizing depth j with
  | null | bool =>
    cases tree
    rfl
  | number n =>
    cases tree
    rw [source, ofSource?, kept, keptNumber, String.toList_ofList, number?_text, Option.getD_some]
  | string us =>
    obtain ⟨text, found, rfl⟩ := Option.map_eq_some_iff.mp tree
    rw [source, ofSource?, found]
    rfl
  | array ws ih =>
    cases depth with
    | zero => cases tree
    | succ depth =>
      rw [tree?, Option.map_eq_some_iff] at tree
      obtain ⟨js, trees, rfl⟩ := tree
      rw [itemTrees?_eq, mapM_eq_some] at trees
      have items : ofItems? depth (itemSources ws) = some (js.map kept) := by
        rw [itemSources_eq, ofItems?_eq, mapM_eq_some, List.forall₂_map_left_iff, List.forall₂_map_right_iff]
        exact ((List.forall₂_and_left _ _).mpr ⟨ih, trees⟩).imp fun w j both => both.1 both.2
      rw [source, ofSource?, items, kept, keptItems_eq]
      rfl
  | object ms ih =>
    cases depth with
    | zero => cases tree
    | succ depth =>
      rw [tree?] at tree
      split at tree
      · cases tree
      rename_i unnamed
      obtain ⟨js, trees, rfl⟩ := Option.map_eq_some_iff.mp tree
      rw [memberTrees?_eq, mapM_eq_some] at trees
      have members : ofMembers? depth (memberSources ms) = some (js.map (Prod.map id kept)) := by
        rw [memberSources_eq, ofMembers?_eq, mapM_eq_some, List.forall₂_map_left_iff, List.forall₂_map_right_iff]
        refine ((List.forall₂_and_left _ _).mpr ⟨ih, trees⟩).imp fun m j both => ?_
        obtain ⟨kept, tree⟩ := both
        simp only [memberTree?, Option.bind_eq_bind, Option.bind_eq_some_iff] at tree
        obtain ⟨name, known, value, tree, same⟩ := tree
        cases same
        rw [ofMember?, known, kept tree]
        rfl
      rw [source, ofSource?, if_neg unnamed, members, kept, keptMembers_eq, ← mergeMembers_map]
      rfl

end Written

end Source

theorem memberOf_map (f : Json → Json) (members : List (String × Json)) (name : String) :
    JsonCursor.memberOf (members.map (Prod.map id f)) name = (JsonCursor.memberOf members name).map f := by
  rw [JsonCursor.memberOf, JsonCursor.memberOf, member?, member?, List.find?_map, List.find?_map]
  simp only [Function.comp_def, Prod.map_fst, id]
  cases members.find? (fun m => m.1 == name) <;> cases members.find? (fun m => Text.sameIgnoringCase m.1 name) <;> rfl

end Json

/-- A position whose numbers are as the reader keeps them. -/
def JsonCursor.kept : JsonCursor → JsonCursor
  | .node j => .node j.kept
  | c => c

/-- A position in a document whose numbers are as they are written. -/
structure WrittenCursor where
  position : JsonCursor

namespace WrittenCursor

/-- A FIXED value has a number as it is written, values of other types have it as it is kept. -/
def leaf (c : WrittenCursor) (t : ColumnType) (o : DecodeOptions) : Result Value :=
  match c.position with
  | .node (.number text) => Decode.text t (if t.kind = .fixed then text else Json.keptNumber text) o
  | p => Cursor.leaf p.kept t o

instance : Cursor WrittenCursor where
  isNull c := Cursor.isNull c.position
  field c index t := (Cursor.field c.position index t).map mk
  elements c := (Cursor.elements c.position).map (List.map mk)
  entries c := (Cursor.entries c.position).map (List.map (Prod.map mk mk))
  leaf := leaf

end WrittenCursor

namespace Decode
variable {o : DecodeOptions} {t : ColumnType} {v : Value}

/-- A FIXED value is the same for the number as it is kept. -/
theorem text_keptNumber (fixed : t.kind = .fixed) (s : String) :
    text t (Json.keptNumber s) o = .ok v ↔ text t s o = .ok v := by
  simp only [text, fixed, parseFixed, Json.Source.unscaled?_keptNumber]
  cases Decimal.unscaled? s.toList t.scale <;> simp [orRefused, Except.map]

theorem keeps_kept : Keeps o fun c : WrittenCursor => c.position.kept where
  null c := by
    obtain ⟨p⟩ := c
    cases p with
    | node j => cases j <;> rfl
    | key | missing => rfl
  field c index u := by
    obtain ⟨p⟩ := c
    cases p with
    | key | missing => rfl
    | node j =>
      cases j with
      | object members =>
        show Except.ok (((JsonCursor.memberOf (Json.keptMembers members) u.name).map JsonCursor.node).getD .missing) =
          Except.ok (JsonCursor.kept (((JsonCursor.memberOf members u.name).map JsonCursor.node).getD .missing))
        rw [Json.keptMembers_eq, Json.memberOf_map]
        cases JsonCursor.memberOf members u.name <;> rfl
      | _ => rfl
  elements c := by
    obtain ⟨p⟩ := c
    cases p with
    | key | missing => rfl
    | node j =>
      cases j with
      | array items =>
        show Except.ok ((Json.keptItems items).map JsonCursor.node) =
          Except.ok (List.map _ (List.map _ (items.map JsonCursor.node)))
        rw [Json.keptItems_eq, List.map_map, List.map_map, List.map_map]
        rfl
      | _ => rfl
  entries c := by
    obtain ⟨p⟩ := c
    cases p with
    | key | missing => rfl
    | node j =>
      cases j with
      | object members =>
        show Except.ok ((Json.keptMembers members).map fun m => (JsonCursor.key m.1, JsonCursor.node m.2)) =
          Except.ok (List.map _ (List.map _ (members.map fun m => (JsonCursor.key m.1, JsonCursor.node m.2))))
        rw [Json.keptMembers_eq, List.map_map, List.map_map, List.map_map]
        rfl
      | _ => rfl
  leaf c u v := by
    obtain ⟨p⟩ := c
    cases p with
    | key | missing => rfl
    | node j =>
      cases j with
      | number s =>
        show text u (Json.keptNumber s) o = .ok v ↔ text u (if u.kind = .fixed then s else Json.keptNumber s) o = .ok v
        split
        · rename_i fixed
          exact text_keptNumber fixed s
        · rfl
      | _ => rfl

open Json Json.Source

/-- A document is decoded as it is written, each number of a FIXED type with all of its digits. -/
theorem document_iff {s : String} {w : Written} {j : Json} (spelled : Source.Spells (.value w) s.toList)
    (tree : w.tree? maxDepth = some j) :
    document t s o = .ok v ↔ value o t (WrittenCursor.mk (.node j)) = .ok v := by
  have read : Json.read? s = some j.kept := by
    rw [Json.read?, read?_of_spells spelled]
    exact Written.ofSource?_source tree
  rw [document, read]
  exact keeps_kept.value_iff t (WrittenCursor.mk (.node j)) v

/-- A number, or the name of a member as a key of a map. -/
def Shows (c : WrittenCursor) (s : String) : Prop := c.position = .node (.number s) ∨ c.position = .key s

theorem value_of_shows {u : ColumnType} {c : WrittenCursor} {s : String} (shows : Shows c s) (fixed : u.kind = .fixed) :
    value o u c = text u s o := by
  obtain ⟨p⟩ := c
  have plain : u.isStructured = false := by simp [ColumnType.isStructured, fixed]
  rcases shows with rfl | rfl
  · rw [value_eq, plain]
    show text u (if u.kind = .fixed then s else keptNumber s) o = _
    rw [if_pos fixed]
  · rw [value_eq, plain]
    rfl

/-- Wherever a document has a number or a key of a FIXED type, its value has what the text of the number or key
is decoded to as the text of a column, and where that is refused the document is. For the rest the value is that of
the walk over the document as it is written. -/
theorem nested_fixed {s : String} {w : Written} {j : Json} (spelled : Source.Spells (.value w) s.toList)
    (tree : w.tree? maxDepth = some j) (t : ColumnType) (o : DecodeOptions) :
    (∀ v, document t s o = .ok v ↔ value o t (WrittenCursor.mk (.node j)) = .ok v) ∧
    ∀ path u c l, Located t (WrittenCursor.mk (.node j)) path u c → Shows c l → u.kind = .fixed →
      (∀ v, document t s o = .ok v → ∃ x, v.at? path = some x ∧ text u l o = .ok x) ∧
      ∀ e, text u l o = .error e → ∃ e', document t s o = .error e' := by
  have walk : ∀ v, document t s o = .ok v ↔ value o t (WrittenCursor.mk (.node j)) = .ok v :=
    fun v => document_iff spelled tree
  refine ⟨walk, fun path u c l located shows fixed => ?_⟩
  have found : ∀ v, document t s o = .ok v → ∃ x, v.at? path = some x ∧ text u l o = .ok x := by
    intro v decoded
    obtain ⟨x, reached, here⟩ := at?_of_located located ((walk v).mp decoded)
    exact ⟨x, reached, value_of_shows shows fixed ▸ here⟩
  refine ⟨found, fun e refused => ?_⟩
  cases decoded : document t s o with
  | error e' => exact ⟨e', rfl⟩
  | ok v =>
    obtain ⟨x, -, here⟩ := found v decoded
    rw [refused] at here
    cases here

/-- A number with more digits than a float has. -/
def longNumeral : JsonNumeral where
  sign := .bare
  whole := "12345678901234567890123".toList
  fraction := none
  exponent := some ⟨'E', .minus, ['3'], .inr rfl, List.cons_ne_nil _ _, rfl⟩
  filled := nofun
  areDigits := rfl
  form := ⟨nofun, ⟨nofun, rfl, nofun⟩, nofun⟩

def shares : ColumnType :=
  { name := "M", kind := .map,
    fields := [{ name := "key", kind := .fixed }, { name := "value", kind := .fixed, scale := 3 }] }

def unrounded : DecodeOptions := { higherPrecision := true }

theorem nested_fixed_shares : ∃ v, document shares "\x7b\"7\":12345678901234567890123E-3\x7d" unrounded = .ok v ∧
    v.at? [.entry 0] = some (.decimal 12345678901234567890123 3) ∧ v.at? [.key 0] = some (.int 7) := by
  have seven : StringUnit.SpellsAll [.char '7'] ['7'] := .snoc .nil (.char (by decide) (by decide) (by decide))
  have named : Named [.char '7'] ['"', '7', '"', ':'] := .intro seven allBlank_nil allBlank_nil
  have spelled : Source.Spells (.value (.object [([.char '7'], .number longNumeral)]))
      "\x7b\"7\":12345678901234567890123E-3\x7d".toList := .object (.member named (.number longNumeral))
  have tree : Written.tree? maxDepth (.object [([.char '7'], .number longNumeral)]) =
      some (.object [("7", .number "12345678901234567890123E-3")]) := rfl
  obtain ⟨walk, positions⟩ := nested_fixed spelled tree shares unrounded
  have decoded := (walk (.map [(.int 7, .decimal 12345678901234567890123 3)])).mpr rfl
  obtain ⟨entryFound, -⟩ := positions [.entry 0] _ _ _ (.entry rfl rfl rfl rfl .here) (.inl rfl) rfl
  obtain ⟨keyFound, -⟩ := positions [.key 0] _ _ _ (.key rfl rfl rfl rfl .here) (.inr rfl) rfl
  obtain ⟨x, entry, value⟩ := entryFound _ decoded
  obtain ⟨y, key, name⟩ := keyFound _ decoded
  cases value
  cases name
  exact ⟨_, decoded, entry, key⟩

def deepArrays : Nat → Written
  | 0 => .array []
  | n + 1 => .array [deepArrays n]

def deepJson : Nat → Json
  | 0 => .array []
  | n + 1 => .array [deepJson n]

theorem spells_deepArrays (n : Nat) :
    Source.Spells (.value (deepArrays n)) (List.replicate (n + 1) '[' ++ List.replicate (n + 1) ']') := by
  induction n with
  | zero => exact .array (.noItems allBlank_nil)
  | succ n ih =>
    have longer := Source.Spells.array (.item ih)
    rw [List.append_assoc, ← List.replicate_succ', ← List.cons_append, ← List.replicate_succ] at longer
    exact longer

theorem tree?_deepArrays {n depth : Nat} (enough : n < depth) : (deepArrays n).tree? depth = some (deepJson n) := by
  induction n generalizing depth with
  | zero =>
    cases depth with
    | zero => cases enough
    | succ depth => rfl
  | succ n ih =>
    cases depth with
    | zero => cases enough
    | succ depth =>
      rw [deepArrays, Written.tree?, Written.itemTrees?, ih (Nat.lt_of_succ_lt_succ enough)]
      rfl

theorem ofSource?_deepArrays {n depth : Nat} (short : depth ≤ n) : ofSource? depth (deepArrays n).source = none := by
  induction n generalizing depth with
  | zero =>
    obtain rfl := Nat.le_zero.mp short
    rfl
  | succ n ih =>
    cases depth with
    | zero => rfl
    | succ depth =>
      rw [deepArrays, Written.source, Written.itemSources, ofSource?, ofItems?, ih (Nat.le_of_succ_le_succ short)]
      rfl

def oneNumeral : JsonNumeral where
  sign := .bare
  whole := ['1']
  fraction := none
  exponent := none
  filled := nofun
  areDigits := rfl
  form := ⟨nofun, ⟨nofun, rfl, nofun⟩, nofun⟩

def numbered : ColumnType :=
  { name := "O", kind := .object, fields := [{ name := "n", kind := .fixed }, { name := "d", kind := .variant }] }

def besideOne (w : Written) : Written := .object [([.char 'n'], .number oneNumeral), ([.char 'd'], w)]

def besideOneText (cs : List Char) : List Char := '\x7b' :: ("\"n\":1,\"d\":".toList ++ cs ++ ['\x7d'])

theorem spells_besideOne {w : Written} {cs : List Char} (value : Source.Spells (.value w) cs) :
    Source.Spells (.value (besideOne w)) (besideOneText cs) := by
  have n : Named [.char 'n'] ['"', 'n', '"', ':'] :=
    .intro (.snoc .nil (.char (by decide) (by decide) (by decide))) allBlank_nil allBlank_nil
  have d : Named [.char 'd'] ['"', 'd', '"', ':'] :=
    .intro (.snoc .nil (.char (by decide) (by decide) (by decide))) allBlank_nil allBlank_nil
  exact .object (.members n (.number oneNumeral) (.member d value) (List.cons_ne_nil _ _))

theorem tree?_besideOne {w : Written} {depth : Nat} {j : Json} (tree : w.tree? depth = some j) :
    (besideOne w).tree? (depth + 1) = some (.object [("n", .number "1"), ("d", j)]) := by
  simp only [besideOne, Written.tree?, Written.memberTrees?, tree]
  rfl

theorem ofSource?_besideOne {w : Written} {depth : Nat} (refused : ofSource? depth w.source = none) :
    ofSource? (depth + 1) (besideOne w).source = none := by
  simp only [besideOne, Written.source, Written.memberSources, ofSource?, ofMembers?, refused]
  rfl

/-- A number beside arrays that are 127 inside one another. -/
def deepText : List Char := besideOneText (List.replicate 127 '[' ++ List.replicate 127 ']')

/-- The number is at the first field of a document that could be read if it might be nested deeper by one, but no
part of the document is decoded. -/
theorem deep_sibling_refused : ∃ w j c, Source.Spells (.value w) deepText ∧ w.tree? (maxDepth + 1) = some j ∧
    Located numbered (WrittenCursor.mk (.node j)) [.field 0] { name := "n", kind := .fixed } c ∧ Shows c "1" ∧
    text { name := "n", kind := .fixed } "1" {} = .ok (.int 1) ∧
    document numbered (String.ofList deepText) {} = .error (.decode "invalid OBJECT document: not a JSON text") := by
  have spelled := spells_besideOne (spells_deepArrays 126)
  have tree := tree?_besideOne (tree?_deepArrays (show 126 < maxDepth by decide))
  refine ⟨_, _, _, spelled, tree, .field rfl rfl rfl rfl rfl .here, .inl rfl, rfl, ?_⟩
  have unread : ofSource? maxDepth (besideOne (deepArrays 126)).source = none :=
    ofSource?_besideOne (ofSource?_deepArrays (Nat.le_refl 126))
  rw [document, Json.read?, String.toList_ofList, deepText, read?_of_spells spelled, Option.bind_some, unread]
  rfl

end Decode
end RowStream
