import RowStream.Decode.Chunk
import RowStream.Proofs.ReadDocuments
import RowStream.Proofs.Traversal
import RowStream.Proofs.Utf8Texts

/-! # The framing of chunks

A chunk body is the inside of an array of rows. Brackets around it make one document of it only if it is the inside of
an array by itself: no body closes the bracket before its end. So bodies can be joined with commas, and what they
bring is what they bring apart. -/
namespace RowStream

namespace Json.Source
open Text Number Number.Decimal

theorem numeral_ne_bracket {n : Numeral} (h : IsNumeral n) (cs : List Char) : '[' :: cs ≠ n.text := by
  obtain ⟨d, rest, split⟩ := List.exists_cons_of_ne_nil h.whole.filled
  have digit : Source.isDigit d = true := allDigits_iff.mp h.whole.digits d (split ▸ List.mem_cons_self)
  intro same
  rw [Numeral.text, Numeral.mantissa, split] at same
  cases sign : n.sign with
  | plus => exact h.sign sign
  | minus =>
    rw [sign] at same
    cases same
  | bare =>
    rw [sign] at same
    cases same
    cases digit

/-- What a bracket at each end holds is the inside of an array. -/
theorem Spells.inside {w : Written} {cs : List Char} (h : Spells (.value w) ('[' :: (cs ++ [']']))) :
    ∃ ws, w = .array ws ∧ Spells (.items ws) cs := by
  generalize whole : '[' :: (cs ++ [']']) = text at h
  cases h with
  | null | true | false | string | object => cases whole
  | number n => exact absurd whole (numeral_ne_bracket n.form _)
  | @array ws ds inside =>
    obtain ⟨same, -⟩ := List.append_inj' (List.cons.inj whole).2 rfl
    exact ⟨ws, rfl, same ▸ inside⟩
  | before blank =>
    cases whole
    cases blank
  | @after w c ds value blank =>
    have last : (']' : Char) = c := by
      have ends := congrArg List.getLast? whole
      rw [← List.cons_append, List.getLast?_concat, List.getLast?_concat] at ends
      exact Option.some.inj ends
    rw [← last] at blank
    cases blank

theorem Spells.append_items {ws vs : List Written} {cs ds : List Char} (filled : ws ≠ [])
    (front : Spells (.items ws) cs)
    (more : vs ≠ []) (back : Spells (.items vs) ds) : Spells (.items (ws ++ vs)) (cs ++ ',' :: ds) := by
  generalize whole : Part.items ws = part at front
  induction front generalizing ws with
  | noItems =>
    cases whole
    exact absurd rfl filled
  | item value =>
    cases whole
    exact .items value back more
  | items first _ filledRest _ ih =>
    cases whole
    rw [List.append_assoc, List.cons_append]
    exact .items first (ih filledRest rfl) (List.append_ne_nil_of_left_ne_nil filledRest _)
  | _ => cases whole

end Json.Source

namespace Decode
open Json Json.Source Text

def fieldDocument : Option String → Json
  | none => .null
  | some text => .string text

def rowDocument (row : TextRow) : Json := .array (row.map fieldDocument)

def rowsBody (rows : List TextRow) : List Char := Json.renderItems (rows.map rowDocument)

def IsDocument (w : Written) (bytes : List UInt8) : Prop := ∃ cs, Utf8.encode cs = bytes ∧ Source.Spells (.value w) cs

def wrapped (body : List UInt8) : List UInt8 := 91 :: (body ++ [93])

variable {body a b : List UInt8} {rows x y : List TextRow}

theorem chunkRows_eq_ok : chunkRows body = .ok rows ↔ chunkRows? body = some rows := by
  rw [chunkRows]
  cases chunkRows? body <;> simp

theorem encode_wrapped (cs : List Char) : Utf8.encode ('[' :: (cs ++ [']'])) = wrapped (Utf8.encode cs) := by
  rw [← List.singleton_append, Utf8.encode_append, Utf8.encode_append]
  rfl

theorem encode_eq_wrapped {text : List Char} (h : Utf8.encode text = wrapped body) :
    ∃ cs, text = '[' :: (cs ++ [']']) ∧ Utf8.encode cs = body := by
  obtain ⟨rest, rfl, later⟩ := Utf8.eq_cons_of_encode (by decide) h
  obtain ⟨cs, rfl, inside⟩ := Utf8.eq_append_of_encode (by decide) later
  exact ⟨cs, rfl, inside⟩

/-- A body brings rows exactly if it is one document in its brackets, and then those of the document. -/
theorem chunkRows_iff_document :
    chunkRows body = .ok rows ↔ ∃ w, IsDocument w (wrapped body) ∧ rowsOf? w.source = some rows := by
  simp only [chunkRows_eq_ok, chunkRows?, Option.bind_eq_bind, Option.bind_eq_some_iff, Utf8.decode_eq_some_iff,
    read?_eq_some_iff]
  constructor
  · rintro ⟨cs, rfl, _, ⟨w, spelled, rfl⟩, found⟩
    exact ⟨w, ⟨_, encode_wrapped cs, spelled⟩, found⟩
  · rintro ⟨w, ⟨text, bytes, spelled⟩, found⟩
    obtain ⟨cs, rfl, inside⟩ := encode_eq_wrapped bytes
    exact ⟨cs, inside, _, ⟨w, spelled, rfl⟩, found⟩

theorem chunkRows_iff_items : chunkRows body = .ok rows ↔
    ∃ cs ws, Utf8.encode cs = body ∧ Source.Spells (.items ws) cs ∧
      (ws.map Written.source).mapM rowOf? = some rows := by
  rw [chunkRows_iff_document]
  constructor
  · rintro ⟨w, ⟨text, bytes, spelled⟩, found⟩
    obtain ⟨cs, rfl, inside⟩ := encode_eq_wrapped bytes
    obtain ⟨ws, rfl, items⟩ := spelled.inside
    rw [Written.source, Written.itemSources_eq] at found
    exact ⟨cs, ws, inside, items, found⟩
  · rintro ⟨cs, ws, rfl, items, found⟩
    refine ⟨.array ws, ⟨_, encode_wrapped cs, .array items⟩, ?_⟩
    rw [Written.source, Written.itemSources_eq]
    exact found

theorem mapM_rendered {α : Type} {document : α → Json} {read? : Source → Option α}
    (back : ∀ x, read? (ofJson (document x)) = some x) (xs : List α) :
    (ofJsonItems (xs.map document)).mapM read? = some xs := by
  rw [ofJsonItems_eq, List.map_map, mapM_eq_some, List.forall₂_map_left_iff, List.forall₂_same]
  exact fun x _ => back x

theorem rowOf?_rowDocument (row : TextRow) : rowOf? (ofJson (rowDocument row)) = some row := by
  refine mapM_rendered (fun field => ?_) row
  cases field <;> rfl

theorem literal_rowDocument (row : TextRow) : Literal (rowDocument row) := by
  refine .array fun j member => ?_
  obtain ⟨field, -, rfl⟩ := List.mem_map.mp member
  cases field with
  | none => exact .null
  | some text => exact .string text

theorem chunkRows_rowsBody (rows : List TextRow) : chunkRows (Utf8.encode (rowsBody rows)) = .ok rows := by
  have literal : Literal (.array (rows.map rowDocument)) := by
    refine .array fun j member => ?_
    obtain ⟨row, -, rfl⟩ := List.mem_map.mp member
    exact literal_rowDocument row
  have read : Source.read? ('[' :: (rowsBody rows ++ [']'])) = _ := read?_renderChars literal
  rw [chunkRows_eq_ok, chunkRows?, Utf8.decode_encode, Option.bind_eq_bind, Option.bind_some, read]
  exact mapM_rendered rowOf?_rowDocument rows

/-- Joined bodies bring the rows of both. -/
theorem chunkRows_append (first : chunkRows a = .ok x) (second : chunkRows b = .ok y) (filled : x ≠ [])
    (more : y ≠ []) :
    chunkRows (a ++ 44 :: b) = .ok (x ++ y) := by
  obtain ⟨cs, ws, rfl, front, found⟩ := chunkRows_iff_items.mp first
  obtain ⟨ds, vs, rfl, back, foundMore⟩ := chunkRows_iff_items.mp second
  have written : ∀ {ws : List Written} {x : List TextRow},
      (ws.map Written.source).mapM rowOf? = some x → x ≠ [] → ws ≠ [] := by
    rintro _ x found filled rfl
    cases found
    exact filled rfl
  have joined := front.append_items (written found filled) (written foundMore more) back
  refine chunkRows_iff_items.mpr ⟨cs ++ ',' :: ds, ws ++ vs, ?_, joined, ?_⟩
  · rw [Utf8.encode_append]
    rfl
  · rw [List.map_append, List.mapM_append, found, foundMore]
    rfl

/-- However a result is divided into bodies with rows, the bodies joined bring the rows of all, in their order. -/
theorem chunkRows_intercalate {parts : List (List UInt8 × List TextRow)}
    (bring : ∀ p ∈ parts, chunkRows p.1 = .ok p.2 ∧ p.2 ≠ []) :
    chunkRows (List.intercalate [44] (parts.map (·.1))) = .ok (parts.flatMap (·.2)) := by
  induction parts with
  | nil => exact chunkRows_rowsBody []
  | cons p parts ih =>
    obtain ⟨⟨first, filled⟩, rest⟩ := List.forall_mem_cons.mp bring
    cases parts with
    | nil => simpa [List.intercalate] using first
    | cons q parts =>
      have more : (q :: parts).flatMap (·.2) ≠ [] := by
        rw [List.flatMap_cons]
        exact List.append_ne_nil_of_left_ne_nil (rest q List.mem_cons_self).2 _
      rw [List.flatMap_cons]
      exact chunkRows_append first (ih rest) filled more

/-- The framing of chunks loses nothing: rows come back from their rendering, joined bodies bring the rows of all, and
a body brings rows exactly if it is one document in its brackets, and then those of the document. So where a bracket is
closed early there are no rows, not fewer of them. -/
theorem chunk_framing :
    (∀ rows, chunkRows (Utf8.encode (rowsBody rows)) = .ok rows) ∧ Utf8.encode (rowsBody []) = [] ∧
    (∀ a b x y, chunkRows a = .ok x → chunkRows b = .ok y → x ≠ [] → y ≠ [] → chunkRows (a ++ 44 :: b) = .ok (x ++ y)) ∧
    (∀ parts : List (List UInt8 × List TextRow), (∀ p ∈ parts, chunkRows p.1 = .ok p.2 ∧ p.2 ≠ []) →
      chunkRows (List.intercalate [44] (parts.map (·.1))) = .ok (parts.flatMap (·.2))) ∧
    (∀ body rows, chunkRows body = .ok rows ↔ ∃ w, IsDocument w (wrapped body) ∧ rowsOf? w.source = some rows) ∧
    ∀ body, (∀ w, ¬IsDocument w (wrapped body)) → ∃ message, chunkRows body = .error (.decode message) ∧
      ∀ schema o ordinal, chunk .json schema o ordinal body = .error ((Error.decode message).withChunk ordinal) := by
  refine ⟨chunkRows_rowsBody, rfl, fun a b x y => chunkRows_append, fun parts => chunkRows_intercalate,
    fun body rows => chunkRows_iff_document, ?_⟩
  intro body none
  cases found : chunkRows? body with
  | none =>
    have refused : chunkRows body = .error (.decode "malformed JSON chunk: not a list of rows") := by
      rw [chunkRows, found]
    refine ⟨_, refused, fun schema o ordinal => ?_⟩
    rw [chunk, textChunk, refused]
    rfl
  | some rows =>
    obtain ⟨w, document, -⟩ := chunkRows_iff_document.mp (chunkRows_eq_ok.mpr found)
    exact absurd document (none w)

/-- The first row has a comma and brackets inside of its text; the body after it closes its bracket before its end. -/
theorem chunk_framing_brackets :
    chunkRows (Utf8.encode (rowsBody [[some "],["]]) ++ 44 :: Utf8.encode (rowsBody [[none], [some "\"\\"]])) =
      .ok [[some "],["], [none], [some "\"\\"]] ∧
    ∃ message, chunkRows (Utf8.encode "[\"1\"]],[[\"2\"]".toList) = .error (.decode message) := by
  obtain ⟨rendered, -, joined, -, -, refused⟩ := chunk_framing
  refine ⟨joined _ _ _ _ (rendered _) (rendered _) (List.cons_ne_nil _ _) (List.cons_ne_nil _ _), ?_⟩
  obtain ⟨message, error, -⟩ := refused (Utf8.encode "[\"1\"]],[[\"2\"]".toList) fun w document => by
    obtain ⟨text, bytes, spelled⟩ := document
    obtain ⟨cs, rfl, inside⟩ := encode_eq_wrapped bytes
    obtain rfl := Utf8.encode_inj inside
    have unread : read? ('[' :: ("[\"1\"]],[[\"2\"]".toList ++ [']'])) = none := rfl
    rw [read?_of_spells spelled] at unread
    cases unread
  exact ⟨message, error⟩

end Decode
end RowStream
