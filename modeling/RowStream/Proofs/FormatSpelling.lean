import RowStream.SessionFormat

/-! # Spelling formats

A format that spells numeric fields and separators is cut into exactly these pieces, and the pattern it becomes
has one item for each piece. -/
namespace RowStream.SessionFormat
open RowStream.Text RowStream.Calendar.Pattern

/-- The fields that are written as digits of a fixed width. -/
def numericFields : List Field := [.year, .month, .day, .hour, .minute, .second]

def spelling : Field → List Char
  | .year => ['Y', 'Y', 'Y', 'Y']
  | .month => ['M', 'M']
  | .day => ['D', 'D']
  | .hour => ['H', 'H', '2', '4']
  | .minute => ['M', 'I']
  | .second => ['S', 'S']
  | _ => []

/-- A character that can stand between fields without quotes. -/
def isSeparator (c : Char) : Bool := !c.isAlphanum && c != '"'

namespace Piece

def source : Piece → List Char
  | .field f => SessionFormat.spelling f
  | .literal c => [c]

def field? : Piece → Option Field
  | .field f => some f
  | .literal _ => none

def item : Piece → Item
  | .field f => .field f
  | .literal c => plain c

end Piece

/-- Numeric fields, none of them twice, and separators. -/
structure Simple (ps : List Piece) : Prop where
  numeric : ∀ f ∈ ps.filterMap Piece.field?, f ∈ numericFields
  once : (ps.filterMap Piece.field?).Nodup
  separators : ∀ c, .literal c ∈ ps → isSeparator c = true

theorem tokens_eq : tokens = [(['T', 'Z', 'H', ':', 'T', 'Z', 'M'], Field.colonOffset),
    (['T', 'Z', 'H', 'T', 'Z', 'M'], .offset),
    (['T', 'Z', 'H'], .looseOffset), (['Y', 'Y', 'Y', 'Y'], .year), (['Y', 'Y'], .shortYear),
    (['M', 'M', 'M', 'M'], .longMonthName), (['M', 'O', 'N'], .monthName), (['M', 'M'], .month), (['D', 'D'], .day),
    (['D', 'Y'], .weekdayName), (['H', 'H', '2', '4'], .hour), (['H', 'H', '1', '2'], .hour12), (['H', 'H'], .hour),
    (['A', 'M'], .halfDay), (['P', 'M'], .halfDay), (['M', 'I'], .minute), (['S', 'S'], .second)] := rfl

/-- Only the months have longer tokens that begin like theirs. -/
theorem token?_spelling {f : Field} (numeric : f ∈ numericFields) {rest : List Char}
    (short : f = .month → upper (rest.take 2) ≠ ['M', 'M']) : token? (spelling f ++ rest) = some (f, rest) := by
  simp only [numericFields, List.mem_cons, List.not_mem_nil, or_false] at numeric
  rcases numeric with rfl | rfl | rfl | rfl | rfl | rfl
  · simp [token?, tokens_eq, dropToken?, upper, spelling]
  · have longer : List.take 2 (List.map Char.toUpper rest) ≠ ['M', 'M'] := by
      rw [← List.map_take]
      exact short rfl
    simp [token?, tokens_eq, dropToken?, upper, spelling, longer]
  · simp [token?, tokens_eq, dropToken?, upper, spelling]
  · simp [token?, tokens_eq, dropToken?, upper, spelling]
  · simp [token?, tokens_eq, dropToken?, upper, spelling]
  · simp [token?, tokens_eq, dropToken?, upper, spelling]

section
variable {c : Char} (sep : isSeparator c = true)
include sep

theorem toUpper_of_isSeparator : c.toUpper = c := by
  have noLetter : (!(c.isUpper || c.isLower || c.isDigit) && c != '"') = true := sep
  have outside : ¬('a'.val ≤ c.val ∧ c.val ≤ 'z'.val) := by
    rintro ⟨low, high⟩
    have lower : c.isLower = true := Bool.and_eq_true_iff.mpr ⟨decide_eq_true low, decide_eq_true high⟩
    simp [lower] at noLetter
  exact dif_neg outside

theorem dropToken?_of_isSeparator {letter : Char} (isLetter : letter.isAlphanum = true) (letters rest : List Char) :
    dropToken? (letter :: letters) (c :: rest) = none := by
  have other : c ≠ letter := by
    rintro rfl
    simp [isSeparator, isLetter] at sep
  rw [dropToken?, if_neg]
  simp [upper, toUpper_of_isSeparator sep, other]

theorem token?_of_isSeparator (rest : List Char) : token? (c :: rest) = none := by
  rw [token?, List.findSome?_eq_none_iff]
  intro t member
  obtain ⟨letter, letters, isLetter, same⟩ : ∃ letter letters, letter.isAlphanum = true ∧ t.1 = letter :: letters := by
    simp only [tokens_eq, List.mem_cons, List.not_mem_nil, or_false] at member
    rcases member with
      rfl | rfl | rfl | rfl | rfl | rfl | rfl | rfl | rfl | rfl | rfl | rfl | rfl | rfl | rfl | rfl | rfl
    all_goals exact ⟨_, _, rfl, rfl⟩
  rw [same, dropToken?_of_isSeparator sep isLetter]
  rfl

end

theorem cut_token {cs rest : List Char} {f : Field} (found : token? cs = some (f, rest)) (done : List Piece) :
    cut done cs = cut (.field f :: done) rest := by
  rw [cut]
  split
  · rename_i h
    rw [found] at h
    cases h
    rfl
  · rename_i h
    rw [found] at h
    cases h

theorem cut_nil (done : List Piece) : cut done [] = .ok done.reverse := by
  rw [cut]
  rfl

theorem cut_separator {c : Char} (sep : isSeparator c = true) (done : List Piece) (rest : List Char) :
    cut done (c :: rest) = cut (.literal c :: done) rest := by
  have noToken := token?_of_isSeparator sep rest
  have noFraction := dropToken?_of_isSeparator sep (show 'F'.isAlphanum = true by rfl) ['F'] rest
  have noQuote : c ≠ '"' := by
    rintro rfl
    cases sep
  rw [cut]
  split
  · rename_i h
    rw [noToken] at h
    cases h
  · split
    · rename_i h
      rw [noFraction] at h
      cases h
    · exact if_neg noQuote

namespace Simple
variable {p : Piece} {ps : List Piece}

theorem of_cons (h : Simple (p :: ps)) : Simple ps := by
  obtain ⟨numeric, once, separators⟩ := h
  have later : ∀ f ∈ ps.filterMap Piece.field?, f ∈ (p :: ps).filterMap Piece.field? := by
    intro f member
    obtain ⟨q, inside, same⟩ := List.mem_filterMap.mp member
    exact List.mem_filterMap.mpr ⟨q, List.mem_cons_of_mem p inside, same⟩
  refine ⟨fun f member => numeric f (later f member), ?_, fun c member => separators c (List.mem_cons_of_mem p member)⟩
  exact once.sublist ((List.sublist_cons_self p ps).filterMap _)

/-- What follows the month does not make its token a longer one. -/
theorem short_month (h : Simple (.field .month :: ps)) : upper ((ps.flatMap Piece.source).take 2) ≠ ['M', 'M'] := by
  cases ps with
  | nil => nofun
  | cons q qs =>
    cases q with
    | literal c =>
      have sep := h.separators c (by simp)
      have other : c ≠ 'M' := by
        rintro rfl
        cases sep
      simp [Piece.source, upper, toUpper_of_isSeparator sep, other]
    | field f =>
      have numeric := h.numeric f (by simp [Piece.field?])
      have other : f ≠ .month := by
        rintro rfl
        have once := h.once
        simp [Piece.field?] at once
      simp only [numericFields, List.mem_cons, List.not_mem_nil, or_false] at numeric
      rcases numeric with rfl | rfl | rfl | rfl | rfl | rfl
      · simp [Piece.source, upper, spelling]
      · exact absurd rfl other
      all_goals simp [Piece.source, upper, spelling]

/-- A format is cut into the pieces that it spells. -/
theorem cut_source (h : Simple ps) (done : List Piece) :
    cut done (ps.flatMap Piece.source) = .ok (done.reverse ++ ps) := by
  induction ps generalizing done with
  | nil => rw [List.flatMap_nil, cut_nil, List.append_nil]
  | cons p ps ih =>
    have split : done.reverse ++ p :: ps = (p :: done).reverse ++ ps := by simp
    rw [List.flatMap_cons, split, ← ih h.of_cons]
    cases p with
    | literal c => exact cut_separator (h.separators c List.mem_cons_self) done _
    | field f =>
      have numeric := h.numeric f (by simp [Piece.field?])
      refine cut_token (token?_spelling numeric ?_) done
      rintro rfl
      exact h.short_month

theorem pieces_source (h : Simple ps) : pieces (ps.flatMap Piece.source) = .ok ps := h.cut_source []

theorem usable?_source (h : Simple ps) :
    OutputFormats.usable? (some (String.ofList (ps.flatMap Piece.source))) = some (ps.flatMap Piece.spelling) := by
  rw [OutputFormats.usable?, Option.bind_eq_bind, Option.bind_some, pattern, String.toList_ofList, h.pieces_source]
  rfl

end Simple

theorem items_plain {c : Char} (other : c ≠ '%') (cs : List Char) : items (c :: cs) = plain c :: items cs := by
  rw [items] <;> simp [other]

theorem spelling_literal {c : Char} (other : c ≠ '%') : (Piece.literal c).spelling = [c] := by
  rw [Piece.spelling]
  simpa using other

/-- The pattern of any pieces has one item for each: no literal can become a part of a field. -/
theorem items_spelling (ps : List Piece) : items (ps.flatMap Piece.spelling) = ps.map Piece.item := by
  induction ps with
  | nil => rfl
  | cons p ps ih =>
    rw [List.flatMap_cons, List.map_cons, ← ih]
    cases p with
    | field f => exact Calendar.Pattern.items_spelling f _
    | literal c =>
      by_cases percent : c = '%'
      · subst percent
        rfl
      · rw [spelling_literal percent, List.singleton_append, items_plain percent]
        rfl

end RowStream.SessionFormat
