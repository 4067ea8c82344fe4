import RowStream.Proofs.Numerals
import RowStream.Proofs.RenderedDocuments

/-! # Numbers in documents

A number of a document is a numeral of a stricter form, and is kept as it is written but for its exponent, which gets
the mark `e` and a sign. What is kept denotes the same unscaled integers as what was written. -/
namespace RowStream

namespace Number
open RowStream.Text

/-- A sign of an exponent is kept as it is, and written where there is none. -/
def Sign.kept : Sign → Sign
  | bare => plus
  | s => s

namespace Decimal

def Exponent.kept (x : Exponent) : Exponent := { x with mark := 'e', sign := x.sign.kept, isMark := .inl rfl }

def Numeral.kept (n : Numeral) : Numeral := { n with exponent := n.exponent.map Exponent.kept }

theorem read?_kept (s : Sign) {ds : List Char} (filled : ds ≠ []) (digits : allDigits ds = true) :
    Range.int64.read? (s.kept.text ++ ds) = Range.int64.read? (s.text ++ ds) := by
  cases s with
  | bare =>
    have found : natural? ds = some (ofDigits ds) := natural?_eq_some.mpr ⟨filled, digits, rfl⟩
    show Range.int64.read? ('+' :: ds) = Range.int64.read? ds
    rw [Range.read?_digits _ filled digits, Range.read?, found]
    rfl
  | plus => rfl
  | minus => rfl

theorem cutExponent_text {mantissa : List Char} (unmarked : ∀ c ∈ mantissa, isExponentMark c = false) (x : Exponent) :
    cutExponent (mantissa ++ x.text) = (Range.int64.read? (x.sign.text ++ x.digits)).map (mantissa, ·) := by
  have plain : ∀ c ∈ mantissa, (!isExponentMark c) = true := fun c hc => by rw [unmarked c hc]; rfl
  have marked : isExponentMark x.mark = true := by
    rcases x.isMark with same | same <;> rw [same] <;> rfl
  rw [cutExponent, List.span_eq_takeWhile_dropWhile, List.takeWhile_append_of_pos plain,
    List.dropWhile_append_of_pos plain]
  cases read : Range.int64.read? (x.sign.text ++ x.digits) <;> simp [Exponent.text, marked, read]

theorem Numeral.unmarked (n : Numeral) : ∀ c ∈ n.mantissa, isExponentMark c = false := by
  intro c member
  rcases n.mem_mantissa member with digit | rfl
  · have e := ne_of_isDigit digit (show isDigit 'e' = false by rfl)
    have E := ne_of_isDigit digit (show isDigit 'E' = false by rfl)
    simp [isExponentMark, e, E]
  · rfl

theorem Parts.read?_kept (n : Numeral) : Parts.read? n.kept.text = Parts.read? n.text := by
  have cut : cutExponent (n.mantissa ++ n.kept.exponent.elim [] Exponent.text) =
      cutExponent (n.mantissa ++ n.exponent.elim [] Exponent.text) := by
    cases written : n.exponent with
    | none => simp [Numeral.kept, written]
    | some x =>
      simp only [Numeral.kept, written, Option.map_some, Option.elim_some, cutExponent_text n.unmarked]
      exact congrArg _ (Decimal.read?_kept x.sign x.filled x.areDigits)
  have kept : cutSign n.kept.text = (n.sign.isNegative, n.mantissa ++ n.kept.exponent.elim [] Exponent.text) :=
    n.kept.cutSign_text
  rw [Parts.read?, Parts.read?, kept, n.cutSign_text]
  simp only [cut]

theorem Numeral.noBlank (n : Numeral) : ∀ c ∈ n.text, isBlank c = false := by
  intro c member
  have sign : ∀ {s : Sign}, c ∈ s.text → isBlank c = false := by
    intro s inSign
    cases s with
    | bare => cases inSign
    | plus | minus =>
      obtain rfl := List.mem_singleton.mp inSign
      rfl
  rcases List.mem_append.mp member with inSign | body
  · exact sign inSign
  rcases List.mem_append.mp body with mantissa | exponent
  · rcases n.mem_mantissa mantissa with digit | rfl
    · exact isBlank_of_isDigit digit
    · rfl
  · cases written : n.exponent with
    | none =>
      rw [written] at exponent
      cases exponent
    | some x =>
      rw [written] at exponent
      rcases List.mem_cons.mp exponent with mark | later
      · rcases x.isMark with same | same <;> rw [mark, same] <;> rfl
      rcases List.mem_append.mp later with inSign | digit
      · exact sign inSign
      · exact isBlank_of_isDigit (allDigits_iff.mp x.areDigits c digit)

/-- Nothing is lost by the way a number is kept, at any scale. -/
theorem unscaled?_kept (n : Numeral) (scale : Nat) : unscaled? n.kept.text scale = unscaled? n.text scale := by
  rw [unscaled?, unscaled?, trim_eq_self_of_forall n.noBlank, trim_eq_self_of_forall n.kept.noBlank, Parts.read?_kept]

end Decimal
end Number
namespace Json.Source
open RowStream.Text RowStream.Number RowStream.Number.Decimal

/-- The digits before a point: no zero stands before others. -/
structure IsWhole (ds : List Char) : Prop where
  filled : ds ≠ []
  digits : allDigits ds = true
  noZero : ds.head? = some '0' → ds = ['0']

/-- The numerals of documents: there is no plus sign, and digits stand on both sides of a point. -/
structure IsNumeral (n : Numeral) : Prop where
  sign : n.sign ≠ .plus
  whole : IsWhole n.whole
  fraction : n.fraction ≠ some []

/-- A numeral of a document. A zero with a minus sign is one of its own. -/
structure JsonNumeral extends Numeral where
  form : IsNumeral toNumeral

def IsMark (c : Char) : Prop := c = 'e' ∨ c = 'E'

/-- Characters that lead from a phase to another one, and what is kept of them. -/
inductive NumberPhase.Leads : NumberPhase → List Char → NumberPhase → List Char → Prop
  | nil (p) : Leads p [] p []
  | cons {p q last c cs added kept} (step : p.step c = some (q, added)) (rest : Leads q cs last kept) :
      Leads p (c :: cs) last (added ++ kept)

namespace NumberPhase

theorem Leads.append {p q last : NumberPhase} {cs ds kept more : List Char} (h : Leads p cs q kept)
    (rest : Leads q ds last more) : Leads p (cs ++ ds) last (kept ++ more) := by
  induction h with
  | nil => exact rest
  | cons step _ ih =>
    rw [List.append_assoc]
    exact .cons step (ih rest)

theorem Leads.single {p q : NumberPhase} {c : Char} {added : List Char} (step : p.step c = some (q, added)) :
    Leads p [c] q added := by
  have once : Leads p [c] q (added ++ []) := .cons step (.nil q)
  rwa [List.append_nil] at once

/-- A phase that takes digits takes any number of them. -/
theorem leads_digits {p : NumberPhase} (stays : ∀ c, isDigit c = true → p.step c = some (p, [c])) {ds : List Char}
    (digits : allDigits ds = true) : Leads p ds p ds := by
  induction ds with
  | nil => exact .nil p
  | cons d ds ih =>
    obtain ⟨first, rest⟩ := allDigits_append.mp (show allDigits ([d] ++ ds) = true from digits)
    exact .cons (stays d (allDigits_iff.mp first d (List.mem_singleton_self d))) (ih rest)

theorem step_digit {c : Char} (digit : Text.isDigit c = true) :
    ∀ p ∈ [whole, fraction, exponent], p.step c = some (p, [c]) := by
  have own : isDigit c = true := digit
  simp [step, own]

theorem leads_whole {ds : List Char} (h : IsWhole ds) :
    ∃ p, (p = zero ∨ p = whole) ∧ Leads minus ds p ds := by
  obtain ⟨d, rest, rfl⟩ := List.exists_cons_of_ne_nil h.filled
  obtain ⟨first, others⟩ := allDigits_append.mp (show allDigits ([d] ++ rest) = true from h.digits)
  have digit : isDigit d = true := allDigits_iff.mp first d (List.mem_singleton_self d)
  by_cases isZero : d = '0'
  · subst isZero
    obtain ⟨-, rfl⟩ := List.cons.inj (h.noZero rfl)
    exact ⟨zero, .inl rfl, .single rfl⟩
  · have step : minus.step d = some (whole, [d]) := by simp [NumberPhase.step, isZero, digit]
    exact ⟨whole, .inr rfl, .cons step (leads_digits (fun c hc => step_digit hc whole (by simp)) others)⟩

theorem leads_fraction {p : NumberPhase} (before : p = zero ∨ p = whole) {ds : List Char} (filled : ds ≠ [])
    (digits : allDigits ds = true) : Leads p ('.' :: ds) fraction ('.' :: ds) := by
  obtain ⟨d, rest, rfl⟩ := List.exists_cons_of_ne_nil filled
  obtain ⟨first, others⟩ := allDigits_append.mp (show allDigits ([d] ++ rest) = true from digits)
  have digit : isDigit d = true := allDigits_iff.mp first d (List.mem_singleton_self d)
  have dot : p.step '.' = some (point, ['.']) := by rcases before with rfl | rfl <;> rfl
  have step : point.step d = some (fraction, [d]) := by simp [NumberPhase.step, digit]
  exact .cons dot (.cons step (leads_digits (fun c hc => step_digit hc fraction (by simp)) others))

theorem leads_exponent {p : NumberPhase} (before : p = zero ∨ p = whole ∨ p = fraction) (x : Exponent) :
    Leads p x.text exponent x.kept.text := by
  have marked : p.step x.mark = some (mark, ['e']) := by
    rcases before with rfl | rfl | rfl <;> rcases x.isMark with same | same <;> rw [same] <;> rfl
  obtain ⟨d, rest, split⟩ := List.exists_cons_of_ne_nil x.filled
  have digits := x.areDigits
  rw [split] at digits
  obtain ⟨first, others⟩ := allDigits_append.mp (show allDigits ([d] ++ rest) = true from digits)
  have digit : isDigit d = true := allDigits_iff.mp first d (List.mem_singleton_self d)
  have noSign : d ≠ '+' ∧ d ≠ '-' := ⟨ne_of_isDigit digit rfl, ne_of_isDigit digit rfl⟩
  have more := leads_digits (fun c hc => step_digit hc exponent (by simp)) others
  have signed : ∀ c ∈ ['+', '-'], Leads mark (c :: d :: rest) exponent (c :: d :: rest) := by
    intro c sign
    have step : markSign.step d = some (exponent, [d]) := by simp [NumberPhase.step, digit]
    have given : mark.step c = some (markSign, [c]) := by
      simp only [List.mem_cons, List.not_mem_nil, or_false] at sign
      rcases sign with rfl | rfl <;> rfl
    exact .cons given (.cons step more)
  have tail : Leads mark (x.sign.text ++ x.digits) exponent (x.sign.kept.text ++ x.digits) := by
    rw [split]
    cases x.sign with
    | bare =>
      have step : mark.step d = some (exponent, ['+', d]) := by simp [NumberPhase.step, digit, noSign]
      show Leads mark (d :: rest) exponent (['+', d] ++ rest)
      exact .cons step more
    | plus => exact signed '+' (by simp)
    | minus => exact signed '-' (by simp)
  exact .cons marked tail

/-- A numeral without its sign is read to its end. -/
theorem leads_numeral {n : Numeral} (h : IsNumeral n) :
    ∃ p, Leads minus (n.mantissa ++ n.exponent.elim [] Exponent.text) p
      (n.mantissa ++ n.kept.exponent.elim [] Exponent.text) ∧ p.complete = true := by
  obtain ⟨first, before, whole⟩ := leads_whole h.whole
  obtain ⟨p, place, mantissa⟩ :
      ∃ p, (p = zero ∨ p = NumberPhase.whole ∨ p = fraction) ∧ Leads minus n.mantissa p n.mantissa := by
    rw [Numeral.mantissa]
    cases written : n.fraction with
    | none =>
      refine ⟨first, before.imp_right .inl, ?_⟩
      rwa [Option.elim_none, List.append_nil]
    | some ds =>
      have filled : ds ≠ [] := fun none => h.fraction (none ▸ written)
      have digits := n.areDigits
      rw [written] at digits
      exact ⟨fraction, .inr (.inr rfl), whole.append (leads_fraction before filled (allDigits_append.mp digits).2)⟩
  cases written : n.exponent with
  | none =>
    have kept : n.kept.exponent = none := by rw [Numeral.kept, written]; rfl
    rw [kept, Option.elim_none, List.append_nil]
    exact ⟨p, mantissa, by rcases place with rfl | rfl | rfl <;> rfl⟩
  | some x =>
    have kept : n.kept.exponent = some x.kept := by rw [Numeral.kept, written]; rfl
    rw [kept, Option.elim_some, Option.elim_some]
    exact ⟨exponent, mantissa.append (leads_exponent place x), rfl⟩

inductive IsMantissa : List Char → Prop
  | whole {s ds} (sign : s ≠ Sign.plus) (whole : IsWhole ds) : IsMantissa (s.text ++ ds)
  | fraction {s ds fs} (sign : s ≠ Sign.plus) (whole : IsWhole ds) (filled : fs ≠ []) (digits : allDigits fs = true) :
      IsMantissa (s.text ++ (ds ++ '.' :: fs))

/-- What has been read of a number in a phase, and what is kept of it. -/
inductive Partial : NumberPhase → List Char → List Char → Prop
  | minus : Partial minus ['-'] ['-']
  | zero {s} (sign : s ≠ Sign.plus) : Partial zero (s.text ++ ['0']) (s.text ++ ['0'])
  | whole {s d ds} (sign : s ≠ Sign.plus) (noZero : d ≠ '0') (digits : allDigits (d :: ds) = true) :
      Partial whole (s.text ++ d :: ds) (s.text ++ d :: ds)
  | point {s ds} (sign : s ≠ Sign.plus) (whole : IsWhole ds) :
      Partial point (s.text ++ (ds ++ ['.'])) (s.text ++ (ds ++ ['.']))
  | fraction {s ds fs} (sign : s ≠ Sign.plus) (whole : IsWhole ds) (filled : fs ≠ []) (digits : allDigits fs = true) :
      Partial fraction (s.text ++ (ds ++ '.' :: fs)) (s.text ++ (ds ++ '.' :: fs))
  | mark {cs c} (mantissa : IsMantissa cs) (isMark : IsMark c) : Partial mark (cs ++ [c]) (cs ++ ['e'])
  | markSign {cs c} {s : Sign} (mantissa : IsMantissa cs) (isMark : IsMark c) (written : s ≠ .bare) :
      Partial markSign (cs ++ c :: s.text) (cs ++ 'e' :: s.text)
  | exponent {cs} (mantissa : IsMantissa cs) (x : Exponent) : Partial exponent (cs ++ x.text) (cs ++ x.kept.text)

variable {p q : NumberPhase} {raw kept added : List Char} {c : Char}

theorem isWhole_zero : IsWhole ['0'] := ⟨List.cons_ne_nil _ _, rfl, fun _ => rfl⟩

theorem isWhole_cons {d : Char} {ds : List Char} (noZero : d ≠ '0') (digits : allDigits (d :: ds) = true) :
    IsWhole (d :: ds) :=
  ⟨List.cons_ne_nil _ _, digits, fun zero => absurd (Option.some.inj zero) noZero⟩

theorem allDigits_singleton {d : Char} (digit : isDigit d = true) : allDigits [d] = true :=
  allDigits_iff.mpr fun _ member => List.mem_singleton.mp member ▸ digit

theorem allDigits_snoc {ds : List Char} {d : Char} (digits : allDigits ds = true) (digit : isDigit d = true) :
    allDigits (ds ++ [d]) = true :=
  allDigits_append.mpr ⟨digits, allDigits_singleton digit⟩

theorem Partial.step_exponent {cs : List Char} {x : Exponent} (mantissa : IsMantissa cs) (digit : isDigit c = true) :
    Partial .exponent (cs ++ x.text ++ [c]) (cs ++ x.kept.text ++ [c]) := by
  have longer := Partial.exponent mantissa
    { x with digits := x.digits ++ [c], filled := by simp, areDigits := allDigits_snoc x.areDigits digit }
  simpa [Exponent.text, Exponent.kept] using longer

/-- Every phase has read what it says. -/
theorem Partial.step (h : Partial p raw kept) (step : p.step c = some (q, added)) :
    Partial q (raw ++ [c]) (kept ++ added) := by
  have mark_step : ∀ {cs}, IsMantissa cs → IsMark c → some (NumberPhase.mark, ['e']) = some (q, added) →
      Partial q (cs ++ [c]) (cs ++ added) := by
    intro cs mantissa isMark same
    cases same
    exact .mark mantissa isMark
  cases h with
  | minus =>
    simp only [NumberPhase.step] at step
    split at step
    · rename_i isZero
      cases step
      rw [isZero]
      exact .zero (s := .minus) (by decide)
    · rename_i noZero
      split at step
      · rename_i digit
        cases step
        exact .whole (s := .minus) (by decide) noZero (allDigits_singleton digit)
      · cases step
  | @zero s sign =>
    simp only [NumberPhase.step] at step
    split at step
    · rename_i dot
      cases step
      rw [dot, List.append_assoc]
      exact .point sign isWhole_zero
    · split at step
      · exact mark_step (.whole sign isWhole_zero) ‹_› step
      · cases step
  | @whole s d ds sign noZero digits =>
    simp only [NumberPhase.step] at step
    split at step
    · rename_i digit
      cases step
      rw [List.append_assoc, List.cons_append]
      exact .whole sign noZero (allDigits_snoc digits digit)
    · split at step
      · rename_i dot
        cases step
        rw [dot, List.append_assoc]
        exact .point sign (isWhole_cons noZero digits)
      · split at step
        · exact mark_step (.whole sign (isWhole_cons noZero digits)) ‹_› step
        · cases step
  | @point s ds sign whole =>
    simp only [NumberPhase.step] at step
    split at step
    · rename_i digit
      cases step
      have first := Partial.fraction sign whole (List.cons_ne_nil c []) (allDigits_singleton digit)
      simpa using first
    · cases step
  | @fraction s ds fs sign whole filled digits =>
    simp only [NumberPhase.step] at step
    split at step
    · rename_i digit
      cases step
      have longer := Partial.fraction sign whole (fun none => filled (List.append_eq_nil_iff.mp none).1)
        (allDigits_snoc digits digit)
      simpa using longer
    · split at step
      · exact mark_step (.fraction sign whole filled digits) ‹_› step
      · cases step
  | @mark cs m mantissa isMark =>
    simp only [NumberPhase.step] at step
    split at step
    · rename_i signed
      cases step
      rw [List.append_assoc, List.append_assoc]
      rcases signed with rfl | rfl
      · exact .markSign (s := .plus) mantissa isMark (by decide)
      · exact .markSign (s := .minus) mantissa isMark (by decide)
    · split at step
      · rename_i digit
        cases step
        have first := Partial.exponent mantissa ⟨m, .bare, [c], isMark, List.cons_ne_nil _ _, allDigits_singleton digit⟩
        simpa [Exponent.text, Exponent.kept, Sign.kept, Sign.text] using first
      · cases step
  | @markSign cs m s mantissa isMark written =>
    simp only [NumberPhase.step] at step
    split at step
    · rename_i digit
      cases step
      have first := Partial.exponent mantissa ⟨m, s, [c], isMark, List.cons_ne_nil _ _, allDigits_singleton digit⟩
      have same : s.kept = s := by cases s <;> first | rfl | exact absurd rfl written
      simpa [Exponent.text, Exponent.kept, same] using first
    · cases step
  | @exponent cs mantissa x =>
    simp only [NumberPhase.step] at step
    split at step
    · rename_i digit
      cases step
      exact .step_exponent mantissa digit
    · cases step

theorem IsMantissa.numeral {cs : List Char} (h : IsMantissa cs) :
    ∃ n : Numeral, IsNumeral n ∧ n.exponent = none ∧ n.sign.text ++ n.mantissa = cs := by
  cases h with
  | @whole s ds sign whole =>
    refine ⟨⟨s, ds, none, none, by simpa using whole.filled, by simpa using whole.digits⟩,
      ⟨sign, whole, nofun⟩, rfl, ?_⟩
    simp [Numeral.mantissa]
  | @fraction s ds fs sign whole filled digits =>
    refine ⟨⟨s, ds, some fs, none, by simp [whole.filled], allDigits_append.mpr ⟨whole.digits, digits⟩⟩,
      ⟨sign, whole, fun none => filled (Option.some.inj none)⟩, rfl, rfl⟩

/-- A number that may end is a numeral, and its kept form is what is kept. -/
theorem Partial.numeral (h : Partial p raw kept) (complete : p.complete = true) :
    ∃ n : Numeral, IsNumeral n ∧ n.text = raw ∧ n.kept.text = kept := by
  have plain : ∀ {cs}, IsMantissa cs → ∃ n : Numeral, IsNumeral n ∧ n.text = cs ∧ n.kept.text = cs := by
    intro cs mantissa
    obtain ⟨n, numeral, none, text⟩ := mantissa.numeral
    refine ⟨n, numeral, ?_, ?_⟩
    · simpa [Numeral.text, none] using text
    · simpa [Numeral.text, Numeral.kept, Numeral.mantissa, none] using text
  cases h with
  | minus | point | mark | markSign => cases complete
  | zero sign => exact plain (.whole sign isWhole_zero)
  | whole sign noZero digits => exact plain (.whole sign (isWhole_cons noZero digits))
  | fraction sign whole filled digits => exact plain (.fraction sign whole filled digits)
  | exponent mantissa x =>
    obtain ⟨n, numeral, -, rfl⟩ := mantissa.numeral
    refine ⟨{ n with exponent := some x }, ⟨numeral.sign, numeral.whole, numeral.fraction⟩, ?_, ?_⟩
    · simp [Numeral.text, Numeral.mantissa]
    · simp [Numeral.text, Numeral.mantissa, Numeral.kept]

end NumberPhase
end Json.Source
end RowStream
