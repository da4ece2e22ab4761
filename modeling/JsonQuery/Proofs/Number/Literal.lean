import JsonQuery.Proofs.Number.Spelling
import JsonQuery.Proofs.Regex.Language

/-
The language of number literals.

The spellings of numerals are told as a regular language, one operation for each part of
`-?(0|[1-9][0-9]*)([.][0-9]+)?([eE][+-]?[0-9]+)?`. A well-formed numeral is spelled as a word of
it, and is an integer exactly if its spelling is one of the words without the last two parts.
-/

set_option autoImplicit false

namespace JsonQuery
namespace Numeral

open scoped Computability

/-- Digits: `[0-9]+`. -/
def digitRuns : Language Char := oneOf (·.isDigit = true) * (oneOf (·.isDigit = true))∗

/-- Integers: `-?(0|[1-9][0-9]*)`. -/
def integers : Language Char :=
  (1 + {['-']})
    * ({['0']} + oneOf (fun c => c.isDigit = true ∧ c ≠ '0') * (oneOf (·.isDigit = true))∗)

/-- Fractions: `[.][0-9]+`. -/
def fractions : Language Char := {['.']} * digitRuns

/-- Exponent parts: `[eE][+-]?[0-9]+`. -/
def exponents : Language Char :=
  oneOf (fun c => c = 'e' ∨ c = 'E') * (1 + oneOf fun c => c = '+' ∨ c = '-') * digitRuns

/-- **Number literals**: an integer, and a fraction and an exponent part behind it if there are
any. -/
def literals : Language Char := integers * (1 + fractions) * (1 + exponents)

variable {n : Numeral} {w ds : List Char}

/-! ## Parts -/

theorem mem_oneOf {P : Char → Prop} {c : Char} (h : P c) : [c] ∈ oneOf P := ⟨c, h, rfl⟩

/-- Digits are in the language of digits. -/
theorem mem_digitRuns (h : IsDigits ds) : ds ∈ digitRuns := by
  obtain ⟨d, ds, rfl⟩ := List.exists_cons_of_ne_nil h.1
  exact Language.append_mem_mul (mem_oneOf (h.2 d List.mem_cons_self))
    (mem_kstar_oneOf.mpr fun c hc => h.2 c (List.mem_cons_of_mem _ hc))

/-- The sign and whole part are in the language of integers. -/
theorem mem_integers (h : n.WellFormed) : signText n.negative ++ n.whole ∈ integers := by
  refine Language.append_mem_mul ?_ ?_
  · cases n.negative with
    | true => exact .inr rfl
    | false => exact .inl rfl
  · obtain ⟨d, ds, hwhole⟩ := List.exists_cons_of_ne_nil h.whole.1
    by_cases hd : d = '0'
    · exact .inl (h.leading (by rw [hwhole, hd]; rfl))
    · have hdigits := h.whole.2
      rw [hwhole] at hdigits ⊢
      exact .inr (Language.append_mem_mul (mem_oneOf ⟨hdigits d List.mem_cons_self, hd⟩)
        (mem_kstar_oneOf.mpr fun c hc => hdigits c (List.mem_cons_of_mem _ hc)))

/-- The fraction is in the language of fractions, or absent. -/
theorem mem_fractions (h : ∀ ds ∈ n.fraction, IsDigits ds) :
    fractionText n.fraction ∈ 1 + fractions := by
  cases hf : n.fraction with
  | none => exact .inl rfl
  | some ds => exact .inr ⟨['.'], rfl, ds, mem_digitRuns (h ds hf), rfl⟩

/-- The exponent is in the language of exponents, or absent. -/
theorem mem_exponents (h : n.WellFormed) : exponentText n.exponent ∈ 1 + exponents := by
  cases he : n.exponent with
  | none => exact .inl rfl
  | some e =>
    obtain ⟨hmarker, hsign, hds⟩ := h.exponent e he
    have hsigned : e.sign.toList ∈ (1 : Language Char) + oneOf fun c => c = '+' ∨ c = '-' := by
      cases hs : e.sign with
      | none => exact .inl rfl
      | some c => exact .inr (mem_oneOf (hsign c hs))
    have htext : exponentText (some e) = [e.marker] ++ e.sign.toList ++ e.digits := by
      simp [exponentText, Exponent.text]
    rw [htext]
    exact .inr (Language.append_mem_mul (Language.append_mem_mul (mem_oneOf hmarker) hsigned)
      (mem_digitRuns hds))

/-! ## Numerals -/

/-- **A well-formed numeral is spelled as a number literal.** -/
theorem WellFormed.mem_literals (h : n.WellFormed) : n.text ∈ literals := by
  rw [text_eq]
  exact Language.append_mem_mul (Language.append_mem_mul (mem_integers h)
    (mem_fractions h.fraction)) (mem_exponents h)

/-- There is no blank space in a well-formed numeral. -/
theorem WellFormed.isBlank_eq_false (h : n.WellFormed) : ∀ c ∈ n.text, isBlank c = false := by
  have hdigits {ds : List Char} (hds : IsDigits ds) {c : Char} (hc : c ∈ ds) :
      isBlank c = false := isBlank_of_isDigit (hds.2 c hc)
  intro c hc
  rw [text_eq] at hc
  simp only [List.mem_append] at hc
  rcases hc with ((hc | hc) | hc) | hc
  · unfold signText at hc
    split at hc
    · rw [List.mem_singleton.mp hc]
      rfl
    · cases hc
  · exact hdigits h.whole hc
  · cases hf : n.fraction with
    | none =>
      rw [hf] at hc
      cases hc
    | some ds =>
      rw [hf] at hc
      rcases List.mem_cons.mp hc with rfl | hc
      · rfl
      · exact hdigits (h.fraction ds hf) hc
  · cases he : n.exponent with
    | none =>
      rw [he] at hc
      cases hc
    | some e =>
      obtain ⟨hmarker, hsign, hds⟩ := h.exponent e he
      rw [he, exponentText, Exponent.text, List.mem_cons, List.mem_append] at hc
      rcases hc with rfl | hc | hc
      · rcases hmarker with heq | heq <;>
        · rw [heq]
          rfl
      · rcases hsign c (Option.mem_toList.mp hc) with rfl | rfl <;>
        rfl
      · exact hdigits hds hc

/-- An integer is written with digits and a minus sign. -/
theorem isDigit_of_mem_integers (h : w ∈ integers) : ∀ c ∈ w, c = '-' ∨ c.isDigit = true := by
  obtain ⟨sign, hsign, whole, hwhole, rfl⟩ := h
  intro c hc
  rcases List.mem_append.mp hc with hc | hc
  · rcases hsign with rfl | rfl
    · cases hc
    · exact .inl (List.mem_singleton.mp hc)
  · rcases hwhole with rfl | ⟨_, ⟨d, ⟨hd, -⟩, rfl⟩, ds, hds, rfl⟩
    · rw [List.mem_singleton.mp hc]
      exact .inr rfl
    · rcases List.mem_cons.mp hc with rfl | hc
      · exact .inr hd
      · exact .inr (mem_kstar_oneOf.mp hds c hc)

/-- **A well-formed numeral is an integer exactly if it is spelled as one.** -/
theorem WellFormed.isInteger_iff (h : n.WellFormed) : n.isInteger = true ↔ n.text ∈ integers := by
  rw [isInteger, Bool.and_eq_true, Option.isNone_iff_eq_none, Option.isNone_iff_eq_none]
  constructor
  · rintro ⟨hfraction, hexponent⟩
    rw [text_eq, hfraction, hexponent, fractionText, exponentText, List.append_nil,
      List.append_nil]
    exact mem_integers h
  · intro hmem
    have hchars := isDigit_of_mem_integers hmem
    rw [text_eq] at hchars
    constructor
    -- a point or a marker would stand in the spelling, and neither is a digit
    · rw [Option.eq_none_iff_forall_ne_some]
      intro ds hf
      have hpoint := hchars '.' (by simp [hf, fractionText])
      exact absurd hpoint (by decide)
    · rw [Option.eq_none_iff_forall_ne_some]
      intro e he
      have hmarker := hchars e.marker (by simp [he, exponentText, Exponent.text])
      rcases (h.exponent e he).1 with heq | heq <;>
      · rw [heq] at hmarker
        exact absurd hmarker (by decide)

end Numeral
end JsonQuery
