import JsonQuery.Proofs.Token.Span

/-
Numerals that scan as they are spelled.

The scan of a numeral takes as much as it can, so a numeral is read back from its
spelling when its parts are digits where digits belong (`Numeral.WellFormed`) and the
text behind it does not go on with it (`Numeral.Ends`).
-/

set_option autoImplicit false

namespace JsonQuery

/-! ## Digits -/

/-- What a number is printed with are digits. -/
theorem isDigits_toDigits (n : Nat) : IsDigits (Nat.toDigits 10 n) :=
  ⟨Nat.toDigits_ne_nil, fun _ hc => Nat.isDigit_of_mem_toDigits (by decide) (by decide) hc⟩

theorem IsDigits.append {ds es : List Char} (hds : IsDigits ds)
    (hes : ∀ c ∈ es, c.isDigit = true) : IsDigits (ds ++ es) := by
  refine ⟨by simp [hds.1], fun c hc => ?_⟩
  rcases List.mem_append.mp hc with hc | hc
  · exact hds.2 c hc
  · exact hes c hc

theorem isDigit_replicate_zero (n : Nat) : ∀ c ∈ List.replicate n '0', c.isDigit = true := by
  intro c hc
  rw [List.eq_of_mem_replicate hc]
  rfl

/-- A digit is no sign. -/
theorem ne_of_isDigit {c d : Char} (hc : c.isDigit = true) (hd : d.isDigit = false) : c ≠ d := by
  rintro rfl
  rw [hc] at hd
  cases hd

/-- **A decimal numeral of a positive number does not begin with zero.** -/
theorem head?_toDigits {n : Nat} (hn : n ≠ 0) : (Nat.toDigits 10 n).head? ≠ some '0' := by
  induction n using Nat.strongRecOn with
  | ind n ih =>
    by_cases hlt : n < 10
    · rw [Nat.toDigits_of_lt_base hlt]
      have hchar : ∀ m < 10, m ≠ 0 → m.digitChar ≠ '0' := by decide
      simpa using hchar n hlt hn
    · rw [Nat.toDigits_of_base_le (by decide) (by omega), List.head?_append_of_ne_nil]
      · exact ih (n / 10) (by omega) (by omega)
      · exact Nat.toDigits_ne_nil

namespace Numeral

/-! ## Ends -/

/-- Whether a text does not go on with a numeral before it. -/
def Ends (rest : List Char) : Prop :=
  ∀ c ∈ rest.head?, c.isDigit = false ∧ c ≠ '.' ∧ c ≠ 'e' ∧ c ≠ 'E'

/-! ## Scanning -/

section Scanning

variable {ds rest : List Char}

/-- A run of digits is cut off whole. -/
theorem span_digits (hds : IsDigits ds) (hrest : ∀ c ∈ rest.head?, c.isDigit = false) :
    (ds ++ rest).span Char.isDigit = (ds, rest) :=
  span_eq_iff.mpr ⟨rfl, hds.2, hrest⟩

/-- A whole part is scanned when it does not begin with a zero, or is zero. -/
theorem scanWhole_digits (hds : IsDigits ds) (hleading : ds.head? = some '0' → ds = ['0'])
    (hrest : ∀ c ∈ rest.head?, c.isDigit = false) :
    scanWhole (ds ++ rest) = some (ds, rest) := by
  cases ds with
  | nil => exact absurd rfl hds.1
  | cons d ds =>
    by_cases hd : d = '0'
    -- behind a leading zero only an end may stand
    · rw [hleading (by rw [hd]; rfl)]
      cases rest with
      | nil => rfl
      | cons c rest =>
        have hc : c.isDigit = false := hrest c rfl
        simp [scanWhole, hc]
    · rw [scanWhole, span_digits hds hrest]
      · rw [List.cons_append]
        rintro cs heq
        rw [List.cons.injEq] at heq
        exact hd heq.1

/-- A fraction is scanned behind its point. -/
theorem scanFraction_digits (hds : IsDigits ds) (hrest : ∀ c ∈ rest.head?, c.isDigit = false) :
    scanFraction ('.' :: (ds ++ rest)) = some (some ds, rest) := by
  cases ds with
  | nil => exact absurd rfl hds.1
  | cons d ds => rw [scanFraction, span_digits hds hrest]

/-- A sign is scanned, or its absence. -/
theorem scanSign_eq {sign : Option Char} (hsign : ∀ c ∈ sign, c = '+' ∨ c = '-')
    (hds : IsDigits ds) : scanSign (sign.toList ++ (ds ++ rest)) = (sign, ds ++ rest) := by
  cases sign with
  | some c =>
    rcases hsign c rfl with rfl | rfl <;>
    rfl
  | none =>
    cases ds with
    | nil => exact absurd rfl hds.1
    | cons d ds =>
      have hd := hds.2 d List.mem_cons_self
      have hplus := ne_of_isDigit hd (d := '+') rfl
      have hminus := ne_of_isDigit hd (d := '-') rfl
      unfold scanSign
      split
      · rename_i heq
        exact absurd (List.cons.inj heq).1 hplus
      · rename_i heq
        exact absurd (List.cons.inj heq).1 hminus
      · rfl

/-- No exponent is scanned where the numeral ends. -/
theorem scanExponent_none (hrest : Ends rest) : scanExponent rest = some (none, rest) := by
  cases rest with
  | nil => rfl
  | cons c rest =>
    obtain ⟨-, -, hlower, hupper⟩ := hrest c rfl
    simp [scanExponent, hlower, hupper]

/-- An exponent is scanned with its marker, sign and digits. -/
theorem scanExponent_some {e : Exponent} (hmarker : e.marker = 'e' ∨ e.marker = 'E')
    (hsign : ∀ c ∈ e.sign, c = '+' ∨ c = '-') (hds : IsDigits e.digits)
    (hrest : ∀ c ∈ rest.head?, c.isDigit = false) :
    scanExponent (e.text ++ rest) = some (some e, rest) := by
  obtain ⟨marker, sign, ds⟩ := e
  dsimp only at hmarker hsign hds
  rw [Exponent.text, List.cons_append, List.append_assoc, scanExponent, if_pos hmarker,
    scanSign_eq hsign hds]
  dsimp only
  rw [span_digits hds hrest]
  cases ds with
  | nil => exact absurd rfl hds.1
  | cons d ds => rfl

end Scanning

/-- What follows the whole part of a numeral, or its fraction, is no digit. -/
theorem exponentText_head {n : Numeral} {rest : List Char} (h : n.WellFormed)
    (hrest : Ends rest) :
    ∀ c ∈ (exponentText n.exponent ++ rest).head?, c.isDigit = false ∧ c ≠ '.' := by
  intro c hc
  cases he : n.exponent with
  | none =>
    rw [he] at hc
    exact ⟨(hrest c hc).1, (hrest c hc).2.1⟩
  | some e =>
    obtain ⟨hmarker, -⟩ := h.exponent e he
    rw [he] at hc
    cases hc
    rcases hmarker with hmarker | hmarker <;>
    simp [hmarker]

/-- **A well-formed numeral is scanned whole**, and nothing behind it. -/
theorem scan_text {n : Numeral} {rest : List Char} (h : n.WellFormed) (hrest : Ends rest) :
    scan (n.text ++ rest) = some (n, rest) := by
  have hexponent : scanExponent (exponentText n.exponent ++ rest) = some (n.exponent, rest) := by
    cases he : n.exponent with
    | none => exact scanExponent_none hrest
    | some e =>
      obtain ⟨hmarker, hsign, hds⟩ := h.exponent e he
      exact scanExponent_some hmarker hsign hds fun c hc => (hrest c hc).1
  -- each part is cut off with the text of those behind it as its rest
  have hhead := exponentText_head h hrest
  have hfraction : scanFraction (fractionText n.fraction ++ (exponentText n.exponent ++ rest))
      = some (n.fraction, exponentText n.exponent ++ rest) := by
    cases hf : n.fraction with
    | none =>
      unfold fractionText scanFraction
      split
      · rename_i heq
        rw [List.nil_append] at heq
        rw [heq] at hhead
        exact absurd rfl (hhead '.' rfl).2
      · rfl
    | some ds => exact scanFraction_digits (h.fraction ds hf) fun c hc => (hhead c hc).1
  have hwhole : scanWhole (n.whole ++ (fractionText n.fraction
      ++ (exponentText n.exponent ++ rest)))
      = some (n.whole, fractionText n.fraction ++ (exponentText n.exponent ++ rest)) := by
    refine scanWhole_digits h.whole h.leading fun c hc => ?_
    cases hf : n.fraction with
    | none =>
      rw [hf] at hc
      exact (hhead c hc).1
    | some ds =>
      rw [hf] at hc
      cases hc
      rfl
  rw [text_eq, List.append_assoc, List.append_assoc, List.append_assoc]
  obtain ⟨negative, whole, fraction, exponent⟩ := n
  dsimp only at hexponent hfraction hwhole ⊢
  cases negative with
  | true => simp [scan, signText, hwhole, hfraction, hexponent]
  | false =>
    -- without a sign the first character is a digit
    cases whole with
    | nil => exact absurd rfl h.whole.1
    | cons d ds =>
      have hd := ne_of_isDigit (h.whole.2 d List.mem_cons_self) (d := '-') rfl
      rw [List.cons_append] at hwhole
      simp [scan, signText, hd, hwhole, hfraction, hexponent]

/-! ## What is scanned -/

section Scanned

variable {cs ds rest : List Char}

theorem isDigits_of_span {d : Char} (h : cs.span Char.isDigit = (d :: ds, rest)) :
    IsDigits (d :: ds) :=
  ⟨by simp, (span_eq_iff.mp h).2.1⟩

/-- A whole part that is scanned has digits and begins with no zero unless it is zero. -/
theorem isDigits_of_scanWhole (h : scanWhole cs = some (ds, rest)) :
    IsDigits ds ∧ (ds.head? = some '0' → ds = ['0']) := by
  have hzero : IsDigits ['0'] := ⟨by simp, by simp⟩
  unfold scanWhole at h
  split at h
  · split at h
    · cases h
      exact ⟨hzero, fun _ => rfl⟩
    · split at h
      · cases h
      · cases h
        exact ⟨hzero, fun _ => rfl⟩
  · rename_i hne
    obtain ⟨taken, left, hspan⟩ : ∃ taken left, cs.span Char.isDigit = (taken, left) :=
      ⟨_, _, rfl⟩
    rw [hspan] at h
    cases taken with
    | nil => cases h
    | cons d ds =>
      cases h
      refine ⟨isDigits_of_span hspan, fun hd => ?_⟩
      -- a number that begins with zero is read above
      cases hd
      exact absurd (span_eq_iff.mp hspan).1 (hne _)

/-- A fraction that is scanned has digits. -/
theorem isDigits_of_scanFraction {fraction : Option (List Char)}
    (h : scanFraction cs = some (fraction, rest)) : ∀ ds ∈ fraction, IsDigits ds := by
  unfold scanFraction at h
  split at h
  · rename_i cs
    obtain ⟨taken, left, hspan⟩ : ∃ taken left, cs.span Char.isDigit = (taken, left) :=
      ⟨_, _, rfl⟩
    rw [hspan] at h
    cases taken with
    | nil => cases h
    | cons d ds =>
      cases h
      rintro _ ⟨rfl⟩
      exact isDigits_of_span hspan
  · cases h
    nofun

/-- A sign that is scanned is one of the two. -/
theorem scanSign_sign (cs : List Char) : ∀ c ∈ (scanSign cs).1, c = '+' ∨ c = '-' := by
  unfold scanSign
  split <;>
  simp

/-- An exponent that is scanned has a marker, a sign or none, and digits. -/
theorem isDigits_of_scanExponent {exponent : Option Exponent}
    (h : scanExponent cs = some (exponent, rest)) :
    ∀ e ∈ exponent, (e.marker = 'e' ∨ e.marker = 'E') ∧ (∀ c ∈ e.sign, c = '+' ∨ c = '-')
      ∧ IsDigits e.digits := by
  unfold scanExponent at h
  split at h
  · cases h
    intro e he
    cases he
  · rename_i c cs
    split at h
    · rename_i hmarker
      have hsign := scanSign_sign cs
      generalize scanSign cs = scanned at h hsign
      obtain ⟨sign, more⟩ := scanned
      obtain ⟨taken, left, hspan⟩ : ∃ taken left, more.span Char.isDigit = (taken, left) :=
        ⟨_, _, rfl⟩
      dsimp only at h hsign
      rw [hspan] at h
      cases taken with
      | nil => cases h
      | cons d ds =>
        cases h
        rintro _ ⟨rfl⟩
        exact ⟨hmarker, hsign, isDigits_of_span hspan⟩
    · cases h
      intro e he
      cases he

/-- **A numeral that is scanned is well-formed.** -/
theorem scan_wellFormed {n : Numeral} (h : scan cs = some (n, rest)) : n.WellFormed := by
  simp only [scan, bind, Option.bind_eq_some_iff] at h
  obtain ⟨⟨whole, us⟩, hwhole, h⟩ := h
  obtain ⟨⟨fraction, vs⟩, hfraction, h⟩ := h
  obtain ⟨⟨exponent, ws⟩, hexponent, heq⟩ := h
  cases heq
  obtain ⟨hdigits, hleading⟩ := isDigits_of_scanWhole hwhole
  exact ⟨hdigits, hleading, isDigits_of_scanFraction hfraction, isDigits_of_scanExponent hexponent⟩

end Scanned

end Numeral

end JsonQuery
