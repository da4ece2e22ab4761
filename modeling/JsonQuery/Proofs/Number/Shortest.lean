import JsonQuery.Number.Binary64

/-
Printed binary64 numbers read back.

Whatever decimal the search for the shortest one answers has been checked, and where the
search fails the full expansion stands in, whose rounding is exact. A decimal is then
laid out as a numeral; that changes its exponent where zeros are written out, and
rounding does not see the difference because it depends on the quotient alone
(`nearestUnits_mul`).
-/

set_option autoImplicit false

namespace JsonQuery

namespace Binary64

/-! ## Rounding -/

/-- Rounding depends on the quotient alone. -/
theorem roundHalfEven_mul {num den c : Nat} (hc : 0 < c) :
    roundHalfEven (num * c) (den * c) = roundHalfEven num den := by
  have hbelow : 2 * (num % den * c) < den * c ↔ 2 * (num % den) < den := by
    rw [← Nat.mul_assoc, Nat.mul_lt_mul_right hc]
  have habove : den * c < 2 * (num % den * c) ↔ den < 2 * (num % den) := by
    rw [← Nat.mul_assoc, Nat.mul_lt_mul_right hc]
  unfold roundHalfEven
  simp only [Nat.mul_div_mul_right _ _ hc, Nat.mul_mod_mul_right, hbelow, habove]

/-- A whole number is its own rounding. -/
theorem roundHalfEven_exact {q den : Nat} (hden : 0 < den) :
    roundHalfEven (q * den) den = q := by
  unfold roundHalfEven
  simp [Nat.mul_div_cancel _ hden, hden]

/-- The nearest number of units is that of the reduced fraction. -/
theorem nearestUnits_mul (num den : Nat) {c : Nat} (hc : 0 < c) :
    nearestUnits (num * c) (den * c) = nearestUnits num den := by
  unfold nearestUnits
  dsimp only
  rw [Nat.mul_div_mul_right _ _ hc, Nat.mul_right_comm den c, roundHalfEven_mul hc]

/-- **A magnitude of 53 significant bits is not rounded.** -/
theorem nearestUnits_exact {units den : Nat}
    (hunits : units % Nat.pow 2 (units.log2 - 52) = 0)
    (hden : 0 < den) : nearestUnits (units * den) den = units := by
  unfold nearestUnits
  dsimp only
  rw [Nat.mul_div_cancel _ hden]
  obtain ⟨q, hq⟩ := Nat.dvd_of_mod_eq_zero hunits
  generalize hbit : Nat.pow 2 (units.log2 - 52) = bit at hq ⊢
  have hpos : 0 < bit := hbit ▸ Nat.two_pow_pos _
  have hnum : units * den = q * (den * bit) := by
    rw [hq]
    ac_rfl
  rw [hnum, roundHalfEven_exact (Nat.mul_pos hden hpos), hq, Nat.mul_comm]

/-- A float is had back from its sign and units. -/
theorem ofUnits?_units (x : Binary64) : ofUnits? x.negative x.units = some x := by
  unfold ofUnits?
  rw [dif_pos x.representable]

theorem zero_of_units {x : Binary64} (h : x.units = 0) : zero x.negative = x := by
  obtain ⟨negative, units, representable⟩ := x
  cases h
  rfl

/-! ## The shortest decimal -/

/-- A decimal below one, unless it is so small that it is nearest to zero. -/
theorem ofDecimal_negSucc {negative : Bool} {digits k : Nat} (hdigits : digits ≠ 0)
    (hsize : 3 * (k + 1) ≤ digits.log2 + 1200) :
    ofDecimal ⟨negative, digits, .negSucc k⟩
      = ofUnits? negative (nearestUnits (digits * Nat.pow 2 1074) (Nat.pow 10 (k + 1))) := by
  unfold ofDecimal
  dsimp only
  rw [if_neg hdigits, if_neg (Nat.not_lt.mpr hsize)]

/-- The full expansion of a magnitude has at least as many digits as a power of four. -/
theorem log2_expansion {units : Nat} (h : units ≠ 0) (k : Nat) :
    2 * k ≤ (units * Nat.pow 5 k).log2 := by
  rw [Nat.pow_eq]
  have hpos : 0 < 5 ^ k := Nat.pow_pos (by decide)
  have hne : units * 5 ^ k ≠ 0 := Nat.mul_ne_zero h (Nat.ne_of_gt hpos)
  rw [Nat.le_log2 hne]
  calc 2 ^ (2 * k) = 4 ^ k := Nat.pow_mul 2 2 k
    _ ≤ 5 ^ k := Nat.pow_le_pow_left (by decide) k
    _ ≤ units * 5 ^ k := Nat.le_mul_of_pos_left _ (Nat.pos_of_ne_zero h)

/-- **The full expansion reads back.** -/
theorem ofDecimal_exactDecimal {x : Binary64} (h : x.units ≠ 0) :
    ofDecimal x.exactDecimal = some x := by
  -- the exponent stays a variable here, lest its powers be computed
  obtain ⟨k, hk⟩ : ∃ k, k = 1074 := ⟨_, rfl⟩
  have hexponent : (-1074 : Int) = .negSucc (k - 1) := by
    rw [hk]
    rfl
  have hexact : x.exactDecimal = ⟨x.negative, x.units * Nat.pow 5 k, .negSucc (k - 1)⟩ := by
    rw [exactDecimal, hexponent, ← hk]
  have hpos : 0 < Nat.pow 5 k := Nat.pow_pos (by decide)
  have hne : x.units * Nat.pow 5 k ≠ 0 := Nat.mul_ne_zero h (Nat.ne_of_gt hpos)
  have hlog := log2_expansion h k
  have hnum : x.units * Nat.pow 5 k * Nat.pow 2 k = x.units * Nat.pow 10 k := by
    simp only [Nat.pow_eq]
    rw [Nat.mul_assoc, ← Nat.mul_pow]
  have hpower : 0 < Nat.pow 10 k := Nat.pow_pos (by decide)
  rw [hexact, ofDecimal_negSucc hne (by omega), ← hk, Nat.sub_add_cancel (by omega), hnum,
    nearestUnits_exact x.representable.1 hpower, ofUnits?_units]

/-- **The shortest decimal reads back**, whatever the search for it finds. -/
theorem ofDecimal_shortest (x : Binary64) : ofDecimal x.shortest = some x := by
  unfold shortest
  split
  · rename_i hzero
    unfold ofDecimal
    rw [if_pos rfl, zero_of_units hzero]
  · rename_i hzero
    dsimp only
    cases hfound : List.findSome? _ (List.range' 1 17) with
    | none => exact ofDecimal_exactDecimal hzero
    | some d =>
      obtain ⟨count, -, hcount⟩ := List.exists_of_findSome?_eq_some hfound
      have hback := List.find?_some hcount
      exact eq_of_beq hback

end Binary64

end JsonQuery
