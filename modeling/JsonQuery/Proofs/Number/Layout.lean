import JsonQuery.Proofs.Number.Shortest
import JsonQuery.Proofs.Number.Spelling

/-
Numerals of integers and of binary64 numbers.

The integer of a numeral, and the number of a binary64 numeral, is the one that the
numeral was made for. Positional layout writes zeros behind the digits of a whole
number and then a fraction, so that the numeral stands for ten times as many digits and
one place less for each of them; rounding is the same.
-/

set_option autoImplicit false

namespace JsonQuery

/-! ## Integers -/

namespace Numeral

theorem isInteger_ofInt (i : Int) : (ofInt i).isInteger = true := rfl

/-- **The numeral of an integer stands for it.** -/
theorem toInt_ofInt (i : Int) : (ofInt i).toInt = i := by
  unfold toInt ofInt
  simp only [Nat.ofDigitChars_ten_toDigits, decide_eq_true_eq]
  split <;>
  omega

/-- An integer is printed as `-0` never. -/
theorem isNegativeZero_ofInt (i : Int) : (ofInt i).isNegativeZero = false := by
  rw [← Bool.not_eq_true]
  intro h
  simp only [isNegativeZero, ofInt, Bool.and_eq_true, decide_eq_true_eq, beq_iff_eq] at h
  obtain ⟨⟨hnegative, hwhole⟩, -⟩ := h
  have hne : i.natAbs ≠ 0 := by omega
  exact head?_toDigits hne (by rw [hwhole]; rfl)

/-- No zero stands before the digits of a number. -/
theorem leading_toDigits {n : Nat} (h : (Nat.toDigits 10 n).head? = some '0') :
    Nat.toDigits 10 n = ['0'] := by
  by_cases hn : n = 0
  · rw [hn]
    rfl
  · exact absurd h (head?_toDigits hn)

/-- An integer is printed as a numeral. -/
theorem wellFormed_ofInt (i : Int) : (ofInt i).WellFormed where
  whole := isDigits_toDigits i.natAbs
  leading := leading_toDigits
  fraction := nofun
  exponent := nofun

end Numeral

/-! ## Layout -/

namespace Decimal

/-- The value of a whole number in positional layout: the zeros are digits now. -/
theorem toDecimal_positional_ofNat {negative : Bool} {digits k : Nat} :
    (positional ⟨negative, digits, .ofNat k⟩).toDecimal
      = ⟨negative, digits * Nat.pow 10 k * 10, .negSucc 0⟩ := by
  simp only [positional, Numeral.toDecimal, Option.getD_some, List.append_assoc,
    Nat.ofDigitChars_append, Nat.ofDigitChars_ten_toDigits, Nat.ofDigitChars_replicate_zero,
    Option.map_none, Option.getD_none, List.length_singleton]
  congr 1
  rw [Nat.ofDigitChars_cons, Nat.ofDigitChars_nil]
  simp [Nat.mul_comm]

/-- A number with a fraction is itself in positional layout. -/
theorem toDecimal_positional_negSucc {negative : Bool} {digits k : Nat} :
    (positional ⟨negative, digits, .negSucc k⟩).toDecimal = ⟨negative, digits, .negSucc k⟩ := by
  simp only [positional]
  split
  · rename_i hplaces
    simp only [List.splitAt_eq, Numeral.toDecimal, Option.getD_some, List.take_append_drop,
      Nat.ofDigitChars_ten_toDigits, Option.map_none, Option.getD_none, List.length_drop]
    congr 1
    omega
  · rename_i hplaces
    simp only [Numeral.toDecimal, Option.getD_some, List.singleton_append, Option.map_none,
      Option.getD_none, List.length_append, List.length_replicate]
    -- the zeros before the digits add nothing to the number
    have hzero : Nat.ofDigitChars 10 ('0' :: (List.replicate
        (k + 1 - (Nat.toDigits 10 digits).length) '0' ++ Nat.toDigits 10 digits)) 0 = digits := by
      rw [Nat.ofDigitChars_cons, Nat.ofDigitChars_append, Nat.ofDigitChars_replicate_zero]
      simp
    rw [hzero]
    congr 1
    omega

/-- An exponent is read back from its sign and digits. -/
theorem exponent_value {m : Int} {marker : Char} :
    Numeral.Exponent.value ⟨marker, some (if m < 0 then '-' else '+'),
      Nat.toDigits 10 m.natAbs⟩ = m := by
  unfold Numeral.Exponent.value
  simp only [Nat.ofDigitChars_ten_toDigits]
  by_cases hm : m < 0
  · rw [if_pos hm, if_pos rfl]
    omega
  · rw [if_neg hm, if_neg (by decide)]
    omega

/-- **Scientific layout keeps the value.** -/
theorem toDecimal_scientific (d : Decimal) : d.scientific.toDecimal = d := by
  have hvalue := Nat.ofDigitChars_ten_toDigits (n := d.digits)
  have hlength : (d.magnitude : Int) - ((Nat.toDigits 10 d.digits).length - 1) = d.exponent := by
    unfold magnitude
    omega
  unfold scientific
  dsimp only
  split
  · rename_i heq
    exact absurd heq Nat.toDigits_ne_nil
  · rename_i c heq
    rw [heq] at hvalue hlength
    simp only [Numeral.toDecimal, Option.getD_none, List.append_nil, hvalue, Option.map_some,
      exponent_value, Option.getD_some, List.length_nil]
    simp only [List.length_singleton] at hlength
    obtain ⟨negative, digits, exponent⟩ := d
    congr 1
  · rename_i c cs _ heq
    rw [heq] at hvalue hlength
    simp only [Numeral.toDecimal, Option.getD_some, List.singleton_append, hvalue,
      Option.map_some, exponent_value]
    simp only [List.length_cons] at hlength
    obtain ⟨negative, digits, exponent⟩ := d
    congr 1
    simpa using hlength

/-- **A number is rounded alike from its numeral.** -/
theorem ofDecimal_layout (d : Decimal) :
    Binary64.ofDecimal d.layout.toDecimal = Binary64.ofDecimal d := by
  unfold layout
  split
  · rename_i hrange
    obtain ⟨negative, digits, k | k⟩ := d
    · rw [toDecimal_positional_ofNat]
      by_cases hzero : digits = 0
      · simp [Binary64.ofDecimal, hzero]
      · -- the point stands within the first sixteen places here
        have hk : k < 16 := by
          have hlength := Nat.length_toDigits_pos (b := 10) (n := digits)
          simp only [magnitude, Int.ofNat_eq_natCast] at hrange
          omega
        have hpower : 0 < Nat.pow 10 k := Nat.pow_pos (by decide)
        have hne : digits * Nat.pow 10 k * 10 ≠ 0 := by
          have := Nat.mul_pos (Nat.pos_of_ne_zero hzero) hpower
          omega
        rw [Binary64.ofDecimal_negSucc hne (by omega), Binary64.ofDecimal]
        dsimp only
        rw [if_neg hzero, if_neg (by omega)]
        generalize Nat.pow 2 1074 = unit
        rw [← Binary64.nearestUnits_mul (digits * Nat.pow 10 k * unit) 1 (show 0 < 10 by decide),
          Nat.mul_right_comm, Nat.one_mul]
    · rw [toDecimal_positional_negSucc]
  · rw [toDecimal_scientific]

/-- A float is printed with a fraction or an exponent. -/
theorem isInteger_layout (d : Decimal) : d.layout.isInteger = false := by
  unfold layout
  split
  · unfold positional
    rfl
  · unfold scientific
    dsimp only
    split <;>
    simp [Numeral.isInteger]

/-- The digits of a number may be written without leading zeros. -/
theorem wellFormed_positional {d : Decimal} (h : d.digits = 0 → d.exponent = 0) :
    d.positional.WellFormed := by
  obtain ⟨negative, digits, k | k⟩ := d
  · simp only [positional]
    have hds := isDigits_toDigits digits
    refine ⟨hds.append (isDigit_replicate_zero k), fun hhead => ?_, ?_, nofun⟩
    · dsimp only at hhead ⊢
      -- a zero in front can only be the number zero, and that has no exponent
      rw [List.head?_append_of_ne_nil _ hds.1] at hhead
      have hzero : digits = 0 := by
        by_contra hne
        exact head?_toDigits hne hhead
      have hk : k = 0 := by simpa using h hzero
      rw [hk, Numeral.leading_toDigits hhead]
      rfl
    · rintro ds ⟨⟩
      exact ⟨by simp, by simp⟩
  · simp only [positional]
    have hds := isDigits_toDigits digits
    have hzero : digits ≠ 0 := fun hzero => by simpa using h hzero
    split
    · rename_i hplaces
      rw [List.splitAt_eq]
      refine ⟨⟨?_, fun c hc => hds.2 c (List.mem_of_mem_take hc)⟩, fun hhead => ?_, ?_, nofun⟩
      · simp only [ne_eq, List.take_eq_nil_iff, not_or]
        exact ⟨by omega, hds.1⟩
      · rw [List.head?_take, if_neg (by omega)] at hhead
        exact absurd hhead (head?_toDigits hzero)
      · rintro ds ⟨⟩
        refine ⟨?_, fun c hc => hds.2 c (List.mem_of_mem_drop hc)⟩
        simp only [ne_eq, List.drop_eq_nil_iff]
        omega
    · refine ⟨⟨by simp, by simp⟩, fun _ => rfl, ?_, nofun⟩
      rintro ds ⟨⟩
      refine ⟨by simp, fun c hc => ?_⟩
      rcases List.mem_append.mp hc with hc | hc
      · exact isDigit_replicate_zero _ c hc
      · exact hds.2 c hc

/-- The exponent of scientific layout has a sign and digits. -/
theorem wellFormed_exponent (m : Int) {e : Numeral.Exponent}
    (he : some ⟨'e', some (if m < 0 then '-' else '+'), Nat.toDigits 10 m.natAbs⟩ = some e) :
    (e.marker = 'e' ∨ e.marker = 'E') ∧ (∀ c ∈ e.sign, c = '+' ∨ c = '-')
      ∧ IsDigits e.digits := by
  cases he
  refine ⟨.inl rfl, ?_, isDigits_toDigits _⟩
  rintro c ⟨⟩
  by_cases hm : m < 0
  · rw [if_pos hm]
    exact .inr rfl
  · rw [if_neg hm]
    exact .inl rfl

/-- One digit stands before the point, which is no zero. -/
theorem wellFormed_scientific {d : Decimal} (h : d.digits ≠ 0) : d.scientific.WellFormed := by
  have hds := isDigits_toDigits d.digits
  have hhead := head?_toDigits h
  unfold scientific
  dsimp only
  split
  · rename_i heq
    exact absurd heq Nat.toDigits_ne_nil
  · rename_i c heq
    rw [heq] at hds hhead
    exact ⟨hds, fun hc => absurd hc hhead, nofun, fun e he => wellFormed_exponent _ he⟩
  · rename_i c cs hcs heq
    rw [heq] at hds hhead
    refine ⟨⟨by simp, by simpa using hds.2 c List.mem_cons_self⟩, fun hc => absurd hc hhead,
      ?_, fun e he => wellFormed_exponent _ he⟩
    rintro ds ⟨⟩
    exact ⟨hcs, fun c hc => hds.2 c (List.mem_cons_of_mem _ hc)⟩

/-- A float is printed as a numeral. -/
theorem wellFormed_layout {d : Decimal} (h : d.digits = 0 → d.exponent = 0) :
    d.layout.WellFormed := by
  unfold layout
  split
  · exact wellFormed_positional h
  · rename_i hrange
    refine wellFormed_scientific fun hzero => hrange ?_
    -- zero has one digit, and that is a whole place
    rw [magnitude, hzero, h hzero, Nat.toDigits_zero]
    decide

end Decimal

/-! ## Printing -/

/-- **Printing as few digits as read back is lawful.** -/
instance LawfulFloatPrinter.shortest : @LawfulFloatPrinter FloatPrinter.shortest where
  wellFormed_numeral x := by
    refine Decimal.wellFormed_layout fun hdigits => ?_
    have hback := Binary64.ofDecimal_shortest x
    unfold Binary64.ofDecimal at hback
    rw [if_pos hdigits] at hback
    -- only zero has the digit zero, and its shortest decimal has no exponent
    have hzero : x.units = 0 := by
      rw [← Option.some.inj hback]
      rfl
    unfold Binary64.shortest
    rw [if_pos hzero]
  isInteger_numeral x := Decimal.isInteger_layout x.shortest
  ofDecimal_numeral x := by
    have hnumeral : FloatPrinter.shortest.numeral x = x.shortest.layout := rfl
    rw [hnumeral, Decimal.ofDecimal_layout, Binary64.ofDecimal_shortest]

end JsonQuery
