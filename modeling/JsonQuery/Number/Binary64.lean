import JsonQuery.Number.Decimal

/-
Finite binary64 numbers, counted exactly.

Every finite binary64 number is a whole multiple of the least positive one,
`2 ^ -1074`. A number is kept as that multiple and a sign, so order and equality
are those of the integers, and reading and printing a decimal are exact integer
arithmetic with one rounding step.

Printing looks for the fewest significant digits that read back as the same
number; each candidate is checked by reading it, so a printed number reads back
by construction.

Powers are written `Nat.pow`, which is one term whatever instances are in scope;
`Nat.pow_eq` gives the operator.
-/

set_option autoImplicit false

namespace JsonQuery

/-! ## The numbers -/

/-- Whether a magnitude has at most 53 significant bits and lies below
`2 ^ top`. -/
def Binary64.FitsBelow (top units : Nat) : Prop :=
  units % Nat.pow 2 (units.log2 - 52) = 0 ∧ units < Nat.pow 2 top

instance (top units : Nat) : Decidable (Binary64.FitsBelow top units) :=
  inferInstanceAs (Decidable (_ ∧ _))

theorem Binary64.fitsBelow_zero (top : Nat) : FitsBelow top 0 :=
  ⟨Nat.zero_mod _, Nat.two_pow_pos top⟩

/-- The magnitudes that binary64 has, in units of `2 ^ -1074`: those with 53
significant bits that lie below `2 ^ 1024`. -/
abbrev Binary64.Representable (units : Nat) : Prop := Binary64.FitsBelow 2098 units

/-- A finite binary64 number: a sign and a magnitude in units of `2 ^ -1074`.
The two zeros differ in their sign only. -/
structure Binary64 where
  negative : Bool
  units : Nat
  representable : Binary64.Representable units
deriving DecidableEq

namespace Binary64

/-- The value in units of `2 ^ -1074`; both zeros have the value zero. -/
def value (x : Binary64) : Int := if x.negative then -x.units else x.units

/-- Zero, with a sign. -/
def zero (negative : Bool) : Binary64 := ⟨negative, 0, fitsBelow_zero 2098⟩

instance : Inhabited Binary64 := ⟨zero false⟩

/-- The number of that magnitude, if binary64 has it. -/
def ofUnits? (negative : Bool) (units : Nat) : Option Binary64 :=
  if h : Representable units then some ⟨negative, units, h⟩ else none

/-! ## Rounding -/

/-- The whole number nearest to `num / den`, an exact half going to the even
neighbour. -/
def roundHalfEven (num den : Nat) : Nat :=
  let q := num / den
  let r := num % den
  if 2 * r < den then q
  else if den < 2 * r then q + 1
  else q + q % 2

/-- **Rounding to 53 significant bits**: the magnitude nearest to `num / den`.
The last bit kept is worth `2 ^ (log2 (num / den) - 52)` units, and never less
than one unit. -/
def nearestUnits (num den : Nat) : Nat :=
  let lastBit := Nat.pow 2 ((num / den).log2 - 52)
  roundHalfEven num (den * lastBit) * lastBit

/-- The units of a whole number after rounding, without an upper limit. -/
def unitsOfNat (n : Nat) : Nat := nearestUnits (n * Nat.pow 2 1074) 1

/-- The number nearest to a decimal, or `none` if that lies beyond the largest
finite one. Exponents far out of range are answered without computing their
power of ten: a decimal with exponent above 400 overflows, and one below
`2 ^ -1199` is nearest to zero. -/
def ofDecimal (d : Decimal) : Option Binary64 :=
  if d.digits = 0 then some (zero d.negative)
  else match d.exponent with
    | .ofNat k =>
      if 400 < k then none
      else ofUnits? d.negative (nearestUnits (d.digits * Nat.pow 10 k * Nat.pow 2 1074) 1)
    | .negSucc k =>
      if d.digits.log2 + 1200 < 3 * (k + 1) then some (zero d.negative)
      else ofUnits? d.negative (nearestUnits (d.digits * Nat.pow 2 1074) (Nat.pow 10 (k + 1)))

/-! ## Shortest decimals -/

/-- The decimal expansion in full, which every binary64 number has: one unit is
`5 ^ 1074` times `10 ^ -1074`. -/
def exactDecimal (x : Binary64) : Decimal :=
  ⟨x.negative, x.units * Nat.pow 5 1074, -1074⟩

/-- Moves trailing zeros of the digits into the exponent. -/
def dropTrailingZeros : Nat → Decimal → Decimal
  | 0, d => d
  | fuel + 1, d =>
    if d.digits ≠ 0 ∧ d.digits % 10 = 0 then
      dropTrailingZeros fuel ⟨d.negative, d.digits / 10, d.exponent + 1⟩
    else d

/-- The two neighbours of a decimal on the grid that is `dropped` places coarser,
the nearer one first. -/
def neighbours (exact : Decimal) (dropped : Nat) : List Decimal :=
  let power := Nat.pow 10 dropped
  let low := exact.digits / power
  let r := exact.digits % power
  let ordered :=
    if 2 * r < power ∨ (2 * r = power ∧ low % 2 = 0) then [low, low + 1] else [low + 1, low]
  ordered.map fun digits =>
    dropTrailingZeros 20 ⟨exact.negative, digits, exact.exponent + dropped⟩

/-- **The shortest decimal that reads back as `x`**, the nearest of those with
the fewest digits. Seventeen digits always suffice; the full expansion stands
behind them so that the answer reads back whatever the search finds. -/
def shortest (x : Binary64) : Decimal :=
  if x.units = 0 then ⟨x.negative, 0, 0⟩
  else
    let exact := x.exactDecimal
    let places := (Nat.toDigits 10 exact.digits).length
    let attempt (count : Nat) : Option Decimal :=
      (neighbours exact (places - count)).find? fun d => ofDecimal d == some x
    ((List.range' 1 17).findSome? attempt).getD exact

end Binary64

/-! ## Printing -/

/-- **How binary64 numbers are printed.** The values say nothing of how many digits are written, or
where an exponent is. -/
class FloatPrinter where
  /-- The numeral of a number. -/
  numeral : Binary64 → Numeral

/-- **A printer whose numerals stand for the numbers.** They are number literals with a fraction or
an exponent, and each reads back as the number that it was printed for. -/
class LawfulFloatPrinter [FloatPrinter] : Prop where
  wellFormed_numeral (x : Binary64) : (FloatPrinter.numeral x).WellFormed
  isInteger_numeral (x : Binary64) : (FloatPrinter.numeral x).isInteger = false
  ofDecimal_numeral (x : Binary64) :
    Binary64.ofDecimal (FloatPrinter.numeral x).toDecimal = some x

/-- Printing as few digits as read back. -/
instance FloatPrinter.shortest : FloatPrinter where
  numeral x := x.shortest.layout

end JsonQuery
