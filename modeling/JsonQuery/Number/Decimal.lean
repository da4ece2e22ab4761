/-
Decimal numbers and the numerals that write them.

A `Decimal` is a value, `digits * 10 ^ exponent` with a sign; a `Numeral` is a
spelling, cut into its whole part, its fraction and its exponent. Reading keeps
the spelling, because an integer position refuses `-0` and an error message
quotes a literal as it was written, so the value is a function of the numeral
and never the other way round.
-/

set_option autoImplicit false

namespace JsonQuery

/-- An exact decimal number: `digits * 10 ^ exponent`, negated if `negative`. -/
structure Decimal where
  negative : Bool
  digits : Nat
  exponent : Int
deriving DecidableEq, Repr, Inhabited

/-- The exponent part of a numeral, as it is spelled. -/
structure Numeral.Exponent where
  /-- `e` or `E`. -/
  marker : Char
  /-- The sign character, if one is written. -/
  sign : Option Char
  digits : List Char
deriving DecidableEq, Repr, Inhabited

/-- A number literal, cut into the parts it is spelled with. -/
structure Numeral where
  negative : Bool
  whole : List Char
  fraction : Option (List Char)
  exponent : Option Numeral.Exponent
deriving DecidableEq, Repr, Inhabited

/-- Digits, and at least one. -/
def IsDigits (ds : List Char) : Prop := ds ≠ [] ∧ ∀ c ∈ ds, c.isDigit = true

namespace Numeral

/-! ## Spelling -/

/-- The spelling of an exponent part. -/
def Exponent.text (e : Exponent) : List Char :=
  e.marker :: (e.sign.toList ++ e.digits)

/-- The spelling of a numeral. -/
def text (n : Numeral) : List Char :=
  (if n.negative then ['-'] else []) ++ n.whole
    ++ (match n.fraction with
        | none => []
        | some ds => '.' :: ds)
    ++ (match n.exponent with
        | none => []
        | some e => e.text)

/-- **An integer literal has neither fraction nor exponent.** -/
def isInteger (n : Numeral) : Bool := n.fraction.isNone && n.exponent.isNone

/-- The integer literal of `i`: no leading zero, and a sign only below zero. -/
def ofInt (i : Int) : Numeral :=
  { negative := i < 0
    whole := Nat.toDigits 10 i.natAbs
    fraction := none
    exponent := none }

/-! ## Form -/

/-- **Whether a numeral has the form of a number literal**: digits in all its parts, and
no zero before other digits of the whole part. -/
structure WellFormed (n : Numeral) : Prop where
  whole : IsDigits n.whole
  leading : n.whole.head? = some '0' → n.whole = ['0']
  fraction : ∀ ds ∈ n.fraction, IsDigits ds
  exponent : ∀ e ∈ n.exponent, (e.marker = 'e' ∨ e.marker = 'E')
    ∧ (∀ c ∈ e.sign, c = '+' ∨ c = '-') ∧ IsDigits e.digits

/-! ## Value -/

/-- The number that an exponent part stands for. -/
def Exponent.value (e : Exponent) : Int :=
  let magnitude : Int := Nat.ofDigitChars 10 e.digits 0
  if e.sign = some '-' then -magnitude else magnitude

/-- **The value of a numeral**: the digits of whole part and fraction read as
one number, with the point moved back over the fraction. -/
def toDecimal (n : Numeral) : Decimal :=
  let fraction := n.fraction.getD []
  { negative := n.negative
    digits := Nat.ofDigitChars 10 (n.whole ++ fraction) 0
    exponent := (n.exponent.map Exponent.value).getD 0 - fraction.length }

/-- The integer that the whole part stands for; the sign of zero is lost. -/
def toInt (n : Numeral) : Int :=
  let magnitude : Int := Nat.ofDigitChars 10 n.whole 0
  if n.negative then -magnitude else magnitude

/-- The literal `-0`, which is a number but no integer. -/
def isNegativeZero (n : Numeral) : Bool :=
  n.negative && n.whole == ['0'] && n.isInteger

/-! ## Scanning -/

/-- A whole part: a lone `0`, or digits that do not start with `0`. -/
def scanWhole : List Char → Option (List Char × List Char)
  | '0' :: cs =>
    match cs with
    | [] => some (['0'], [])
    | c :: _ => if c.isDigit then none else some (['0'], cs)
  | cs =>
    match cs.span Char.isDigit with
    | ([], _) => none
    | (ds, rest) => some (ds, rest)

/-- A fraction, if a point follows; a point needs a digit after it. -/
def scanFraction : List Char → Option (Option (List Char) × List Char)
  | '.' :: cs =>
    match cs.span Char.isDigit with
    | ([], _) => none
    | (ds, rest) => some (some ds, rest)
  | cs => some (none, cs)

/-- The sign of an exponent, if one is written. -/
def scanSign : List Char → Option Char × List Char
  | '+' :: cs => (some '+', cs)
  | '-' :: cs => (some '-', cs)
  | cs => (none, cs)

/-- An exponent, if `e` or `E` follows; it needs a digit. -/
def scanExponent : List Char → Option (Option Exponent × List Char)
  | [] => some (none, [])
  | c :: cs =>
    if c = 'e' ∨ c = 'E' then
      let (sign, cs) := scanSign cs
      match cs.span Char.isDigit with
      | ([], _) => none
      | (ds, rest) => some (some ⟨c, sign, ds⟩, rest)
    else some (none, c :: cs)

/-- **The numeral at the start of a text**, with what follows it. The scan takes
as much as it can: a point or an exponent marker that cannot be completed makes
the whole literal malformed. -/
def scan (cs : List Char) : Option (Numeral × List Char) := do
  let (negative, cs) := match cs with
    | '-' :: cs => (true, cs)
    | cs => (false, cs)
  let (whole, cs) ← scanWhole cs
  let (fraction, cs) ← scanFraction cs
  let (exponent, cs) ← scanExponent cs
  return (⟨negative, whole, fraction, exponent⟩, cs)

end Numeral

/-! ## Layout -/

namespace Decimal

/-- The exponent of the leading digit: the value is `d.ddd * 10 ^ magnitude`. -/
def magnitude (d : Decimal) : Int :=
  (Nat.toDigits 10 d.digits).length - 1 + d.exponent

/-- **Positional layout**: every place is written, and the point is always
followed by at least one digit. -/
def positional (d : Decimal) : Numeral :=
  let ds := Nat.toDigits 10 d.digits
  let (whole, fraction) : List Char × List Char :=
    match d.exponent with
    | .ofNat k => (ds ++ List.replicate k '0', ['0'])
    | .negSucc k =>
      let places := k + 1
      if places < ds.length then ds.splitAt (ds.length - places)
      else (['0'], List.replicate (places - ds.length) '0' ++ ds)
  ⟨d.negative, whole, some fraction, none⟩

/-- Scientific layout: one digit before the point, no point before nothing, and
a signed exponent. -/
def scientific (d : Decimal) : Numeral :=
  let exponent : Numeral.Exponent :=
    { marker := 'e'
      sign := some (if d.magnitude < 0 then '-' else '+')
      digits := Nat.toDigits 10 d.magnitude.natAbs }
  match Nat.toDigits 10 d.digits with
  | [] => ⟨d.negative, ['0'], none, some exponent⟩
  | [c] => ⟨d.negative, [c], none, some exponent⟩
  | c :: cs => ⟨d.negative, [c], some cs, some exponent⟩

/-- **The layout of a floating-point number**: positional when the leading digit
stands between the fifth decimal place and the sixteenth whole place, and
scientific outside that range. -/
def layout (d : Decimal) : Numeral :=
  if -5 ≤ d.magnitude ∧ d.magnitude < 16 then d.positional else d.scientific

end Decimal

end JsonQuery
