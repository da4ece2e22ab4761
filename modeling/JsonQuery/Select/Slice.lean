import JsonQuery.Query.Basic

/-
Which elements an index or a slice picks.

The arithmetic is that of 64-bit integers. A bound counts from the end when it is
negative, and is then brought into the array; a slice walks from its first bound
by its step until it reaches the second one. The walk adds with saturation, so a
step of any size ends it.
-/

set_option autoImplicit false

namespace JsonQuery

/-- The position that an index denotes in an array of `length` elements. -/
def resolveIndex (index : Int64) (length : Nat) : Option Nat :=
  let position : Int := if index < 0 then length + index.toInt else index.toInt
  if 0 ≤ position ∧ position < length then some position.toNat else none

/-- Addition that stops at the least and the greatest 64-bit integer. -/
def saturatingAdd (a b : Int64) : Int64 :=
  let sum := a.toInt + b.toInt
  if sum < Int64.minValue.toInt then Int64.minValue
  else if Int64.maxValue.toInt < sum then Int64.maxValue
  else .ofInt sum

/-- The sum is the exact one, brought between the two bounds. -/
theorem toInt_saturatingAdd (a b : Int64) :
    (saturatingAdd a b).toInt
      = max Int64.minValue.toInt (min (a.toInt + b.toInt) Int64.maxValue.toInt) := by
  have hmin : Int64.minValue.toInt = -2 ^ 63 := by decide
  have hmax : Int64.maxValue.toInt = 2 ^ 63 - 1 := by decide
  unfold saturatingAdd
  simp only []
  split
  · omega
  · split
    · omega
    · rw [Int64.toInt_ofInt_of_le (by omega) (by omega)]
      omega

/-- The nearest integer between two bounds. -/
def clampBetween (low high x : Int64) : Int64 :=
  if x < low then low else if high < x then high else x

/-- The walk of a slice: where it stands, where it stops, and how it moves. -/
structure Walk where
  current : Int64
  bound : Int64
  step : Int64
deriving DecidableEq, Repr, Inhabited

namespace Walk

/-- Whether the walk has not reached its bound. -/
def inRange (w : Walk) : Bool :=
  (0 < w.step && w.current < w.bound) || (w.step < 0 && w.bound < w.current)

/-- One turn of a walk: the position where it stands, and the walk from the next place
on. A walk is over when it has reached its bound, or stands in front of the array. -/
def next? (w : Walk) : Option (Nat × Walk) :=
  if w.inRange = true ∧ 0 ≤ w.current then
    some (w.current.toInt.toNat, { w with current := saturatingAdd w.current w.step })
  else none

/-- The positions that a walk passes. Each turn moves it towards its bound, so a
`fuel` of the array's length is never used up. -/
def positions : (fuel : Nat) → Walk → List Nat
  | 0, _ => []
  | fuel + 1, w =>
    match w.next? with
    | none => []
    | some (p, next) => p :: positions fuel next

end Walk

namespace Slice

/-- A bound counted from the front of an array. -/
def fromFront (length bound : Int64) : Int64 :=
  if 0 ≤ bound then bound else length + bound

/-- The walk of a slice through an array. A step of zero does not walk; a
negative one starts at the back and may stop before the first element. -/
def walk (s : Slice) (length : Int64) : Walk :=
  let step := s.step.getD 1
  if step = 0 then ⟨0, 0, step⟩
  else if 0 < step then
    let inside bound := clampBetween 0 length (fromFront length bound)
    ⟨(s.start.map inside).getD 0, (s.stop.map inside).getD length, step⟩
  else
    let inside bound := clampBetween (-1) (length - 1) (fromFront length bound)
    ⟨(s.start.map inside).getD (length - 1), (s.stop.map inside).getD (-1), step⟩

/-- **The positions that a slice picks** from an array of `length` elements, in
the order of the walk. -/
def positions (s : Slice) (length : Nat) : List Nat :=
  let length64 : Int64 :=
    if length ≤ Int64.maxValue.toInt then .ofNat length else Int64.maxValue
  (s.walk length64).positions length

end Slice

end JsonQuery
