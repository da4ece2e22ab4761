import JsonQuery.Query.Basic

/-
Comparing operands.

An operand is a value or nothing. Numbers compare by their values after widening
to binary64, strings by their characters, and arrays and objects by what is in
them; only numbers and strings have an order.
-/

set_option autoImplicit false

namespace JsonQuery

mutual

/-- **Equality of values in comparisons.** -/
def Json.same : Json → Json → Bool
  | .null, .null => true
  | .bool a, .bool b => a == b
  | .number a, .number b => a.value == b.value
  | .string a, .string b => a == b
  | .array xs, .array ys => Json.sameItems xs ys
  | .object ms, .object ns => ms.length == ns.length && Json.sameMembers ms ns
  | _, _ => false

/-- Equality of arrays, element by element. -/
def Json.sameItems : List Json → List Json → Bool
  | [], [] => true
  | x :: xs, y :: ys => x.same y && Json.sameItems xs ys
  | _, _ => false

/-- Whether every member is in the other object with an equal value. -/
def Json.sameMembers : List (String × Json) → List (String × Json) → Bool
  | [], _ => true
  | (key, v) :: ms, ns =>
    (match ns.lookup key with
      | some w => v.same w
      | none => false) && Json.sameMembers ms ns

end

/-- Whether one value comes before another. -/
def Json.precedes : Json → Json → Bool
  | .number a, .number b => a.value < b.value
  | .string a, .string b => a < b
  | _, _ => false

/-- **Equality of operands**: two absent ones are equal. -/
def equalTo : Option Json → Option Json → Bool
  | none, none => true
  | some v, some w => v.same w
  | _, _ => false

/-- **The order of operands**: nothing comes before or after an absent one. -/
def lessThan : Option Json → Option Json → Bool
  | some v, some w => v.precedes w
  | _, _ => false

/-- Applies a comparison operator. -/
def Comparator.holds : Comparator → Option Json → Option Json → Bool
  | eq, a, b => equalTo a b
  | ne, a, b => !equalTo a b
  | lt, a, b => lessThan a b
  | gt, a, b => lessThan b a
  | le, a, b => lessThan a b || equalTo a b
  | ge, a, b => lessThan b a || equalTo a b

end JsonQuery
