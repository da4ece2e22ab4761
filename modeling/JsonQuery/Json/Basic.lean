import JsonQuery.Number.Binary64

/-
JSON values.

An object is a list of members in the order of their keys, so that selecting all
its members has one order; `Json.ofMembers` builds it from members in any order.
Numbers come in two sorts that never turn into each other: exact integers, and
binary64 numbers for everything written with a fraction or an exponent.
-/

set_option autoImplicit false

namespace JsonQuery

/-- A JSON number. -/
inductive Number
  | integer (i : Int)
  | float (x : Binary64)
deriving DecidableEq, Inhabited

namespace Number

/-- **The value after widening to binary64**, in units of `2 ^ -1074`. Integers
beyond 53 bits are rounded, so that neighbours may have the same value. -/
def value : Number → Int
  | integer i => i.sign * Binary64.unitsOfNat i.natAbs
  | float x => x.value

/-- Equality as a literal: an integer is never a floating-point number, and the
two zeros of binary64 are equal. -/
def equal : Number → Number → Bool
  | integer i, integer j => i == j
  | float x, float y => x.value == y.value
  | _, _ => false

/-- The numeral of a number. -/
def numeral [FloatPrinter] : Number → Numeral
  | integer i => Numeral.ofInt i
  | float x => FloatPrinter.numeral x

/-- The least integer that is kept exact, `-2 ^ 63`. -/
def leastInteger : Int := -0x8000000000000000

/-- The greatest integer that is kept exact, `2 ^ 64 - 1`. -/
def greatestInteger : Int := 0xffffffffffffffff

/-- The number that a numeral of a document stands for, or `none` if it is too
large. `-0` and integers beyond the exact range become binary64 numbers. -/
def ofNumeral? (n : Numeral) : Option Number :=
  if n.isInteger ∧ ¬ n.isNegativeZero
      ∧ leastInteger ≤ n.toInt ∧ n.toInt ≤ greatestInteger then
    some (integer n.toInt)
  else (Binary64.ofDecimal n.toDecimal).map float

end Number

/-- A JSON value. The members of an object stand in the order of their keys, and
no key occurs twice. -/
inductive Json
  | null
  | bool (b : Bool)
  | number (n : Number)
  | string (s : String)
  | array (items : List Json)
  | object (members : List (String × Json))
deriving Inhabited

namespace Json

/-! ## Objects -/

/-- Puts a member into a list ordered by key, in place of an earlier member of
the same key. -/
def insertMember (key : String) (v : Json) : List (String × Json) → List (String × Json)
  | [] => [(key, v)]
  | (k, w) :: ms =>
    if key < k then (key, v) :: (k, w) :: ms
    else if key = k then (key, v) :: ms
    else (k, w) :: insertMember key v ms

/-- The object with these members; of members with the same key the last one
counts. -/
def ofMembers (members : List (String × Json)) : Json :=
  object (members.foldl (fun ms m => insertMember m.1 m.2 ms) [])

/-- The member of an object with a given key. -/
def member? (key : String) : Json → Option Json
  | object ms => ms.lookup key
  | _ => none

/-! ## Equality -/

mutual

/-- **Equality of values as literals**: structural, with numbers compared by
`Number.equal`. -/
def equal : Json → Json → Bool
  | null, null => true
  | bool a, bool b => a == b
  | number a, number b => a.equal b
  | string a, string b => a == b
  | array xs, array ys => equalItems xs ys
  | object ms, object ns => equalMembers ms ns
  | _, _ => false

/-- Element by element. -/
def equalItems : List Json → List Json → Bool
  | [], [] => true
  | x :: xs, y :: ys => equal x y && equalItems xs ys
  | _, _ => false

/-- Member by member; the order of members is fixed by their keys. -/
def equalMembers : List (String × Json) → List (String × Json) → Bool
  | [], [] => true
  | (k, v) :: ms, (l, w) :: ns => k == l && equal v w && equalMembers ms ns
  | _, _ => false

end

/-! ## Kinds -/

/-- The name of the kind of a value. -/
def kindName : Json → String
  | null => "null"
  | bool _ => "bool"
  | number _ => "number"
  | string _ => "string"
  | array _ => "array"
  | object _ => "object"

end Json

end JsonQuery
