import JsonQuery.Json.Basic
import JsonQuery.Text.Quoted

/-
Locations: how to walk from a node to one below it.

A location is a list of steps, each to an element of an array or to a member of
an object. It is written as a normalized path, which is a query for that place.
Locations are ordered step by step, a location before all that lie below it,
elements by number and members by key; indexes come before names.
-/

set_option autoImplicit false

namespace JsonQuery

/-- A step to a child. -/
inductive Step
  /-- To an element of an array. -/
  | index (index : Nat)
  /-- To a member of an object. -/
  | name (name : String)
deriving DecidableEq, Repr, Inhabited

/-- The steps from a node to one below it. -/
abbrev Location := List Step

/-! ## Children -/

/-- **The children of a node**, with the step to each: elements by number,
members by key. -/
def Json.children : Json → List (Step × Json)
  | .array xs => xs.zipIdx.map fun (x, i) => (.index i, x)
  | .object ms => ms.map fun (key, v) => (.name key, v)
  | _ => []

/-- The child that a step leads to. -/
def Json.child? : Json → Step → Option Json
  | .array xs, .index i => xs[i]?
  | .object ms, .name key => ms.lookup key
  | _, _ => none

/-- The node that a location leads to. -/
def Json.follow? : Json → Location → Option Json
  | v, [] => some v
  | v, s :: ss => (v.child? s).bind (·.follow? ss)

/-! ## Order -/

/-- The order of steps. -/
def Step.compare : Step → Step → Ordering
  | index i, index j => Ord.compare i j
  | index _, name _ => .lt
  | name _, index _ => .gt
  | name a, name b => Ord.compare a b

/-- **The order of locations**: the first different step decides, and a location
comes before what lies below it. -/
def Location.compare : Location → Location → Ordering
  | [], [] => .eq
  | [], _ :: _ => .lt
  | _ :: _, [] => .gt
  | s :: p, t :: q => (s.compare t).then (Location.compare p q)

theorem Step.compare_swap (s t : Step) : (s.compare t).swap = t.compare s := by
  cases s with
  | index i =>
    cases t with
    | index j => exact Std.OrientedOrd.eq_swap.symm
    | name b => rfl
  | name a =>
    cases t with
    | index j => rfl
    | name b => exact Std.OrientedOrd.eq_swap.symm

/-- Only equal steps compare as equal. -/
theorem Step.compare_eq_iff (s t : Step) : s.compare t = .eq ↔ s = t := by
  cases s with
  | index i => cases t <;> simp [Step.compare]
  | name a => cases t <;> simp [Step.compare]

theorem Location.compare_swap (p q : Location) :
    (Location.compare p q).swap = Location.compare q p := by
  induction p generalizing q with
  | nil => cases q <;> rfl
  | cons s p ih =>
    cases q with
    | nil => rfl
    | cons t q =>
      simp only [Location.compare, Ordering.swap_then, Step.compare_swap]
      rw [ih]

/-- **Only equal locations compare as equal**, so that the order tells apart what
equality does. -/
theorem Location.compare_eq_iff (p q : Location) : Location.compare p q = .eq ↔ p = q := by
  induction p generalizing q with
  | nil => cases q <;> simp [Location.compare]
  | cons s p ih =>
    cases q with
    | nil => simp [Location.compare]
    | cons t q => simp [Location.compare, Step.compare_eq_iff, ih]

/-! ## Normalized paths -/

/-- A step in a normalized path. -/
def Step.characters : Step → List Char
  | index i => '[' :: (Nat.toDigits 10 i ++ [']'])
  | name n => '[' :: (quotedText '\'' n.toList ++ [']'])

/-- A step in a normalized path, as a text. -/
def Step.text (s : Step) : String := String.ofList s.characters

/-- The characters of a normalized path. -/
def Location.characters (p : Location) : List Char := '$' :: p.flatMap Step.characters

/-- **The normalized path of a location.** -/
def Location.text (p : Location) : String := String.ofList p.characters

end JsonQuery
