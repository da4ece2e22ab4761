import JsonQuery.Function.Registry
import JsonQuery.Regex.Interoperable

/-
The standard functions: `length`, `count`, `value`, `match` and `search`.
-/

set_option autoImplicit false

namespace JsonQuery
namespace Standard

/-- An integer as a value. -/
def ofSize (n : Nat) : Json := .number (.integer n)

/-- **The length of a value**: the characters of a string, the elements of an
array, the members of an object, and nothing for other values. -/
def lengthOf : Json → Option Json
  | .string s => some (ofSize s.length)
  | .array xs => some (ofSize xs.length)
  | .object ms => some (ofSize ms.length)
  | _ => none

/-- `length(value)`. -/
def length : List Datum → Except Violation Datum
  | [] => .ok .nothing
  | d :: _ => do
    let v ← d.toValue
    return .value (v.bind lengthOf)

/-- `count(nodes)`. -/
def count : List Datum → Except Violation Datum
  | [] => .ok (.value (some (ofSize 0)))
  | d :: _ => do
    let ns ← d.toNodes
    return .value (some (ofSize ns.length))

/-- `value(nodes)`: the only node, or nothing. -/
def value : List Datum → Except Violation Datum
  | [] => .ok .nothing
  | d :: _ => do
    match ← d.toNodes with
    | [n] => return .value (some n)
    | _ => return .nothing

/-- A test of a text with a pattern, which fails unless both are strings. -/
def textTest (test : (pattern text : String) → Bool) :
    List Datum → Except Violation Datum
  | [] => .ok (.logical false)
  | [d] => do
    let _ ← d.toValue
    return .logical false
  | d :: e :: _ => do
    let text ← d.toValue
    let pattern ← e.toValue
    match text, pattern with
    | some (.string text), some (.string pattern) => return .logical (test pattern text)
    | _, _ => return .logical false

/-- **The standard functions.** Two of them ask an engine for regular expressions. -/
def functions (engine : Engine) : List Function := [
  .ofSignature ⟨"length", [.value], .value⟩ length,
  .ofSignature ⟨"count", [.nodes], .value⟩ count,
  .ofSignature ⟨"value", [.nodes], .value⟩ value,
  .ofSignature ⟨"match", [.value, .value], .logical⟩
    (textTest (Interoperable.matchesWhole engine)),
  .ofSignature ⟨"search", [.value, .value], .logical⟩
    (textTest (Interoperable.matchesPart engine))]

/-- The names of the standard functions, whatever the engine. -/
def names : List String := ["length", "count", "value", "match", "search"]

theorem names_functions (engine : Engine) : (functions engine).map Function.name = names := rfl

/-- Each standard function has one of the names. -/
theorem name_mem_names {engine : Engine} {f : Function} (hf : f ∈ functions engine) :
    f.name ∈ names := by
  rw [← names_functions engine]
  exact List.mem_map_of_mem hf

end Standard

/-- **The registry of the standard functions.** -/
def Registry.standard (engine : Engine) : Registry where
  functions := Standard.functions engine
  readOnly := false
  names_valid f hf := by
    have hvalid : ∀ name ∈ Standard.names, isFunctionName name = true := by decide +kernel
    exact hvalid f.name (Standard.name_mem_names hf)
  names_distinct := by
    rw [Standard.names_functions]
    decide

end JsonQuery
