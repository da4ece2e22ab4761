import JsonQuery.Json.Basic
import JsonQuery.Text.Quoted

/-
Reading a JSON text.

The reader accepts the texts of the JSON standard: values between optional
blank space, strings in double quotes with JSON's escapes, and numbers without
leading zeros. A number that is too large for binary64 is refused.
-/

set_option autoImplicit false

namespace JsonQuery

namespace Json

/-- Drops blank space. -/
def skipBlank (cs : List Char) : List Char :=
  cs.dropWhile fun c => c == ' ' || c == '\t' || c == '\n' || c == '\r'

/-- A string literal, and what follows it. -/
def readString (cs : List Char) : Option (String × List Char) :=
  match cs with
  | '"' :: _ =>
    match (Cursor.start cs).quoted '"' with
    | .ok (value, next) => some (String.ofList value, next.rest)
    | .error _ => none
  | _ => none

mutual

/-- The value at the start of a text, and what follows it. Every value and every
separator has a character, so a `fuel` above twice the text's length is never
used up. -/
def readValue : (fuel : Nat) → List Char → Option (Json × List Char)
  | 0, _ => none
  | fuel + 1, cs =>
    match skipBlank cs with
    | 'n' :: 'u' :: 'l' :: 'l' :: rest => some (.null, rest)
    | 't' :: 'r' :: 'u' :: 'e' :: rest => some (.bool true, rest)
    | 'f' :: 'a' :: 'l' :: 's' :: 'e' :: rest => some (.bool false, rest)
    | '[' :: rest =>
      match skipBlank rest with
      | ']' :: rest => some (.array [], rest)
      | _ => (readItems fuel rest).map fun (xs, rest) => (.array xs, rest)
    | '{' :: rest =>
      match skipBlank rest with
      | '}' :: rest => some (.object [], rest)
      | _ => (readMembers fuel rest).map fun (ms, rest) => (.ofMembers ms, rest)
    | '"' :: rest => (readString ('"' :: rest)).map fun (s, rest) => (.string s, rest)
    | rest => do
      let (n, rest) ← Numeral.scan rest
      return (.number (← Number.ofNumeral? n), rest)

/-- The elements of an array up to its closing bracket. -/
def readItems : (fuel : Nat) → List Char → Option (List Json × List Char)
  | 0, _ => none
  | fuel + 1, cs => do
    let (x, rest) ← readValue fuel cs
    match skipBlank rest with
    | ',' :: rest =>
      let (xs, rest) ← readItems fuel rest
      return (x :: xs, rest)
    | ']' :: rest => return ([x], rest)
    | _ => none

/-- The members of an object up to its closing brace. -/
def readMembers : (fuel : Nat) → List Char → Option (List (String × Json) × List Char)
  | 0, _ => none
  | fuel + 1, cs => do
    let (key, rest) ← readString (skipBlank cs)
    match skipBlank rest with
    | ':' :: rest =>
      let (v, rest) ← readValue fuel rest
      match skipBlank rest with
      | ',' :: rest =>
        let (ms, rest) ← readMembers fuel rest
        return ((key, v) :: ms, rest)
      | '}' :: rest => return ([(key, v)], rest)
      | _ => none
    | _ => none

end

/-- **The value of a JSON text.** -/
def ofText? (text : String) : Option Json := do
  let cs := text.toList
  let (v, rest) ← readValue (2 * cs.length + 2) cs
  if (skipBlank rest).isEmpty then some v else none

end Json

end JsonQuery
