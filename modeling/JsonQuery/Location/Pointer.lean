import JsonQuery.Location.Basic

/-
JSON pointers, the other way to write a location.

A pointer is a reference token for each step with a slash before it. In a token
`~0` stands for a tilde and `~1` for a slash, so that slashes only separate. A
token does not say whether it is an index or a name: what it means depends on the
node it is applied to, which is why a pointer is resolved from a node and not read
back as a location.
-/

set_option autoImplicit false

namespace JsonQuery

/-! ## Writing -/

/-- A character in a reference token. -/
def pointerEscaped (c : Char) : List Char :=
  if c = '~' then ['~', '0'] else if c = '/' then ['~', '1'] else [c]

/-- The reference token of a step. -/
def Step.token : Step → List Char
  | index i => Nat.toDigits 10 i
  | name n => n.toList.flatMap pointerEscaped

/-- The characters of a JSON pointer. -/
def Location.pointerCharacters (p : Location) : List Char :=
  p.flatMap fun s => '/' :: s.token

/-- **The JSON pointer of a location.** -/
def Location.pointer (p : Location) : String := String.ofList p.pointerCharacters

/-! ## Resolving -/

/-- The text that a reference token stands for. A tilde before another character
stands for itself. -/
def pointerUnescaped : List Char → List Char
  | '~' :: '0' :: cs => '~' :: pointerUnescaped cs
  | '~' :: '1' :: cs => '/' :: pointerUnescaped cs
  | c :: cs => c :: pointerUnescaped cs
  | [] => []

/-- The parts of a text between slashes. -/
def splitAtSlashes : List Char → List (List Char)
  | [] => [[]]
  | c :: cs =>
    if c = '/' then [] :: splitAtSlashes cs
    else match splitAtSlashes cs with
      | part :: parts => (c :: part) :: parts
      | [] => [[c]]

/-- The reference tokens of a pointer, if it is one: the empty text, or a text
that begins with a slash. -/
def referenceTokens? : List Char → Option (List (List Char))
  | [] => some []
  | c :: cs => if c = '/' then some ((splitAtSlashes cs).map pointerUnescaped) else none

/-- The index in a reference token: digits without a leading zero. -/
def tokenIndex? (token : List Char) : Option Nat :=
  let i := Nat.ofDigitChars 10 token 0
  if token.all Char.isDigit && token == Nat.toDigits 10 i then some i else none

/-- The child that a reference token names. -/
def Json.referred? : Json → List Char → Option Json
  | .object ms, token => ms.lookup (String.ofList token)
  | .array xs, token => (tokenIndex? token).bind (xs[·]?)
  | _, _ => none

/-- **The node that a JSON pointer leads to.** -/
def Json.atPointer? (v : Json) (pointer : String) : Option Json := do
  let tokens ← referenceTokens? pointer.toList
  tokens.foldlM Json.referred? v

/-- **A tilde and a slash come back from their escapes**, and so does every other
character. -/
theorem pointerUnescaped_flatMap_pointerEscaped (cs : List Char) :
    pointerUnescaped (cs.flatMap pointerEscaped) = cs := by
  induction cs with
  | nil => rfl
  | cons c cs ih =>
    rw [List.flatMap_cons]
    by_cases htilde : c = '~'
    · simp [pointerEscaped, htilde, pointerUnescaped, ih]
    · by_cases hslash : c = '/'
      · simp [pointerEscaped, hslash, pointerUnescaped, ih]
      · have h : pointerEscaped c = [c] := by simp [pointerEscaped, htilde, hslash]
        rw [h, List.singleton_append]
        unfold pointerUnescaped
        split
        · simp_all
        · simp_all
        · simp_all
        · simp_all

end JsonQuery
