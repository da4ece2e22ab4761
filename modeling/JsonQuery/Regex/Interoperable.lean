import JsonQuery.Regex.Engine

/-
Interoperable regular expressions.

The patterns of `match` and `search` are in the interoperable dialect, which
differs from patterns at large in three points: a point matches neither a line
feed nor a carriage return, `^` and `$` stand for themselves, and inside a class
`[`, `&` and `~` have no meaning. A pattern is adapted to the dialect of an engine
character by character, with two states, outside and inside a class.
-/

set_option autoImplicit false

namespace JsonQuery
namespace Interoperable

/-- **Adapts a pattern**; `inClass` says whether it starts inside a class. An
escape is copied, a backslash at the end too. -/
def adapt : (inClass : Bool) → List Char → List Char
  | _, [] => []
  | inClass, '\\' :: rest =>
    match rest with
    | [] => ['\\']
    | c :: cs => '\\' :: c :: adapt inClass cs
  | true, c :: cs =>
    if c = ']' then ']' :: adapt false cs
    else if c = '[' ∨ c = '&' ∨ c = '~' then '\\' :: c :: adapt true cs
    else c :: adapt true cs
  | false, c :: cs =>
    if c = '[' then '[' :: adapt true cs
    else if c = '.' then ['[', '^', '\\', 'n', '\\', 'r', ']'] ++ adapt false cs
    else if c = '^' ∨ c = '$' then '\\' :: c :: adapt false cs
    else c :: adapt false cs

/-- The pattern for a match anywhere in a text. -/
def searchPattern (pattern : List Char) : List Char := adapt false pattern

/-- A pattern in a group between the two ends of the text. -/
def betweenEnds (pattern : List Char) : List Char :=
  ['\\', 'A', '(', '?', ':'] ++ pattern ++ [')', '\\', 'z']

/-- The pattern for a match of a whole text. -/
def matchPattern (pattern : List Char) : List Char := betweenEnds (searchPattern pattern)

/-- **Whether a pattern matches a whole text.** A pattern that the engine refuses matches
nothing. -/
def matchesWhole (engine : Engine) (pattern text : String) : Bool :=
  engine.test (matchPattern pattern.toList) text

/-- **Whether a pattern matches a part of a text.** -/
def matchesPart (engine : Engine) (pattern text : String) : Bool :=
  engine.test (searchPattern pattern.toList) text

end Interoperable
end JsonQuery
