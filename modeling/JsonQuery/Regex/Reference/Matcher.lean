import JsonQuery.Unicode.CharSet

/-
Regular expressions and where they match.

An expression relates places of a text: it matches from one place to another. The
matcher follows all places at once. A set of places is a list of marks, one for
every gap between characters, and an expression takes the set of places it may
start from to the set of places it may end at (`Regex.image`). Repetition takes
the image again and again until no new place turns up, which happens after as many
rounds as there are gaps, so matching always ends.
-/

set_option autoImplicit false

namespace JsonQuery

/-! ## Assertions -/

/-- The conditions on words at a place. -/
inductive WordBound
  | boundary
  | notBoundary
  | start
  | finish
  | startHalf
  | finishHalf
deriving DecidableEq, Repr, Inhabited

/-- A condition on a place, which looks at the characters around it. -/
inductive Look
  | textStart
  | textEnd
  | lineStart
  | lineEnd
  /-- A line start where a carriage return and a line feed together are one line
  break. -/
  | crlfLineStart
  | crlfLineEnd
  /-- A condition on words made of the characters of a set. -/
  | word (bound : WordBound) (chars : CharSet)
deriving Repr, Inhabited

/-- Whether a character, if there is one, belongs to a set. -/
def inWord (chars : CharSet) : Option Char → Bool
  | some c => chars.contains c.toNat
  | none => false

/-- Whether a bound holds between two characters that are in words or not. -/
def WordBound.holds : WordBound → Bool → Bool → Bool
  | boundary, before, after => before != after
  | notBoundary, before, after => before == after
  | start, before, after => !before && after
  | finish, before, after => before && !after
  | startHalf, before, _ => !before
  | finishHalf, _, after => !after

/-- **Whether an assertion holds** between two characters, either of which is
missing at an end of the text. -/
def Look.holds : Look → Option Char → Option Char → Bool
  | textStart, before, _ => before.isNone
  | textEnd, _, after => after.isNone
  | lineStart, before, _ => before.isNone || before == some '\n'
  | lineEnd, _, after => after.isNone || after == some '\n'
  | crlfLineStart, before, after =>
    before.isNone || before == some '\n' || (before == some '\r' && after != some '\n')
  | crlfLineEnd, before, after =>
    after.isNone || after == some '\r' || (after == some '\n' && before != some '\r')
  | word bound chars, before, after => bound.holds (inWord chars before) (inWord chars after)

/-! ## Expressions -/

/-- A regular expression. How much a repetition prefers to take makes no
difference to whether it matches, so it is left out. -/
inductive Regex
  /-- Matches the empty text. -/
  | empty
  /-- Matches one character of a set. -/
  | set (chars : CharSet)
  /-- Matches the empty text where an assertion holds. -/
  | look (assertion : Look)
  | seq (first second : Regex)
  | alt (first second : Regex)
  /-- Matches at least `least` times in a row, and at most `most` times. -/
  | repeat (body : Regex) (least : Nat) (most : Option Nat)
deriving Repr, Inhabited

namespace Regex

/-- The expression that matches nothing. -/
def never : Regex := set .empty

/-! ## Marks -/

/-- A set of places: a mark for every gap between characters, ends included. -/
abbrev Marks := List Bool

/-- The characters around each gap of a text. -/
def gaps : Option Char → List Char → List (Option Char × Option Char)
  | before, [] => [(before, none)]
  | before, c :: cs => (before, some c) :: gaps (some c) cs

/-- The places behind a character of a set, from the marked places on. -/
def advance (chars : CharSet) : List Char → Marks → Marks
  | c :: cs, m :: ms => (m && chars.contains c.toNat) :: advance chars cs ms
  | _, _ => []

/-- The union of two sets of places. -/
def Marks.union (a b : Marks) : Marks := List.zipWith (· || ·) a b

/-- Applies a step a number of times. -/
def iterate (step : Marks → Marks) : Nat → Marks → Marks
  | 0, m => m
  | n + 1, m => iterate step n (step m)

/-- The places reached by at most a number of steps. It stops early once a step
reaches nothing new. -/
def reach (step : Marks → Marks) : Nat → Marks → Marks
  | 0, m => m
  | n + 1, m =>
    let next := Marks.union m (step m)
    if next = m then m else reach step n next

/-! ## Matching -/

/-- **The places where an expression can end** when it starts at a marked one. -/
def image (cs : List Char) : Regex → Marks → Marks
  | empty, m => m
  | set chars, m => false :: advance chars cs m
  | look assertion, m =>
    List.zipWith (fun here (before, after) => here && assertion.holds before after)
      m (gaps none cs)
  | seq a b, m => image cs b (image cs a m)
  | alt a b, m => Marks.union (image cs a m) (image cs b m)
  | «repeat» body least most, m =>
    let started := iterate (image cs body) least m
    match most with
    | some n => reach (image cs body) (n - least) started
    | none => reach (image cs body) (cs.length + 1) started

/-- **Whether an expression matches somewhere in a text.** -/
def isMatch (r : Regex) (text : String) : Bool :=
  let cs := text.toList
  (image cs r (List.replicate (cs.length + 1) true)).any id

end Regex

end JsonQuery
