import JsonQuery.Grammar.Rule

/-
Segments and selectors.

A segment is a name or `*` after a point, a list of selectors in brackets, or
either of them after two points. Blank space may stand before a segment, and is
left where it is when no segment follows.
-/

set_option autoImplicit false

namespace JsonQuery

/-! ## Integers -/

/-- **The integer of a numeral.** `-0` is none, and the others have to be exact
in binary64. -/
def integerOf (n : Numeral) (position : Nat) : Except ParseError Int64 :=
  if n.isNegativeZero then .error ⟨.lexical .invalidNumber, position⟩
  else if -greatestIndex ≤ n.toInt ∧ n.toInt ≤ greatestIndex then .ok (.ofInt n.toInt)
  else .error ⟨.outOfRange (String.ofList n.text), position⟩

/-- An integer, if one follows. -/
def optionalInteger (ctx : Context) : Rule (Option Int64) := fun ts =>
  let (t, rest) := ctx.next ts
  match t.lexeme with
  | .numeral n =>
    if n.isInteger then do
      let i ← integerOf n t.position
      return (some i, rest)
    else .ok (none, ts)
  | _ => .ok (none, ts)

/-! ## Selectors -/

/-- What follows the first colon of a slice: an end, and a step after a second
colon. -/
def sliceTail (ctx : Context) (start : Option Int64) : Rule Selector := fun ts => do
  let (stop, ts) ← optionalInteger ctx (skipBlank ts)
  let ts := skipBlank ts
  if ctx.nextIs ':' ts then
    let (step, ts) ← optionalInteger ctx (skipBlank ts.tail)
    return (.slice ⟨start, stop, step⟩, ts)
  else return (.slice ⟨start, stop, none⟩, ts)

/-- **An index, or a slice** if a colon follows. -/
def indexOrSlice (ctx : Context) : Rule Selector := fun ts => do
  let (start, ts) ← optionalInteger ctx ts
  let ts := skipBlank ts
  if ctx.nextIs ':' ts then sliceTail ctx start ts.tail
  else match start with
    | some i => return (.index i, ts)
    | none => ctx.unexpected ts

/-- A selector in brackets. A filter is one level of nesting. -/
def selector (ctx : Context) (deeper : Option Nested) : Rule Selector := fun ts =>
  let (t, rest) := ctx.next ts
  match t.lexeme with
  | .string name => .ok (.name name, rest)
  | .punctuation '*' => .ok (.wildcard, rest)
  | .punctuation ':' => indexOrSlice ctx ts
  | .numeral n => if n.isInteger then indexOrSlice ctx ts else ctx.unexpected ts
  | .punctuation '?' => do
    let rules ← ctx.enter deeper t.position
    let (f, rest) ← rules.formula (skipBlank rest)
    return (.filter f, rest)
  | _ => ctx.unexpected ts

/-- The selectors after an opening bracket, through the closing one. -/
def bracketed (ctx : Context) (deeper : Option Nested) : Rule (List Selector) := fun ts =>
  delimited ctx ']' (fun ts => selector ctx deeper (skipBlank ts)) (ts.length + 1) ts

/-- A member name or `*`, right after a point. -/
def dotSelector (ctx : Context) : Rule Selector := fun ts =>
  let (t, rest) := ctx.next ts
  if t.is '*' then .ok (.wildcard, rest)
  else match t.lexeme.memberName? with
    | some name => .ok (.name name, rest)
    | none => ctx.unexpected ts

/-! ## Segments -/

/-- Drops blank space if a segment follows it. -/
def skipBlankBeforeSegment (ctx : Context) (ts : List Token) : List Token :=
  let after := skipBlank ts
  if ctx.nextIs '.' after || ctx.nextIs '[' after then after else ts

/-- A segment, if one follows. -/
def segment? (ctx : Context) (deeper : Option Nested) : Rule (Option Segment) := fun ts =>
  if ctx.nextIs '[' ts then do
    let (ss, ts) ← bracketed ctx deeper ts.tail
    return (some (.child ss), ts)
  else if ctx.nextIs '.' ts then
    let ts := ts.tail
    if ctx.nextIs '.' ts then
      let ts := ts.tail
      if ctx.nextIs '[' ts then do
        let (ss, ts) ← bracketed ctx deeper ts.tail
        return (some (.descendant ss), ts)
      else do
        let (s, ts) ← dotSelector ctx ts
        return (some (.descendant [s]), ts)
    else do
      let (s, ts) ← dotSelector ctx ts
      return (some (.child [s]), ts)
  else .ok (none, ts)

/-- As many segments as follow. Each one has a token, so a `fuel` above the
number of tokens is never used up. -/
def segments (ctx : Context) (deeper : Option Nested) : (fuel : Nat) → Rule (List Segment)
  | 0, ts => ctx.unexpected ts
  | fuel + 1, ts => do
    let (s, ts) ← segment? ctx deeper (skipBlankBeforeSegment ctx ts)
    match s with
    | none => return ([], ts)
    | some s =>
      let (ss, ts) ← segments ctx deeper fuel ts
      return (s :: ss, ts)

/-- The query of an anchor that is read already. -/
def queryFrom (ctx : Context) (deeper : Option Nested) (anchor : Anchor) : Rule Query :=
  fun ts => do
    let (ss, ts) ← segments ctx deeper (ts.length + 1) ts
    return (.mk anchor ss, ts)

end JsonQuery
