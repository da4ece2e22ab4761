import JsonQuery.Grammar.Error
import JsonQuery.Function.Registry

/-
Grammar rules and the tokens they read.

A rule reads tokens from the front of a list and answers with what it made of
them and the tokens left. Behind the last token there are ends of input without
number, so a rule can always look one or two tokens ahead.

Filters, groups and calls count as nesting. A rule does not count how deep it
stands: it is given the rules of the next level, or none when the limit is
reached, and asks for them where nesting begins (`Context.enter`).
-/

set_option autoImplicit false

namespace JsonQuery

/-- A grammar rule. -/
abbrev Rule (α : Type) := List Token → Except ParseError (α × List Token)

/-- What all rules have in common while one text is read. -/
structure Context where
  registry : Registry
  /-- How deep nesting may go. -/
  limit : Nat
  /-- The offset of the end of the text. -/
  finish : Nat
deriving Inhabited

/-- The rules that stand one level deeper. -/
structure Nested where
  formula : Rule Formula
  argument : Rule Argument

namespace Context

/-! ## Looking ahead -/

/-- The next token. -/
def peek (ctx : Context) (ts : List Token) : Token :=
  ts.headD ⟨.endOfInput, ctx.finish⟩

/-- The next token, and the tokens behind it. -/
def next (ctx : Context) (ts : List Token) : Token × List Token := (ctx.peek ts, ts.tail)

/-- Whether the next token is a punctuation character. -/
def nextIs (ctx : Context) (c : Char) (ts : List Token) : Bool := (ctx.peek ts).is c

/-- Whether a punctuation character stands twice. -/
def nextIsTwice (ctx : Context) (c : Char) (ts : List Token) : Bool :=
  ctx.nextIs c ts && ctx.nextIs c ts.tail

@[simp] theorem peek_nil (ctx : Context) : ctx.peek [] = ⟨.endOfInput, ctx.finish⟩ := rfl

@[simp] theorem peek_cons (ctx : Context) (t : Token) (ts : List Token) :
    ctx.peek (t :: ts) = t := rfl

@[simp] theorem next_cons (ctx : Context) (t : Token) (ts : List Token) :
    ctx.next (t :: ts) = (t, ts) := rfl

/-! ## Refusing -/

/-- The error that the next token does not fit. -/
def unexpected (ctx : Context) {α : Type} (ts : List Token) : Except ParseError α :=
  .error (.ofToken (ctx.peek ts))

/-- Reads a punctuation character. -/
def expect (ctx : Context) (c : Char) : Rule Token := fun ts =>
  if ctx.nextIs c ts then .ok (ctx.next ts) else ctx.unexpected ts

/-- **The rules one level deeper**, for a construct that begins at `position`. -/
def enter (ctx : Context) (deeper : Option Nested) (position : Nat) :
    Except ParseError Nested :=
  match deeper with
  | some rules => .ok rules
  | none => .error ⟨.nestingTooDeep ctx.limit, position⟩

end Context

/-- Drops one run of blank space. -/
def skipBlank : List Token → List Token
  | ⟨.blank _, _⟩ :: ts => ts
  | ts => ts

/-! ## Repetition

Both loops read a token on every turn, so a `fuel` above the number of tokens is
never used up. -/

/-- Items with commas between them, up to a closing character. -/
def delimited {α : Type} (ctx : Context) (close : Char) (item : Rule α) :
    (fuel : Nat) → Rule (List α)
  | 0, ts => ctx.unexpected ts
  | fuel + 1, ts => do
    let (x, ts) ← item ts
    let (t, ts) := ctx.next (skipBlank ts)
    if t.is close then return ([x], ts)
    else if t.is ',' then do
      let (xs, ts) ← delimited ctx close item fuel ts
      return (x :: xs, ts)
    else throw (.ofToken t)

/-- Items with a doubled character between them, of which the first is read
already. The blank space behind the last item is dropped. -/
def chained {α : Type} (ctx : Context) (operator : Char) (item : Rule α) :
    (fuel : Nat) → (first : α) → Rule (List α)
  | 0, _, ts => ctx.unexpected ts
  | fuel + 1, first, ts =>
    let ts := skipBlank ts
    if ctx.nextIsTwice operator ts then do
      let (x, ts) ← item ts.tail.tail
      let (xs, ts) ← chained ctx operator item fuel x ts
      return (first :: xs, ts)
    else .ok ([first], ts)

end JsonQuery
