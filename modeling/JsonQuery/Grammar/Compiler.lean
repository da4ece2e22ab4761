import JsonQuery.Grammar.Filter
import JsonQuery.Token.Scan

/-
From texts to queries.

The rules of a level of nesting are made from those of the next one, and the
limit says how many levels there are. A compiler is a registry with such a limit.
-/

set_option autoImplicit false

namespace JsonQuery

/-! ## Levels -/

/-- **The rules below a level that allows `allowance` more levels.** -/
def Context.levels (ctx : Context) : (allowance : Nat) → Option Nested
  | 0 => none
  | allowance + 1 =>
    some
      { formula := fun ts => JsonQuery.formula ctx (ctx.levels allowance) ts
        argument := fun ts => JsonQuery.argument ctx (ctx.levels allowance) ts }

/-- A whole text: `$`, segments, and the end of input. -/
def wholeQuery (ctx : Context) (ts : List Token) : Except ParseError Query := do
  let (_, ts) ← ctx.expect '$' ts
  let (q, ts) ← queryFrom ctx (ctx.levels ctx.limit) .root ts
  if (ctx.peek ts).lexeme = .endOfInput then return q else ctx.unexpected ts

/-! ## Compilers -/

/-- A setting that a compiler cannot have. -/
inductive ConfigurationError
  /-- The limit of nesting is zero. -/
  | noNesting
deriving DecidableEq, Repr, Inhabited

/-- The wording of a configuration error. -/
def ConfigurationError.message : ConfigurationError → String
  | noNesting => "invalid configuration value for max_nesting_depth: must be at least 1"

/-- The functions that queries can call, and how deep nesting may go. -/
structure Compiler where
  registry : Registry
  limit : Nat
  limit_pos : 0 < limit

namespace Compiler

/-- The limit of nesting unless another one is asked for. -/
def defaultLimit : Nat := 128

/-- The compiler with a registry and the default limit. -/
def ofRegistry (registry : Registry) : Compiler := ⟨registry, defaultLimit, by decide⟩

/-- The compiler with a registry and a limit. -/
def withLimit? (registry : Registry) (limit : Nat) : Except ConfigurationError Compiler :=
  if h : 0 < limit then .ok ⟨registry, limit, h⟩ else .error .noNesting

/-- **Compiles a text.** -/
def compile (c : Compiler) (text : String) : Except ParseError Query :=
  wholeQuery ⟨c.registry, c.limit, utf8Size text.toList⟩ (tokenize text)

end Compiler

end JsonQuery
