/-
Engines for regular expressions.

What a regular expression is and where it matches is left to an engine: it compiles
the text of a pattern, or refuses it, and tells whether a compiled pattern matches in
a text. Everything that needs regular expressions takes an engine, and asks nothing
else of it.
-/

set_option autoImplicit false

namespace JsonQuery

/-- **An engine for regular expressions.** -/
structure Engine where
  /-- Compiled patterns. -/
  Compiled : Type
  /-- Why a text is refused. -/
  Failure : Type
  /-- The compiled form of a pattern. -/
  compile : List Char → Except Failure Compiled
  /-- Whether a compiled pattern matches somewhere in a text. -/
  isMatch : Compiled → String → Bool

/-- Whether an engine accepts a pattern. -/
def Engine.accepts (engine : Engine) (pattern : List Char) : Bool := (engine.compile pattern).isOk

/-- **Whether a pattern is accepted and matches somewhere in a text.** -/
def Engine.test (engine : Engine) (pattern : List Char) (text : String) : Bool :=
  match engine.compile pattern with
  | .ok c => engine.isMatch c text
  | .error _ => false

end JsonQuery
