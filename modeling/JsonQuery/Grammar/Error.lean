import JsonQuery.Token.Basic

/-
Why a text is no query.

A compilation fails at the first thing that does not fit, with a cause and the
byte offset of the token it is about. A malformed token is reported as what is
wrong with it, wherever the grammar meets it.
-/

set_option autoImplicit false

namespace JsonQuery

/-- What is wrong with a query text. -/
inductive ParseError.Cause
  /-- A token is malformed. -/
  | lexical (cause : LexicalError)
  /-- A token does not fit where it stands. -/
  | unexpected (lexeme : Lexeme)
  /-- A comparison has a query that can select several nodes. -/
  | nonSingularQuery
  /-- A number is too large for its place. -/
  | outOfRange (literal : String)
  | unknownFunction (name : String)
  /-- A function refuses its arguments. -/
  | functionArgument (message : String)
  /-- A call that is compared does not answer a value. -/
  | notComparable (name : String)
  /-- A call that is negated answers a value. -/
  | notLogical (name : String)
  /-- A call that answers a value stands as a condition of its own. -/
  | missingComparison
  /-- Filters, groups and calls stand inside each other too deeply. -/
  | nestingTooDeep (limit : Nat)
deriving DecidableEq, Repr, Inhabited

/-- The wording of a cause. -/
def ParseError.Cause.message : ParseError.Cause → String
  | lexical cause => cause.message
  | unexpected lexeme => "unexpected " ++ lexeme.describe
  | nonSingularQuery => "non-singular query is not comparable"
  | outOfRange literal => "cannot parse \"" ++ literal ++ "\", value out of range"
  | unknownFunction name => "unknown function " ++ name ++ "()"
  | functionArgument message => message
  | notComparable name => "function " ++ name ++ "() result is not comparable"
  | notLogical name => "function " ++ name ++ "() result is not logical"
  | missingComparison => "missing comparison to function result"
  | nestingTooDeep limit => "nesting depth exceeds " ++ toString limit

/-- The kinds of causes. -/
inductive ParseError.Kind
  /-- A malformed token. -/
  | lexical
  /-- A token that does not fit the grammar. -/
  | grammar
  | outOfRange
  | unknownFunction
  | functionArgument
  /-- The result of a function does not fit where it stands. -/
  | functionType
  | missingComparison
  | nestingDepth
deriving DecidableEq, Repr, Inhabited

/-- The kind of a cause. -/
def ParseError.Cause.kind : ParseError.Cause → ParseError.Kind
  | lexical _ => .lexical
  | unexpected _ | nonSingularQuery => .grammar
  | outOfRange _ => .outOfRange
  | unknownFunction _ => .unknownFunction
  | functionArgument _ => .functionArgument
  | notComparable _ | notLogical _ => .functionType
  | missingComparison => .missingComparison
  | nestingTooDeep _ => .nestingDepth

/-- A cause, and the byte offset of the token it is about. -/
structure ParseError where
  cause : ParseError.Cause
  offset : Nat
deriving DecidableEq, Repr, Inhabited

namespace ParseError

/-- The position in messages, which count bytes from one. -/
def position (e : ParseError) : Nat := e.offset + 1

/-- The message of a parse error. -/
def message (e : ParseError) : String :=
  "jsonpath: " ++ e.cause.message ++ " at position " ++ toString e.position

/-- **The error of a token that does not fit**: what is wrong with it if it is
malformed, and otherwise that it was not expected. -/
def ofToken (t : Token) : ParseError :=
  match t.lexeme with
  | .invalid cause => ⟨.lexical cause, t.position⟩
  | lexeme => ⟨.unexpected lexeme, t.position⟩

end ParseError

end JsonQuery
