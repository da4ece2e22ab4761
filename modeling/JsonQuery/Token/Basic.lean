import JsonQuery.Number.Decimal
import JsonQuery.Text.Quoted

/-
The tokens of a query text.

A `Lexeme` says what a token is, with what it stands for rather than how it is
spelled: a string or a name carries its decoded text. Only numerals keep their
spelling, since the grammar tells `-0` from `0` and error messages quote
literals. A token that is malformed is a lexeme too, so that a text always has
tokens and the error is met where the grammar meets it.
-/

set_option autoImplicit false

namespace JsonQuery

/-- The three names that are literals when they are spelled without escapes. -/
inductive Keyword
  | yes
  | no
  | null
deriving DecidableEq, Repr, Inhabited

/-- The spelling of a keyword. -/
def Keyword.text : Keyword → String
  | yes => "true"
  | no => "false"
  | null => "null"

/-- The keyword with a spelling. -/
def Keyword.ofText? (s : List Char) : Option Keyword :=
  if s = ['t', 'r', 'u', 'e'] then some .yes
  else if s = ['f', 'a', 'l', 's', 'e'] then some .no
  else if s = ['n', 'u', 'l', 'l'] then some .null
  else none

/-- What a token is. -/
inductive Lexeme
  /-- The end of the text. -/
  | endOfInput
  /-- A token that is spelled wrongly. -/
  | invalid (cause : LexicalError)
  /-- A name, decoded. -/
  | identifier (name : String)
  /-- A number literal, integer or not. -/
  | numeral (n : Numeral)
  /-- A string literal, decoded. -/
  | string (value : String)
  /-- A run of blank space. -/
  | blank (text : String)
  | keyword (k : Keyword)
  /-- Any other character. -/
  | punctuation (c : Char)
deriving DecidableEq, Repr, Inhabited

namespace Lexeme

/-- The text that goes with a lexeme: what it stands for, or for an invalid
token what is wrong with it. -/
def text : Lexeme → String
  | endOfInput => ""
  | invalid cause => cause.message
  | identifier name => name
  | numeral n => String.ofList n.text
  | string value => value
  | blank text => text
  | keyword k => k.text
  | punctuation c => String.ofList [c]

/-- How an error message names a lexeme. -/
def describe : Lexeme → String
  | endOfInput => "end of input"
  | invalid cause => cause.message
  | identifier _ => "identifier"
  | numeral n => if n.isInteger then "integer" else "number"
  | string _ => "string literal"
  | blank _ => "blank space"
  | keyword k => k.text
  | punctuation c => String.ofList ['\'', c, '\'']

/-- Whether a lexeme is a literal of its own. -/
def isLiteral : Lexeme → Bool
  | numeral _ | string _ | keyword _ => true
  | _ => false

/-- The member name that a lexeme is after a point; keywords are names there. -/
def memberName? : Lexeme → Option String
  | identifier name => some name
  | keyword k => some k.text
  | _ => none

/-- Whether a lexeme starts a query. -/
def isQueryStart : Lexeme → Bool
  | punctuation c => c == '@' || c == '$'
  | _ => false

/-- Whether no token follows this one. -/
def isLast : Lexeme → Bool
  | endOfInput | invalid _ => true
  | _ => false

end Lexeme

/-- A token: a lexeme and the byte offset it is reported at. -/
structure Token where
  lexeme : Lexeme
  position : Nat
deriving DecidableEq, Repr, Inhabited

/-- Whether a token is a given punctuation character. -/
def Token.is (t : Token) (c : Char) : Bool := t.lexeme == .punctuation c

end JsonQuery
