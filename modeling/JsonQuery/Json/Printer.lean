import JsonQuery.Json.Basic
import JsonQuery.Token.Basic

/-
The canonical text of a JSON value, and the canonical spelling of lexemes.

A value is printed as a list of lexemes, the same ones that a query is made of,
and the text is their spelling put together without blank space. Strings are
written between double quotes with as few escapes as JSON allows. How binary64
numbers are written is left open.
-/

set_option autoImplicit false

namespace JsonQuery

/-! ## Spelling lexemes -/

namespace Lexeme

/-- **The canonical spelling of a lexeme.** Names are written as they are, so
the spelling reads back for names that need no escape. -/
def spelling : Lexeme → List Char
  | endOfInput => []
  | invalid _ => []
  | identifier name => name.toList
  | numeral n => n.text
  | string value => quotedText '"' value.toList
  | blank text => text.toList
  | keyword k => k.text.toList
  | punctuation c => [c]

/-- The spelling of lexemes one after the other. -/
def spell (ls : List Lexeme) : String := String.ofList (ls.flatMap spelling)

/-- Lists of lexemes with a separator between them. -/
def joined (separator : List Lexeme) : List (List Lexeme) → List Lexeme
  | [] => []
  | [x] => x
  | x :: xs => x ++ separator ++ joined separator xs

end Lexeme

/-! ## Values as lexemes -/

namespace Json

variable [FloatPrinter]

mutual

/-- The lexemes of a JSON value. -/
def lexemes : Json → List Lexeme
  | null => [.keyword .null]
  | bool true => [.keyword .yes]
  | bool false => [.keyword .no]
  | number n => [.numeral n.numeral]
  | string s => [.string s]
  | array xs =>
    .punctuation '[' :: (Lexeme.joined [.punctuation ','] (itemLexemes xs) ++ [.punctuation ']'])
  | object ms =>
    .punctuation '{' :: (Lexeme.joined [.punctuation ','] (memberLexemes ms) ++ [.punctuation '}'])

/-- The lexemes of each element. -/
def itemLexemes : List Json → List (List Lexeme)
  | [] => []
  | x :: xs => lexemes x :: itemLexemes xs

/-- The lexemes of each member. -/
def memberLexemes : List (String × Json) → List (List Lexeme)
  | [] => []
  | (key, v) :: ms => (.string key :: .punctuation ':' :: lexemes v) :: memberLexemes ms

end

/-- **The compact text of a JSON value.** -/
def text (v : Json) : String := Lexeme.spell v.lexemes

end Json

end JsonQuery
