import JsonQuery.Query.Basic
import JsonQuery.Json.Printer

/-
The canonical text of a query.

Every segment is written with brackets and every name as a string, so that one
query has one text. The text is the spelling of the query's lexemes; blank space
stands only around operators.
-/

set_option autoImplicit false

namespace JsonQuery

/-! ## Leaves -/

/-- The lexeme of an anchor. -/
def Anchor.lexeme : Anchor → Lexeme
  | root => .punctuation '$'
  | current => .punctuation '@'

/-- The lexeme of an index. -/
def indexLexeme (i : Int64) : Lexeme := .numeral (.ofInt i.toInt)

/-- The lexemes of a slice: the second colon is written with the step only. -/
def Slice.lexemes (s : Slice) : List Lexeme :=
  s.start.toList.map indexLexeme ++ [.punctuation ':'] ++ s.stop.toList.map indexLexeme
    ++ (match s.step with
        | none => []
        | some step => [.punctuation ':', indexLexeme step])

/-- The lexemes of a singular selector, brackets included. -/
def SingularSelector.lexemes : SingularSelector → List Lexeme
  | name n => [.punctuation '[', .string n, .punctuation ']']
  | index i => [.punctuation '[', indexLexeme i, .punctuation ']']

/-- The lexemes of a singular query. -/
def SingularQuery.lexemes (q : SingularQuery) : List Lexeme :=
  q.anchor.lexeme :: q.selectors.flatMap SingularSelector.lexemes

/-- The characters of a comparison operator. -/
def Comparator.characters : Comparator → List Char
  | eq => ['=', '=']
  | ne => ['!', '=']
  | lt => ['<']
  | gt => ['>']
  | le => ['<', '=']
  | ge => ['>', '=']

/-- Operator characters with blank space on both sides. -/
def spaced (cs : List Char) : List Lexeme :=
  .blank " " :: (cs.map Lexeme.punctuation ++ [.blank " "])

/-- The lexeme of `!`, if it is written. -/
def negation (negated : Bool) : List Lexeme :=
  if negated then [.punctuation '!'] else []

/-- The canonical text of a singular query. -/
def SingularQuery.text (q : SingularQuery) : String := Lexeme.spell q.lexemes

/-! ## Queries -/

variable [FloatPrinter]

mutual

/-- The lexemes of a selector. -/
def Selector.lexemes : Selector → List Lexeme
  | .name name => [.string name]
  | .index i => [indexLexeme i]
  | .slice s => s.lexemes
  | .wildcard => [.punctuation '*']
  | .filter f => .punctuation '?' :: Formula.lexemes f

/-- The lexemes of selectors with commas between them. -/
def Selector.lexemesAll : List Selector → List Lexeme
  | [] => []
  | [s] => s.lexemes
  | s :: ss => s.lexemes ++ .punctuation ',' :: Selector.lexemesAll ss

/-- The lexemes of a segment. -/
def Segment.lexemes : Segment → List Lexeme
  | .child ss => .punctuation '[' :: (Selector.lexemesAll ss ++ [.punctuation ']'])
  | .descendant ss =>
    .punctuation '.' :: .punctuation '.' :: .punctuation '['
      :: (Selector.lexemesAll ss ++ [.punctuation ']'])

/-- The lexemes of segments one after the other. -/
def Segment.lexemesAll : List Segment → List Lexeme
  | [] => []
  | s :: ss => s.lexemes ++ Segment.lexemesAll ss

/-- **The lexemes of a query.** -/
def Query.lexemes : Query → List Lexeme
  | .mk anchor ss => anchor.lexeme :: Segment.lexemesAll ss

/-- The lexemes of a formula: branches with `||` between them. -/
def Formula.lexemes : List (List Condition) → List Lexeme
  | [] => []
  | [c] => Condition.lexemesAll c
  | c :: cs => Condition.lexemesAll c ++ spaced ['|', '|'] ++ Formula.lexemes cs

/-- The lexemes of a conjunction: conditions with `&&` between them. -/
def Condition.lexemesAll : List Condition → List Lexeme
  | [] => []
  | [c] => c.lexemes
  | c :: cs => c.lexemes ++ spaced ['&', '&'] ++ Condition.lexemesAll cs

/-- The lexemes of a condition. -/
def Condition.lexemes : Condition → List Lexeme
  | .query negated q => negation negated ++ q.lexemes
  | .group negated f =>
    negation negated ++ .punctuation '(' :: (Formula.lexemes f ++ [.punctuation ')'])
  | .compare a o b => a.lexemes ++ spaced o.characters ++ b.lexemes
  | .call negated c => negation negated ++ c.lexemes

/-- The lexemes of an operand. -/
def Operand.lexemes : Operand → List Lexeme
  | .literal v => v.lexemes
  | .singular q => q.lexemes
  | .call c => c.lexemes

/-- The lexemes of a call. -/
def Call.lexemes : Call → List Lexeme
  | .mk f as =>
    .identifier f.name :: .punctuation '(' :: (Argument.lexemesAll as ++ [.punctuation ')'])

/-- The lexemes of arguments with commas between them. -/
def Argument.lexemesAll : List Argument → List Lexeme
  | [] => []
  | [a] => a.lexemes
  | a :: as => a.lexemes ++ .punctuation ',' :: Argument.lexemesAll as

/-- The lexemes of an argument. -/
def Argument.lexemes : Argument → List Lexeme
  | .literal v => v.lexemes
  | .singular q => q.lexemes
  | .query q => q.lexemes
  | .formula f => Formula.lexemes f
  | .call c => c.lexemes

end

/-! ## Texts -/

/-- **The canonical text of a query.** -/
def Query.text (q : Query) : String := Lexeme.spell q.lexemes

/-- The canonical text of a segment. -/
def Segment.text (s : Segment) : String := Lexeme.spell s.lexemes

/-- The canonical text of a formula. -/
def Formula.text (f : Formula) : String := Lexeme.spell (Formula.lexemes f)

/-- The canonical text of an argument. -/
def Argument.text (a : Argument) : String := Lexeme.spell a.lexemes

end JsonQuery
