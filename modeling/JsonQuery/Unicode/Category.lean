import JsonQuery.Unicode.CharSet
import JsonQuery.Unicode.Letter
import JsonQuery.Unicode.Mark
import JsonQuery.Unicode.Numeric
import JsonQuery.Unicode.Punctuation
import JsonQuery.Unicode.Separator
import JsonQuery.Unicode.Symbol

/-
The general categories.

Every code point has one category. The categories with one-letter names are unions
of tables, and what no table holds is unassigned.
-/

set_option autoImplicit false

namespace JsonQuery.Unicode

/-- Letters with case: upper, lower and title case. -/
def casedLetter : CharSet :=
  .unionAll [.table uppercaseLetter, .table lowercaseLetter, .table titlecaseLetter]

/-- All letters (L). -/
def letter : CharSet :=
  .unionAll [casedLetter, .table modifierLetter, .table otherLetter]

/-- All marks (M). -/
def mark : CharSet :=
  .unionAll [.table nonspacingMark, .table spacingMark, .table enclosingMark]

/-- All numbers (N). -/
def number : CharSet :=
  .unionAll [.table decimalDigit, .table letterNumber, .table otherNumber]

/-- All punctuation (P). -/
def punctuation : CharSet :=
  .unionAll [.table connectorPunctuation, .table dashPunctuation, .table openPunctuation,
    .table closePunctuation, .table initialPunctuation, .table finalPunctuation,
    .table otherPunctuation]

/-- All symbols (S). -/
def symbol : CharSet :=
  .unionAll [.table mathSymbol, .table currencySymbol, .table modifierSymbol,
    .table otherSymbol]

/-- All separators (Z). -/
def separator : CharSet :=
  .unionAll [.table spaceSeparator, .table lineSeparator, .table paragraphSeparator]

/-- Every code point. -/
def any : CharSet := .range 0 0x10FFFF

/-- The code points with a general category other than unassigned. -/
def assigned : CharSet :=
  .unionAll [letter, mark, number, punctuation, symbol, separator,
    .table controlCharacter, .table formatCharacter, .table privateUse]

/-- Code points that no character has (Cn). -/
def unassigned : CharSet := .compl assigned

/-- Everything that is none of the above (C). -/
def other : CharSet :=
  .unionAll [.table controlCharacter, .table formatCharacter, .table privateUse, unassigned]

end JsonQuery.Unicode
