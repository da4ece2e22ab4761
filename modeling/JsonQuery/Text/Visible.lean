import JsonQuery.Unicode.Word

/-
Text shown so that every character of it can be seen.

Error messages show a name that is not a name. It stands between double quotes;
a quote and a backslash are escaped, and a character that prints nothing of its
own, or that changes the one before it, is given by its number.
-/

set_option autoImplicit false

namespace JsonQuery

/-- A character by its number: `\u`, and the code point in braces. -/
def codePointText (c : Char) : List Char :=
  ['\\', 'u', '{'] ++ Nat.toDigits 16 c.toNat ++ ['}']

/-- A character inside a shown text. -/
def visibleChar (c : Char) : List Char :=
  if c = '\x00' then ['\\', '0']
  else if c = '\t' then ['\\', 't']
  else if c = '\r' then ['\\', 'r']
  else if c = '\n' then ['\\', 'n']
  else if c = '"' ∨ c = '\\' then ['\\', c]
  else if insideBounds Unicode.graphemeExtend c.toNat then codePointText c
  else if Unicode.visible.contains c.toNat then [c]
  else codePointText c

/-- **A text between double quotes, with nothing invisible in it.** -/
def visibleText (s : String) : String :=
  String.ofList ('"' :: (s.toList.flatMap visibleChar ++ ['"']))

end JsonQuery
