import JsonQuery.Token.Basic

/-
Cutting a text into tokens.

`Cursor.scan` reads the token at a cursor. After the end, and after a malformed
token, the cursor stands at the end of the text, so every further scan answers
that the input has ended. `tokenize` collects tokens up to the first of these
two.
-/

set_option autoImplicit false

namespace JsonQuery

/-! ## Character classes -/

/-- Blank space: space, tab, line feed and carriage return. -/
def isBlank (c : Char) : Bool := c == ' ' || c == '\t' || c == '\n' || c == '\r'

/-- The first character of a name: an ASCII letter, `_`, or any character
outside ASCII. -/
def isNameStart (c : Char) : Bool := c.isAlpha || c == '_' || 0x80 ≤ c.toNat

/-- A later character of a name; digits and `$` are allowed there too. -/
def isNameChar (c : Char) : Bool := isNameStart c || c.isDigit || c == '$'

/-! ## One token -/

namespace Cursor

/-- The run of blank space at a cursor. -/
def blank (here : Cursor) : Lexeme × Cursor :=
  let (run, rest) := here.rest.span isBlank
  (.blank (String.ofList run), here.after run rest)

/-- The string literal at a cursor that stands on its opening quote. -/
def stringLiteral (quote : Char) (here : Cursor) : Except Fault (Lexeme × Cursor) := do
  let (value, next) ← here.quoted quote
  return (.string (String.ofList value), next)

/-- The number literal at a cursor. -/
def numeral (here : Cursor) : Except Fault (Lexeme × Cursor) :=
  match Numeral.scan here.rest with
  | some (n, rest) => .ok (.numeral n, here.after n.text rest)
  | none => .error ⟨.invalidNumber, here.offset⟩

/-- The rest of a name, of which `read` says whether a character has been read.
The answer tells whether an escape was met. Every turn reads at least one
character, so a `fuel` of the text's length is never used up. -/
def nameBody : (fuel : Nat) → (read : Bool) → Cursor →
    Except Fault (List Char × Bool × Cursor)
  | 0, _, here => .ok ([], false, here)
  | fuel + 1, read, here =>
    match here.rest with
    | [] => .ok ([], false, here)
    | c :: cs =>
      if c = '\\' then do
        let (decoded, next) ← here.escape none
        let (more, _, last) ← nameBody fuel true next
        return (decoded :: more, true, last)
      else if (if read then isNameChar c else isNameStart c) then do
        let (more, escapes, last) ← nameBody fuel true (here.after [c] cs)
        return (c :: more, escapes, last)
      else .ok ([], false, here)

/-- **A name or a keyword.** A name that is spelled with an escape is never a
keyword. -/
def name (here : Cursor) : Except Fault (Lexeme × Cursor) := do
  let (name, escapes, next) ← here.nameBody here.rest.length false
  let identifier := Lexeme.identifier (String.ofList name)
  let lexeme :=
    if escapes then identifier
    else match Keyword.ofText? name with
      | some k => .keyword k
      | none => identifier
  return (lexeme, next)

/-- The lexeme at a cursor, chosen by its first character. -/
def lexeme (here : Cursor) : Except Fault (Lexeme × Cursor) :=
  match here.rest with
  | [] => .ok (.endOfInput, here)
  | c :: cs =>
    if isBlank c then .ok here.blank
    else if c = '\'' ∨ c = '"' then here.stringLiteral c
    else if c = '-' ∨ c.isDigit then here.numeral
    else if c = '\\' ∨ isNameStart c then here.name
    else .ok (.punctuation c, here.after [c] cs)

/-- **The token at a cursor, and the place behind it.** Behind a malformed token
there is nothing but the end of the text. -/
def scan (here : Cursor) : Token × Cursor :=
  match here.lexeme with
  | .ok (lexeme, next) => (⟨lexeme, here.offset⟩, next)
  | .error fault => (⟨.invalid fault.cause, fault.offset⟩, here.atEnd)

/-- The tokens from a cursor on, through the first one that is last. Every token
but the end of input has a character, so a `fuel` above the text's length is
never used up. -/
def tokens : (fuel : Nat) → Cursor → List Token
  | 0, _ => []
  | fuel + 1, here =>
    let (t, next) := here.scan
    if t.lexeme.isLast then [t] else t :: next.tokens fuel

end Cursor

/-! ## All tokens -/

/-- **The tokens of a text**, through the end of input or the first malformed
token. -/
def tokenize (text : String) : List Token :=
  (Cursor.start text.toList).tokens (text.toList.length + 1)

/-- The answers to scanning a text again and again: its tokens, and then the end
of input as often as asked for. -/
def scanRepeatedly : (count : Nat) → Cursor → List Token
  | 0, _ => []
  | count + 1, here =>
    let (t, next) := here.scan
    t :: scanRepeatedly count next

end JsonQuery
