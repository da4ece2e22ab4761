import JsonQuery.Text.Cursor

/-
Quoted strings and the escapes in them.

A string is written between two equal quotes, and a backslash starts an escape:
a short one, four hexadecimal digits, or two groups of four that form a
surrogate pair. Names are written without quotes; they know the same escapes,
except for a quote, and have a braced form `\u{...}` besides. An escape that
goes wrong is reported where its backslash stands.
-/

set_option autoImplicit false

namespace JsonQuery

/-- What can be wrong with the spelling of a token. -/
inductive LexicalError
  | invalidEscape
  | invalidUnicodeEscape
  | unterminatedString
  | controlCharacter
  | invalidNumber
deriving DecidableEq, Repr, Inhabited

/-- The wording of a lexical error. -/
def LexicalError.message : LexicalError → String
  | invalidEscape => "invalid escape sequence"
  | invalidUnicodeEscape => "invalid unicode escape"
  | unterminatedString => "unterminated string literal"
  | controlCharacter => "invalid control character in string literal"
  | invalidNumber => "invalid number literal"

/-- A lexical error and the byte offset it is reported at. -/
structure Fault where
  cause : LexicalError
  offset : Nat
deriving DecidableEq, Repr, Inhabited

/-! ## Hexadecimal digits -/

/-- The value of a hexadecimal digit of either case. -/
def hexValue? (c : Char) : Option Nat :=
  if '0' ≤ c ∧ c ≤ '9' then some (c.toNat - '0'.toNat)
  else if 'a' ≤ c ∧ c ≤ 'f' then some (c.toNat - 'a'.toNat + 10)
  else if 'A' ≤ c ∧ c ≤ 'F' then some (c.toNat - 'A'.toNat + 10)
  else none

/-- Whether a character is a hexadecimal digit. -/
def isHexDigit (c : Char) : Bool := (hexValue? c).isSome

/-- The number that hexadecimal digits stand for; other characters count as
zero. -/
def ofHexDigits (cs : List Char) : Nat :=
  cs.foldl (fun n c => 16 * n + (hexValue? c).getD 0) 0

/-- The number in the four hexadecimal digits that start a text. -/
def hex4? : List Char → Option (Nat × List Char)
  | a :: b :: c :: d :: rest =>
    if [a, b, c, d].all isHexDigit then some (ofHexDigits [a, b, c, d], rest) else none
  | _ => none

/-- The character with a code point: none for surrogates and beyond the last
code point. -/
def charOfCodePoint? (n : Nat) : Option Char :=
  if h : n.isValidChar then some (Char.ofNatAux n h) else none

/-! ## Escapes -/

/-- The first half of a surrogate pair. -/
def isHighSurrogate (n : Nat) : Bool := 0xD800 ≤ n && n ≤ 0xDBFF

/-- The second half of a surrogate pair. -/
def isLowSurrogate (n : Nat) : Bool := 0xDC00 ≤ n && n ≤ 0xDFFF

/-- The code point of a surrogate pair. -/
def pairCodePoint (high low : Nat) : Nat :=
  0x10000 + (high - 0xD800) * 0x400 + (low - 0xDC00)

/-- The escape with four digits, or a pair of them, after its `\u`. A high
surrogate needs a low one right behind it, and a low one never comes first. -/
def unicodeEscape? (cs : List Char) : Option (Char × List Char) := do
  let (high, rest) ← hex4? cs
  if isHighSurrogate high then
    match rest with
    | '\\' :: 'u' :: rest =>
      let (low, rest) ← hex4? rest
      if isLowSurrogate low then
        return (← charOfCodePoint? (pairCodePoint high low), rest)
      else none
    | _ => none
  else
    return (← charOfCodePoint? high, rest)

/-- The braced escape after its opening brace: one to six digits. -/
def bracedEscape? (cs : List Char) : Option (Char × List Char) :=
  match cs.span isHexDigit with
  | (digits, '}' :: rest) =>
    if 1 ≤ digits.length ∧ digits.length ≤ 6 then
      (charOfCodePoint? (ofHexDigits digits)).map (·, rest)
    else none
  | _ => none

/-- The characters that a backslash and one letter stand for. -/
def shortEscape? : Char → Option Char
  | 'b' => some '\x08'
  | 'f' => some '\x0c'
  | 'n' => some '\n'
  | 'r' => some '\r'
  | 't' => some '\t'
  | '/' => some '/'
  | '\\' => some '\\'
  | _ => none

/-- **One escape**, read after its backslash. Inside a string `quote` is the
quote around it, which may be escaped; in a name there is none, and the braced
form is allowed instead. -/
def escape (quote : Option Char) : List Char → Except LexicalError (Char × List Char)
  | 'u' :: cs =>
    let decoded := match quote, cs with
      | none, '{' :: digits => bracedEscape? digits
      | _, _ => unicodeEscape? cs
    match decoded with
    | some r => .ok r
    | none => .error .invalidUnicodeEscape
  | c :: cs =>
    match shortEscape? c with
    | some decoded => .ok (decoded, cs)
    | none => if some c = quote then .ok (c, cs) else .error .invalidEscape
  | [] => .error .invalidEscape

/-- The escape at a cursor that stands on its backslash. -/
def Cursor.escape (quote : Option Char) (here : Cursor) : Except Fault (Char × Cursor) :=
  match JsonQuery.escape quote (here.rest.drop 1) with
  | .ok (c, rest) =>
    .ok (c, here.after (here.rest.take (here.rest.length - rest.length)) rest)
  | .error cause => .error ⟨cause, here.offset⟩

/-! ## Strings -/

/-- The inside of a string up to its closing quote, and the place behind it.
Every turn reads at least one character, so a `fuel` of the text's length is
never used up. `opening` is where the string began, which is where a missing
quote is reported. -/
def Cursor.quotedBody (quote : Char) (opening : Nat) :
    (fuel : Nat) → Cursor → Except Fault (List Char × Cursor)
  | 0, _ => .error ⟨.unterminatedString, opening⟩
  | fuel + 1, here =>
    match here.rest with
    | [] => .error ⟨.unterminatedString, opening⟩
    | c :: cs =>
      if c = quote then .ok ([], here.after [c] cs)
      else if c = '\\' then do
        let (decoded, next) ← here.escape (some quote)
        let (more, last) ← quotedBody quote opening fuel next
        return (decoded :: more, last)
      else if c.toNat < 0x20 then .error ⟨.controlCharacter, here.offset⟩
      else do
        let (more, last) ← quotedBody quote opening fuel (here.after [c] cs)
        return (c :: more, last)

/-- **A string literal**, read from a cursor that stands on its opening quote:
the text it stands for, and the place behind its closing quote. -/
def Cursor.quoted (quote : Char) (here : Cursor) : Except Fault (List Char × Cursor) :=
  (here.after [quote] (here.rest.drop 1)).quotedBody quote here.offset (here.rest.length)

/-! ## Writing strings -/

/-- A hexadecimal numeral of four digits, in lower case. -/
def hex4Text (n : Nat) : List Char :=
  let ds := Nat.toDigits 16 n
  List.replicate (4 - ds.length) '0' ++ ds

/-- A character inside a string that is written between `quote`s: the quote, the
backslash and the control characters are escaped, with a short escape where
there is one. -/
def escaped (quote c : Char) : List Char :=
  if c = quote ∨ c = '\\' then ['\\', c]
  else if c = '\x08' then ['\\', 'b']
  else if c = '\x0c' then ['\\', 'f']
  else if c = '\n' then ['\\', 'n']
  else if c = '\r' then ['\\', 'r']
  else if c = '\t' then ['\\', 't']
  else if c.toNat < 0x20 then '\\' :: 'u' :: hex4Text c.toNat
  else [c]

/-- **A text as a string literal** between `quote`s. -/
def quotedText (quote : Char) (cs : List Char) : List Char :=
  quote :: (cs.flatMap (escaped quote) ++ [quote])

end JsonQuery
