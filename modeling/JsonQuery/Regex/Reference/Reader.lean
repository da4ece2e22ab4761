import JsonQuery.Regex.Reference.Pattern
import JsonQuery.Text.Quoted

/-
Reading a pattern.

A pattern is read from the left in one pass. In verbose mode blank space and
comments between the characters of a pattern mean nothing; the reader carries the
mode along, since a flag can switch it inside a group. It also keeps the names of
groups, which have to be distinct.

Every loop reads a character on each turn, so a `fuel` above twice the pattern's
length is never used up.
-/

set_option autoImplicit false

namespace JsonQuery

/-- What the reader knows beside the text in front of it. -/
structure ReaderState where
  verbose : Bool
  names : List (List Char)
deriving Inhabited

namespace Pattern

/-! ## Blank space -/

/-- Drops blank space and comments; `comment` says whether one is open. -/
def skipVerbose : (comment : Bool) → List Char → List Char
  | _, [] => []
  | true, c :: cs => skipVerbose (c != '\n') cs
  | false, c :: cs =>
    if Unicode.whiteSpace.contains c.toNat then skipVerbose false cs
    else if c = '#' then skipVerbose true cs
    else c :: cs

/-- Drops what means nothing in the current mode. -/
def skipSpace (verbose : Bool) (cs : List Char) : List Char :=
  if verbose then skipVerbose false cs else cs

/-- The characters that pass a test, with blank space dropped behind each. -/
def spacedWhile (verbose : Bool) (test : Char → Bool) :
    (fuel : Nat) → List Char → List Char × List Char
  | 0, cs => ([], cs)
  | fuel + 1, cs =>
    match cs with
    | [] => ([], [])
    | c :: rest =>
      if test c then
        let (taken, rest) := spacedWhile verbose test fuel (skipSpace verbose rest)
        (c :: taken, rest)
      else ([], c :: rest)

/-! ## Escapes -/

/-- The characters that a pattern gives a meaning. -/
def isMeta (c : Char) : Bool :=
  ['\\', '.', '+', '*', '?', '(', ')', '|', '[', ']', '{', '}', '^', '$', '#', '&', '-', '~']
    |>.contains c

/-- The characters that a backslash turns into themselves: ASCII characters other
than letters, digits and angle brackets. -/
def isEscapable (c : Char) : Bool :=
  isMeta c || (c.toNat < 0x80 && !c.isAlphanum && c != '<' && c != '>')

/-- The control characters with an escape of their own. -/
def controlEscape? : Char → Option Char
  | 'a' => some '\x07'
  | 'f' => some '\x0c'
  | 't' => some '\t'
  | 'n' => some '\n'
  | 'r' => some '\r'
  | 'v' => some '\x0b'
  | _ => none

/-- A character by its number, or an error. -/
def numbered (digits : List Char) (byte : Bool) : Except PatternError Atom :=
  match charOfCodePoint? (ofHexDigits digits) with
  | some c => .ok (.literal c byte)
  | none => .error .invalidEscape

/-- A number of hexadecimal digits. -/
def fixedHex (verbose : Bool) : (count : Nat) → List Char →
    Except PatternError (List Char × List Char)
  | 0, cs => .ok ([], cs)
  | count + 1, c :: cs =>
    if isHexDigit c then do
      let (digits, cs) ← fixedHex verbose count (skipSpace verbose cs)
      return (c :: digits, cs)
    else .error .invalidEscape
  | _ + 1, [] => .error .invalidEscape

/-- A character by its number, behind the letter of the escape: in braces, or as
a fixed number of digits. -/
def hexEscape (verbose : Bool) (letter : Char) (cs : List Char) :
    Except PatternError (Atom × List Char) :=
  match skipSpace verbose cs with
  | '{' :: cs =>
    match spacedWhile verbose (· != '}') cs.length (skipSpace verbose cs) with
    | (digits, '}' :: cs) => do
      if digits.isEmpty || !digits.all isHexDigit then throw .invalidEscape
      let a ← numbered digits false
      return (a, skipSpace verbose cs)
    | _ => .error .invalidEscape
  | cs => do
    let count := if letter = 'x' then 2 else if letter = 'u' then 4 else 8
    let (digits, cs) ← fixedHex verbose count cs
    let a ← numbered digits (letter = 'x')
    return (a, cs)

/-- Splits a text at the first place where a separator stands. -/
def splitAtFirst? (separator : List Char) : List Char → Option (List Char × List Char)
  | [] => none
  | c :: cs =>
    if separator.isPrefixOf (c :: cs) then some ([], (c :: cs).drop separator.length)
    else (splitAtFirst? separator cs).map fun (before, after) => (c :: before, after)

/-- The property that a text in braces names, and whether it is negated once
more: a name, or a name and a value. -/
def propertyName (text : List Char) : PropertyName × Bool :=
  match splitAtFirst? ['!', '='] text with
  | some (name, value) => (.withValue name value, true)
  | none =>
    match splitAtFirst? [':'] text with
    | some (name, value) => (.withValue name value, false)
    | none =>
      match splitAtFirst? ['='] text with
      | some (name, value) => (.withValue name value, false)
      | none => (.alone text, false)

/-- A property, behind `p` or `P`. -/
def propertyEscape (verbose negated : Bool) (cs : List Char) :
    Except PatternError (Atom × List Char) :=
  match skipSpace verbose cs with
  | [] => .error .invalidEscape
  | '{' :: cs =>
    match spacedWhile verbose (· != '}') cs.length (skipSpace verbose cs) with
    | (text, '}' :: cs) =>
      let (name, again) := propertyName text
      .ok (.property name (negated != again), cs)
    | _ => .error .invalidEscape
  | c :: cs =>
    if c = '\\' then .error .invalidEscape
    else .ok (.property (.alone [c]) negated, skipSpace verbose cs)

/-- A word boundary with a name in braces, behind the opening brace. A brace
that no letter follows is left to be a repetition. -/
def boundaryName (verbose : Bool) (cs : List Char) :
    Except PatternError (Option (Assertion × List Char)) :=
  let inName (c : Char) : Bool := c.isAlpha || c == '-'
  match skipSpace verbose cs with
  | [] => .error .invalidEscape
  | c :: cs =>
    if !inName c then .ok none
    else match spacedWhile verbose inName (cs.length + 1) (c :: cs) with
      | (name, '}' :: cs) =>
        match String.ofList name with
        | "start" => .ok (some (.wordStart, cs))
        | "end" => .ok (some (.wordEnd, cs))
        | "start-half" => .ok (some (.wordStartHalf, cs))
        | "end-half" => .ok (some (.wordEndHalf, cs))
        | _ => .error .invalidEscape
      | _ => .error .invalidEscape

/-- **An escape**, read behind its backslash. -/
def escapeAtom (verbose : Bool) : List Char → Except PatternError (Atom × List Char)
  | [] => .error .invalidEscape
  | c :: cs =>
    if c.isDigit then .error .backReference
    else if c = 'x' ∨ c = 'u' ∨ c = 'U' then hexEscape verbose c cs
    else if c = 'p' ∨ c = 'P' then propertyEscape verbose (c = 'P') cs
    else if isEscapable c then .ok (.literal c false, cs)
    else match controlEscape? c with
      | some control => .ok (.literal control false, cs)
      | none =>
        match c with
        | 'd' => .ok (.named .digit false, cs)
        | 's' => .ok (.named .space false, cs)
        | 'w' => .ok (.named .word false, cs)
        | 'D' => .ok (.named .digit true, cs)
        | 'S' => .ok (.named .space true, cs)
        | 'W' => .ok (.named .word true, cs)
        | 'A' => .ok (.assertion .textStart, cs)
        | 'z' => .ok (.assertion .textEnd, cs)
        | 'B' => .ok (.assertion .notWordBoundary, cs)
        | '<' => .ok (.assertion .wordStart, cs)
        | '>' => .ok (.assertion .wordEnd, cs)
        | 'b' =>
          match cs with
          | '{' :: rest => do
            match ← boundaryName verbose rest with
            | some (a, rest) => return (.assertion a, rest)
            | none => return (.assertion .wordBoundary, cs)
          | _ => .ok (.assertion .wordBoundary, cs)
        | _ => .error .invalidEscape

/-! ## Classes -/

/-- The ASCII classes by name. -/
def asciiClass? (name : List Char) : Option CharSet :=
  let upper := CharSet.range 0x41 0x5A
  let lower := CharSet.range 0x61 0x7A
  let digit := CharSet.range 0x30 0x39
  match String.ofList name with
  | "alnum" => some (.unionAll [digit, upper, lower])
  | "alpha" => some (.union upper lower)
  | "ascii" => some (.range 0 0x7F)
  | "blank" => some (.ofChars ['\t', ' '])
  | "cntrl" => some (.union (.range 0 0x1F) (.range 0x7F 0x7F))
  | "digit" => some digit
  | "graph" => some (.range 0x21 0x7E)
  | "lower" => some lower
  | "print" => some (.range 0x20 0x7E)
  | "punct" =>
    some (.unionAll [.range 0x21 0x2F, .range 0x3A 0x40, .range 0x5B 0x60, .range 0x7B 0x7E])
  | "space" => some (.union (.range 0x09 0x0D) (.range 0x20 0x20))
  | "upper" => some upper
  | "word" => some (.unionAll [digit, upper, lower, .single '_'])
  | "xdigit" => some (.unionAll [digit, .range 0x41 0x46, .range 0x61 0x66])
  | _ => none

/-- An ASCII class behind its opening bracket, if one stands there. -/
def asciiClassBody? (cs : List Char) : Option (ClassBody × List Char) :=
  match cs with
  | ':' :: cs =>
    let (negated, cs) := match cs with
      | '^' :: cs => (true, cs)
      | cs => (false, cs)
    match cs.span (· != ':') with
    | (name, ':' :: ']' :: cs) => (asciiClass? name).map fun set => (.ascii set negated, cs)
    | _ => none
  | _ => none

/-- What a class starts with: whether it is negated, hyphens that stand for
themselves, and a closing bracket right at the start, which is no end. -/
def classOpening (verbose : Bool) (cs : List Char) :
    Except PatternError (Bool × List ClassBody × List Char) := do
  let cs := skipSpace verbose cs
  let (negated, cs) := match cs with
    | '^' :: cs => (true, skipSpace verbose cs)
    | cs => (false, cs)
  let (hyphens, cs) := spacedWhile verbose (· == '-') cs.length cs
  let items := hyphens.map (ClassBody.literal · false)
  match cs with
  | [] => throw .unclosedClass
  | ']' :: rest =>
    if items.isEmpty then
      let rest := skipSpace verbose rest
      if rest.isEmpty then throw .unclosedClass
      else return (negated, [.literal ']' false], rest)
    else return (negated, items, cs)
  | _ => return (negated, items, cs)

/-- One character or escape of a class. -/
def classAtom (verbose : Bool) : List Char → Except PatternError (Atom × List Char)
  | [] => .error .unclosedClass
  | '\\' :: cs => escapeAtom verbose cs
  | c :: cs => .ok (.literal c false, cs)

/-- An atom as an item of a class. -/
def classItem : Atom → Except PatternError ClassBody
  | .literal c byte => .ok (.literal c byte)
  | .named c negated => .ok (.named c negated)
  | .property name negated => .ok (.property name negated)
  | _ => .error .invalidClassItem

/-- **A character, an escape or a range** of a class. A hyphen makes a range unless
the class ends behind it or another hyphen follows. -/
def classRange (verbose : Bool) (cs : List Char) :
    Except PatternError (ClassBody × List Char) := do
  let (first, cs) ← classAtom verbose cs
  match skipSpace verbose cs with
  | [] => throw .unclosedClass
  | '-' :: rest =>
    match skipSpace verbose rest with
    | [] => throw .unclosedClass
    | d :: more =>
      if d = ']' ∨ d = '-' then return (← classItem first, '-' :: rest)
      let (last, cs) ← classAtom verbose (d :: more)
      match first, last with
      | .literal a aByte, .literal b bByte =>
        if a ≤ b then return (.range a b aByte bByte, cs) else throw .reversedRange
      | _, _ => throw .invalidClassItem
  | cs => return (← classItem first, cs)

/-- An operator and its left side, joined with the items behind it. -/
def joinOperand (left : Option (ClassOperator × ClassBody)) (items : List ClassBody) :
    ClassBody :=
  match left with
  | none => .ofItems items
  | some (op, body) => .operation op body (.ofItems items)

/-- **The inside of a class** from its first item on, through the closing bracket.
Operators stand between unions of items and associate to the left. The items are
collected in reverse. -/
def classBody (verbose : Bool) : (fuel : Nat) →
    (left : Option (ClassOperator × ClassBody)) → (items : List ClassBody) → List Char →
    Except PatternError (ClassBody × List Char)
  | 0, _, _, _ => .error .unclosedClass
  | fuel + 1, left, items, cs =>
    match skipSpace verbose cs with
    | [] => .error .unclosedClass
    | '[' :: cs =>
      match asciiClassBody? cs with
      | some (item, cs) => classBody verbose fuel left (item :: items) cs
      | none => do
        let (negated, opening, cs) ← classOpening verbose cs
        let (body, cs) ← classBody verbose fuel none opening.reverse cs
        classBody verbose fuel left (.bracketed negated body :: items) cs
    | ']' :: cs => .ok (joinOperand left items.reverse, cs)
    | '&' :: '&' :: cs =>
      classBody verbose fuel (some (.intersection, joinOperand left items.reverse)) [] cs
    | '-' :: '-' :: cs =>
      classBody verbose fuel (some (.difference, joinOperand left items.reverse)) [] cs
    | '~' :: '~' :: cs =>
      classBody verbose fuel (some (.symmetricDifference, joinOperand left items.reverse)) [] cs
    | cs => do
      let (item, cs) ← classRange verbose cs
      classBody verbose fuel left (item :: items) cs

/-- A bracketed class behind its opening bracket. -/
def bracketedClass (verbose : Bool) (cs : List Char) :
    Except PatternError (Pattern × List Char) := do
  let (negated, opening, rest) ← classOpening verbose cs
  let (body, rest) ← classBody verbose (2 * cs.length + 2) none opening.reverse rest
  return (.bracketed negated body, rest)

/-! ## Groups -/

/-- The flags behind `(?`, up to a colon or a parenthesis, which is answered
too. -/
def flagChanges : (on : Bool) → (seen : FlagChanges) → (dangling : Bool) → List Char →
    Except PatternError (FlagChanges × Char × List Char)
  | _, _, _, [] => .error .invalidFlags
  | on, seen, dangling, c :: cs =>
    if c = ':' ∨ c = ')' then
      if dangling then .error .invalidFlags else .ok (seen.reverse, c, cs)
    else if c = '-' then
      if on then flagChanges false seen true cs else .error .invalidFlags
    else match Flag.ofChar? c with
      | none => .error .invalidFlags
      | some f =>
        if seen.any (·.1 == f) then .error .invalidFlags
        else flagChanges on ((f, on) :: seen) false cs

/-- Whether a change of flags switches verbose mode, and to what. -/
def verboseAfter (verbose : Bool) (changes : FlagChanges) : Bool :=
  (changes.lookup .verbose).getD verbose

/-- Whether a character can stand in a group's name. -/
def isNameChar (first : Bool) (c : Char) : Bool :=
  if first then c == '_' || Unicode.alphabetic.contains c.toNat
  else c == '_' || c == '.' || c == '[' || c == ']' || Unicode.alphanumeric.contains c.toNat

/-- A group's name, through the closing bracket. -/
def groupName (names : List (List Char)) (cs : List Char) :
    Except PatternError (List Char × List Char) :=
  match cs.span (· != '>') with
  | (name, '>' :: rest) =>
    match name with
    | [] => .error .invalidGroupName
    | c :: more =>
      if !isNameChar true c || !more.all (isNameChar false) then .error .invalidGroupName
      else if names.contains name then .error .duplicateGroupName
      else .ok (name, rest)
  | _ => .error .invalidGroupName

/-- What an opening parenthesis starts. -/
inductive Opening
  /-- A change of flags for the rest of the group around it. -/
  | change (changes : FlagChanges)
  /-- A group, with flags for its inside. -/
  | group (changes : FlagChanges)

/-- What stands behind an opening parenthesis, up to the inside of the group. -/
def opening (state : ReaderState) (cs : List Char) :
    Except PatternError (Opening × ReaderState × List Char) :=
  match skipSpace state.verbose cs with
  | '?' :: '=' :: _ | '?' :: '!' :: _ | '?' :: '<' :: '=' :: _ | '?' :: '<' :: '!' :: _ =>
    .error .lookAround
  | '?' :: 'P' :: '<' :: rest | '?' :: '<' :: rest => do
    let (name, rest) ← groupName state.names rest
    return (.group [], { state with names := name :: state.names }, rest)
  | '?' :: rest => do
    let (changes, closing, rest) ← flagChanges true [] false rest
    if closing = ':' then return (.group changes, state, rest)
    else if changes.isEmpty then throw .nothingToRepeat
    else return (.change changes, state, rest)
  | rest => .ok (.group [], state, rest)

/-! ## Repetition -/

/-- A question mark behind a repetition, which makes no difference to what
matches. -/
def skipLazy : List Char → List Char
  | '?' :: cs => cs
  | cs => cs

/-- The greatest number that a repetition can count to, `2 ^ 32 - 1`. -/
def greatestCount : Nat := 0xffffffff

/-- A decimal number, with blank space of any kind around it. -/
def decimal (verbose : Bool) (cs : List Char) : Except PatternError (Option Nat × List Char) :=
  let blank (c : Char) : Bool := Unicode.whiteSpace.contains c.toNat
  let (digits, rest) := spacedWhile verbose Char.isDigit cs.length (cs.dropWhile blank)
  let (_, rest) := spacedWhile verbose blank rest.length rest
  if digits.isEmpty then .ok (none, rest)
  else
    let n := Nat.ofDigitChars 10 digits 0
    if n ≤ greatestCount then .ok (some n, rest) else .error .invalidRepetition

/-- **A counted repetition** behind its opening brace: `n`, `n,` or `n,m`. -/
def counted (verbose : Bool) (cs : List Char) :
    Except PatternError (Nat × Option Nat × List Char) := do
  let (least, rest) ← decimal verbose (skipSpace verbose cs)
  let some least := least | throw .invalidRepetition
  match rest with
  | '}' :: rest => return (least, some least, skipLazy (skipSpace verbose rest))
  | ',' :: rest =>
    match skipSpace verbose rest with
    | '}' :: rest => return (least, none, skipLazy (skipSpace verbose rest))
    | rest =>
      let (most, rest) ← decimal verbose rest
      let some most := most | throw .invalidRepetition
      match rest with
      | '}' :: rest =>
        if least ≤ most then return (least, some most, skipLazy (skipSpace verbose rest))
        else throw .invalidRepetition
      | _ => throw .invalidRepetition
  | _ => throw .invalidRepetition

/-- Repeats the last of the items read so far, which stand in reverse. -/
def repeatLast (items : List Pattern) (least : Nat) (most : Option Nat) :
    Except PatternError (List Pattern) :=
  match items with
  | p :: ps =>
    if p.isRepeatable then .ok (.repetition p least most :: ps) else .error .nothingToRepeat
  | [] => .error .nothingToRepeat

/-! ## Patterns -/

mutual

/-- A sequence up to `|`, `)` or the end. The items are collected in reverse. -/
def readItems : (fuel : Nat) → ReaderState → (items : List Pattern) → List Char →
    Except PatternError (Pattern × ReaderState × List Char)
  | 0, _, _, _ => .error .tooLarge
  | fuel + 1, state, items, cs =>
    let done (cs : List Char) : Except PatternError (Pattern × ReaderState × List Char) :=
      .ok (.ofItems items.reverse, state, cs)
    match skipSpace state.verbose cs with
    | [] => done []
    | '|' :: rest => done ('|' :: rest)
    | ')' :: rest => done (')' :: rest)
    | '(' :: rest => do
      match ← opening state rest with
      | (.change changes, state, rest) =>
        let state := { state with verbose := verboseAfter state.verbose changes }
        readItems fuel state (.flags changes :: items) rest
      | (.group changes, inner, rest) =>
        let inner := { inner with verbose := verboseAfter inner.verbose changes }
        let (body, inner, rest) ← readBranches fuel inner [] rest
        match rest with
        | ')' :: rest =>
          let state := { state with names := inner.names }
          readItems fuel state (.group changes body :: items) rest
        | _ => throw .unclosedGroup
    | '[' :: rest => do
      let (p, rest) ← bracketedClass state.verbose rest
      readItems fuel state (p :: items) rest
    | '?' :: rest => do
      let items ← repeatLast items 0 (some 1)
      readItems fuel state items (skipLazy rest)
    | '*' :: rest => do
      let items ← repeatLast items 0 none
      readItems fuel state items (skipLazy rest)
    | '+' :: rest => do
      let items ← repeatLast items 1 none
      readItems fuel state items (skipLazy rest)
    | '{' :: rest => do
      let _ ← repeatLast items 0 none
      let (least, most, rest) ← counted state.verbose rest
      let items ← repeatLast items least most
      readItems fuel state items rest
    | '.' :: rest => readItems fuel state (.atom .dot :: items) rest
    | '^' :: rest => readItems fuel state (.atom (.assertion .lineStart) :: items) rest
    | '$' :: rest => readItems fuel state (.atom (.assertion .lineEnd) :: items) rest
    | '\\' :: rest => do
      let (a, rest) ← escapeAtom state.verbose rest
      readItems fuel state (.atom a :: items) rest
    | c :: rest => readItems fuel state (.atom (.literal c false) :: items) rest

/-- Branches with `|` between them, up to `)` or the end. The branches are
collected in reverse. -/
def readBranches : (fuel : Nat) → ReaderState → (branches : List Pattern) → List Char →
    Except PatternError (Pattern × ReaderState × List Char)
  | 0, _, _, _ => .error .tooLarge
  | fuel + 1, state, branches, cs => do
    let (p, state, rest) ← readItems fuel state [] cs
    match rest with
    | '|' :: rest => readBranches fuel state (p :: branches) rest
    | rest => return (.ofBranches (p :: branches).reverse, state, rest)

end

/-- **The pattern of a text.** -/
def ofText (cs : List Char) : Except PatternError Pattern := do
  let (p, _, rest) ← readBranches (2 * cs.length + 2) ⟨false, []⟩ [] cs
  if rest.isEmpty then return p else throw .unopenedGroup

end Pattern

end JsonQuery
