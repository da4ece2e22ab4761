import JsonQuery.Regex.Engine
import JsonQuery.Regex.Reference.Matcher
import JsonQuery.Regex.Reference.Reader
import JsonQuery.Unicode.CaseFolding

/-
From patterns to regular expressions: the reference engine.

Flags hold from where they are changed to the end of the group around them, so
they are carried along from left to right. With the standard's properties switched
off a class is a set of bytes, and it has to stay within ASCII for the expression
to match texts.

Two resource limits are kept apart from what a pattern means: how deep it may be,
and how large the expression may grow when repetitions are written out. They are
parameters of the engine, and nothing that is said of it depends on their values.
-/

set_option autoImplicit false

namespace JsonQuery

/-! ## Settings -/

/-- The settings that a pattern is read with. -/
structure Flags where
  ignoreCase : Bool
  multiLine : Bool
  dotMatchesNewline : Bool
  swapGreed : Bool
  unicode : Bool
  crlf : Bool
  verbose : Bool
deriving DecidableEq, Repr, Inhabited

namespace Flags

/-- The settings at the start of a pattern. -/
def initial : Flags := ⟨false, false, false, false, true, false, false⟩

/-- Switches one flag. -/
def set (fs : Flags) : Flag → Bool → Flags
  | .ignoreCase, b => { fs with ignoreCase := b }
  | .multiLine, b => { fs with multiLine := b }
  | .dotMatchesNewline, b => { fs with dotMatchesNewline := b }
  | .swapGreed, b => { fs with swapGreed := b }
  | .unicode, b => { fs with unicode := b }
  | .crlf, b => { fs with crlf := b }
  | .verbose, b => { fs with verbose := b }

/-- Switches flags one after the other. -/
def change (fs : Flags) (changes : FlagChanges) : Flags :=
  changes.foldl (fun fs c => fs.set c.1 c.2) fs

/-- The case rules in force. -/
def caseRules (fs : Flags) : List CaseRule :=
  if fs.unicode then Unicode.caseRules else Unicode.asciiCaseRules

/-- A set as it is meant: closed under case where case is ignored. -/
def inCase (fs : Flags) (s : CharSet) : CharSet :=
  if fs.ignoreCase then .caseClosure fs.caseRules s else s

/-- The characters of words. -/
def wordChars (fs : Flags) : CharSet :=
  if fs.unicode then Unicode.word
  else .unionAll [.range 0x30 0x39, .range 0x41 0x5A, .range 0x61 0x7A, .single '_']

end Flags

/-! ## Sets -/

/-- A set or what is outside it. -/
def CharSet.negatedIf (negated : Bool) (s : CharSet) : CharSet :=
  if negated then .compl s else s

/-- Whether a set of bytes has none beyond ASCII. -/
def CharSet.isAsciiOnly (s : CharSet) : Bool :=
  (List.range' 0x80 0x80).all fun n => !s.contains n

/-- A set of bytes as a set of characters, if texts can have it. -/
def asciiSet (s : CharSet) : Except PatternError CharSet :=
  if s.isAsciiOnly then .ok (.inter (.range 0 0x7F) s) else .error .notText

/-- The characters of a class by name. -/
def NamedClass.chars (fs : Flags) : NamedClass → CharSet
  | digit => if fs.unicode then .table Unicode.decimalDigit else .range 0x30 0x39
  | space =>
    if fs.unicode then Unicode.whiteSpace else .union (.range 0x09 0x0D) (.range 0x20 0x20)
  | word => fs.wordChars

/-- A class by name, or what is outside it. -/
def namedSet (fs : Flags) (c : NamedClass) (negated : Bool) : Except PatternError CharSet :=
  let s := (c.chars fs).negatedIf negated
  if fs.unicode then .ok s else asciiSet s

/-- The characters that have a property, or that do not. -/
def propertySet (fs : Flags) (name : PropertyName) (negated : Bool) :
    Except PatternError CharSet :=
  if !fs.unicode then .error .notText
  else
    let found := match name with
      | .alone name => Unicode.property? name
      | .withValue name value => Unicode.propertyValue? name value
    match found with
    | some s => .ok ((fs.inCase s).negatedIf negated)
    | none => .error .unknownProperty

/-- A character of a class by its code point. Without the standard's properties
it has to be in ASCII. -/
def classCodePoint (fs : Flags) (c : Char) : Except PatternError Nat :=
  if fs.unicode || c.toNat < 0x80 then .ok c.toNat else .error .notText

/-- A class that is built from its items, as it is meant at its closing bracket. -/
def closedSet (fs : Flags) (negated : Bool) (s : CharSet) : Except PatternError CharSet :=
  let s := (fs.inCase s).negatedIf negated
  if fs.unicode then .ok s else asciiSet s

/-- The set that an operator makes of two. -/
def ClassOperator.apply : ClassOperator → CharSet → CharSet → CharSet
  | intersection, a, b => .inter a b
  | difference, a, b => .diff a b
  | symmetricDifference, a, b => .symmDiff a b

mutual

/-- **The characters of a class.** -/
def ClassBody.chars (fs : Flags) : ClassBody → Except PatternError CharSet
  | .literal c _ => do
    let n ← classCodePoint fs c
    return .range n n
  | .range a b _ _ => do
    let m ← classCodePoint fs a
    let n ← classCodePoint fs b
    return .range m n
  | .named c negated => namedSet fs c negated
  | .property name negated => propertySet fs name negated
  | .ascii s negated => .ok (s.negatedIf negated)
  | .bracketed negated body => do
    let s ← body.chars fs
    closedSet fs negated s
  | .union items => ClassBody.charsAll fs items
  | .operation op left right => do
    let a ← left.chars fs
    let b ← right.chars fs
    return op.apply (fs.inCase a) (fs.inCase b)

/-- The characters of any of several classes. -/
def ClassBody.charsAll (fs : Flags) : List ClassBody → Except PatternError CharSet
  | [] => .ok .empty
  | b :: bs => do
    let s ← b.chars fs
    let rest ← ClassBody.charsAll fs bs
    return .union s rest

end

/-! ## Atoms -/

/-- The set that a point stands for. -/
def dotSet (fs : Flags) : CharSet :=
  if fs.dotMatchesNewline then Unicode.any
  else if fs.crlf then .compl (.ofChars ['\r', '\n'])
  else .compl (.single '\n')

/-- An assertion as it is meant under the settings. -/
def Assertion.look (fs : Flags) : Assertion → Look
  | lineStart =>
    if fs.multiLine then (if fs.crlf then .crlfLineStart else .lineStart) else .textStart
  | lineEnd =>
    if fs.multiLine then (if fs.crlf then .crlfLineEnd else .lineEnd) else .textEnd
  | textStart => .textStart
  | textEnd => .textEnd
  | wordBoundary => .word .boundary fs.wordChars
  | notWordBoundary => .word .notBoundary fs.wordChars
  | wordStart => .word .start fs.wordChars
  | wordEnd => .word .finish fs.wordChars
  | wordStartHalf => .word .startHalf fs.wordChars
  | wordEndHalf => .word .finishHalf fs.wordChars

/-- **The expression of an atom.** -/
def Atom.regex (fs : Flags) : Atom → Except PatternError Regex
  | literal c byte =>
    if !fs.unicode && byte && 0x80 ≤ c.toNat then .error .notText
    else .ok (.set (fs.inCase (.single c)))
  | dot => if fs.unicode then .ok (.set (dotSet fs)) else .error .notText
  | assertion a => .ok (.look (a.look fs))
  | named c negated => do
    let s ← namedSet fs c negated
    return .set s
  | property name negated => do
    let s ← propertySet fs name negated
    return .set s

/-! ## Patterns -/

mutual

/-- The expression of a pattern under the settings in force, and the settings in
force behind it. -/
def Pattern.regex (fs : Flags) : Pattern → Except PatternError (Regex × Flags)
  | .empty => .ok (.empty, fs)
  | .atom a => do
    let r ← a.regex fs
    return (r, fs)
  | .bracketed negated body => do
    let s ← body.chars fs
    let s ← closedSet fs negated s
    return (.set s, fs)
  | .flags changes => .ok (.empty, fs.change changes)
  | .group changes body => do
    let (r, _) ← body.regex (fs.change changes)
    return (r, fs)
  | .repetition body least most => do
    let (r, fs) ← body.regex fs
    return (.repeat r least most, fs)
  | .concat items => Pattern.regexSeq fs items
  | .alternation branches => Pattern.regexAlt fs branches

/-- The expressions of patterns one after the other. -/
def Pattern.regexSeq (fs : Flags) : List Pattern → Except PatternError (Regex × Flags)
  | [] => .ok (.empty, fs)
  | p :: ps => do
    let (r, fs) ← p.regex fs
    let (rest, fs) ← Pattern.regexSeq fs ps
    return (.seq r rest, fs)

/-- The expressions of patterns as alternatives. -/
def Pattern.regexAlt (fs : Flags) : List Pattern → Except PatternError (Regex × Flags)
  | [] => .ok (.never, fs)
  | p :: ps => do
    let (r, fs) ← p.regex fs
    let (rest, fs) ← Pattern.regexAlt fs ps
    return (.alt r rest, fs)

end

/-! ## Limits -/

/-- The size of a set, roughly in bytes. A range of code points takes about as much as two
states, and a complement reaches into every length of encoded characters. -/
def CharSet.size : CharSet → Nat
  | .empty => 0
  | .range _ last => if last < 0x80 then 8 else 60
  | .table bounds => 60 * ((bounds.length + 1) / 2)
  | .union a b | .inter a b | .diff a b | .symmDiff a b => a.size + b.size
  | .compl a => a.size + 400
  | .caseClosure _ a => 2 * a.size

/-- The size of a state, roughly in bytes. -/
def stateSize : Nat := 32

/-- The size of an expression with its repetitions written out, roughly in bytes. A state
has room for one range of ASCII. -/
def Regex.size : Regex → Nat
  | .empty | .look _ => stateSize
  | .set chars => stateSize + (chars.size - 8)
  | .seq a b => a.size + b.size
  | .alt a b => a.size + b.size + stateSize
  | .repeat body least most =>
    match most with
    | some n => if n = 0 then stateSize else body.size * n + stateSize * (n - least)
    | none => body.size * max least 1 + stateSize

/-- What limits the patterns that are accepted. -/
structure PatternLimits where
  /-- How deep a pattern may be. -/
  depth : Nat
  /-- How large an expression may be, in bytes. -/
  size : Nat
deriving DecidableEq, Repr, Inhabited

/-- The limits unless others are asked for. -/
def PatternLimits.standard : PatternLimits := ⟨250, 10 * 1024 * 1024⟩

/-- **The regular expression of a text**, within limits. -/
def Regex.compile (limits : PatternLimits) (text : List Char) : Except PatternError Regex := do
  let p ← Pattern.ofText text
  if limits.depth < p.depth then throw .tooDeep
  let (r, _) ← p.regex .initial
  if limits.size < r.size then throw .tooLarge
  return r

/-! ## The engine -/

/-- An engine that accepts patterns within limits. -/
def Engine.ofLimits (limits : PatternLimits) : Engine where
  Compiled := Regex
  Failure := PatternError
  compile := Regex.compile limits
  isMatch := Regex.isMatch

/-- **The reference engine**, with the usual limits. -/
def Engine.reference : Engine := .ofLimits .standard

end JsonQuery
