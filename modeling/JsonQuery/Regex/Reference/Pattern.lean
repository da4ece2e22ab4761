import JsonQuery.Unicode.Property

/-
Patterns: the written form of regular expressions.

A pattern is a tree of what is written, before any flag is taken into account.
Its depth is limited, counting what holds other patterns; a sequence or an
alternation counts when it has more than one part.
-/

set_option autoImplicit false

namespace JsonQuery

/-- Why a text is no regular expression. -/
inductive PatternError
  | unclosedGroup
  | unopenedGroup
  | unclosedClass
  | invalidGroupName
  | duplicateGroupName
  | invalidFlags
  | nothingToRepeat
  | invalidRepetition
  | invalidEscape
  | backReference
  | lookAround
  | invalidClassItem
  | reversedRange
  | unknownProperty
  /-- The pattern stands for characters that only texts of bytes have, or for a
  property while the standard's properties are switched off. -/
  | notText
  | tooDeep
  | tooLarge
deriving DecidableEq, Repr, Inhabited

/-! ## Flags -/

/-- A setting that a pattern can change. -/
inductive Flag
  | ignoreCase
  | multiLine
  | dotMatchesNewline
  | swapGreed
  | unicode
  | crlf
  | verbose
deriving DecidableEq, Repr, Inhabited

/-- The flag of a letter. -/
def Flag.ofChar? : Char → Option Flag
  | 'i' => some ignoreCase
  | 'm' => some multiLine
  | 's' => some dotMatchesNewline
  | 'U' => some swapGreed
  | 'u' => some unicode
  | 'R' => some crlf
  | 'x' => some verbose
  | _ => none

/-- Flags and whether each is switched on or off. -/
abbrev FlagChanges := List (Flag × Bool)

/-! ## Single characters -/

/-- The classes `\d`, `\s` and `\w`. -/
inductive NamedClass
  | digit
  | space
  | word
deriving DecidableEq, Repr, Inhabited

/-- A written assertion. -/
inductive Assertion
  | lineStart
  | lineEnd
  | textStart
  | textEnd
  | wordBoundary
  | notWordBoundary
  | wordStart
  | wordEnd
  | wordStartHalf
  | wordEndHalf
deriving DecidableEq, Repr, Inhabited

/-- How a character property is named. -/
inductive PropertyName
  | alone (name : List Char)
  | withValue (name value : List Char)
deriving DecidableEq, Repr, Inhabited

/-- A part of a pattern that holds no other. -/
inductive Atom
  /-- A character; `byte` if it is given by two hexadecimal digits. -/
  | literal (c : Char) (byte : Bool)
  | dot
  | assertion (a : Assertion)
  | named (c : NamedClass) (negated : Bool)
  | property (name : PropertyName) (negated : Bool)
deriving DecidableEq, Repr, Inhabited

/-! ## Classes -/

/-- An operation between classes. -/
inductive ClassOperator
  | intersection
  | difference
  | symmetricDifference
deriving DecidableEq, Repr, Inhabited

/-- What stands in a bracketed class. -/
inductive ClassBody
  | literal (c : Char) (byte : Bool)
  | range (first last : Char) (firstByte lastByte : Bool)
  | named (c : NamedClass) (negated : Bool)
  | property (name : PropertyName) (negated : Bool)
  /-- A class of ASCII characters by its name. -/
  | ascii (chars : CharSet) (negated : Bool)
  | bracketed (negated : Bool) (body : ClassBody)
  | union (items : List ClassBody)
  | operation (op : ClassOperator) (left right : ClassBody)
deriving Inhabited

/-- The body of a class with given items: a single item stands for itself. -/
def ClassBody.ofItems : List ClassBody → ClassBody
  | [item] => item
  | items => union items

/-! ## Patterns -/

/-- What is written in a pattern. -/
inductive Pattern
  | empty
  | atom (a : Atom)
  | bracketed (negated : Bool) (body : ClassBody)
  /-- A change of flags up to the end of the group. -/
  | flags (changes : FlagChanges)
  | group (changes : FlagChanges) (body : Pattern)
  | repetition (body : Pattern) (least : Nat) (most : Option Nat)
  | concat (items : List Pattern)
  | alternation (branches : List Pattern)
deriving Inhabited

namespace Pattern

/-- A sequence: a single part stands for itself. -/
def ofItems : List Pattern → Pattern
  | [] => empty
  | [item] => item
  | items => concat items

/-- An alternation: a single branch stands for itself. -/
def ofBranches : List Pattern → Pattern
  | [branch] => branch
  | branches => alternation branches

/-- Whether a repetition can stand behind a part. -/
def isRepeatable : Pattern → Bool
  | flags _ | empty => false
  | _ => true

end Pattern

/-! ## Depth -/

mutual

/-- The depth of a class. -/
def ClassBody.depth : ClassBody → Nat
  | .bracketed _ body => body.depth + 1
  | .union items => if items.isEmpty then 0 else ClassBody.depthAll items + 1
  | .operation _ left right => max left.depth right.depth + 1
  | _ => 0

/-- The greatest depth of classes. -/
def ClassBody.depthAll : List ClassBody → Nat
  | [] => 0
  | b :: bs => max b.depth (ClassBody.depthAll bs)

end

mutual

/-- **The depth of a pattern.** -/
def Pattern.depth : Pattern → Nat
  | .bracketed _ body => body.depth + 1
  | .group _ body => body.depth + 1
  | .repetition body _ _ => body.depth + 1
  | .concat items => Pattern.depthAll items + 1
  | .alternation branches => Pattern.depthAll branches + 1
  | _ => 0

/-- The greatest depth of patterns. -/
def Pattern.depthAll : List Pattern → Nat
  | [] => 0
  | p :: ps => max p.depth (Pattern.depthAll ps)

end

end JsonQuery
