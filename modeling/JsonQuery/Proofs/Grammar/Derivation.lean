import JsonQuery.Grammar.Compiler
import JsonQuery.Query.Nesting
import JsonQuery.Query.Printer
import Mathlib.Data.List.Chain

/-
The grammar of query texts, written down without the rules that read it.

`Derives r p a x b` says that the lexemes `a`, down to the remainder `b`, are a
phrase of the kind `p` that stands for the tree `x`. There is one constructor for
each production, and blank space stands in a production where it may be written
and nowhere else: a relation knows no lookahead, so nothing here says when a rule
has to stop or which of two alternatives it tries first.

Keeping the remainder in the relation spares it the concatenations. It also lets a
phrase be put in front of any other text (`Derives` never looks at `b`), which is
what the canonical text of a query needs.

How deep filters, groups and calls stand inside each other is a function of the
tree alone (`Phrase.nesting`), so the limit of a compiler is a condition beside the
grammar and not a part of it.
-/

set_option autoImplicit false

namespace JsonQuery

/-! ## Blank space -/

/-- Optional blank space: one token of it, or none. -/
inductive Blank : List Lexeme → List Lexeme → Prop
  | absent (a : List Lexeme) : Blank a a
  | present (text : String) (a : List Lexeme) : Blank (.blank text :: a) a

/-- Whether a lexeme is blank space. -/
def Lexeme.isBlank : Lexeme → Bool
  | blank _ => true
  | _ => false

/-- **No two blank tokens stand side by side.** Texts are cut into tokens that way,
since a blank token takes all the blank space there is. -/
def Separated (ls : List Lexeme) : Prop :=
  ls.IsChain fun l m => ¬ (l.isBlank = true ∧ m.isBlank = true)

theorem Separated.of_suffix {a b : List Lexeme} (h : Separated a) (hb : b <:+ a) :
    Separated b :=
  List.IsChain.suffix h hb

theorem Separated.tail {l : Lexeme} {a : List Lexeme} (h : Separated (l :: a)) :
    Separated a :=
  h.of_suffix (List.suffix_cons l a)

namespace Blank

theorem suffix {a b : List Lexeme} (h : Blank a b) : b <:+ a := by
  cases h with
  | absent => exact List.suffix_refl a
  | present text => exact List.suffix_cons _ b

/-- **Two optional blanks are one** where blank tokens do not repeat. -/
theorem trans {a b c : List Lexeme} (hab : Blank a b) (hbc : Blank b c) (hsep : Separated a) :
    Blank a c := by
  cases hab with
  | absent => exact hbc
  | present text =>
    cases hbc with
    | absent => exact .present text b
    | present other =>
      rw [Separated, List.isChain_cons_cons] at hsep
      exact absurd ⟨rfl, rfl⟩ hsep.1

/-- Blank space cannot stand before a lexeme that is none, unless it is that
lexeme's own. -/
theorem eq_of_cons {l : Lexeme} {a b : List Lexeme} (h : Blank (l :: a) b)
    (hl : l.isBlank = false) : b = l :: a := by
  cases h with
  | absent => rfl
  | present text => exact absurd hl (by simp [Lexeme.isBlank])

end Blank

/-! ## Integers and literals -/

/-- An integer: neither fraction nor exponent, not `-0`, and exact in binary64. -/
inductive IntegerLexeme : Lexeme → Int64 → Prop
  | intro {n : Numeral} (integer : n.isInteger = true) (nonzero : n.isNegativeZero = false)
      (least : -greatestIndex ≤ n.toInt) (greatest : n.toInt ≤ greatestIndex) :
      IntegerLexeme (.numeral n) (.ofInt n.toInt)

/-- A literal and its value. `-0` is no integer but a number, and a number with
fraction or exponent has to be finite. -/
inductive LiteralLexeme : Lexeme → Json → Prop
  | string (s : String) : LiteralLexeme (.string s) (.string s)
  | yes : LiteralLexeme (.keyword .yes) (.bool true)
  | no : LiteralLexeme (.keyword .no) (.bool false)
  | null : LiteralLexeme (.keyword .null) .null
  | negativeZero {n : Numeral} (zero : n.isNegativeZero = true) :
      LiteralLexeme (.numeral n) (.number (.float (.zero true)))
  | integer {n : Numeral} {i : Int64} (integer : IntegerLexeme (.numeral n) i) :
      LiteralLexeme (.numeral n) (.number (.integer i.toInt))
  | float {n : Numeral} {x : Binary64} (fractional : n.isInteger = false)
      (finite : Binary64.ofDecimal n.toDecimal = some x) :
      LiteralLexeme (.numeral n) (.number (.float x))

/-- `[int B]`: a bound of a slice. -/
inductive BoundLexemes : List Lexeme → Option Int64 → List Lexeme → Prop
  | absent (a : List Lexeme) : BoundLexemes a none a
  | present {l : Lexeme} {i : Int64} {a b : List Lexeme} (integer : IntegerLexeme l i)
      (blank : Blank a b) : BoundLexemes (l :: a) (some i) b

/-- `[':' B [int]]`: the step of a slice. -/
inductive StepLexemes : List Lexeme → Option Int64 → List Lexeme → Prop
  | absent (a : List Lexeme) : StepLexemes a none a
  | empty {a b : List Lexeme} (blank : Blank a b) :
      StepLexemes (.punctuation ':' :: a) none b
  | present {l : Lexeme} {i : Int64} {a b : List Lexeme} (blank : Blank a (l :: b))
      (integer : IntegerLexeme l i) : StepLexemes (.punctuation ':' :: a) (some i) b

/-! ## Phrases -/

/-- The kinds of phrases. -/
inductive Phrase
  | path
  | segments
  | segment
  | selectors
  | selector
  | formula
  | conjunction
  | condition
  | group
  | query
  | call
  | arguments
  | operand
  | argument
deriving DecidableEq, Repr

/-- What the phrases of a kind stand for. -/
abbrev Phrase.Tree : Phrase → Type
  | path | query => Query
  | segments => List Segment
  | segment => Segment
  | selectors => List Selector
  | selector => Selector
  | formula | group => Formula
  | conjunction => List Condition
  | condition => Condition
  | call => Call
  | arguments => List Argument
  | operand => Operand
  | argument => Argument

/-- Whether a formula is nothing but one query, or one call, that is not negated.
As an argument it is that query or call. -/
def Formula.isBare : Formula → Bool
  | [[.query false _]] | [[.call false _]] => true
  | _ => false

/-- **The grammar.** `B` is optional blank space in the productions. -/
inductive Derives (r : Registry) : (p : Phrase) → List Lexeme → p.Tree → List Lexeme → Prop
  /-- `path = '$' segments Eof` -/
  | path {a : List Lexeme} {ss : List Segment} (segments : Derives r .segments a ss [.endOfInput]) :
      Derives r .path (.punctuation '$' :: a) (.mk .root ss) []
  /-- `segments = (B segment)*` -/
  | noSegment (a : List Lexeme) : Derives r .segments a [] a
  | nextSegment {a b c d : List Lexeme} {s : Segment} {ss : List Segment} (blank : Blank a b)
      (segment : Derives r .segment b s c) (segments : Derives r .segments c ss d) :
      Derives r .segments a (s :: ss) d
  /-- `segment = '.' (name | '*')` -/
  | dotName {l : Lexeme} {n : String} {a : List Lexeme} (name : l.memberName? = some n) :
      Derives r .segment (.punctuation '.' :: l :: a) (.child [.name n]) a
  | dotWildcard (a : List Lexeme) :
      Derives r .segment (.punctuation '.' :: .punctuation '*' :: a) (.child [.wildcard]) a
  /-- `segment = '.' '.' (name | '*' | '[' selectors ']')` -/
  | dotsName {l : Lexeme} {n : String} {a : List Lexeme} (name : l.memberName? = some n) :
      Derives r .segment (.punctuation '.' :: .punctuation '.' :: l :: a)
        (.descendant [.name n]) a
  | dotsWildcard (a : List Lexeme) :
      Derives r .segment (.punctuation '.' :: .punctuation '.' :: .punctuation '*' :: a)
        (.descendant [.wildcard]) a
  | dotsBrackets {a b : List Lexeme} {ss : List Selector}
      (selectors : Derives r .selectors a ss (.punctuation ']' :: b)) :
      Derives r .segment (.punctuation '.' :: .punctuation '.' :: .punctuation '[' :: a)
        (.descendant ss) b
  /-- `segment = '[' selectors ']'` -/
  | brackets {a b : List Lexeme} {ss : List Selector}
      (selectors : Derives r .selectors a ss (.punctuation ']' :: b)) :
      Derives r .segment (.punctuation '[' :: a) (.child ss) b
  /-- `selectors = B selector B (',' B selector B)*` -/
  | lastSelector {a b c d : List Lexeme} {s : Selector} (before : Blank a b)
      (selector : Derives r .selector b s c) (behind : Blank c d) :
      Derives r .selectors a [s] d
  | nextSelector {a b c d e : List Lexeme} {s : Selector} {ss : List Selector}
      (before : Blank a b) (selector : Derives r .selector b s c)
      (behind : Blank c (.punctuation ',' :: d)) (selectors : Derives r .selectors d ss e) :
      Derives r .selectors a (s :: ss) e
  /-- `selector = String | '*' | int` -/
  | name (n : String) (a : List Lexeme) : Derives r .selector (.string n :: a) (.name n) a
  | wildcard (a : List Lexeme) : Derives r .selector (.punctuation '*' :: a) .wildcard a
  | index {l : Lexeme} {i : Int64} (integer : IntegerLexeme l i) (a : List Lexeme) :
      Derives r .selector (l :: a) (.index i) a
  /-- `selector = [int B] ':' B [int B] [':' B [int]]` -/
  | slice {a b c d e : List Lexeme} {start stop step : Option Int64}
      (first : BoundLexemes a start (.punctuation ':' :: b)) (blank : Blank b c)
      (last : BoundLexemes c stop d) (distance : StepLexemes d step e) :
      Derives r .selector a (.slice ⟨start, stop, step⟩) e
  /-- `selector = '?' B formula` -/
  | filter {a b c : List Lexeme} {f : Formula} (blank : Blank a b)
      (formula : Derives r .formula b f c) :
      Derives r .selector (.punctuation '?' :: a) (.filter f) c
  /-- `formula = conjunction (B '|' '|' B conjunction)*` -/
  | lastBranch {a b : List Lexeme} {c : List Condition}
      (conjunction : Derives r .conjunction a c b) : Derives r .formula a [c] b
  | nextBranch {a b c d e : List Lexeme} {first : List Condition} {f : Formula}
      (conjunction : Derives r .conjunction a first b)
      (before : Blank b (.punctuation '|' :: .punctuation '|' :: c)) (behind : Blank c d)
      (formula : Derives r .formula d f e) : Derives r .formula a (first :: f) e
  /-- `conjunction = condition (B '&' '&' B condition)*` -/
  | lastCondition {a b : List Lexeme} {c : Condition} (condition : Derives r .condition a c b) :
      Derives r .conjunction a [c] b
  | nextCondition {a b c d e : List Lexeme} {first : Condition} {cs : List Condition}
      (condition : Derives r .condition a first b)
      (before : Blank b (.punctuation '&' :: .punctuation '&' :: c)) (behind : Blank c d)
      (conjunction : Derives r .conjunction d cs e) : Derives r .conjunction a (first :: cs) e
  /-- `condition = query | group | call`, where the call answers no value -/
  | testQuery {a b : List Lexeme} {q : Query} (query : Derives r .query a q b) :
      Derives r .condition a (.query false q) b
  | testGroup {a b : List Lexeme} {f : Formula} (group : Derives r .group a f b) :
      Derives r .condition a (.group false f) b
  | testCall {a b : List Lexeme} {c : Call} (call : Derives r .call a c b)
      (result : c.result ≠ .value) : Derives r .condition a (.call false c) b
  /-- `condition = '!' B (query | group | call)`, where the call answers no value -/
  | notQuery {a b c : List Lexeme} {q : Query} (blank : Blank a b)
      (query : Derives r .query b q c) :
      Derives r .condition (.punctuation '!' :: a) (.query true q) c
  | notGroup {a b c : List Lexeme} {f : Formula} (blank : Blank a b)
      (group : Derives r .group b f c) :
      Derives r .condition (.punctuation '!' :: a) (.group true f) c
  | notCall {a b c : List Lexeme} {k : Call} (blank : Blank a b) (call : Derives r .call b k c)
      (result : k.result ≠ .value) :
      Derives r .condition (.punctuation '!' :: a) (.call true k) c
  /-- `condition = operand B operator B operand` -/
  | compare {a b c d e : List Lexeme} {left right : Operand} {op : Comparator}
      (first : Derives r .operand a left b)
      (before : Blank b (op.characters.map Lexeme.punctuation ++ c)) (behind : Blank c d)
      (second : Derives r .operand d right e) :
      Derives r .condition a (.compare left op right) e
  /-- `group = '(' B formula B ')'` -/
  | group {a b c d : List Lexeme} {f : Formula} (before : Blank a b)
      (formula : Derives r .formula b f c) (behind : Blank c (.punctuation ')' :: d)) :
      Derives r .group (.punctuation '(' :: a) f d
  /-- `query = ('@' | '$') segments` -/
  | query (anchor : Anchor) {a b : List Lexeme} {ss : List Segment}
      (segments : Derives r .segments a ss b) :
      Derives r .query (anchor.lexeme :: a) (.mk anchor ss) b
  /-- `call = Identifier '(' B ')'`, of a registered function that takes no arguments -/
  | bareCall {name : String} {f : Function} {a b : List Lexeme}
      (found : r.lookup name = some f) (blank : Blank a (.punctuation ')' :: b))
      (valid : f.validate [] = .ok ()) :
      Derives r .call (.identifier name :: .punctuation '(' :: a) (.mk f.callee []) b
  /-- `call = Identifier '(' arguments ')'`, of a registered function that takes them -/
  | call {name : String} {f : Function} {a b : List Lexeme} {xs : List Argument}
      (found : r.lookup name = some f)
      (arguments : Derives r .arguments a xs (.punctuation ')' :: b))
      (valid : f.validate xs = .ok ()) :
      Derives r .call (.identifier name :: .punctuation '(' :: a) (.mk f.callee xs) b
  /-- `arguments = B argument B (',' B argument B)*` -/
  | lastArgument {a b c d : List Lexeme} {x : Argument} (before : Blank a b)
      (argument : Derives r .argument b x c) (behind : Blank c d) :
      Derives r .arguments a [x] d
  | nextArgument {a b c d e : List Lexeme} {x : Argument} {xs : List Argument}
      (before : Blank a b) (argument : Derives r .argument b x c)
      (behind : Blank c (.punctuation ',' :: d)) (arguments : Derives r .arguments d xs e) :
      Derives r .arguments a (x :: xs) e
  /-- `operand = literal | query | call`, where the query is singular and the call
  answers a value -/
  | literalOperand {l : Lexeme} {v : Json} (literal : LiteralLexeme l v) (a : List Lexeme) :
      Derives r .operand (l :: a) (.literal v) a
  | queryOperand {a b : List Lexeme} {q : Query} {s : SingularQuery}
      (query : Derives r .query a q b) (singular : q.singular? = some s) :
      Derives r .operand a (.singular s) b
  | callOperand {a b : List Lexeme} {c : Call} (call : Derives r .call a c b)
      (result : c.result = .value) : Derives r .operand a (.call c) b
  /-- `argument = literal | query | call`, where a singular query is kept in its
  singular form -/
  | literalArgument {l : Lexeme} {v : Json} (literal : LiteralLexeme l v) (a : List Lexeme) :
      Derives r .argument (l :: a) (.literal v) a
  | singularArgument {a b : List Lexeme} {q : Query} {s : SingularQuery}
      (query : Derives r .query a q b) (singular : q.singular? = some s) :
      Derives r .argument a (.singular s) b
  | queryArgument {a b : List Lexeme} {q : Query} (query : Derives r .query a q b)
      (plural : q.singular? = none) : Derives r .argument a (.query q) b
  | callArgument {a b : List Lexeme} {c : Call} (call : Derives r .call a c b) :
      Derives r .argument a (.call c) b
  /-- `argument = formula`, unless the formula is one of the above -/
  | formulaArgument {a b : List Lexeme} {f : Formula} (formula : Derives r .formula a f b)
      (compound : f.isBare = false) : Derives r .argument a (.formula f) b

/-! ## What a phrase leaves -/

/-- Whether `b` is what is left of `a` when lexemes are read that other ones can
follow. -/
def Passed (a b : List Lexeme) : Prop :=
  ∃ read, a = read ++ b ∧ ∀ l ∈ read, l.isLast = false

namespace Passed

theorem refl (a : List Lexeme) : Passed a a := ⟨[], rfl, nofun⟩

theorem cons {l : Lexeme} (hl : l.isLast = false) (a : List Lexeme) : Passed (l :: a) a :=
  ⟨[l], rfl, by simpa using hl⟩

/-- Signs are read that other lexemes can follow. -/
theorem signs (chars : List Char) (a : List Lexeme) :
    Passed (chars.map Lexeme.punctuation ++ a) a := by
  refine ⟨_, rfl, fun l hl => ?_⟩
  obtain ⟨ch, -, rfl⟩ := List.mem_map.mp hl
  rfl

theorem trans {a b c : List Lexeme} (hab : Passed a b) (hbc : Passed b c) : Passed a c := by
  obtain ⟨read, rfl, hread⟩ := hab
  obtain ⟨more, rfl, hmore⟩ := hbc
  refine ⟨read ++ more, (List.append_assoc ..).symm, fun l hl => ?_⟩
  rcases List.mem_append.mp hl with hl | hl
  · exact hread l hl
  · exact hmore l hl

theorem suffix {a b : List Lexeme} (h : Passed a b) : b <:+ a := by
  obtain ⟨read, rfl, -⟩ := h
  exact List.suffix_append read b

end Passed

/-- Blank space can be followed. -/
theorem Blank.passed {a b : List Lexeme} (h : Blank a b) : Passed a b := by
  cases h with
  | absent => exact .refl a
  | present text => exact .cons rfl b

theorem BoundLexemes.passed {a b : List Lexeme} {o : Option Int64} (h : BoundLexemes a o b) :
    Passed a b := by
  cases h with
  | absent => exact .refl a
  | present integer blank =>
    cases integer
    exact .trans (.cons rfl _) blank.passed

theorem StepLexemes.passed {a b : List Lexeme} {o : Option Int64} (h : StepLexemes a o b) :
    Passed a b := by
  cases h with
  | absent => exact .refl a
  | empty blank => exact .trans (.cons rfl _) blank.passed
  | present blank integer =>
    cases integer
    exact .trans (.cons rfl _) (.trans blank.passed (.cons rfl b))

/-- A literal is not the last lexeme of a text. -/
theorem LiteralLexeme.isLast_eq_false {l : Lexeme} {v : Json} (h : LiteralLexeme l v) :
    l.isLast = false := by
  cases h <;> rfl

theorem isLast_of_memberName? {l : Lexeme} {n : String} (h : l.memberName? = some n) :
    l.isLast = false := by
  cases l with
  | identifier | keyword => rfl
  | _ => cases h

/-- **A part of a path ends before the text does**: it reads neither the end of input
nor a malformed token. -/
theorem Derives.passed {r : Registry} {p : Phrase} {a b : List Lexeme} {x : p.Tree}
    (h : Derives r p a x b) (hp : p ≠ .path) : Passed a b := by
  induction h with
  -- a whole path does read the end of input
  | path => exact absurd rfl hp
  | noSegment a => exact .refl a
  | nextSegment blank _ _ ihFirst ihRest =>
    exact .trans blank.passed (.trans (ihFirst nofun) (ihRest nofun))
  | dotName name => exact .trans (.cons rfl _) (.cons (isLast_of_memberName? name) _)
  | dotWildcard => exact .signs ['.', '*'] _
  | dotsName name => exact .trans (.signs ['.', '.'] _) (.cons (isLast_of_memberName? name) _)
  | dotsWildcard => exact .signs ['.', '.', '*'] _
  | dotsBrackets _ ih =>
    exact .trans (.signs ['.', '.', '['] _) (.trans (ih nofun) (.cons rfl _))
  | brackets _ ih => exact .trans (.cons rfl _) (.trans (ih nofun) (.cons rfl _))
  | lastSelector before _ behind ih | lastArgument before _ behind ih =>
    exact .trans before.passed (.trans (ih nofun) behind.passed)
  | nextSelector before _ behind _ ihFirst ihRest
  | nextArgument before _ behind _ ihFirst ihRest =>
    have hcomma := behind.passed.trans (.cons rfl _)
    exact .trans before.passed (.trans (ihFirst nofun) (.trans hcomma (ihRest nofun)))
  | name | wildcard => exact .cons rfl _
  | index integer => cases integer; exact .cons rfl _
  | literalOperand literal | literalArgument literal => exact .cons literal.isLast_eq_false _
  | slice first blank last distance =>
    have hcolon := first.passed.trans (.cons rfl _)
    exact hcolon.trans (blank.passed.trans (last.passed.trans distance.passed))
  | filter blank _ ih | notQuery blank _ ih | notGroup blank _ ih | notCall blank _ _ ih =>
    exact .trans (.cons rfl _) (.trans blank.passed (ih nofun))
  | lastBranch _ ih | lastCondition _ ih | testQuery _ ih | testGroup _ ih | testCall _ _ ih
  | queryOperand _ _ ih | callOperand _ _ ih | singularArgument _ _ ih | queryArgument _ _ ih
  | callArgument _ ih | formulaArgument _ _ ih => exact ih nofun
  | nextBranch _ before behind _ ihFirst ihRest | nextCondition _ before behind _ ihFirst ihRest =>
    have hsign := before.passed.trans (.signs [_, _] _)
    exact .trans (ihFirst nofun) (hsign.trans (behind.passed.trans (ihRest nofun)))
  | compare _ before behind _ ihFirst ihSecond =>
    have hsign := before.passed.trans (.signs _ _)
    exact .trans (ihFirst nofun) (hsign.trans (behind.passed.trans (ihSecond nofun)))
  | group before _ behind ih =>
    have hclose := behind.passed.trans (.cons rfl _)
    exact .trans (.cons rfl _) (before.passed.trans (.trans (ih nofun) hclose))
  | query anchor _ ih => exact .trans (.cons (by cases anchor <;> rfl) _) (ih nofun)
  | bareCall _ blank =>
    exact .trans (.cons rfl _) (.trans (.cons rfl _) (blank.passed.trans (.cons rfl _)))
  | call _ _ _ ih =>
    exact .trans (.cons rfl _) (.trans (.cons rfl _) (.trans (ih nofun) (.cons rfl _)))

/-- **A phrase leaves a suffix of what it was read from.** -/
theorem Derives.suffix {r : Registry} {p : Phrase} {a b : List Lexeme} {x : p.Tree}
    (h : Derives r p a x b) : b <:+ a := by
  by_cases hp : p = .path
  · subst hp
    cases h
    exact List.nil_suffix
  · exact (h.passed hp).suffix

/-- Whether the phrases of a kind begin with a lexeme of their own, and not with
blank space or nothing. -/
def Phrase.isTight : Phrase → Bool
  | segments | selectors | arguments => false
  | _ => true

/-- **A tight phrase begins with a lexeme that is no blank space**, so that blank
space before it is not its own, and no closing parenthesis either. -/
theorem Derives.head {r : Registry} {p : Phrase} {a b : List Lexeme} {x : p.Tree}
    (h : Derives r p a x b) (hp : p.isTight = true) :
    ∃ l c, a = l :: c ∧ l.isBlank = false ∧ l ≠ .punctuation ')' := by
  induction h with
  | noSegment | nextSegment | lastSelector | nextSelector | lastArgument | nextArgument =>
    -- a list may begin with blank space, and segments may be none
    cases hp
  | path | dotName | dotWildcard | dotsName | dotsWildcard | dotsBrackets | brackets
  | name | wildcard | filter | notQuery | notGroup | notCall | group | bareCall | call =>
    exact ⟨_, _, rfl, rfl, by simp⟩
  | index integer => cases integer; exact ⟨_, _, rfl, rfl, by simp⟩
  | slice first =>
    cases first with
    | absent => exact ⟨_, _, rfl, rfl, by simp⟩
    | present integer => cases integer; exact ⟨_, _, rfl, rfl, by simp⟩
  | query anchor => cases anchor <;> exact ⟨_, _, rfl, rfl, by simp [Anchor.lexeme]⟩
  | literalOperand literal | literalArgument literal =>
    cases literal <;> exact ⟨_, _, rfl, rfl, by simp⟩
  | lastBranch _ ih | nextBranch _ _ _ _ ih | lastCondition _ ih | nextCondition _ _ _ _ ih
  | testQuery _ ih | testGroup _ ih | testCall _ _ ih | compare _ _ _ _ ih
  | queryOperand _ _ ih | callOperand _ _ ih | singularArgument _ _ ih | queryArgument _ _ ih
  | callArgument _ ih | formulaArgument _ _ ih => exact ih rfl

/-! ## Depth -/

/-- The nesting of what a phrase stands for. -/
def Phrase.nesting : (p : Phrase) → p.Tree → Nat
  | path, q | query, q => Query.nesting q
  | segments, ss => Segment.nestingAll ss
  | segment, s => Segment.nesting s
  | selectors, ss => Selector.nestingAll ss
  | selector, s => Selector.nesting s
  | formula, f => Formula.nesting f
  | conjunction, cs => Condition.nestingAll cs
  | condition, c => Condition.nesting c
  | group, f => Formula.nesting f + 1
  | call, c => Call.nesting c
  | arguments, xs => Argument.nestingAll xs
  | operand, o => Operand.nesting o
  | argument, x => Argument.nesting x

end JsonQuery
