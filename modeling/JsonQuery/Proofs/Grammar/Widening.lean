import JsonQuery.Function.Standard
import JsonQuery.Proofs.Function.Registration
import JsonQuery.Proofs.Grammar.Acceptance
import JsonQuery.Regex.Reference.Compile

/-
Two compilers side by side.

One compiler is wider than another when it knows more functions, or lets filters,
groups and calls stand deeper inside each other. Both read the same tokens, and they
part only where the narrower one meets a function that it does not know or a level
that it does not have. That is an error, and it ends the run. So the narrower one
answers like the wider one unless it fails with an error of the expected sort
(`SameUnless`), which is a parameter here. A sequence of steps inherits this from its
steps (`SameUnless.bind`), and so do all rules of a level from the rules of the next
one (`Widening`).
-/

set_option autoImplicit false

namespace JsonQuery

/-! ## Answering alike -/

/-- **Whether two computations answer alike**, unless the first one fails with an
excused error. -/
def SameUnless {α : Type} (excused : ParseError → Prop) (x y : Except ParseError α) : Prop :=
  x = y ∨ ∃ e, excused e ∧ x = .error e

namespace SameUnless

variable {α β : Type} {excused : ParseError → Prop}

/-- A computation answers like itself. -/
theorem refl (x : Except ParseError α) : SameUnless excused x x := .inl rfl

/-- After an excused error anything goes. -/
theorem of_excused {e : ParseError} (he : excused e) (y : Except ParseError α) :
    SameUnless excused (.error e) y :=
  .inr ⟨e, he, rfl⟩

/-- **A sequence answers alike** when its first step does and the rest does whatever that
answers. -/
theorem bind {x y : Except ParseError α} {f g : α → Except ParseError β}
    (h : SameUnless excused x y) (hfg : ∀ a, SameUnless excused (f a) (g a)) :
    SameUnless excused (x >>= f) (y >>= g) := by
  -- an excused error of the first step is the error of the sequence
  rcases h with rfl | ⟨e, he, rfl⟩
  · cases x with
    | error e => exact refl _
    | ok a => exact hfg a
  · exact of_excused he _

/-- A choice that both make in the same way. -/
theorem ite {p : Prop} [Decidable p] {x x' y y' : Except ParseError α}
    (h : SameUnless excused x y) (h' : SameUnless excused x' y') :
    SameUnless excused (if p then x else x') (if p then y else y') := by
  by_cases hp : p
  · rwa [if_pos hp, if_pos hp]
  · rwa [if_neg hp, if_neg hp]

/-- An answer of the narrower computation is one of the wider. -/
theorem eq_ok {x y : Except ParseError α} (h : SameUnless excused x y) {a : α} (hx : x = .ok a) :
    y = .ok a := by
  rcases h with rfl | ⟨e, -, he⟩
  · exact hx
  · rw [hx] at he
    cases he

theorem eq_error {x y : Except ParseError α} (h : SameUnless excused x y) {e : ParseError}
    (hx : x = .error e) (he : ¬ excused e) : y = .error e := by
  rcases h with rfl | ⟨d, hd, hxd⟩
  · exact hx
  · rw [hx, Except.error.injEq] at hxd
    exact absurd (hxd ▸ hd) he

end SameUnless

/-! ## Contexts -/

/-- The context of the same text for another registry and another limit. -/
def Context.exchange (ctx : Context) (r : Registry) (limit : Nat) : Context :=
  { ctx with registry := r, limit := limit }

section Exchange

variable {ctx : Context} {r : Registry} {limit : Nat}

/-! What a rule sees of the tokens has nothing to do with functions or levels. -/

theorem peek_exchange : (ctx.exchange r limit).peek = ctx.peek := rfl

theorem next_exchange : (ctx.exchange r limit).next = ctx.next := rfl

theorem nextIs_exchange : (ctx.exchange r limit).nextIs = ctx.nextIs := rfl

theorem nextIsTwice_exchange : (ctx.exchange r limit).nextIsTwice = ctx.nextIsTwice := rfl

/-- What is unexpected is reported without the registry. -/
theorem unexpected_exchange {α : Type} (ts : List Token) :
    (ctx.exchange r limit).unexpected (α := α) ts = ctx.unexpected ts := rfl

theorem expect_exchange : (ctx.exchange r limit).expect = ctx.expect := rfl

/-- Indexes and slices are read without the registry. -/
theorem indexOrSlice_exchange : indexOrSlice (ctx.exchange r limit) = indexOrSlice ctx := rfl

theorem dotSelector_exchange : dotSelector (ctx.exchange r limit) = dotSelector ctx := rfl

theorem skipBlankBeforeSegment_exchange :
    skipBlankBeforeSegment (ctx.exchange r limit) = skipBlankBeforeSegment ctx := rfl

theorem literal_exchange : literal (ctx.exchange r limit) = literal ctx := rfl

theorem comparator_exchange : comparator (ctx.exchange r limit) = comparator ctx := rfl

theorem atComparison_exchange : atComparison (ctx.exchange r limit) = atComparison ctx := rfl

theorem atLogicalOperator_exchange :
    atLogicalOperator (ctx.exchange r limit) = atLogicalOperator ctx := rfl

end Exchange

/-! ## Levels -/

structure Nested.SameUnless (excused : ParseError → Prop) (rules rules' : Nested) : Prop where
  formula : ∀ ts, JsonQuery.SameUnless excused (rules.formula ts) (rules'.formula ts)
  argument : ∀ ts, JsonQuery.SameUnless excused (rules.argument ts) (rules'.argument ts)

/-- Whether the next level of a compiler with one limit is as wide as that of a compiler
with another. -/
inductive NextLevel (excused : ParseError → Prop) (limit limit' : Nat) :
    Option Nested → Option Nested → Prop
  /-- Both go on, and alike. -/
  | entered {rules rules' : Nested} (same : rules.SameUnless excused rules') :
      NextLevel excused limit limit' (some rules) (some rules')
  /-- The first has reached its limit, and that is excused. -/
  | limited (deeper : Option Nested)
      (reached : ∀ position, excused ⟨.nestingTooDeep limit, position⟩) :
      NextLevel excused limit limit' none deeper
  /-- Both have reached the same limit. -/
  | exhausted (same : limit = limit') : NextLevel excused limit limit' none none

/-- Whether names stand for the same functions in a second registry, unless they are unknown
in the first one and that is excused. -/
def Registry.WidensTo (excused : ParseError → Prop) (r s : Registry) : Prop :=
  ∀ name, r.lookup name = s.lookup name
    ∨ (r.lookup name = none ∧ ∀ position, excused ⟨.unknownFunction name, position⟩)

/-- **Whether a registry, a limit and a next level are wider** than those of a context, as
far as errors are excused. -/
structure Widening (excused : ParseError → Prop) (ctx : Context) (r : Registry) (limit : Nat)
    (deeper deeper' : Option Nested) : Prop where
  functions : ctx.registry.WidensTo excused r
  levels : NextLevel excused ctx.limit limit deeper deeper'

section Rules

variable {α : Type} {excused : ParseError → Prop} {ctx : Context} {r : Registry} {limit : Nat}
  {deeper deeper' : Option Nested}

/-- What begins with a level of nesting answers alike when it does below. -/
theorem Widening.enter (h : Widening excused ctx r limit deeper deeper') (position : Nat)
    {f g : Nested → Except ParseError α}
    (hfg : ∀ rules rules', rules.SameUnless excused rules' →
      SameUnless excused (f rules) (g rules')) :
    SameUnless excused (ctx.enter deeper position >>= f)
      ((ctx.exchange r limit).enter deeper' position >>= g) := by
  -- the wider compiler has the level if the narrower one has it
  cases h.levels with
  | entered same => exact hfg _ _ same
  | limited deeper reached => exact .of_excused (reached position) _
  | exhausted same =>
    rw [Context.exchange, ← same]
    exact .refl _

/-! ## Selectors and segments -/

/-- Lists in brackets answer alike when their items do. -/
theorem delimited_widened {close : Char} {item item' : Rule α}
    (hitem : ∀ ts, SameUnless excused (item ts) (item' ts)) (fuel : Nat) (ts : List Token) :
    SameUnless excused (delimited ctx close item fuel ts)
      (delimited (ctx.exchange r limit) close item' fuel ts) := by
  induction fuel generalizing ts with
  | zero => exact .refl _
  | succ fuel ih =>
    refine (hitem ts).bind fun (x, us) => ?_
    dsimp only [next_exchange]
    refine .ite (.refl _) (.ite ?_ (.refl _))
    exact (ih _).bind fun _ => .refl _

/-- Selectors answer alike. Only a filter can tell the levels apart. -/
theorem selector_widened (h : Widening excused ctx r limit deeper deeper') (ts : List Token) :
    SameUnless excused (selector ctx deeper ts) (selector (ctx.exchange r limit) deeper' ts) := by
  dsimp only [selector, next_exchange, unexpected_exchange, indexOrSlice_exchange]
  split
  case h_5 =>
    -- a filter: its formula stands one level below
    refine h.enter _ fun rules rules' hrules => ?_
    exact (hrules.formula _).bind fun _ => .refl _
  all_goals exact .refl _

theorem bracketed_widened (h : Widening excused ctx r limit deeper deeper') (ts : List Token) :
    SameUnless excused (bracketed ctx deeper ts)
      (bracketed (ctx.exchange r limit) deeper' ts) :=
  delimited_widened (fun us => selector_widened h (skipBlank us)) _ ts

/-- Segments answer alike. Only brackets can hold a filter. -/
theorem segment?_widened (h : Widening excused ctx r limit deeper deeper') (ts : List Token) :
    SameUnless excused (segment? ctx deeper ts) (segment? (ctx.exchange r limit) deeper' ts) := by
  dsimp only [segment?, nextIs_exchange, dotSelector_exchange]
  refine .ite ?_ (.ite (.ite (.ite ?_ (.refl _)) (.refl _)) (.refl _))
  -- brackets, alone or behind two points
  · exact (bracketed_widened h _).bind fun _ => .refl _
  · exact (bracketed_widened h _).bind fun _ => .refl _

/-- The segments of a query answer alike, one after the other. -/
theorem segments_widened (h : Widening excused ctx r limit deeper deeper') (fuel : Nat)
    (ts : List Token) :
    SameUnless excused (segments ctx deeper fuel ts)
      (segments (ctx.exchange r limit) deeper' fuel ts) := by
  induction fuel generalizing ts with
  | zero => exact .refl _
  | succ fuel ih =>
    dsimp only [segments, skipBlankBeforeSegment_exchange]
    refine (segment?_widened h _).bind fun (s, us) => ?_
    -- both see the same segment, or both see none
    cases s with
    | none => exact .refl _
    | some s => exact (ih us).bind fun _ => .refl _

theorem queryFrom_widened (h : Widening excused ctx r limit deeper deeper') (anchor : Anchor)
    (ts : List Token) :
    SameUnless excused (queryFrom ctx deeper anchor ts)
      (queryFrom (ctx.exchange r limit) deeper' anchor ts) :=
  (segments_widened h _ ts).bind fun _ => .refl _

/-! ## Queries, calls and comparisons -/

theorem embeddedQuery_widened (h : Widening excused ctx r limit deeper deeper')
    (ts : List Token) :
    SameUnless excused (embeddedQuery ctx deeper ts)
      (embeddedQuery (ctx.exchange r limit) deeper' ts) :=
  queryFrom_widened h _ _

/-- The arguments of a call answer alike when those of the next level do. -/
theorem callArguments_widened {rules rules' : Nested} (h : rules.SameUnless excused rules')
    (ts : List Token) :
    SameUnless excused (callArguments ctx rules ts)
      (callArguments (ctx.exchange r limit) rules' ts) := by
  dsimp only [callArguments, nextIs_exchange]
  exact .ite (.refl _) (delimited_widened h.argument _ _)

/-- **A call answers alike**: its name is looked up first, and where that goes on it goes on
with the same function. -/
theorem call_widened (h : Widening excused ctx r limit deeper deeper') (ts : List Token) :
    SameUnless excused (call ctx deeper ts) (call (ctx.exchange r limit) deeper' ts) := by
  dsimp only [call, next_exchange, nextIs_exchange]
  refine .ite ?_ (.refl _)
  rw [show (ctx.exchange r limit).registry = r from rfl]
  -- the name is known to both, to neither or to the wider one only
  rcases h.functions (ctx.next ts).1.lexeme.text with hsame | ⟨hunknown, hexcused⟩
  · rw [hsame]
    cases r.lookup (ctx.next ts).1.lexeme.text with
    | none => exact .refl _
    | some f =>
      refine h.enter _ fun rules rules' hrules => ?_
      exact (callArguments_widened hrules _).bind fun _ => .refl _
  · rw [hunknown]
    exact .of_excused (hexcused _) _

theorem operand_widened (h : Widening excused ctx r limit deeper deeper') (ts : List Token) :
    SameUnless excused (operand ctx deeper ts) (operand (ctx.exchange r limit) deeper' ts) := by
  dsimp only [operand, peek_exchange, literal_exchange]
  -- a query, a call or a literal, and both look at the same token
  refine .ite ?_ ?_
  · exact (embeddedQuery_widened h _).bind fun _ => .refl _
  · split
    · exact (call_widened h _).bind fun _ => .refl _
    · exact .refl _

theorem comparison_widened (h : Widening excused ctx r limit deeper deeper') (left : Operand)
    (ts : List Token) :
    SameUnless excused (comparison ctx deeper left ts)
      (comparison (ctx.exchange r limit) deeper' left ts) := by
  dsimp only [comparison, comparator_exchange]
  refine (SameUnless.refl _).bind fun (op, us) => ?_
  exact (operand_widened h us).bind fun _ => .refl _

/-! ## Conditions and formulas -/

theorem group_widened (h : Widening excused ctx r limit deeper deeper') (ts : List Token) :
    SameUnless excused (group ctx deeper ts) (group (ctx.exchange r limit) deeper' ts) := by
  dsimp only [group, expect_exchange]
  refine (SameUnless.refl _).bind fun (t, us) => ?_
  refine h.enter _ fun rules rules' hrules => ?_
  exact (hrules.formula _).bind fun _ => .refl _

theorem negated_widened (h : Widening excused ctx r limit deeper deeper') (ts : List Token) :
    SameUnless excused (negated ctx deeper ts) (negated (ctx.exchange r limit) deeper' ts) := by
  dsimp only [negated, peek_exchange, unexpected_exchange]
  -- in parentheses, a query or a call
  refine .ite ?_ (.ite ?_ ?_)
  · exact (group_widened h _).bind fun _ => .refl _
  · exact (embeddedQuery_widened h _).bind fun _ => .refl _
  · split
    · exact (call_widened h _).bind fun _ => .refl _
    · exact .refl _

/-- **Conditions answer alike**, whatever kind they turn out to be. -/
theorem condition_widened (h : Widening excused ctx r limit deeper deeper') (ts : List Token) :
    SameUnless excused (condition ctx deeper ts)
      (condition (ctx.exchange r limit) deeper' ts) := by
  dsimp only [condition, peek_exchange, literal_exchange, atComparison_exchange]
  -- negated, in parentheses, a query, a call or a literal
  refine .ite (negated_widened h _) (.ite ?_ (.ite ?_ ?_))
  · exact (group_widened h _).bind fun _ => .refl _
  · refine (embeddedQuery_widened h _).bind fun (q, us) => .ite ?_ (.refl _)
    exact (SameUnless.refl _).bind fun left => comparison_widened h left _
  · split
    · refine (call_widened h _).bind fun (c, us) => .ite ?_ (.refl _)
      exact (SameUnless.refl _).bind fun left => comparison_widened h left _
    · exact (SameUnless.refl _).bind fun (v, us) => comparison_widened h (.literal v) us

/-- Chains answer alike when their items do. -/
theorem chained_widened {operator : Char} {item item' : Rule α}
    (hitem : ∀ ts, SameUnless excused (item ts) (item' ts)) (fuel : Nat) (first : α)
    (ts : List Token) :
    SameUnless excused (chained ctx operator item fuel first ts)
      (chained (ctx.exchange r limit) operator item' fuel first ts) := by
  induction fuel generalizing first ts with
  | zero => exact .refl _
  | succ fuel ih =>
    dsimp only [chained, nextIsTwice_exchange]
    refine .ite ((hitem _).bind fun (x, us) => ?_) (.refl _)
    exact (ih x us).bind fun _ => .refl _

/-- Conjunctions answer alike behind their first condition. -/
theorem conjunctionFrom_widened (h : Widening excused ctx r limit deeper deeper')
    (first : Condition) (ts : List Token) :
    SameUnless excused (conjunctionFrom ctx deeper first ts)
      (conjunctionFrom (ctx.exchange r limit) deeper' first ts) :=
  chained_widened (condition_widened h) _ first ts

theorem conjunction_widened (h : Widening excused ctx r limit deeper deeper')
    (ts : List Token) :
    SameUnless excused (conjunction ctx deeper ts)
      (conjunction (ctx.exchange r limit) deeper' ts) :=
  (condition_widened h ts).bind fun (first, us) => conjunctionFrom_widened h first us

/-- Formulas answer alike behind their first condition. -/
theorem formulaFrom_widened (h : Widening excused ctx r limit deeper deeper')
    (first : Condition) (ts : List Token) :
    SameUnless excused (formulaFrom ctx deeper first ts)
      (formulaFrom (ctx.exchange r limit) deeper' first ts) :=
  (conjunctionFrom_widened h first ts).bind fun (c, us) =>
    chained_widened (conjunction_widened h) _ c us

/-- **Formulas answer alike.** -/
theorem formula_widened (h : Widening excused ctx r limit deeper deeper') (ts : List Token) :
    SameUnless excused (formula ctx deeper ts) (formula (ctx.exchange r limit) deeper' ts) :=
  (condition_widened h ts).bind fun (first, us) => formulaFrom_widened h first us

/-! ## Arguments -/

theorem formulaArgument_widened (h : Widening excused ctx r limit deeper deeper')
    (first : Condition) (ts : List Token) :
    SameUnless excused (formulaArgument ctx deeper first ts)
      (formulaArgument (ctx.exchange r limit) deeper' first ts) :=
  (formulaFrom_widened h first ts).bind fun _ => .refl _

/-- An argument that begins with a comparison whose left side is read already. -/
theorem comparedArgument_widened (h : Widening excused ctx r limit deeper deeper')
    (left : Operand) (ts : List Token) :
    SameUnless excused
      (do
        let (c, us) ← comparison ctx deeper left ts
        formulaArgument ctx deeper c us)
      (do
        let (c, us) ← comparison (ctx.exchange r limit) deeper' left ts
        formulaArgument (ctx.exchange r limit) deeper' c us) :=
  (comparison_widened h left ts).bind fun (c, us) => formulaArgument_widened h c us

/-- **Arguments answer alike**, whatever kind they turn out to be. -/
theorem argument_widened (h : Widening excused ctx r limit deeper deeper') (ts : List Token) :
    SameUnless excused (argument ctx deeper ts) (argument (ctx.exchange r limit) deeper' ts) := by
  dsimp only [argument, peek_exchange, literal_exchange, atComparison_exchange,
    atLogicalOperator_exchange]
  -- a query, a literal, a call or something else that a formula starts with
  refine .ite ?_ (.ite ?_ ?_)
  · refine (embeddedQuery_widened h _).bind fun (q, us) => .ite ?_ (.ite ?_ (.refl _))
    · exact (SameUnless.refl _).bind fun left => comparedArgument_widened h left _
    · exact formulaArgument_widened h _ _
  · refine (SameUnless.refl _).bind fun (v, us) => .ite ?_ (.refl _)
    exact comparedArgument_widened h (.literal v) _
  · split
    · refine (call_widened h _).bind fun (c, us) => .ite ?_ (.ite ?_ (.refl _))
      · exact (SameUnless.refl _).bind fun left => comparedArgument_widened h left _
      · exact (SameUnless.refl _).bind fun test => formulaArgument_widened h test _
    · exact (formula_widened h _).bind fun _ => .refl _

end Rules

/-! ## Compilers -/

section Compilers

variable {excused : ParseError → Prop}

/-- **All levels are as wide**, by induction on the number of levels that are left to the
narrower compiler. -/
theorem levels_widened {ctx : Context} {r : Registry} {limit : Nat}
    (functions : ctx.registry.WidensTo excused r) {n m : Nat} (hlevels : (n = m ∧ ctx.limit = limit)
      ∨ (n ≤ m ∧ ∀ position, excused ⟨.nestingTooDeep ctx.limit, position⟩)) :
    NextLevel excused ctx.limit limit (ctx.levels n) ((ctx.exchange r limit).levels m) := by
  induction n generalizing m with
  | zero =>
    rcases hlevels with ⟨rfl, hsame⟩ | ⟨-, hreached⟩
    · exact .exhausted hsame
    · exact .limited _ hreached
  | succ n ih =>
    -- the wider one has a level left as well
    obtain ⟨m, rfl⟩ : ∃ k, m = k + 1 := by
      refine Nat.exists_eq_succ_of_ne_zero ?_
      rcases hlevels with ⟨hsame, -⟩ | ⟨hle, -⟩ <;>
      omega
    have hbelow :
        Widening excused ctx r limit (ctx.levels n) ((ctx.exchange r limit).levels m) := by
      refine ⟨functions, ih ?_⟩
      rcases hlevels with ⟨hsame, hlimit⟩ | ⟨hle, hreached⟩
      · exact .inl ⟨Nat.succ_injective hsame, hlimit⟩
      · exact .inr ⟨Nat.le_of_succ_le_succ hle, hreached⟩
    exact .entered ⟨formula_widened hbelow, argument_widened hbelow⟩

/-- **The narrower of two compilers answers like the wider one**, unless it meets something
that it cannot do and the wider one can. -/
theorem Compiler.compile_widened {c d : Compiler}
    (functions : c.registry.WidensTo excused d.registry)
    (limit : c.limit = d.limit
      ∨ (c.limit ≤ d.limit ∧ ∀ position, excused ⟨.nestingTooDeep c.limit, position⟩))
    (text : String) : SameUnless excused (c.compile text) (d.compile text) := by
  let ctx : Context := ⟨c.registry, c.limit, utf8Size text.toList⟩
  have hlevels : NextLevel excused ctx.limit d.limit (ctx.levels c.limit)
      ((ctx.exchange d.registry d.limit).levels d.limit) := by
    refine levels_widened functions ?_
    rcases limit with hsame | hwider
    · exact .inl ⟨hsame, hsame⟩
    · exact .inr hwider
  have hwidening : Widening excused ctx d.registry d.limit _ _ := ⟨functions, hlevels⟩
  -- the sign of the root and the end of the text are the same to both
  refine (SameUnless.refl _).bind fun (t, us) => ?_
  exact (queryFrom_widened hwidening .root us).bind fun _ => .refl _

end Compilers

/-! ## Limits -/

/-- **The limit of nesting is exact, and does nothing else.** With a lower limit a text
gives the same query or the same error, or the error that it nests too deeply; and a query
that a higher limit lets through is let through by the lower one if it does not nest deeper
than that, and is refused for its nesting otherwise. -/
theorem Compiler.compile_limit {c d : Compiler} (registry : c.registry = d.registry)
    (limit : c.limit ≤ d.limit) (text : String) :
    (c.compile text = d.compile text
        ∨ ∃ position, c.compile text = .error ⟨.nestingTooDeep c.limit, position⟩)
      ∧ ∀ q, d.compile text = .ok q →
        (q.nesting ≤ c.limit → c.compile text = .ok q)
          ∧ (c.limit < q.nesting →
            ∃ position, c.compile text = .error ⟨.nestingTooDeep c.limit, position⟩) := by
  -- the narrower compiler fails on its limit or answers like the wider one
  have hsame : c.compile text = d.compile text
      ∨ ∃ position, c.compile text = .error ⟨.nestingTooDeep c.limit, position⟩ := by
    have hwidened : SameUnless (fun e => ∃ position, e = ⟨.nestingTooDeep c.limit, position⟩)
        (c.compile text) (d.compile text) := by
      refine compile_widened (fun name => .inl ?_) (.inr ⟨limit, fun position => ⟨position, rfl⟩⟩)
        text
      rw [registry]
    rcases hwidened with h | ⟨_, ⟨position, rfl⟩, h⟩
    · exact .inl h
    · exact .inr ⟨position, h⟩
  refine ⟨hsame, fun q hq => ⟨fun hnest => ?_, fun hdeep => ?_⟩⟩
  -- what nests within the limit is derived, and all that is derived compiles
  · obtain ⟨hpath, -⟩ := derives_of_compile hq
    exact compile_of_derives (registry ▸ hpath) hnest
  -- the same query would be one that nests deeper than what compiles
  · rcases hsame with h | h
    · rw [hq] at h
      exact absurd (derives_of_compile h).2 (Nat.not_le_of_lt hdeep)
    · exact h

/-- Two filters that each hold a group nest two levels deep: a limit of two is enough, and a
limit of one is not. -/
theorem compile_limit_groups :
    let c : Compiler := ⟨.standard .reference, 1, by decide⟩
    let d : Compiler := ⟨.standard .reference, 2, by decide⟩
    let group : Selector := .filter [[.group false [[.query false (.mk .current [])]]]]
    c.registry = d.registry ∧ c.limit ≤ d.limit
      ∧ d.compile "$[?(@),?(@)]" = .ok (.mk .root [.child [group, group]])
      ∧ ∃ position, c.compile "$[?(@),?(@)]" = .error ⟨.nestingTooDeep 1, position⟩ := by
  intro c d group
  have hregistry : c.registry = d.registry := rfl
  have hlimit : c.limit ≤ d.limit := by decide
  have hcompiled : d.compile "$[?(@),?(@)]" = .ok (.mk .root [.child [group, group]]) := rfl
  have hdeep : c.limit < (Query.mk .root [.child [group, group]]).nesting := by decide
  obtain ⟨-, hquery⟩ := Compiler.compile_limit hregistry hlimit "$[?(@),?(@)]"
  exact ⟨hregistry, hlimit, hcompiled, (hquery _ hcompiled).2 hdeep⟩

/-! ## Functions -/

/-- **Registering a function only adds to the language.** A text that compiled compiles to
the same query, and one that did not gives the same error, unless that was that the name of
the new function is unknown. -/
theorem Compiler.compile_register {c : Compiler} {s : Registry} {f : Function}
    (h : c.registry.register f = .ok s) (text : String) :
    (∀ q, c.compile text = .ok q →
        Compiler.compile { c with registry := s } text = .ok q)
      ∧ ∀ e, c.compile text = .error e → e.cause ≠ .unknownFunction f.name →
        Compiler.compile { c with registry := s } text = .error e := by
  let d : Compiler := { c with registry := s }
  have hfunctions : c.registry.WidensTo (·.cause = .unknownFunction f.name) d.registry := by
    intro name
    rw [show d.registry = s from rfl, Registry.lookup_of_register h]
    -- the new name was unknown, and all others stand for what they did
    by_cases hname : name = f.name
    · rw [hname]
      exact .inr ⟨Registry.lookup_before_register h, fun _ => rfl⟩
    · rw [if_neg hname]
      exact .inl rfl
  have hwidened : SameUnless _ (c.compile text) (d.compile text) :=
    compile_widened hfunctions (.inl rfl) text
  exact ⟨fun q hq => hwidened.eq_ok hq, fun e he hcause => hwidened.eq_error he hcause⟩

/-- With a function `not`, a member of that name is still a member, and an unknown function
is still unknown. -/
theorem compile_register_not :
    let c := Compiler.ofRegistry (.standard .reference)
    let f := Function.ofSignature ⟨"not", [.logical], .logical⟩ fun _ => .ok (.logical true)
    ∃ s, c.registry.register f = .ok s
      ∧ Compiler.compile { c with registry := s } "$.not"
        = .ok (.mk .root [.child [.name "not"]])
      ∧ Compiler.compile { c with registry := s } "$[?nope(@)]"
        = .error ⟨.unknownFunction "nope", 3⟩ := by
  intro c f
  have hvalid : isFunctionName f.name = true := by decide +kernel
  have hfree : ¬ c.registry.contains f.name = true := by decide +kernel
  have hregister : c.registry.register f = .ok (c.registry.insert f hvalid hfree) :=
    Registry.register_eq_ok_iff.mpr ⟨rfl, hvalid, hfree, rfl⟩
  have hmember : c.compile "$.not" = .ok (.mk .root [.child [.name "not"]]) := rfl
  have hunknown : c.compile "$[?nope(@)]" = .error ⟨.unknownFunction "nope", 3⟩ := rfl
  have hother : ParseError.Cause.unknownFunction "nope" ≠ .unknownFunction f.name := by decide
  exact ⟨_, hregister, (Compiler.compile_register hregister _).1 _ hmember,
    (Compiler.compile_register hregister _).2 _ hunknown hother⟩

end JsonQuery
