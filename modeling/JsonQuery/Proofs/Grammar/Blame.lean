import JsonQuery.Function.Standard
import JsonQuery.Proofs.Grammar.Acceptance
import JsonQuery.Proofs.Token.Position
import JsonQuery.Regex.Reference.Compile

/-
Which token an error is about.

A rule looks at tokens before it takes them, and the one it fails at it leaves or has just
taken, so it never gets past the last token: what it leaves is an end of what it was given that
has the last token in it (`Leaves`), and what it fails with is about one of the tokens it was
given (`FailsAt`). Both are kept by a sequence of steps, so every rule has them from its parts
(`Attends`), level by level. An error then stands where a token stands, a malformed token is the
cause only of an error about it, and an unexpected end of input is the end of the text.
-/

set_option autoImplicit false

namespace JsonQuery

/-! ## Blame -/

/-- **Whether an error is about a token**: it stands where the token stands, and if it says that a
token is malformed or unexpected, then this one is. The one numeral that is no integer is reported
like a malformed one. -/
structure ParseError.Blames (e : ParseError) (t : Token) : Prop where
  offset : e.offset = t.position
  lexical : ∀ cause, e.cause = .lexical cause → t.lexeme = .invalid cause
    ∨ cause = .invalidNumber ∧ ∃ n, t.lexeme = .numeral n ∧ n.isNegativeZero = true
  unexpected : ∀ l, e.cause = .unexpected l → t.lexeme = l

/-- The error that is made of a token is about that token. -/
theorem ParseError.blames_ofToken (t : Token) : (ofToken t).Blames t := by
  obtain ⟨l, position⟩ := t
  cases l <;>
  constructor <;>
  simp [ofToken]

/-- An error of another cause is about the token at which it is reported. -/
theorem ParseError.blames_of_cause {cause : Cause} (t : Token)
    (hlexical : ∀ c, cause ≠ .lexical c) (hunexpected : ∀ l, cause ≠ .unexpected l) :
    Blames ⟨cause, t.position⟩ t :=
  ⟨rfl, fun c h => absurd h (hlexical c), fun l h => absurd h (hunexpected l)⟩

/-- **Whether a computation fails only at the tokens `ts`**, and what is true of its answer. -/
def FailsAt {α : Type} (ts : List Token) (x : Except ParseError α) (post : α → Prop) : Prop :=
  match x with
  | .ok a => post a
  | .error e => ∃ t ∈ ts, e.Blames t

namespace FailsAt

variable {α β : Type} {ts : List Token} {post : α → Prop}

/-- What has an answer fails nowhere. -/
theorem of_ok {a : α} (h : post a) : FailsAt ts (.ok a) post := h

/-- An error made of one of the tokens is about one of them. -/
theorem of_token {t : Token} (h : t ∈ ts) : FailsAt ts (.error (.ofToken t)) post :=
  ⟨t, h, ParseError.blames_ofToken t⟩

/-- An error that is reported at one of the tokens is about it, unless its cause is the token
itself. What is to be shown of the cause is settled by its constructor. -/
theorem of_cause {cause : ParseError.Cause} {t : Token} (h : t ∈ ts)
    (hlexical : ∀ c, cause ≠ .lexical c := by nofun)
    (hunexpected : ∀ l, cause ≠ .unexpected l := by nofun) :
    FailsAt ts (.error ⟨cause, t.position⟩) post :=
  ⟨t, h, ParseError.blames_of_cause t hlexical hunexpected⟩

/-- **A sequence fails only at the tokens** when its first part does and, after every answer of
that one, its second part does. -/
theorem bind {x : Except ParseError α} {f : α → Except ParseError β} {final : β → Prop}
    (h : FailsAt ts x post) (hf : ∀ a, post a → FailsAt ts (f a) final) :
    FailsAt ts (x >>= f) final := by
  cases x with
  | error e => exact h
  | ok a => exact hf a h

/-- A choice fails only at the tokens when both of its branches do, each under its own condition. -/
theorem ite {p : Prop} [Decidable p] {x y : Except ParseError α} (hx : p → FailsAt ts x post)
    (hy : ¬ p → FailsAt ts y post) : FailsAt ts (if p then x else y) post := by
  by_cases hp : p
  · rw [if_pos hp]
    exact hx hp
  · rw [if_neg hp]
    exact hy hp

end FailsAt

/-! ## What is left -/

/-- Whether the last token of a list is one that nothing follows. -/
def Ended (ts : List Token) : Prop := ∃ t, ts.getLast? = some t ∧ t.lexeme.isLast = true

/-- An ended list has a token. -/
theorem Ended.ne_nil {ts : List Token} (h : Ended ts) : ts ≠ [] := by
  rintro rfl
  obtain ⟨t, ht, -⟩ := h
  cases ht

/-- **Whether `us` may be left of the tokens `ts`**: it is an end of them, last token included. -/
structure Leaves (ts us : List Token) : Prop where
  suffix : us <:+ ts
  ended : Ended us

namespace Leaves

variable {ts us : List Token} {ctx : Context}

/-- All tokens are left of themselves. -/
theorem refl (h : Ended ts) : Leaves ts ts := ⟨List.suffix_refl ts, h⟩

/-- The next token of what is left is one of the tokens. -/
theorem peek_mem (h : Leaves ts us) : ctx.peek us ∈ ts := by
  obtain ⟨t, vs, rfl⟩ := List.exists_cons_of_ne_nil h.ended.ne_nil
  exact h.suffix.mem List.mem_cons_self

/-- Behind one token there is still the last one, when there is anything. -/
theorem tail_of_ne_nil (h : Leaves ts us) (hne : us.tail ≠ []) : Leaves ts us.tail := by
  refine ⟨(List.tail_suffix us).trans h.suffix, ?_⟩
  obtain ⟨t, ht, hlast⟩ := h.ended
  refine ⟨t, ?_, hlast⟩
  cases us with
  | nil => cases ht
  | cons u us =>
    obtain ⟨v, vs, rfl⟩ := List.exists_cons_of_ne_nil hne
    exact ht

/-- **A token that is not the last one can be taken.** -/
theorem tail (h : Leaves ts us) (hpeek : (ctx.peek us).lexeme.isLast = false) :
    Leaves ts us.tail := by
  refine h.tail_of_ne_nil fun hnil => ?_
  obtain ⟨t, ht, hlast⟩ := h.ended
  -- if nothing were left behind it, the token taken would be the last one
  cases us with
  | nil => cases ht
  | cons u us =>
    rw [List.tail_cons] at hnil
    rw [hnil, List.getLast?_singleton, Option.some.injEq] at ht
    rw [Context.peek_cons, ht, hlast] at hpeek
    cases hpeek

/-- A token of a kind that is never last can be taken. -/
theorem tail_of_peek {l : Lexeme} (h : Leaves ts us) (hl : (ctx.peek us).lexeme = l)
    (hlast : l.isLast = false) : Leaves ts us.tail :=
  h.tail (hl.symm ▸ hlast)

/-- A sign is never last, so it can be taken. -/
theorem tail_of_is {c : Char} (h : Leaves ts us) (hc : (ctx.peek us).is c = true) :
    Leaves ts us.tail :=
  h.tail_of_peek (Token.is_iff.mp hc) rfl

theorem tail_of_nextIs {c : Char} (h : Leaves ts us) (hc : ctx.nextIs c us = true) :
    Leaves ts us.tail :=
  h.tail_of_is hc

/-- Blank space is never last, so it can be skipped. -/
theorem skipBlank (h : Leaves ts us) : Leaves ts (skipBlank us) := by
  obtain ⟨t, vs, rfl⟩ := List.exists_cons_of_ne_nil h.ended.ne_nil
  rw [skipBlank_cons]
  split
  · rename_i hblank
    -- a blank token is of no kind that ends a text
    have hmore : ((default : Context).peek (t :: vs)).lexeme.isLast = false := by
      rw [Context.peek_cons]
      cases hl : t.lexeme <;>
      simp_all [Lexeme.isBlank, Lexeme.isLast]
    exact h.tail hmore
  · exact h

/-- Blank space in front of a segment can be skipped. -/
theorem skipBlankBeforeSegment (h : Leaves ts us) :
    Leaves ts (skipBlankBeforeSegment ctx us) := by
  unfold JsonQuery.skipBlankBeforeSegment
  dsimp only
  split
  · exact h.skipBlank
  · exact h

/-- An unexpected token is one of the tokens. -/
theorem unexpected {α : Type} {post : α → Prop} (h : Leaves ts us) :
    FailsAt ts (ctx.unexpected us) post :=
  .of_token h.peek_mem

end Leaves

/-- **Whether a rule keeps to the tokens it is given.** -/
def Attends {α : Type} (rule : Rule α) : Prop :=
  ∀ ts us, Leaves ts us → FailsAt ts (rule us) fun x => Leaves ts x.2

/-- Whether the rules of a level keep to the tokens they are given. -/
structure Nested.Attend (rules : Nested) : Prop where
  formula : Attends rules.formula
  argument : Attends rules.argument

section Rules

variable {α : Type} {ctx : Context} {deeper : Option Nested} {ts : List Token}

/-- Nesting begins at a token. -/
theorem enter_failsAt (hdeeper : ∀ rules ∈ deeper, rules.Attend) {t : Token} (ht : t ∈ ts) :
    FailsAt ts (ctx.enter deeper t.position) Nested.Attend := by
  cases deeper with
  | none => exact .of_cause ht
  | some rules => exact .of_ok (hdeeper rules rfl)

/-- A sign that has to come is one of the tokens, or the token in its place is to blame. -/
theorem expect_attends (c : Char) :
    ∀ ts us, Leaves ts us → FailsAt ts (ctx.expect c us) fun x => x.1 ∈ ts ∧ Leaves ts x.2 := by
  intro ts us h
  refine .ite (fun hc => .of_ok ⟨h.peek_mem, h.tail_of_nextIs hc⟩) fun _ => h.unexpected

/-! ## Repetition -/

/-- **A list in brackets keeps to its tokens** when its items do. The induction is on the number of
items, which the tokens bound. -/
theorem delimited_attends {close : Char} {item : Rule α} (hitem : Attends item) (fuel : Nat) :
    Attends (delimited ctx close item fuel) := by
  intro ts us h
  induction fuel generalizing us with
  | zero => exact h.unexpected
  | succ fuel ih =>
    refine (hitem ts us h).bind fun (x, vs) hvs => ?_
    -- behind an item comes the bracket that closes the list, a comma or an error
    have hnext := hvs.skipBlank
    refine .ite (fun hclose => .of_ok (hnext.tail_of_is hclose)) fun _ => ?_
    refine .ite (fun hcomma => ?_) fun _ => .of_token hnext.peek_mem
    exact (ih _ (hnext.tail_of_is hcomma)).bind fun _ hrest => .of_ok hrest

/-- Where a sign comes twice it comes first and second. -/
theorem nextIs_tail_of_nextIsTwice {c : Char} {us : List Token}
    (h : ctx.nextIsTwice c us = true) : ctx.nextIs c us = true ∧ ctx.nextIs c us.tail = true := by
  rwa [Context.nextIsTwice, Bool.and_eq_true] at h

/-- A chain of operators keeps to its tokens when its items do. -/
theorem chained_attends {operator : Char} {item : Rule α} (hitem : Attends item) (fuel : Nat)
    (first : α) : Attends (chained ctx operator item fuel first) := by
  intro ts us h
  induction fuel generalizing first us with
  | zero => exact h.unexpected
  | succ fuel ih =>
    refine .ite (fun htwice => ?_) fun _ => .of_ok h.skipBlank
    obtain ⟨hone, htwo⟩ := nextIs_tail_of_nextIsTwice htwice
    -- both signs of the operator are taken before the next item
    have hbehind := (h.skipBlank.tail_of_nextIs hone).tail_of_nextIs htwo
    refine (hitem ts _ hbehind).bind fun (x, vs) hvs => ?_
    exact (ih x vs hvs).bind fun _ hrest => .of_ok hrest

/-! ## Selectors and segments -/

/-- An integer is refused at its numeral. -/
theorem integerOf_failsAt {n : Numeral} {t : Token} (ht : t ∈ ts) (hn : t.lexeme = .numeral n) :
    FailsAt ts (integerOf n t.position) fun _ => True := by
  refine .ite (fun hzero => ?_) fun _ => .ite (fun _ => trivial) fun _ => .of_cause ht
  -- negative zero is reported as a malformed number, though its token is not malformed
  refine ⟨t, ht, rfl, fun cause h => ?_, nofun⟩
  cases h
  exact .inr ⟨rfl, n, hn, hzero⟩

theorem optionalInteger_attends : Attends (optionalInteger ctx) := by
  intro ts us h
  unfold optionalInteger Context.next
  dsimp only
  split
  · rename_i n hn
    -- a numeral with a fraction or an exponent is left for the next rule to refuse
    refine .ite (fun _ => ?_) fun _ => .of_ok h
    refine (integerOf_failsAt h.peek_mem hn).bind fun i _ => ?_
    exact .of_ok (h.tail_of_peek hn rfl)
  · exact .of_ok h

theorem sliceTail_attends (start : Option Int64) : Attends (sliceTail ctx start) := by
  intro ts us h
  refine (optionalInteger_attends ts _ h.skipBlank).bind fun (stop, vs) hvs => ?_
  refine .ite (fun hcolon => ?_) fun _ => .of_ok hvs.skipBlank
  have hstep := (hvs.skipBlank.tail_of_nextIs hcolon).skipBlank
  exact (optionalInteger_attends ts _ hstep).bind fun _ hrest => .of_ok hrest

theorem indexOrSlice_attends : Attends (indexOrSlice ctx) := by
  intro ts us h
  refine (optionalInteger_attends ts us h).bind fun (start, vs) hvs => ?_
  refine .ite (fun hcolon => ?_) fun _ => ?_
  · exact sliceTail_attends start ts _ (hvs.skipBlank.tail_of_nextIs hcolon)
  · cases start with
    | none => exact hvs.skipBlank.unexpected
    | some i => exact .of_ok hvs.skipBlank

/-- **A selector keeps to its tokens** when the rules one level deeper do. -/
theorem selector_attends (hdeeper : ∀ rules ∈ deeper, rules.Attend) :
    Attends (selector ctx deeper) := by
  intro ts us h
  unfold selector Context.next
  dsimp only
  -- the selector is chosen by a token that is not the last one
  split
  · rename_i hl
    exact .of_ok (h.tail_of_peek hl rfl)
  · rename_i hl
    exact .of_ok (h.tail_of_peek hl rfl)
  · exact indexOrSlice_attends ts us h
  · exact .ite (fun _ => indexOrSlice_attends ts us h) fun _ => h.unexpected
  · rename_i hl
    have hbehind : Leaves ts us.tail := h.tail_of_peek hl rfl
    refine (enter_failsAt hdeeper h.peek_mem).bind fun rules hrules => ?_
    exact (hrules.formula ts _ hbehind.skipBlank).bind fun _ hrest => .of_ok hrest
  · exact h.unexpected

theorem bracketed_attends (hdeeper : ∀ rules ∈ deeper, rules.Attend) :
    Attends (bracketed ctx deeper) := by
  intro ts us h
  refine delimited_attends (fun vs ws hws => ?_) _ ts us h
  exact selector_attends hdeeper vs _ hws.skipBlank

theorem dotSelector_attends : Attends (dotSelector ctx) := by
  intro ts us h
  refine .ite (fun hstar => .of_ok (h.tail_of_is hstar)) fun _ => ?_
  split
  · rename_i name hname
    -- the last token is no name
    have hmore : (ctx.peek us).lexeme.isLast = false := by
      cases hl : (ctx.peek us).lexeme <;>
      simp_all [Lexeme.memberName?, Lexeme.isLast]
    exact .of_ok (h.tail hmore)
  · exact h.unexpected

/-- A segment keeps to its tokens, whichever way it is written. -/
theorem segment?_attends (hdeeper : ∀ rules ∈ deeper, rules.Attend) :
    Attends (segment? ctx deeper) := by
  intro ts us h
  refine .ite (fun hbracket => ?_) fun _ => .ite (fun hpoint => ?_) fun _ => .of_ok h
  · have hbehind := h.tail_of_nextIs hbracket
    exact (bracketed_attends hdeeper ts _ hbehind).bind fun _ hrest => .of_ok hrest
  -- one point is taken, and a second one makes the segment a descendant segment
  have hbehind := h.tail_of_nextIs hpoint
  refine .ite (fun htwo => ?_) fun _ => ?_
  · have hbehind := hbehind.tail_of_nextIs htwo
    refine .ite (fun hbracket => ?_) fun _ => ?_
    · have hbehind := hbehind.tail_of_nextIs hbracket
      exact (bracketed_attends hdeeper ts _ hbehind).bind fun _ hrest => .of_ok hrest
    · exact (dotSelector_attends ts _ hbehind).bind fun _ hrest => .of_ok hrest
  · exact (dotSelector_attends ts _ hbehind).bind fun _ hrest => .of_ok hrest

theorem segments_attends (hdeeper : ∀ rules ∈ deeper, rules.Attend) (fuel : Nat) :
    Attends (segments ctx deeper fuel) := by
  intro ts us h
  induction fuel generalizing us with
  | zero => exact h.unexpected
  | succ fuel ih =>
    have hstart : Leaves ts (skipBlankBeforeSegment ctx us) := h.skipBlankBeforeSegment
    refine (segment?_attends hdeeper ts _ hstart).bind fun (s, vs) hvs => ?_
    -- no segment was there, so the segments end
    cases s with
    | none => exact .of_ok hvs
    | some s => exact (ih vs hvs).bind fun _ hrest => .of_ok hrest

theorem queryFrom_attends (hdeeper : ∀ rules ∈ deeper, rules.Attend) (anchor : Anchor) :
    Attends (queryFrom ctx deeper anchor) := by
  intro ts us h
  exact (segments_attends hdeeper _ ts us h).bind fun _ hrest => .of_ok hrest

/-! ## Literals and calls -/

/-- A number is refused at its numeral. -/
theorem numberLiteral_failsAt {n : Numeral} {t : Token} (ht : t ∈ ts)
    (hn : t.lexeme = .numeral n) : FailsAt ts (numberLiteral n t.position) fun _ => True := by
  refine .ite (fun _ => trivial) fun _ => .ite (fun _ => ?_) fun _ => ?_
  · exact (integerOf_failsAt ht hn).bind fun _ _ => trivial
  -- the only number that a numeral cannot give is one that is too large
  · cases Binary64.ofDecimal n.toDecimal with
    | none => exact .of_cause ht
    | some x => exact trivial

theorem literal_attends : Attends (literal ctx) := by
  intro ts us h
  unfold literal Context.next
  dsimp only
  split
  -- numbers may be refused, all other literals are taken as they are
  case h_5 n hn =>
    refine (numberLiteral_failsAt h.peek_mem hn).bind fun v _ => ?_
    exact .of_ok (h.tail_of_peek hn rfl)
  case h_6 => exact h.unexpected
  all_goals
    rename_i hl
    exact .of_ok (h.tail_of_peek hl rfl)

theorem callArguments_attends {rules : Nested} (hrules : rules.Attend) :
    Attends (callArguments ctx rules) := by
  intro ts us h
  refine .ite (fun hclose => .of_ok (h.skipBlank.tail_of_nextIs hclose)) fun _ => ?_
  exact delimited_attends hrules.argument _ ts _ h.skipBlank

/-- **A call keeps to its tokens.** What is wrong with the function or with its arguments is
reported at the name. -/
theorem call_attends (hdeeper : ∀ rules ∈ deeper, rules.Attend) : Attends (call ctx deeper) := by
  intro ts us h
  have hname : ctx.peek us ∈ ts := h.peek_mem
  refine .ite (fun hopen => ?_) fun _ => .of_token hname
  -- a parenthesis stands behind the name, so the name is not the last token
  have hbehind : Leaves ts us.tail := by
    refine h.tail_of_ne_nil fun hnil => ?_
    rw [hnil] at hopen
    cases hopen
  have hinside := hbehind.tail_of_nextIs hopen
  dsimp only [Context.next]
  -- an unknown function and arguments it refuses are reported at the name, not where they stand
  cases ctx.registry.lookup (ctx.peek us).lexeme.text with
  | none => exact .of_cause hname
  | some f =>
    refine (enter_failsAt hdeeper hname).bind fun rules hrules => ?_
    refine (callArguments_attends hrules ts _ hinside).bind fun (arguments, vs) hvs => ?_
    dsimp only
    cases f.validate arguments with
    | ok _ => exact .of_ok hvs
    | error message => exact .of_cause hname

/-! ## Comparisons -/

/-- The sign of a query is not the last token. -/
theorem isLast_of_isQueryStart {l : Lexeme} (h : l.isQueryStart = true) : l.isLast = false := by
  cases l <;>
  simp_all [Lexeme.isQueryStart, Lexeme.isLast]

theorem embeddedQuery_failsAt (hdeeper : ∀ rules ∈ deeper, rules.Attend) {us : List Token}
    (h : Leaves ts us) (hstart : (ctx.peek us).lexeme.isQueryStart = true) :
    FailsAt ts (embeddedQuery ctx deeper us) fun x => Leaves ts x.2 :=
  queryFrom_attends hdeeper _ ts _ (h.tail (isLast_of_isQueryStart hstart))

/-- A query that is no operand is refused at its sign. -/
theorem queryOperand_failsAt {t : Token} (ht : t ∈ ts) (q : Query) :
    FailsAt ts (queryOperand q t.position) fun _ => True := by
  unfold queryOperand
  cases q.singular? with
  | none => exact .of_cause ht
  | some s => exact trivial

/-- A call that is no operand is refused at its name. -/
theorem callOperand_failsAt {t : Token} (ht : t ∈ ts) (c : Call) :
    FailsAt ts (callOperand c t.position) fun _ => True :=
  .ite (fun _ => trivial) fun _ => .of_cause ht

/-- A call that is no condition is refused at its name. -/
theorem callCondition_failsAt {t : Token} (ht : t ∈ ts) (c : Call) :
    FailsAt ts (callCondition c t.position) fun _ => True :=
  .ite (fun _ => .of_cause ht) fun _ => trivial

theorem comparator_attends : Attends (comparator ctx) := by
  intro ts us h
  have hsign := h.skipBlank
  unfold comparator Context.next
  dsimp only
  split
  -- behind the sign, or behind the second one
  case h_5 => exact .of_token hsign.peek_mem
  all_goals
    rename_i hl
    have hbehind : Leaves ts (skipBlank us).tail := hsign.tail_of_peek hl rfl
    refine .ite (fun hdouble => .of_ok (hbehind.tail_of_nextIs hdouble)) fun _ => ?_
  · exact .of_token hsign.peek_mem
  · exact .of_token hsign.peek_mem
  · exact .of_ok hbehind
  · exact .of_ok hbehind

theorem operand_attends (hdeeper : ∀ rules ∈ deeper, rules.Attend) :
    Attends (operand ctx deeper) := by
  intro ts us h
  have h := h.skipBlank
  -- a query, a call or a literal, told apart by the next token
  refine .ite (fun hstart => ?_) fun _ => ?_
  · refine (embeddedQuery_failsAt hdeeper h hstart).bind fun (q, vs) hvs => ?_
    exact (queryOperand_failsAt h.peek_mem q).bind fun _ _ => .of_ok hvs
  dsimp only
  split
  · refine (call_attends hdeeper ts _ h).bind fun (c, vs) hvs => ?_
    exact (callOperand_failsAt h.peek_mem c).bind fun _ _ => .of_ok hvs
  · exact (literal_attends ts _ h).bind fun _ hrest => .of_ok hrest

theorem comparison_attends (hdeeper : ∀ rules ∈ deeper, rules.Attend) (left : Operand) :
    Attends (comparison ctx deeper left) := by
  intro ts us h
  refine (comparator_attends ts us h).bind fun (op, vs) hvs => ?_
  exact (operand_attends hdeeper ts vs hvs).bind fun _ hrest => .of_ok hrest

/-! ## Conditions and formulas -/

theorem group_attends (hdeeper : ∀ rules ∈ deeper, rules.Attend) :
    Attends (group ctx deeper) := by
  intro ts us h
  refine (expect_attends '(' ts us h).bind fun (t, vs) ⟨ht, hvs⟩ => ?_
  refine (enter_failsAt hdeeper ht).bind fun rules hrules => ?_
  refine (hrules.formula ts _ hvs.skipBlank).bind fun (f, ws) hws => ?_
  exact (expect_attends ')' ts _ hws.skipBlank).bind fun _ hrest => .of_ok hrest.2

theorem negated_attends (hdeeper : ∀ rules ∈ deeper, rules.Attend) :
    Attends (negated ctx deeper) := by
  intro ts us h
  -- in parentheses, a query or a call; literals and comparisons cannot be negated
  refine .ite (fun _ => ?_) fun _ => .ite (fun hstart => ?_) fun _ => ?_
  · exact (group_attends hdeeper ts us h).bind fun _ hrest => .of_ok hrest
  · exact (embeddedQuery_failsAt hdeeper h hstart).bind fun _ hrest => .of_ok hrest
  dsimp only
  split
  · refine (call_attends hdeeper ts us h).bind fun (c, vs) hvs => ?_
    exact .ite (fun _ => .of_cause h.peek_mem) fun _ => .of_ok hvs
  · exact h.unexpected

/-- **A condition keeps to its tokens**, whatever kind it turns out to be. -/
theorem condition_attends (hdeeper : ∀ rules ∈ deeper, rules.Attend) :
    Attends (condition ctx deeper) := by
  intro ts us h
  have h := h.skipBlank
  -- negated, in parentheses, a query or a call, each perhaps the left side of a comparison
  refine .ite (fun hnot => ?_) fun _ => .ite (fun _ => ?_) fun _ =>
    .ite (fun hstart => ?_) fun _ => ?_
  · exact negated_attends hdeeper ts _ (h.tail_of_is hnot).skipBlank
  · exact (group_attends hdeeper ts _ h).bind fun _ hrest => .of_ok hrest
  · refine (embeddedQuery_failsAt hdeeper h hstart).bind fun (q, vs) hvs => ?_
    refine .ite (fun _ => ?_) fun _ => .of_ok hvs.skipBlank
    refine (queryOperand_failsAt h.peek_mem q).bind fun left _ => ?_
    exact comparison_attends hdeeper left ts _ hvs.skipBlank
  dsimp only
  split
  · refine (call_attends hdeeper ts _ h).bind fun (c, vs) hvs => ?_
    refine .ite (fun _ => ?_) fun _ => ?_
    · refine (callOperand_failsAt h.peek_mem c).bind fun left _ => ?_
      exact comparison_attends hdeeper left ts _ hvs.skipBlank
    · exact (callCondition_failsAt h.peek_mem c).bind fun _ _ => .of_ok hvs.skipBlank
  · refine (literal_attends ts _ h).bind fun (v, vs) hvs => ?_
    exact comparison_attends hdeeper (.literal v) ts vs hvs

theorem formulaFrom_attends (hdeeper : ∀ rules ∈ deeper, rules.Attend) (first : Condition) :
    Attends (formulaFrom ctx deeper first) := by
  -- conjunctions are chains of conditions, and formulas are chains of conjunctions
  have hconjunctionFrom (first : Condition) : Attends (conjunctionFrom ctx deeper first) :=
    fun ts us h => chained_attends (condition_attends hdeeper) _ first ts us h
  have hconjunction : Attends (conjunction ctx deeper) := fun ts us h =>
    (condition_attends hdeeper ts us h).bind fun (c, vs) hvs => hconjunctionFrom c ts vs hvs
  intro ts us h
  refine (hconjunctionFrom first ts us h).bind fun (c, vs) hvs => ?_
  exact chained_attends hconjunction _ c ts vs hvs

/-- **A formula keeps to its tokens.** -/
theorem formula_attends (hdeeper : ∀ rules ∈ deeper, rules.Attend) :
    Attends (formula ctx deeper) := by
  intro ts us h
  refine (condition_attends hdeeper ts us h).bind fun (c, vs) hvs => ?_
  exact formulaFrom_attends hdeeper c ts vs hvs

/-! ## Arguments -/

/-- A formula as an argument, whose first condition is read already, keeps to its tokens. -/
theorem formulaArgument_attends (hdeeper : ∀ rules ∈ deeper, rules.Attend) (first : Condition) :
    Attends (formulaArgument ctx deeper first) := by
  intro ts us h
  exact (formulaFrom_attends hdeeper first ts us h).bind fun _ hrest => .of_ok hrest

/-- A comparison as an argument, whose left side is read and checked already. -/
theorem comparisonArgument_failsAt (hdeeper : ∀ rules ∈ deeper, rules.Attend)
    {us : List Token} (h : Leaves ts us) {x : Except ParseError Operand}
    (hx : FailsAt ts x fun _ => True) :
    FailsAt ts (do
      let left ← x
      let (c, ts) ← comparison ctx deeper left us
      formulaArgument ctx deeper c ts) fun x => Leaves ts x.2 := by
  refine hx.bind fun left _ => ?_
  refine (comparison_attends hdeeper left ts us h).bind fun (c, vs) hvs => ?_
  exact formulaArgument_attends hdeeper c ts vs hvs

/-- **An argument keeps to its tokens**, whatever kind it turns out to be. -/
theorem argument_attends (hdeeper : ∀ rules ∈ deeper, rules.Attend) :
    Attends (argument ctx deeper) := by
  intro ts us h
  have h := h.skipBlank
  -- what begins as a query, a literal or a call may go on as a comparison or a formula
  refine .ite (fun hstart => ?_) fun _ => .ite (fun _ => ?_) fun _ => ?_
  · refine (embeddedQuery_failsAt hdeeper h hstart).bind fun (q, vs) hvs => ?_
    refine .ite (fun _ => ?_) fun _ => .ite (fun _ => ?_) fun _ => .of_ok hvs.skipBlank.skipBlank
    · exact comparisonArgument_failsAt hdeeper hvs.skipBlank (queryOperand_failsAt h.peek_mem q)
    · exact formulaArgument_attends hdeeper _ ts _ hvs.skipBlank.skipBlank
  · refine (literal_attends ts _ h).bind fun (v, vs) hvs => ?_
    refine .ite (fun _ => ?_) fun _ => .of_ok hvs.skipBlank
    exact comparisonArgument_failsAt hdeeper hvs.skipBlank (.of_ok (a := .literal v) trivial)
  dsimp only
  split
  · refine (call_attends hdeeper ts _ h).bind fun (c, vs) hvs => ?_
    refine .ite (fun _ => ?_) fun _ => .ite (fun _ => ?_) fun _ => .of_ok hvs.skipBlank.skipBlank
    · exact comparisonArgument_failsAt hdeeper hvs.skipBlank (callOperand_failsAt h.peek_mem c)
    · refine (callCondition_failsAt h.peek_mem c).bind fun test _ => ?_
      exact formulaArgument_attends hdeeper test ts _ hvs.skipBlank.skipBlank
  · exact (formula_attends hdeeper ts _ h).bind fun _ hrest => .of_ok hrest

/-! ## Levels and texts -/

/-- **Every level keeps to the tokens it is given.** -/
theorem levels_attend (ctx : Context) (allowance : Nat) :
    ∀ rules ∈ ctx.levels allowance, rules.Attend := by
  induction allowance with
  | zero => nofun
  | succ allowance ih =>
    -- the rules of a level are made from those of the level below it
    intro rules hrules
    cases hrules
    exact ⟨formula_attends ih, argument_attends ih⟩

/-- A text is refused at one of its tokens. -/
theorem wholeQuery_failsAt (ctx : Context) (h : Ended ts) :
    FailsAt ts (wholeQuery ctx ts) fun _ => True := by
  refine (expect_attends '$' ts ts (.refl h)).bind fun (t, us) ⟨_, hus⟩ => ?_
  refine (queryFrom_attends (levels_attend ctx ctx.limit) .root ts us hus).bind
    fun (q, vs) hvs => ?_
  exact .ite (fun _ => trivial) fun _ => hvs.unexpected

end Rules

/-- The tokens of a text are ended. -/
theorem ended_tokenize (text : String) : Ended (tokenize text) := by
  obtain ⟨init, last, htokens, -, hlast⟩ := tokenize_split text
  exact ⟨last, by rw [htokens, List.getLast?_concat], hlast⟩

/-- An end of input or a malformed token is the last token of a text, and the others are
neither. -/
theorem tokenize_last {text : String} {t : Token} (ht : t ∈ tokenize text)
    (hlast : t.lexeme.isLast = true) :
    (tokenize text).getLast? = some t
      ∧ ∀ u ∈ tokenize text, u.lexeme.isLast = true → u = t := by
  obtain ⟨init, last, htokens, hinit, -⟩ := tokenize_split text
  have hmem {u : Token} (hu : u ∈ tokenize text) (hlast : u.lexeme.isLast = true) : u = last := by
    rw [htokens, List.mem_append, List.mem_singleton] at hu
    refine hu.resolve_left fun hu => ?_
    rw [hinit u hu] at hlast
    cases hlast
  rw [hmem ht hlast]
  exact ⟨by rw [htokens, List.getLast?_concat], fun u hu => hmem hu⟩

/-- **An error is about a token of the text.** -/
theorem Compiler.blames_of_compile {c : Compiler} {text : String} {e : ParseError}
    (h : c.compile text = .error e) : ∃ t ∈ tokenize text, e.Blames t := by
  have hfails := wholeQuery_failsAt ⟨c.registry, c.limit, utf8Size text.toList⟩
    (ended_tokenize text)
  -- compiling a text is reading its tokens as a whole query
  rw [show wholeQuery _ _ = .error e from h] at hfails
  exact hfails

/-! ## Messages -/

/-- Only the end of input is called so. -/
theorem Lexeme.eq_endOfInput {l : Lexeme} (h : l.describe = "end of input") : l = .endOfInput := by
  cases l with
  | endOfInput => rfl
  | invalid cause => cases cause <;> exact absurd h (by decide)
  | numeral n =>
    dsimp only [describe] at h
    split at h <;>
    exact absurd h (by decide)
  | keyword k => cases k <;> exact absurd h (by decide)
  | punctuation c =>
    -- three characters are too short for the words
    have hlength : ['\'', c, '\''].length = "end of input".length := by
      rw [← String.length_ofList]
      exact congrArg String.length h
    exact absurd hlength (by simp [show "end of input".length = 12 from rfl])
  | _ => exact absurd h (by simp [describe])

/-- A message of the grammar that names the end of input is about the end of input. -/
theorem ParseError.Cause.eq_unexpected {cause : Cause} (hkind : cause.kind = .grammar)
    (hmessage : cause.message = "unexpected end of input") : cause = .unexpected .endOfInput := by
  cases cause with
  | unexpected l =>
    have hsplit : "unexpected " ++ l.describe = "unexpected " ++ "end of input" := hmessage
    rw [Lexeme.eq_endOfInput ((String.append_right_inj _).mp hsplit)]
  | nonSingularQuery => exact absurd hmessage (by decide)
  | _ => cases hkind

/-- A lexical error has a lexical cause. -/
theorem ParseError.Cause.eq_lexical {cause : Cause} (hkind : cause.kind = .lexical) :
    ∃ c, cause = .lexical c := by
  cases cause with
  | lexical c => exact ⟨c, rfl⟩
  | _ => cases hkind

/-- The numeral that is refused as an integer is the integer literal `-0`. -/
theorem Numeral.text_of_isNegativeZero {n : Numeral} (h : n.isNegativeZero = true) :
    n.isInteger = true ∧ String.ofList n.text = "-0" := by
  obtain ⟨negative, whole, fraction, exponent⟩ := n
  simp only [isNegativeZero, isInteger, Bool.and_eq_true, beq_iff_eq, Option.isNone_iff_eq_none]
    at h ⊢
  obtain ⟨⟨rfl, rfl⟩, rfl, rfl⟩ := h
  exact ⟨⟨rfl, rfl⟩, rfl⟩

/-- **An error points at a token.** Its position is one past that of a token of the text, so it
is at least one, at most one past the size of the text, and stands between two characters. A
lexical error is that of the malformed token that ends the tokens, message and position, or that
of an integer literal `-0`. And if the end of input is not expected, then no token is malformed,
and the position is one past the size of the text. -/
theorem Compiler.compile_error_at_token {c : Compiler} {text : String} {e : ParseError}
    (h : c.compile text = .error e) :
    (∃ t ∈ tokenize text, e.position - 1 = t.position)
      ∧ 1 ≤ e.position ∧ e.position ≤ text.utf8ByteSize + 1
      ∧ String.Pos.Raw.IsValid text ⟨e.position - 1⟩
      ∧ (e.cause.kind = .lexical →
        (∃ cause, (tokenize text).getLast? = some ⟨.invalid cause, e.position - 1⟩
            ∧ e.cause.message = (Lexeme.invalid cause).text)
          ∨ e.cause.message = "invalid number literal"
            ∧ ∃ n, ⟨.numeral n, e.position - 1⟩ ∈ tokenize text ∧ n.isInteger = true
              ∧ (Lexeme.numeral n).text = "-0")
      ∧ (e.cause.kind = .grammar → e.cause.message = "unexpected end of input" →
        (∀ t ∈ tokenize text, ∀ cause, t.lexeme ≠ .invalid cause)
          ∧ e.position = text.utf8ByteSize + 1) := by
  obtain ⟨t, ht, hblames⟩ := blames_of_compile h
  obtain ⟨hvalid, -, hfinish⟩ := tokenize_position text
  have hposition : e.position - 1 = t.position := hblames.offset
  have hbound : t.position ≤ text.utf8ByteSize := (hvalid t ht).le_rawEndPos
  -- where the error stands follows from where its token stands
  refine ⟨⟨t, ht, hposition⟩, Nat.le_add_left .., ?_, hposition ▸ hvalid t ht, fun hkind => ?_,
    fun hkind hmessage => ?_⟩
  · have hnext : e.position = t.position + 1 := congrArg (· + 1) hblames.offset
    omega
  -- a malformed token is the last one, and the one other lexical error is negative zero
  · obtain ⟨cause, hcause⟩ := ParseError.Cause.eq_lexical hkind
    rw [hposition, hcause]
    rcases hblames.lexical cause hcause with hinvalid | ⟨rfl, n, hn, hzero⟩
    · have hlast := (tokenize_last ht (by rw [hinvalid]; rfl)).1
      refine .inl ⟨cause, ?_, rfl⟩
      rw [hlast, ← hinvalid]
    · obtain ⟨hinteger, htext⟩ := Numeral.text_of_isNegativeZero hzero
      refine .inr ⟨rfl, n, ?_, hinteger, htext⟩
      rwa [← hn]
  -- the token in question is the end of input, so it is the only one that could be malformed
  · have hlexeme := hblames.unexpected _ (ParseError.Cause.eq_unexpected hkind hmessage)
    have honly := (tokenize_last ht (by rw [hlexeme]; rfl)).2
    refine ⟨fun u hu cause hinvalid => ?_, ?_⟩
    · rw [honly u hu (by rw [hinvalid]; rfl), hlexeme] at hinvalid
      cases hinvalid
    · rw [show e.position = t.position + 1 from congrArg (· + 1) hblames.offset,
        hfinish t ht hlexeme]

/-- An escape that goes wrong is reported at its backslash, behind a character of two bytes; a
text that ends too early is reported at its end. -/
theorem compile_error_at_token_escape :
    let c := Compiler.ofRegistry (.standard .reference)
    let wrong : ParseError := ⟨.lexical .invalidEscape, 5⟩
    let early : ParseError := ⟨.unexpected .endOfInput, 6⟩
    c.compile "$['é\\q']" = .error wrong ∧ c.compile "$['é'" = .error early
      ∧ ((∃ cause, (tokenize "$['é\\q']").getLast? = some ⟨.invalid cause, 5⟩
          ∧ "invalid escape sequence" = (Lexeme.invalid cause).text)
        ∨ "invalid escape sequence" = "invalid number literal"
          ∧ ∃ n, ⟨.numeral n, 5⟩ ∈ tokenize "$['é\\q']" ∧ n.isInteger = true
            ∧ (Lexeme.numeral n).text = "-0")
      ∧ (∀ t ∈ tokenize "$['é'", ∀ cause, t.lexeme ≠ .invalid cause)
      ∧ early.position = "$['é'".utf8ByteSize + 1 := by
  intro c wrong early
  have hwrong : c.compile "$['é\\q']" = .error wrong := rfl
  have hearly : c.compile "$['é'" = .error early := rfl
  obtain ⟨-, -, -, -, hlexical, -⟩ := Compiler.compile_error_at_token hwrong
  obtain ⟨-, -, -, -, -, hend⟩ := Compiler.compile_error_at_token hearly
  exact ⟨hwrong, hearly, hlexical rfl, hend rfl rfl⟩

end JsonQuery
