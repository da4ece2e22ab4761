import JsonQuery.Function.Standard
import JsonQuery.Proofs.Grammar.Acceptance
import JsonQuery.Regex.Reference.Compile

/-
An argument is read like a formula.

The rule for arguments looks for queries, calls and literals before it falls back to the rule
for formulas, and decides from what follows whether one of them is the argument or only its
beginning. Both rules skip the same blank space and see the same operators, but in different
places, so that they agree is a theorem. It turns on the first condition of a formula. When that
is a query or a call and no operator follows, the argument is the query or the call itself
(`argument_of_test`); otherwise the argument is the formula that goes on from it
(`argument_of_condition`). The other way round each rule reads on from the query, the call or the
literal that the argument begins with, and the formula is found unless the argument is one that no
condition can be: a literal, or a call that answers a value (`formula_of_argument`).
-/

set_option autoImplicit false

namespace JsonQuery

/-- **What a formula is as an argument**: a query or a call alone is passed as it is. -/
def Formula.toArgument : Formula → Argument
  | [[.query false q]] => queryArgument q
  | [[.call false c]] => .call c
  | f => .formula f

/-- A formula that is not bare is an argument as it is. -/
theorem Formula.toArgument_of_isBare {f : Formula} (h : f.isBare = false) :
    f.toArgument = .formula f := by
  unfold toArgument
  split
  · cases h
  · cases h
  · rfl

section Level

variable {ctx : Context} {deeper : Option Nested} {n : Nat} {ts us rest : List Token}
  {k : Condition}

/-! ## Where blank space is skipped -/

/-- A condition is read behind blank space too. -/
theorem condition_skipBlank (hsep : Separated (lexemes ts)) :
    condition ctx deeper (skipBlank ts) = condition ctx deeper ts := by
  simp only [condition, skipBlank_skipBlank hsep]

theorem formula_skipBlank (hsep : Separated (lexemes ts)) :
    formula ctx deeper (skipBlank ts) = formula ctx deeper ts := by
  rw [formula, formula, condition_skipBlank hsep]

theorem comparison_skipBlank_of_separated (hsep : Separated (lexemes ts)) (left : Operand) :
    comparison ctx deeper left (skipBlank ts) = comparison ctx deeper left ts := by
  simp only [comparison, comparator, skipBlank_skipBlank hsep]

/-- Behind a query blank space is skipped at once, as blank tokens do not repeat there. -/
theorem skipBlank_of_embeddedQuery (hdeep : SoundBelow ctx.registry n deeper)
    (hsep : Separated (lexemes ts)) (hstart : (ctx.peek ts).lexeme.isQueryStart = true)
    {q : Query} (h : embeddedQuery ctx deeper ts = .ok (q, us)) :
    skipBlank (skipBlank us) = skipBlank us :=
  skipBlank_skipBlank (hsep.of_suffix (embeddedQuery_sound hdeep hsep hstart h).1.suffix)

/-- Behind a call blank space is skipped at once too. -/
theorem skipBlank_of_call (hdeep : SoundBelow ctx.registry n deeper)
    (hsep : Separated (lexemes ts)) {name : String}
    (hname : (ctx.peek ts).lexeme = .identifier name) {c : Call}
    (h : call ctx deeper ts = .ok (c, us)) : skipBlank (skipBlank us) = skipBlank us :=
  skipBlank_skipBlank (hsep.of_suffix (call_sound hdeep hsep hname h).1.suffix)

/-! ## Tests -/

/-- **How a query or a call is read as a condition of its own**: no comparison follows it, and a
call answers no value. -/
inductive ReadsTest (ctx : Context) (deeper : Option Nested) (ts : List Token) :
    Condition → List Token → Prop
  | query {q : Query} {us : List Token}
      (start : (ctx.peek (skipBlank ts)).lexeme.isQueryStart = true)
      (read : embeddedQuery ctx deeper (skipBlank ts) = .ok (q, us))
      (alone : atComparison ctx (skipBlank us) = false) :
      ReadsTest ctx deeper ts (.query false q) (skipBlank us)
  | call {name : String} {c : Call} {us : List Token}
      (start : (ctx.peek (skipBlank ts)).lexeme = .identifier name)
      (read : call ctx deeper (skipBlank ts) = .ok (c, us))
      (alone : atComparison ctx (skipBlank us) = false) (result : c.result ≠ .value) :
      ReadsTest ctx deeper ts (.call false c) (skipBlank us)

/-- A negation is no test. -/
theorem isTest_of_negated (h : negated ctx deeper ts = .ok (k, us)) : k.isTest = false := by
  dsimp only [negated] at h
  split at h
  · obtain ⟨⟨f, vs⟩, -, heq⟩ := bind_eq_ok.mp h
    cases heq
    rfl
  split at h
  · obtain ⟨⟨q, vs⟩, -, heq⟩ := bind_eq_ok.mp h
    cases heq
    rfl
  split at h
  · obtain ⟨⟨c, vs⟩, -, h⟩ := bind_eq_ok.mp h
    dsimp only at h
    split at h
    · cases h
    · cases h
      rfl
  · cases h

/-- A comparison is no test either. -/
theorem isTest_of_comparison {left : Operand} (h : comparison ctx deeper left ts = .ok (k, us)) :
    k.isTest = false := by
  obtain ⟨⟨op, vs⟩, -, h⟩ := bind_eq_ok.mp h
  obtain ⟨⟨right, ws⟩, -, heq⟩ := bind_eq_ok.mp h
  cases heq
  rfl

/-- **A condition that is a query or a call has been read as one.** -/
theorem readsTest_of_condition (h : condition ctx deeper ts = .ok (k, us))
    (htest : k.isTest = true) : ReadsTest ctx deeper ts k us := by
  -- a condition of another form is none
  have hno (hk : k.isTest = false) : ReadsTest ctx deeper ts k us := by
    rw [htest] at hk
    cases hk
  dsimp only [condition] at h
  split at h
  · exact hno (isTest_of_negated h)
  split at h
  · obtain ⟨⟨f, vs⟩, -, heq⟩ := bind_eq_ok.mp h
    cases heq
    exact hno rfl
  split at h
  · rename_i hstart
    obtain ⟨⟨q, vs⟩, hq, h⟩ := bind_eq_ok.mp h
    dsimp only at h
    split at h
    · obtain ⟨o, -, hcompare⟩ := bind_eq_ok.mp h
      exact hno (isTest_of_comparison hcompare)
    · rename_i halone
      cases h
      exact .query hstart hq (by simpa using halone)
  split at h
  · rename_i name hname
    obtain ⟨⟨c, vs⟩, hc, h⟩ := bind_eq_ok.mp h
    dsimp only at h
    split at h
    · obtain ⟨o, -, hcompare⟩ := bind_eq_ok.mp h
      exact hno (isTest_of_comparison hcompare)
    · rename_i halone
      obtain ⟨test, hcondition, heq⟩ := bind_eq_ok.mp h
      obtain ⟨rfl, hresult⟩ := callCondition_eq_ok hcondition
      cases heq
      exact .call hname hc (by simpa using halone) hresult
  · obtain ⟨⟨v, vs⟩, -, hcompare⟩ := bind_eq_ok.mp h
    exact hno (isTest_of_comparison hcompare)

/-! ## From formulas to arguments -/

/-- No blank space is left behind a test. -/
theorem ReadsTest.skipBlank_eq (hdeep : SoundBelow ctx.registry n deeper)
    (hsep : Separated (lexemes ts)) (h : ReadsTest ctx deeper ts k us) : skipBlank us = us := by
  have hsep' := separated_skipBlank hsep
  cases h with
  | query start read => exact skipBlank_of_embeddedQuery hdeep hsep' start read
  | call start read => exact skipBlank_of_call hdeep hsep' start read

/-- **A test that no operator follows is the argument.** -/
theorem argument_of_test (h : ReadsTest ctx deeper ts k us) (hus : skipBlank us = us)
    (hend : atLogicalOperator ctx us = false) :
    argument ctx deeper ts = .ok (Formula.toArgument [[k]], us) := by
  cases h with
  | query start read alone => simp [argument, start, read, alone, hus, hend, Formula.toArgument]
  | call start read alone =>
    simp [argument, start, Lexeme.isQueryStart, Lexeme.isLiteral, read, alone, hus, hend,
      Formula.toArgument]

/-- A formula that goes on behind its first condition, or begins with more than a test, is not
bare. -/
theorem isBare_of_formulaFrom {f : Formula} (h : formulaFrom ctx deeper k us = .ok (f, rest))
    (hk : k.isTest = true → skipBlank us = us ∧ atLogicalOperator ctx us = true) :
    f.isBare = false := by
  rw [← Bool.not_eq_true]
  intro hbare
  obtain ⟨l, rfl, hl⟩ : ∃ l, f = [[l]] ∧ l.isTest = true := by
    rcases isBare_iff.mp hbare with ⟨q, rfl⟩ | ⟨c, rfl⟩ <;> exact ⟨_, rfl, rfl⟩
  -- it has one condition, which is the first one, so no operator followed that
  obtain ⟨rfl, hend⟩ := formulaFrom_eq_singleton h
  obtain ⟨hus, hoperator⟩ := hk hl
  rw [hend hus] at hoperator
  cases hoperator

/-- **Where a formula is read, it is read as an argument too**, and up to the same token. -/
theorem argument_of_formula (hdeep : SoundBelow ctx.registry n deeper)
    (hsep : Separated (lexemes ts)) {f : Formula} (h : formula ctx deeper ts = .ok (f, rest)) :
    argument ctx deeper ts = .ok (f.toArgument, rest) := by
  obtain ⟨⟨k, us⟩, hk, hfrom⟩ := bind_eq_ok.mp h
  dsimp only at hfrom
  have hread (htest : k.isTest = true) := readsTest_of_condition hk htest
  by_cases halone : k.isTest = true ∧ atLogicalOperator ctx us = false
  · have hus := (hread halone.1).skipBlank_eq hdeep hsep
    rw [formulaFrom_single hus halone.2] at hfrom
    cases hfrom
    exact argument_of_test (hread halone.1) hus halone.2
  · -- the formula goes on, and so does the argument
    have hmore (htest : k.isTest = true) :
        skipBlank us = us ∧ atLogicalOperator ctx us = true :=
      ⟨(hread htest).skipBlank_eq hdeep hsep, by simpa [htest] using halone⟩
    rw [argument_of_condition hk hmore, formulaArgument, hfrom,
      Formula.toArgument_of_isBare (isBare_of_formulaFrom hfrom hmore)]
    rfl

/-! ## From arguments to formulas -/

theorem Token.is_of_isQueryStart {t : Token} (h : t.lexeme.isQueryStart = true) :
    t.is '!' = false ∧ t.is '(' = false := by
  obtain ⟨anchor, hanchor⟩ := isQueryStart_iff.mp h
  cases anchor <;> simp [Token.is, hanchor, Anchor.lexeme]

/-- A condition that begins with a query. -/
theorem condition_query (hstart : (ctx.peek (skipBlank ts)).lexeme.isQueryStart = true) {q : Query}
    (hq : embeddedQuery ctx deeper (skipBlank ts) = .ok (q, us)) :
    condition ctx deeper ts =
      if atComparison ctx (skipBlank us) then
        queryOperand q (ctx.peek (skipBlank ts)).position >>= fun left =>
          comparison ctx deeper left (skipBlank us)
      else .ok (.query false q, skipBlank us) := by
  obtain ⟨hnot, hopen⟩ := Token.is_of_isQueryStart hstart
  simp only [condition, hnot, hopen, hstart, hq]
  rfl

/-- A condition that begins with a call. -/
theorem condition_call {name : String} (hname : (ctx.peek (skipBlank ts)).lexeme = .identifier name)
    {c : Call} (hc : call ctx deeper (skipBlank ts) = .ok (c, us)) :
    condition ctx deeper ts =
      if atComparison ctx (skipBlank us) then
        callOperand c (ctx.peek (skipBlank ts)).position >>= fun left =>
          comparison ctx deeper left (skipBlank us)
      else callCondition c (ctx.peek (skipBlank ts)).position >>= fun test =>
        .ok (test, skipBlank us) := by
  have hsign (ch : Char) : (ctx.peek (skipBlank ts)).is ch = false := by simp [Token.is, hname]
  simp only [condition, hsign, hname, hc]
  rfl

/-- A condition that begins with a literal. -/
theorem condition_literal (hliteral : (ctx.peek (skipBlank ts)).lexeme.isLiteral = true) {v : Json}
    (hv : literal ctx (skipBlank ts) = .ok (v, us)) :
    condition ctx deeper ts = comparison ctx deeper (.literal v) us := by
  obtain ⟨l, hl⟩ : ∃ l, (ctx.peek (skipBlank ts)).lexeme = l := ⟨_, rfl⟩
  rw [hl] at hliteral
  cases l with
  | numeral | string | keyword => simp [condition, Token.is, hl, Lexeme.isQueryStart, hv]
  | _ => cases hliteral

/-- A formula is read by its first condition first. -/
theorem formula_of_condition (hk : condition ctx deeper ts = .ok (k, us)) :
    formula ctx deeper ts = formulaFrom ctx deeper k us := by
  rw [formula, hk]
  rfl

/-- The formula of an argument is read as a formula too, if its first condition is read as one. -/
theorem exists_formula {x : Argument} (hk : condition ctx deeper ts = .ok (k, us))
    (h : formulaArgument ctx deeper k us = .ok (x, rest)) :
    ∃ f, formula ctx deeper ts = .ok (f, rest) := by
  obtain ⟨⟨f, vs⟩, hf, heq⟩ := bind_eq_ok.mp h
  cases heq
  exact ⟨f, (formula_of_condition hk).trans hf⟩

/-- The first condition may be a comparison, of which the argument has read the left side. -/
theorem exists_formula_compared {left : Operand} {x : Argument}
    (hcondition : condition ctx deeper ts = comparison ctx deeper left us)
    (h : (comparison ctx deeper left us >>= fun (k, vs) => formulaArgument ctx deeper k vs)
      = .ok (x, rest)) : ∃ f, formula ctx deeper ts = .ok (f, rest) := by
  obtain ⟨⟨k, vs⟩, hk, h⟩ := bind_eq_ok.mp h
  exact exists_formula (hcondition.trans hk) h

/-- A condition that no operator follows is a formula. -/
theorem exists_formula_single (hk : condition ctx deeper ts = .ok (k, us))
    (hus : skipBlank us = us) (hend : ¬ atLogicalOperator ctx us = true) :
    ∃ f, formula ctx deeper ts = .ok (f, us) :=
  ⟨_, (formula_of_condition hk).trans (formulaFrom_single hus (by simpa using hend))⟩

/-- **Where an argument begins with a query, a formula is read.** -/
theorem formula_of_argument_query (hdeep : SoundBelow ctx.registry n deeper)
    (hsep : Separated (lexemes ts))
    (hstart : (ctx.peek (skipBlank ts)).lexeme.isQueryStart = true) {x : Argument}
    (h : argument ctx deeper ts = .ok (x, rest)) : ∃ f, formula ctx deeper ts = .ok (f, rest) := by
  dsimp only [argument] at h
  rw [if_pos hstart] at h
  obtain ⟨⟨q, us⟩, hq, h⟩ := bind_eq_ok.mp h
  have hcondition := condition_query hstart hq
  have htwice := skipBlank_of_embeddedQuery hdeep (separated_skipBlank hsep) hstart hq
  dsimp only at h
  rw [htwice] at h
  by_cases hat : atComparison ctx (skipBlank us) = true
  · rw [if_pos hat] at h hcondition
    obtain ⟨left, hleft, h⟩ := bind_eq_ok.mp h
    rw [hleft] at hcondition
    exact exists_formula_compared hcondition h
  rw [if_neg hat] at h hcondition
  by_cases hoperator : atLogicalOperator ctx (skipBlank us) = true
  · rw [if_pos hoperator] at h
    exact exists_formula hcondition h
  · rw [if_neg hoperator] at h
    cases h
    exact exists_formula_single hcondition htwice hoperator

/-- **Where an argument begins with a literal, a formula is read, or the literal is all.** -/
theorem formula_of_argument_literal (hsep : Separated (lexemes ts))
    (hliteral : (ctx.peek (skipBlank ts)).lexeme.isLiteral = true) {x : Argument}
    (h : argument ctx deeper ts = .ok (x, rest)) :
    (∃ f, formula ctx deeper ts = .ok (f, rest)) ∨ ∃ v, x = .literal v := by
  have hquery : ¬ (ctx.peek (skipBlank ts)).lexeme.isQueryStart = true := by
    intro hstart
    obtain ⟨anchor, hanchor⟩ := isQueryStart_iff.mp hstart
    rw [hanchor] at hliteral
    cases anchor <;> cases hliteral
  dsimp only [argument] at h
  rw [if_neg hquery, if_pos hliteral] at h
  obtain ⟨⟨v, us⟩, hv, h⟩ := bind_eq_ok.mp h
  obtain ⟨l, -, hread⟩ := literal_sound hv
  have hsep' : Separated (lexemes us) := by
    have hall := separated_skipBlank hsep
    rw [hread] at hall
    exact hall.tail
  -- only the rule for arguments skips blank space behind a literal, and an operator does too
  have hcondition : condition ctx deeper ts = comparison ctx deeper (.literal v) (skipBlank us) :=
    (condition_literal hliteral hv).trans (comparison_skipBlank_of_separated hsep' _).symm
  dsimp only at h
  by_cases hat : atComparison ctx (skipBlank us) = true
  · rw [if_pos hat] at h
    exact .inl (exists_formula_compared hcondition h)
  · rw [if_neg hat] at h
    cases h
    exact .inr ⟨v, rfl⟩

/-- **Where an argument begins with a name, a formula is read, or all is a call that answers a
value.** -/
theorem formula_of_argument_call (hdeep : SoundBelow ctx.registry n deeper)
    (hsep : Separated (lexemes ts)) {name : String}
    (hname : (ctx.peek (skipBlank ts)).lexeme = .identifier name) {x : Argument}
    (h : argument ctx deeper ts = .ok (x, rest)) :
    (∃ f, formula ctx deeper ts = .ok (f, rest)) ∨ ∃ c, x = .call c ∧ c.result = .value := by
  simp only [argument, hname, Lexeme.isQueryStart, Lexeme.isLiteral, Bool.false_eq_true,
    if_false] at h
  obtain ⟨⟨c, us⟩, hc, h⟩ := bind_eq_ok.mp h
  have hcondition := condition_call hname hc
  have htwice := skipBlank_of_call hdeep (separated_skipBlank hsep) hname hc
  dsimp only at h
  rw [htwice] at h
  by_cases hat : atComparison ctx (skipBlank us) = true
  · rw [if_pos hat] at h hcondition
    obtain ⟨left, hleft, h⟩ := bind_eq_ok.mp h
    rw [hleft] at hcondition
    exact .inl (exists_formula_compared hcondition h)
  rw [if_neg hat] at h hcondition
  by_cases hoperator : atLogicalOperator ctx (skipBlank us) = true
  · rw [if_pos hoperator] at h
    obtain ⟨test, htest, h⟩ := bind_eq_ok.mp h
    rw [htest] at hcondition
    exact .inl (exists_formula hcondition h)
  · rw [if_neg hoperator] at h
    cases h
    by_cases hresult : c.result = .value
    · exact .inr ⟨c, rfl, hresult⟩
    · -- a call that answers no value is a condition, and the only one
      rw [callCondition, if_neg hresult] at hcondition
      exact .inl (exists_formula_single hcondition htwice hoperator)

/-- **Where an argument is read, a formula is read too**, unless the argument is a literal or a
call that answers a value. -/
theorem formula_of_argument (hdeep : SoundBelow ctx.registry n deeper)
    (hsep : Separated (lexemes ts)) {x : Argument} (h : argument ctx deeper ts = .ok (x, rest)) :
    (∃ f, formula ctx deeper ts = .ok (f, rest)) ∨ (∃ v, x = .literal v)
      ∨ ∃ c, x = .call c ∧ c.result = .value := by
  by_cases hstart : (ctx.peek (skipBlank ts)).lexeme.isQueryStart = true
  · exact .inl (formula_of_argument_query hdeep hsep hstart h)
  by_cases hliteral : (ctx.peek (skipBlank ts)).lexeme.isLiteral = true
  · exact (formula_of_argument_literal hsep hliteral h).imp_right .inl
  by_cases hname : ∃ name, (ctx.peek (skipBlank ts)).lexeme = .identifier name
  · obtain ⟨name, hname⟩ := hname
    exact (formula_of_argument_call hdeep hsep hname h).imp_right .inr
  · -- anything else is read by the rule for formulas
    left
    dsimp only [argument] at h
    rw [if_neg hstart, if_neg hliteral] at h
    split at h
    · rename_i name heq
      exact absurd ⟨name, heq⟩ hname
    · obtain ⟨⟨f, us⟩, hf, heq⟩ := bind_eq_ok.mp h
      cases heq
      rw [formula_skipBlank hsep] at hf
      exact ⟨f, hf⟩

end Level

/-! ## The rules of a compiler -/

/-- **Arguments are read like formulas**, whatever part of a text is left to read, and whatever
functions and levels there are. Where a formula is read, an argument is read from the same tokens
up to the same place: a query or a call if the formula is nothing but that, not negated, and
otherwise the formula. Where an argument is read and no formula, it is a literal, or a call that
answers a value. -/
theorem argument_agrees {text : String} {ts : List Token} (hts : ts <:+ tokenize text)
    (ctx : Context) (allowance : Nat) :
    (∀ f rest, formula ctx (ctx.levels allowance) ts = .ok (f, rest) →
        argument ctx (ctx.levels allowance) ts = .ok (f.toArgument, rest))
      ∧ ∀ x rest, argument ctx (ctx.levels allowance) ts = .ok (x, rest) →
          (∀ f us, formula ctx (ctx.levels allowance) ts ≠ .ok (f, us)) →
          (∃ v, x = .literal v) ∨ ∃ c, x = .call c ∧ c.result = .value := by
  have hdeep := levels_sound ctx allowance
  have hsep : Separated (lexemes ts) := (separated_tokenize text).of_suffix (hts.map Token.lexeme)
  refine ⟨fun f rest h => argument_of_formula hdeep hsep h, fun x rest h hno => ?_⟩
  rcases formula_of_argument hdeep hsep h with ⟨f, hf⟩ | hother
  · exact absurd hf (hno f rest)
  · exact hother

/-- A query with blank space behind it is read by both rules, and a call that answers a number
only as an argument. -/
theorem argument_agrees_alone :
    let ctx : Context := ⟨.standard .reference, 1, 16⟩
    let query := (tokenize "value(@.a  )").drop 2
    let number := (tokenize "value(length(@))").drop 2
    (∃ rest, formula ctx (ctx.levels 1) query
          = .ok ([[.query false (.mk .current [.child [.name "a"]])]], rest)
        ∧ argument ctx (ctx.levels 1) query = .ok (.singular ⟨.current, [.name "a"]⟩, rest))
      ∧ ∃ x rest, argument ctx (ctx.levels 1) number = .ok (x, rest)
        ∧ (∀ f us, formula ctx (ctx.levels 1) number ≠ .ok (f, us))
        ∧ ((∃ v, x = .literal v) ∨ ∃ c, x = .call c ∧ c.result = .value) := by
  intro ctx query number
  have hquery := argument_agrees (List.drop_suffix 2 (tokenize "value(@.a  )")) ctx 1
  have hnumber := argument_agrees (List.drop_suffix 2 (tokenize "value(length(@))")) ctx 1
  obtain ⟨rest, hread⟩ : ∃ rest, formula ctx (ctx.levels 1) query
      = .ok ([[.query false (.mk .current [.child [.name "a"]])]], rest) := ⟨_, rfl⟩
  obtain ⟨x, us, hx⟩ : ∃ x us, argument ctx (ctx.levels 1) number = .ok (x, us) := ⟨_, _, rfl⟩
  have hno (f : Formula) (vs : List Token) :
      formula ctx (ctx.levels 1) number ≠ .ok (f, vs) := nofun
  exact ⟨⟨rest, hread, hquery.1 _ _ hread⟩, x, us, hx, hno, hnumber.2 x us hx hno⟩

end JsonQuery
