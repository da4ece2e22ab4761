import JsonQuery.Proofs.Grammar.Soundness.Selection

/-
What the rules for filters read, the grammar derives.

A query, a call or a literal is read before it is known what it is, so the proofs
follow what the rules decide afterwards: a comparison when an operator follows,
the beginning of a formula, or an argument of its own. That an argument is never a
formula that is nothing but a query or a call (`argument_sound`) rests on what
follows such a formula: no operator.

The rules of a level are sound when those of the next one are, and so, by induction
on the number of levels, all of them are (`levels_sound`).
-/

set_option autoImplicit false

namespace JsonQuery

variable {r : Registry} {n : Nat} {p : Phrase} {a b c : List Lexeme}

section Level

variable {ctx : Context} {deeper : Option Nested}

/-! ## Literals, queries and calls -/

/-- A number that is accepted is a literal of the grammar. -/
theorem numberLiteral_eq_ok {m : Numeral} {position : Nat} {v : Json}
    (h : numberLiteral m position = .ok v) : LiteralLexeme (.numeral m) v := by
  unfold numberLiteral at h
  split at h
  · rename_i hzero
    cases h
    exact .negativeZero hzero
  · split at h
    · rename_i hinteger
      obtain ⟨i, hi, heq⟩ := bind_eq_ok.mp h
      cases heq
      exact .integer (integerOf_eq_ok hinteger hi)
    · rename_i hfractional
      split at h
      · rename_i y hy
        cases h
        exact .float (by simpa using hfractional) hy
      · cases h

/-- A literal is read from one lexeme. -/
theorem literal_sound {ts rest : List Token} {v : Json} (h : literal ctx ts = .ok (v, rest)) :
    ∃ l, LiteralLexeme l v ∧ lexemes ts = l :: lexemes rest := by
  dsimp only [literal, Context.next] at h
  split at h
  · rename_i s hpeek
    cases h
    exact ⟨_, .string s, lexemes_of_peek hpeek (by simp)⟩
  · rename_i hpeek
    cases h
    exact ⟨_, .yes, lexemes_of_peek hpeek (by simp)⟩
  · rename_i hpeek
    cases h
    exact ⟨_, .no, lexemes_of_peek hpeek (by simp)⟩
  · rename_i hpeek
    cases h
    exact ⟨_, .null, lexemes_of_peek hpeek (by simp)⟩
  · rename_i m hpeek
    obtain ⟨w, hw, heq⟩ := bind_eq_ok.mp h
    cases heq
    exact ⟨_, numberLiteral_eq_ok hw, lexemes_of_peek hpeek (by simp)⟩
  · cases h

/-- A query starts with one of the two anchors. -/
theorem isQueryStart_iff {l : Lexeme} :
    l.isQueryStart = true ↔ ∃ anchor : Anchor, l = anchor.lexeme := by
  constructor
  · intro h
    cases l with
    | punctuation ch =>
      simp only [Lexeme.isQueryStart, Bool.or_eq_true, beq_iff_eq] at h
      rcases h with rfl | rfl
      · exact ⟨.current, rfl⟩
      · exact ⟨.root, rfl⟩
    | _ => cases h
  · rintro ⟨anchor, rfl⟩
    cases anchor <;> rfl

/-- **A query in a filter is read from a phrase of its kind.** -/
theorem embeddedQuery_sound (hdeep : SoundBelow ctx.registry n deeper) {ts rest : List Token}
    {q : Query} (hsep : Separated (lexemes ts))
    (hstart : (ctx.peek ts).lexeme.isQueryStart = true)
    (h : embeddedQuery ctx deeper ts = .ok (q, rest)) :
    Within ctx.registry n .query (lexemes ts) q (lexemes rest) := by
  obtain ⟨anchor, hanchor⟩ := isQueryStart_iff.mp hstart
  have hread := lexemes_of_peek hanchor (by cases anchor <;> simp [Anchor.lexeme])
  dsimp only [embeddedQuery] at h
  -- the rule asks for `$` only; whatever else begins a query is `@`
  have hwhich : (if (ctx.next ts).1.is '$' = true then Anchor.root else .current) = anchor := by
    rw [Token.is, show (ctx.next ts).1.lexeme = anchor.lexeme from hanchor]
    cases anchor <;> rfl
  rw [hwhich] at h
  rw [hread] at hsep ⊢
  obtain ⟨ss, rfl, hsegments, hnest⟩ := queryFrom_sound hdeep hsep.tail h
  exact ⟨.query anchor hsegments, hnest⟩

/-- Blank space may stand before arguments. -/
theorem Derives.arguments_before {xs : List Argument} (h : Derives r .arguments b xs c)
    (hblank : Blank a b) (hsep : Separated a) : Derives r .arguments a xs c := by
  cases h with
  | lastArgument before argument behind =>
    exact .lastArgument (hblank.trans before hsep) argument behind
  | nextArgument before argument behind arguments =>
    exact .nextArgument (hblank.trans before hsep) argument behind arguments

/-- The arguments between parentheses, if there are any. -/
theorem callArguments_sound {rules : Nested} (hrules : rules.SoundAt ctx.registry n)
    {ts rest : List Token} {xs : List Argument} (hsep : Separated (lexemes ts))
    (h : callArguments ctx rules ts = .ok (xs, rest)) :
    (xs = [] ∧ Blank (lexemes ts) (.punctuation ')' :: lexemes rest))
      ∨ Within ctx.registry n .arguments (lexemes ts) xs (.punctuation ')' :: lexemes rest) := by
  dsimp only [callArguments] at h
  split at h
  · rename_i hclose
    cases h
    exact .inl ⟨rfl, lexemes_of_nextIs hclose ▸ blank_skipBlank ts⟩
  · obtain ⟨harguments, hnest⟩ :
        Within ctx.registry n .arguments (lexemes (skipBlank ts)) xs
          (.punctuation ')' :: lexemes rest) := by
      refine delimited_sound (p := .argument) hrules.argument ?_ ?_ _ (separated_skipBlank hsep) h
      -- the two productions of a list of arguments
      · rintro a x b ⟨c, d, hbefore, ⟨hargument, hnest⟩, hbehind⟩
        exact ⟨.lastArgument hbefore hargument hbehind, max_le hnest (Nat.zero_le n)⟩
      · rintro a x b xs c ⟨d, e, hbefore, ⟨hargument, hnest⟩, hbehind⟩ ⟨harguments, hnests⟩
        exact ⟨.nextArgument hbefore hargument hbehind harguments, max_le hnest hnests⟩
    exact .inr ⟨harguments.arguments_before (blank_skipBlank ts) hsep, hnest⟩

/-- **A call is read from a phrase of its kind**, with a registered function that accepts its
arguments. -/
theorem call_sound (hdeep : SoundBelow ctx.registry n deeper) {ts rest : List Token}
    {name : String} {k : Call} (hsep : Separated (lexemes ts))
    (hname : (ctx.peek ts).lexeme = .identifier name)
    (h : call ctx deeper ts = .ok (k, rest)) :
    Within ctx.registry n .call (lexemes ts) k (lexemes rest) := by
  have hread := lexemes_of_peek hname (by simp)
  dsimp only [call] at h
  rw [show (ctx.next ts).1.lexeme = .identifier name from hname, Lexeme.text] at h
  split at h
  · rename_i hopen
    have hbehind : lexemes ts.tail = .punctuation '(' :: lexemes ts.tail.tail :=
      lexemes_of_nextIs hopen
    rw [hbehind] at hread
    split at h
    · cases h
    · rename_i f hfound
      obtain ⟨rules, henter, h⟩ := bind_eq_ok.mp h
      obtain ⟨⟨xs, us⟩, hxs, h⟩ := bind_eq_ok.mp h
      -- the arguments stand on the level below, so a level is left to spend
      obtain ⟨m, rfl, hrules⟩ := hdeep rules (enter_eq_ok henter)
      rw [hread] at hsep ⊢
      have hargs := callArguments_sound hrules hsep.tail.tail hxs
      dsimp only at h
      split at h
      · rename_i hvalid
        cases h
        rcases hargs with ⟨rfl, hblank⟩ | ⟨harguments, hnest⟩
        · exact ⟨.bareCall hfound hblank hvalid, Nat.succ_le_succ (Nat.zero_le m)⟩
        · exact ⟨.call hfound harguments hvalid, Nat.succ_le_succ hnest⟩
      · cases h
  · cases h

/-! ## Comparisons -/

/-- A query is an operand in its singular form only. -/
theorem queryOperand_eq_ok {q : Query} {position : Nat} {o : Operand}
    (h : queryOperand q position = .ok o) : ∃ s, q.singular? = some s ∧ o = .singular s := by
  unfold queryOperand at h
  split at h
  · rename_i s hs
    cases h
    exact ⟨s, hs, rfl⟩
  · cases h

/-- A call is an operand when it answers a value. -/
theorem callOperand_eq_ok {c : Call} {position : Nat} {o : Operand}
    (h : callOperand c position = .ok o) : o = .call c ∧ c.result = .value := by
  unfold callOperand at h
  split at h
  · rename_i hresult
    cases h
    exact ⟨rfl, hresult⟩
  · cases h

/-- **An operand**, behind optional blank space. -/
theorem operand_sound (hdeep : SoundBelow ctx.registry n deeper) :
    Rule.Sound (operand ctx deeper) (Padded ctx.registry n .operand) := by
  intro ts o rest hsep h
  dsimp only [operand] at h
  have hsep' := separated_skipBlank hsep
  refine Padded.before ?_ (blank_skipBlank ts) hsep
  split at h
  · rename_i hstart
    obtain ⟨⟨q, us⟩, hq, h⟩ := bind_eq_ok.mp h
    obtain ⟨s, hs, heq⟩ := bind_eq_ok.mp h
    cases heq
    obtain ⟨hquery, -⟩ := embeddedQuery_sound hdeep hsep' hstart hq
    obtain ⟨s, hsingular, rfl⟩ := queryOperand_eq_ok hs
    exact Within.padded ⟨.queryOperand hquery hsingular, Nat.zero_le n⟩
  · split at h
    · rename_i name hname
      obtain ⟨⟨k, us⟩, hk, h⟩ := bind_eq_ok.mp h
      obtain ⟨s, hs, heq⟩ := bind_eq_ok.mp h
      cases heq
      obtain ⟨hcall, hnest⟩ := call_sound hdeep hsep' hname hk
      obtain ⟨rfl, hresult⟩ := callOperand_eq_ok hs
      exact Within.padded ⟨.callOperand hcall hresult, hnest⟩
    · obtain ⟨⟨v, us⟩, hv, heq⟩ := bind_eq_ok.mp h
      cases heq
      obtain ⟨l, hliteral, hread⟩ := literal_sound hv
      rw [hread]
      exact Within.padded ⟨.literalOperand hliteral _, Nat.zero_le n⟩

/-- An operator, behind optional blank space. -/
theorem comparator_sound {ts rest : List Token} {op : Comparator}
    (h : comparator ctx ts = .ok (op, rest)) :
    Blank (lexemes ts) (op.characters.map Lexeme.punctuation ++ lexemes rest) := by
  suffices hread : lexemes (skipBlank ts)
      = op.characters.map Lexeme.punctuation ++ lexemes rest from hread ▸ blank_skipBlank ts
  dsimp only [comparator] at h
  have hpeek : (ctx.next (skipBlank ts)).1 = ctx.peek (skipBlank ts) := rfl
  have hdoubled : ctx.nextIs '=' (ctx.next (skipBlank ts)).2 = true →
      lexemes (skipBlank ts).tail = .punctuation '=' :: lexemes (skipBlank ts).tail.tail :=
    lexemes_of_nextIs
  rw [hpeek] at h
  -- `==` and `!=` need their second sign, `<` and `>` may have one
  split at h <;> rename_i hsign
  · split at h <;> cases h
    rename_i hequal
    exact (lexemes_of_peek hsign (by simp)).trans (congrArg _ (hdoubled hequal))
  · split at h <;> cases h
    rename_i hequal
    exact (lexemes_of_peek hsign (by simp)).trans (congrArg _ (hdoubled hequal))
  · split at h <;> cases h
    · rename_i hequal
      exact (lexemes_of_peek hsign (by simp)).trans (congrArg _ (hdoubled hequal))
    · exact lexemes_of_peek hsign (by simp)
  · split at h <;> cases h
    · rename_i hequal
      exact (lexemes_of_peek hsign (by simp)).trans (congrArg _ (hdoubled hequal))
    · exact lexemes_of_peek hsign (by simp)
  · cases h

/-- **A comparison** whose left side stands before. -/
theorem comparison_sound (hdeep : SoundBelow ctx.registry n deeper) {left : Operand}
    {ts rest : List Token} {k : Condition} (hleft : Within ctx.registry n .operand a left b)
    (hsep : Separated b) (hblank : Blank b (lexemes ts))
    (h : comparison ctx deeper left ts = .ok (k, rest)) :
    (∃ op right, k = .compare left op right)
      ∧ ∃ d, Within ctx.registry n .condition a k d ∧ Blank d (lexemes rest) := by
  obtain ⟨⟨op, us⟩, hop, h⟩ := bind_eq_ok.mp h
  obtain ⟨⟨right, vs⟩, hright, heq⟩ := bind_eq_ok.mp h
  cases heq
  have hsign := hblank.trans (comparator_sound hop) hsep
  -- what is left is a suffix of what was there, and that has no two blank tokens in a row
  have hsep' : Separated (lexemes us) :=
    hsep.of_suffix ((List.suffix_append _ _).trans hsign.suffix)
  obtain ⟨c, d, hbefore, ⟨hoperand, hnest⟩, hbehind⟩ := operand_sound hdeep hsep' hright
  exact ⟨⟨op, right, rfl⟩, d,
    ⟨.compare hleft.1 hsign hbefore hoperand, max_le hleft.2 hnest⟩, hbehind⟩

/-! ## Conditions -/

/-- A group is read from a phrase of its kind. -/
theorem group_sound (hdeep : SoundBelow ctx.registry n deeper) :
    Rule.Sound (group ctx deeper) (Within ctx.registry n .group) := by
  intro ts f rest hsep h
  obtain ⟨⟨t, us⟩, hopen, h⟩ := bind_eq_ok.mp h
  obtain ⟨rules, henter, h⟩ := bind_eq_ok.mp h
  obtain ⟨⟨g, vs⟩, hg, h⟩ := bind_eq_ok.mp h
  obtain ⟨⟨u, ws⟩, hclose, heq⟩ := bind_eq_ok.mp h
  cases heq
  obtain ⟨m, rfl, hrules⟩ := hdeep rules (enter_eq_ok henter)
  rw [expect_eq_ok hopen] at hsep ⊢
  have hformula := (hrules.formula (separated_skipBlank hsep.tail) hg).before
    (blank_skipBlank us) hsep.tail
  obtain ⟨c, d, hbefore, ⟨hformula, hnest⟩, hbehind⟩ :=
    hformula.behind (blank_skipBlank vs) hsep.tail
  rw [expect_eq_ok hclose] at hbehind
  exact ⟨.group hbefore hformula hbehind, Nat.succ_le_succ hnest⟩

/-- What stands behind `!`. -/
theorem negated_sound (hdeep : SoundBelow ctx.registry n deeper) {ts rest : List Token}
    {k : Condition} (hblank : Blank a (lexemes ts)) (hsep : Separated (lexemes ts))
    (h : negated ctx deeper ts = .ok (k, rest)) :
    Within ctx.registry n .condition (.punctuation '!' :: a) k (lexemes rest) := by
  dsimp only [negated] at h
  split at h
  · obtain ⟨⟨f, us⟩, hf, heq⟩ := bind_eq_ok.mp h
    cases heq
    obtain ⟨hgroup, hnest⟩ := group_sound hdeep hsep hf
    exact ⟨.notGroup hblank hgroup, hnest⟩
  · split at h
    · rename_i hstart
      obtain ⟨⟨q, us⟩, hq, heq⟩ := bind_eq_ok.mp h
      cases heq
      obtain ⟨hquery, hnest⟩ := embeddedQuery_sound hdeep hsep hstart hq
      exact ⟨.notQuery hblank hquery, hnest⟩
    · split at h
      · rename_i name hname
        obtain ⟨⟨c, us⟩, hc, h⟩ := bind_eq_ok.mp h
        obtain ⟨hcall, hnest⟩ := call_sound hdeep hsep hname hc
        dsimp only at h
        split at h
        · cases h
        · rename_i hresult
          cases h
          exact ⟨.notCall hblank hcall hresult, hnest⟩
      · cases h

/-- A call is a condition when it answers no value. -/
theorem callCondition_eq_ok {c : Call} {position : Nat} {k : Condition}
    (h : callCondition c position = .ok k) : k = .call false c ∧ c.result ≠ .value := by
  unfold callCondition at h
  split at h
  · cases h
  · rename_i hresult
    cases h
    exact ⟨rfl, hresult⟩

/-- **A condition**, behind optional blank space. -/
theorem condition_sound (hdeep : SoundBelow ctx.registry n deeper) :
    Rule.Sound (condition ctx deeper) (Padded ctx.registry n .condition) := by
  intro ts k rest hsep h
  dsimp only [condition] at h
  have hsep' := separated_skipBlank hsep
  refine Padded.before ?_ (blank_skipBlank ts) hsep
  split at h
  · rename_i hnot
    rw [lexemes_of_nextIs hnot] at hsep' ⊢
    exact (negated_sound hdeep (blank_skipBlank _) (separated_skipBlank hsep'.tail) h).padded
  · split at h
    · obtain ⟨⟨f, us⟩, hf, heq⟩ := bind_eq_ok.mp h
      cases heq
      obtain ⟨hgroup, hnest⟩ := group_sound hdeep hsep' hf
      exact Within.padded ⟨.testGroup hgroup, hnest⟩
    · split at h
      · rename_i hstart
        obtain ⟨⟨q, us⟩, hq, h⟩ := bind_eq_ok.mp h
        obtain ⟨hquery, hnest⟩ := embeddedQuery_sound hdeep hsep' hstart hq
        have hblank := blank_skipBlank us
        dsimp only at h
        split at h
        -- compared: the query is an operand and has to be singular
        · obtain ⟨o, ho, h⟩ := bind_eq_ok.mp h
          obtain ⟨s, hs, rfl⟩ := queryOperand_eq_ok ho
          obtain ⟨-, d, hphrase, hbehind⟩ := comparison_sound hdeep
            ⟨.queryOperand hquery hs, Nat.zero_le n⟩ (hsep'.of_suffix hquery.suffix) hblank h
          exact ⟨_, d, .absent _, hphrase, hbehind⟩
        · cases h
          exact ⟨_, _, .absent _, ⟨.testQuery hquery, hnest⟩, hblank⟩
      · split at h
        · rename_i name hname
          obtain ⟨⟨c, us⟩, hc, h⟩ := bind_eq_ok.mp h
          obtain ⟨hcall, hnest⟩ := call_sound hdeep hsep' hname hc
          have hblank := blank_skipBlank us
          dsimp only at h
          split at h
          -- compared: the call is an operand and has to give a value
          · obtain ⟨o, ho, h⟩ := bind_eq_ok.mp h
            obtain ⟨rfl, hresult⟩ := callOperand_eq_ok ho
            obtain ⟨-, d, hphrase, hbehind⟩ := comparison_sound hdeep
              ⟨.callOperand hcall hresult, hnest⟩ (hsep'.of_suffix hcall.suffix) hblank h
            exact ⟨_, d, .absent _, hphrase, hbehind⟩
          · obtain ⟨test, htest, heq⟩ := bind_eq_ok.mp h
            cases heq
            obtain ⟨rfl, hresult⟩ := callCondition_eq_ok htest
            exact ⟨_, _, .absent _, ⟨.testCall hcall hresult, hnest⟩, hblank⟩
        · obtain ⟨⟨v, us⟩, hv, h⟩ := bind_eq_ok.mp h
          obtain ⟨l, hliteral, hread⟩ := literal_sound hv
          rw [hread] at hsep' ⊢
          obtain ⟨-, d, hphrase, hbehind⟩ := comparison_sound hdeep
            ⟨.literalOperand hliteral _, Nat.zero_le n⟩ hsep'.tail (.absent _) h
          exact ⟨_, d, .absent _, hphrase, hbehind⟩

/-! ## Formulas -/

/-- Items behind each other with a doubled sign between them, of which the first is
read already, are a list of the grammar if the grammar has the two productions of
such lists. -/
theorem chained_sound {sign : Char} {item : Rule p.Tree}
    {L : List Lexeme → List p.Tree → List Lexeme → Prop}
    (hitem : item.Sound (Padded r n p))
    (hlast : ∀ {a x b}, Within r n p a x b → L a [x] b)
    (hnext : ∀ {a x b c d xs e}, Within r n p a x b →
      Blank b (.punctuation sign :: .punctuation sign :: c) → Blank c d → L d xs e →
      L a (x :: xs) e)
    (fuel : Nat) {first : p.Tree} {ts rest : List Token} {xs : List p.Tree}
    (hfirst : Within r n p a first b) (hsep : Separated b) (hblank : Blank b (lexemes ts))
    (h : chained ctx sign item fuel first ts = .ok (xs, rest)) :
    ∃ d, L a xs d ∧ Blank d (lexemes rest) := by
  induction fuel generalizing a b first ts xs with
  | zero => cases h
  | succ fuel ih =>
    have hblank := hblank.trans (blank_skipBlank ts) hsep
    dsimp only [chained] at h
    split at h
    · rename_i htwice
      obtain ⟨⟨y, us⟩, hy, h⟩ := bind_eq_ok.mp h
      obtain ⟨⟨ys, vs⟩, hys, heq⟩ := bind_eq_ok.mp h
      cases heq
      -- the chain goes on behind the two signs, from the item that was just read
      rw [lexemes_of_nextIsTwice htwice] at hblank
      have hsep' := (hsep.of_suffix hblank.suffix).tail.tail
      obtain ⟨c, d, hbefore, hitem', hbehind⟩ := hitem hsep' hy
      have hsepd := hsep'.of_suffix (hitem'.1.suffix.trans hbefore.suffix)
      obtain ⟨e, hlist, hrest⟩ := ih hitem' hsepd hbehind hys
      exact ⟨e, hnext hfirst hblank hbefore hlist, hrest⟩
    · cases h
      exact ⟨b, hlast hfirst, hblank⟩

/-- What is chained is not empty. -/
theorem chained_ne_nil {α : Type} {sign : Char} {item : Rule α} {fuel : Nat} {first : α}
    {ts rest : List Token} {xs : List α}
    (h : chained ctx sign item fuel first ts = .ok (xs, rest)) : xs ≠ [] := by
  cases fuel with
  | zero => cases h
  | succ fuel =>
    dsimp only [chained] at h
    split at h
    · obtain ⟨⟨y, us⟩, -, h⟩ := bind_eq_ok.mp h
      obtain ⟨⟨ys, vs⟩, -, heq⟩ := bind_eq_ok.mp h
      cases heq
      exact List.cons_ne_nil _ _
    · cases h
      exact List.cons_ne_nil _ _

/-- One item alone is the first one, and no sign follows it. -/
theorem chained_eq_singleton {α : Type} {sign : Char} {item : Rule α} {fuel : Nat}
    {first x : α} {ts rest : List Token}
    (h : chained ctx sign item fuel first ts = .ok ([x], rest)) :
    x = first ∧ ctx.nextIsTwice sign (skipBlank ts) = false ∧ rest = skipBlank ts := by
  cases fuel with
  | zero => cases h
  | succ fuel =>
    dsimp only [chained] at h
    split at h
    · obtain ⟨⟨y, us⟩, -, h⟩ := bind_eq_ok.mp h
      obtain ⟨⟨ys, vs⟩, hys, heq⟩ := bind_eq_ok.mp h
      cases heq
      exact absurd rfl (chained_ne_nil hys)
    · rename_i htwice
      cases h
      exact ⟨rfl, by simpa using htwice, rfl⟩

/-- A conjunction is read behind its first condition. -/
theorem conjunctionFrom_sound (hdeep : SoundBelow ctx.registry n deeper) {first : Condition}
    {ts rest : List Token} {cs : List Condition}
    (hfirst : Within ctx.registry n .condition a first b) (hsep : Separated b)
    (hblank : Blank b (lexemes ts))
    (h : conjunctionFrom ctx deeper first ts = .ok (cs, rest)) :
    ∃ d, Within ctx.registry n .conjunction a cs d ∧ Blank d (lexemes rest) := by
  refine chained_sound (p := .condition) (condition_sound hdeep) ?_ ?_ _ hfirst hsep hblank h
  · rintro a k b ⟨hcondition, hnest⟩
    exact ⟨.lastCondition hcondition, max_le hnest (Nat.zero_le n)⟩
  · rintro a k b c d ks e ⟨hcondition, hnest⟩ hbefore hbehind ⟨hconjunction, hnests⟩
    exact ⟨.nextCondition hcondition hbefore hbehind hconjunction, max_le hnest hnests⟩

/-- A conjunction is read from a phrase of its kind. -/
theorem conjunction_sound (hdeep : SoundBelow ctx.registry n deeper) :
    Rule.Sound (conjunction ctx deeper) (Padded ctx.registry n .conjunction) := by
  intro ts cs rest hsep h
  obtain ⟨⟨first, us⟩, hfirst, h⟩ := bind_eq_ok.mp h
  obtain ⟨c, d, hbefore, hcondition, hbehind⟩ := condition_sound hdeep hsep hfirst
  have hsepd := hsep.of_suffix (hcondition.1.suffix.trans hbefore.suffix)
  obtain ⟨e, hconjunction, hrest⟩ := conjunctionFrom_sound hdeep hcondition hsepd hbehind h
  exact ⟨c, e, hbefore, hconjunction, hrest⟩

/-- A formula is read behind its first condition. -/
theorem formulaFrom_sound (hdeep : SoundBelow ctx.registry n deeper) {first : Condition}
    {ts rest : List Token} {f : Formula}
    (hfirst : Within ctx.registry n .condition a first b) (hsep : Separated b)
    (hblank : Blank b (lexemes ts)) (hsepa : Separated a)
    (h : formulaFrom ctx deeper first ts = .ok (f, rest)) :
    ∃ d, Within ctx.registry n .formula a f d ∧ Blank d (lexemes rest) := by
  obtain ⟨⟨cs, us⟩, hcs, h⟩ := bind_eq_ok.mp h
  obtain ⟨d, hconjunction, hbehind⟩ := conjunctionFrom_sound hdeep hfirst hsep hblank hcs
  have hsepd := hsepa.of_suffix hconjunction.1.suffix
  refine chained_sound (p := .conjunction) (conjunction_sound hdeep) ?_ ?_ _ hconjunction hsepd
    hbehind h
  · rintro a cs b ⟨hconjunction, hnest⟩
    exact ⟨.lastBranch hconjunction, max_le hnest (Nat.zero_le n)⟩
  · rintro a cs b c d f e ⟨hconjunction, hnest⟩ hbefore hbehind ⟨hformula, hnests⟩
    exact ⟨.nextBranch hconjunction hbefore hbehind hformula, max_le hnest hnests⟩

/-- A formula of one condition is the first one, and no operator follows it. -/
theorem formulaFrom_eq_singleton {first k : Condition} {ts rest : List Token}
    (h : formulaFrom ctx deeper first ts = .ok ([[k]], rest)) :
    k = first ∧ (skipBlank ts = ts → atLogicalOperator ctx ts = false) := by
  obtain ⟨⟨cs, us⟩, hcs, h⟩ := bind_eq_ok.mp h
  -- neither loop went round, so neither sign was seen
  obtain ⟨rfl, hor, -⟩ := chained_eq_singleton h
  obtain ⟨rfl, hand, rfl⟩ := chained_eq_singleton hcs
  refine ⟨rfl, fun hts => ?_⟩
  rw [hts] at hand hor
  rw [hts] at hor
  rw [atLogicalOperator, hand, hor, Bool.or_false]

/-- **A formula**, behind optional blank space. -/
theorem formula_sound (hdeep : SoundBelow ctx.registry n deeper) :
    Rule.Sound (formula ctx deeper) (Padded ctx.registry n .formula) := by
  intro ts f rest hsep h
  obtain ⟨⟨first, us⟩, hfirst, h⟩ := bind_eq_ok.mp h
  obtain ⟨c, d, hbefore, hcondition, hbehind⟩ := condition_sound hdeep hsep hfirst
  have hsepc := hsep.of_suffix hbefore.suffix
  have hsepd := hsepc.of_suffix hcondition.1.suffix
  obtain ⟨e, hformula, hrest⟩ := formulaFrom_sound hdeep hcondition hsepd hbehind hsepc h
  exact ⟨c, e, hbefore, hformula, hrest⟩

/-! ## Arguments -/

/-- A bare formula is one query or one call, not negated. -/
theorem isBare_iff {f : Formula} :
    f.isBare = true ↔ (∃ q, f = [[.query false q]]) ∨ ∃ c, f = [[.call false c]] := by
  constructor
  · intro h
    unfold Formula.isBare at h
    split at h
    · exact .inl ⟨_, rfl⟩
    · exact .inr ⟨_, rfl⟩
    · cases h
  · rintro (⟨q, rfl⟩ | ⟨c, rfl⟩) <;> rfl

/-- A bare formula begins like a query or a call. -/
theorem Derives.head_of_isBare {f : Formula} (h : Derives r .formula a f b)
    (hbare : f.isBare = true) :
    ∃ l c, a = l :: c ∧ (l.isQueryStart = true ∨ ∃ name, l = .identifier name) := by
  rcases isBare_iff.mp hbare with ⟨q, rfl⟩ | ⟨k, rfl⟩
  · cases h with
    | lastBranch h => cases h with
      | lastCondition h => cases h with
        | testQuery h => cases h with
          | query anchor => exact ⟨_, _, rfl, .inl (isQueryStart_iff.mpr ⟨anchor, rfl⟩)⟩
      | nextCondition _ _ _ h => cases h
    | nextBranch _ _ _ h => cases h
  · cases h with
    | lastBranch h => cases h with
      | lastCondition h => cases h with
        | testCall h => cases h with
          | bareCall | call => exact ⟨_, _, rfl, .inr ⟨_, rfl⟩⟩
      | nextCondition _ _ _ h => cases h
    | nextBranch _ _ _ h => cases h

/-- The formula of an argument that begins with a condition. -/
theorem formulaArgument_sound (hdeep : SoundBelow ctx.registry n deeper) {first : Condition}
    {ts rest : List Token} {x : Argument}
    (hfirst : Within ctx.registry n .condition a first b) (hsep : Separated b)
    (hblank : Blank b (lexemes ts)) (hsepa : Separated a)
    (hcompound : (∃ left op right, first = .compare left op right)
      ∨ skipBlank ts = ts ∧ atLogicalOperator ctx ts = true)
    (h : formulaArgument ctx deeper first ts = .ok (x, rest)) :
    Padded ctx.registry n .argument a x (lexemes rest) := by
  obtain ⟨⟨f, us⟩, hf, heq⟩ := bind_eq_ok.mp h
  cases heq
  obtain ⟨d, ⟨hformula, hnest⟩, hrest⟩ :=
    formulaFrom_sound hdeep hfirst hsep hblank hsepa hf
  -- a formula of one test has no operator, and a comparison is no test
  have hbare : f.isBare = false := by
    by_contra hbare
    obtain ⟨k, rfl, hk⟩ : ∃ k, f = [[k]] ∧ ∀ left op right, k ≠ .compare left op right := by
      rcases isBare_iff.mp (by simpa using hbare) with ⟨q, rfl⟩ | ⟨c, rfl⟩
      · exact ⟨_, rfl, by simp⟩
      · exact ⟨_, rfl, by simp⟩
    obtain ⟨rfl, hend⟩ := formulaFrom_eq_singleton hf
    rcases hcompound with ⟨left, op, right, hcompare⟩ | ⟨hts, hsign⟩
    · exact hk left op right hcompare
    · rw [hend hts] at hsign
      cases hsign
  exact ⟨a, d, .absent a, ⟨.formulaArgument hformula hbare, hnest⟩, hrest⟩

/-- An argument that begins with a comparison is a formula. -/
theorem comparedArgument_sound (hdeep : SoundBelow ctx.registry n deeper) {left : Operand}
    {ts us rest : List Token} {k : Condition} {x : Argument}
    (hleft : Within ctx.registry n .operand a left b) (hblank : Blank b (lexemes ts))
    (hsepa : Separated a) (hk : comparison ctx deeper left ts = .ok (k, us))
    (h : formulaArgument ctx deeper k us = .ok (x, rest)) :
    Padded ctx.registry n .argument a x (lexemes rest) := by
  have hsepb := hsepa.of_suffix hleft.1.suffix
  obtain ⟨hcompare, d, hphrase, hbehind⟩ := comparison_sound hdeep hleft hsepb hblank hk
  have hsepd := hsepa.of_suffix hphrase.1.suffix
  exact formulaArgument_sound hdeep hphrase hsepd hbehind hsepa (.inl ⟨_, hcompare⟩) h

/-- **An argument**, behind optional blank space. -/
theorem argument_sound (hdeep : SoundBelow ctx.registry n deeper) :
    Rule.Sound (argument ctx deeper) (Padded ctx.registry n .argument) := by
  intro ts x rest hsep h
  dsimp only [argument] at h
  have hsep' := separated_skipBlank hsep
  refine Padded.before ?_ (blank_skipBlank ts) hsep
  split at h
  · rename_i hstart
    obtain ⟨⟨q, us⟩, hq, h⟩ := bind_eq_ok.mp h
    have hquery := embeddedQuery_sound hdeep hsep' hstart hq
    have hsepq := hsep'.of_suffix hquery.1.suffix
    -- a single blank token is skipped, so nothing is left to skip
    have htwice : skipBlank (skipBlank us) = skipBlank us := skipBlank_skipBlank hsepq
    have hblank := blank_skipBlank us
    dsimp only at h
    split at h
    · obtain ⟨o, ho, h⟩ := bind_eq_ok.mp h
      obtain ⟨s, hs, rfl⟩ := queryOperand_eq_ok ho
      obtain ⟨⟨k, vs⟩, hk, h⟩ := bind_eq_ok.mp h
      have hleft : Within ctx.registry n .operand _ (.singular s) _ :=
        ⟨.queryOperand hquery.1 hs, Nat.zero_le n⟩
      exact comparedArgument_sound hdeep hleft hblank hsep' hk h
    · rw [htwice] at h
      split at h
      · rename_i hsign
        exact formulaArgument_sound hdeep ⟨.testQuery hquery.1, hquery.2⟩ hsepq hblank hsep'
          (.inr ⟨htwice, hsign⟩) h
      · cases h
        refine ⟨_, _, .absent _, ?_, hblank⟩
        -- nothing follows: a query that is singular is kept as such
        unfold queryArgument
        split
        · rename_i s hs
          exact ⟨.singularArgument hquery.1 hs, Nat.zero_le n⟩
        · rename_i hplural
          exact ⟨.queryArgument hquery.1 hplural, hquery.2⟩
  · split at h
    · obtain ⟨⟨v, us⟩, hv, h⟩ := bind_eq_ok.mp h
      obtain ⟨l, hliteral, hread⟩ := literal_sound hv
      rw [hread] at hsep' ⊢
      have hblank := blank_skipBlank us
      dsimp only at h
      split at h
      · obtain ⟨⟨k, vs⟩, hk, h⟩ := bind_eq_ok.mp h
        have hleft : Within ctx.registry n .operand _ (.literal v) _ :=
          ⟨.literalOperand hliteral (lexemes us), Nat.zero_le n⟩
        exact comparedArgument_sound hdeep hleft hblank hsep' hk h
      · cases h
        exact ⟨_, _, .absent _, ⟨.literalArgument hliteral _, Nat.zero_le n⟩, hblank⟩
    · split at h
      · rename_i name hname
        obtain ⟨⟨c, us⟩, hc, h⟩ := bind_eq_ok.mp h
        have hcall := call_sound hdeep hsep' hname hc
        have hsepc := hsep'.of_suffix hcall.1.suffix
        have htwice : skipBlank (skipBlank us) = skipBlank us := skipBlank_skipBlank hsepc
        have hblank := blank_skipBlank us
        dsimp only at h
        split at h
        · obtain ⟨o, ho, h⟩ := bind_eq_ok.mp h
          obtain ⟨rfl, hresult⟩ := callOperand_eq_ok ho
          obtain ⟨⟨k, vs⟩, hk, h⟩ := bind_eq_ok.mp h
          have hleft : Within ctx.registry n .operand _ (.call c) _ :=
            ⟨.callOperand hcall.1 hresult, hcall.2⟩
          exact comparedArgument_sound hdeep hleft hblank hsep' hk h
        · rw [htwice] at h
          split at h
          · rename_i hsign
            obtain ⟨test, htest, h⟩ := bind_eq_ok.mp h
            obtain ⟨rfl, hresult⟩ := callCondition_eq_ok htest
            exact formulaArgument_sound hdeep ⟨.testCall hcall.1 hresult, hcall.2⟩ hsepc hblank
              hsep' (.inr ⟨htwice, hsign⟩) h
          · cases h
            exact ⟨_, _, .absent _, ⟨.callArgument hcall.1, hcall.2⟩, hblank⟩
      · rename_i hstart _ _ hname
        obtain ⟨⟨f, us⟩, hf, heq⟩ := bind_eq_ok.mp h
        cases heq
        obtain ⟨c, d, hbefore, ⟨hformula, hnest⟩, hbehind⟩ := formula_sound hdeep hsep' hf
        have hbare : f.isBare = false := by
          -- a bare formula would have been read as the query or the call it is
          by_contra hbare
          obtain ⟨l, e, rfl, hl⟩ := hformula.head_of_isBare (by simpa using hbare)
          have hpeek : (ctx.peek (skipBlank ts)).lexeme = l := by
            rw [peek_lexeme, ← eq_of_blank (skipBlank_skipBlank hsep) hbefore]
            rfl
          rcases hl with hquery | ⟨name, rfl⟩
          · exact hstart (hpeek ▸ hquery)
          · exact hname name hpeek
        exact ⟨c, d, hbefore, ⟨.formulaArgument hformula hbare, hnest⟩, hbehind⟩

end Level

/-! ## Levels -/

/-- **The rules of every level are sound**, by induction on the number of levels. -/
theorem levels_sound (ctx : Context) (n : Nat) :
    SoundBelow ctx.registry n (ctx.levels n) := by
  induction n with
  | zero => intro rules h; cases h
  | succ n ih =>
    intro rules h
    cases h
    exact ⟨n, rfl, formula_sound ih, argument_sound ih⟩

end JsonQuery
