import JsonQuery.Proofs.Grammar.Completeness.Selection
import JsonQuery.Proofs.Grammar.Soundness.Filter

/-
What the grammar derives, the rules for filters read.

A query, a call or a literal is read before it is known what it is. Two lemmas tell
what becomes of it: `condition_of_operand` when a comparison follows, and
`argument_of_condition` when an argument turns out to be a formula. With them every
production is one case of the induction at the end (`Derives.complete`).
-/

set_option autoImplicit false

namespace JsonQuery

/-! ## Literals, queries and calls -/

section Primary

variable {ctx : Context} {deeper : Option Nested} {ts us : List Token} {a b c d : List Lexeme}

/-- A number of the grammar is one that the rule accepts, and as the same value. -/
theorem LiteralLexeme.numberLiteral {m : Numeral} {v : Json}
    (h : LiteralLexeme (.numeral m) v) (position : Nat) : numberLiteral m position = .ok v := by
  unfold JsonQuery.numberLiteral
  cases h with
  | negativeZero zero => rw [if_pos zero]
  | integer integer =>
    obtain ⟨hinteger, hi⟩ := integer.integerOf position
    cases integer with
    | intro _ nonzero => simp [nonzero, hinteger, hi]
  | float fractional finite =>
    -- a number with a fraction or an exponent is not the integer negative zero
    have hzero : m.isNegativeZero = false := by
      rw [← Bool.not_eq_true]
      intro hzero
      simp [Numeral.isNegativeZero, fractional] at hzero
    simp [hzero, fractional, finite]

/-- A literal is read. -/
theorem literal_reads (ctx : Context) {l : Lexeme} {v : Json} (h : LiteralLexeme l v) :
    Reads (literal ctx) (l :: a) v a := by
  intro ts hts
  obtain ⟨t, us, rfl, rfl, rfl⟩ := lexemes_eq_cons hts
  refine ⟨us, ?_, rfl⟩
  cases ht : t.lexeme with
  | numeral m =>
    rw [ht] at h
    simp [literal, ht, h.numberLiteral]
  | _ =>
    rw [ht] at h
    cases h <;>
    simp [literal, ht]

/-- A query inside of a filter is read, whichever node it starts at. -/
theorem embeddedQuery_reads {anchor : Anchor} {ss : List Segment}
    (h : ∀ fuel, a.length < fuel → Reads (segments ctx deeper fuel) a ss b) :
    Reads (embeddedQuery ctx deeper) (anchor.lexeme :: a) (.mk anchor ss) b := by
  intro ts hts
  obtain ⟨t, us, rfl, ht, rfl⟩ := lexemes_eq_cons hts
  obtain ⟨rest, hrest, hb⟩ := queryFrom_reads anchor h rfl
  refine ⟨rest, ?_, hb⟩
  cases anchor <;>
  simpa [embeddedQuery, Token.is, ht, Anchor.lexeme] using hrest

/-- Parentheses with nothing in them are read. -/
theorem callArguments_nil {rules : Nested} (h : Blank a (.punctuation ')' :: b)) :
    Reads (callArguments ctx rules) a [] b := by
  intro ts hts
  have hskip : lexemes (skipBlank ts) = .punctuation ')' :: b := by
    rw [lexemes_skipBlank, hts, h.dropBlank_punctuation]
  refine ⟨(skipBlank ts).tail, ?_, lexemes_tail hskip⟩
  simp [callArguments, nextIs_of_lexemes hskip]

/-- **Arguments are read up to the closing parenthesis.** -/
theorem callArguments_reads {rules : Nested} {r : Registry} {xs : List Argument}
    (h : Derives r .arguments a xs c)
    (hread : ∀ fuel, (dropBlank a).length < fuel →
      ReadsBehind (delimited ctx ')' rules.argument fuel) a xs b) :
    Reads (callArguments ctx rules) a xs b := by
  intro ts hts
  have hskip : lexemes (skipBlank ts) = dropBlank a := by rw [lexemes_skipBlank, hts]
  -- an argument begins with neither blank space nor `)`, so the rule skips the blank
  -- space before it and does not stop at once
  have hsolid : dropBlank (dropBlank a) = dropBlank a ∧
      ∀ e, dropBlank a ≠ .punctuation ')' :: e := by
    obtain ⟨d, x, e, hblank, hargument⟩ :
        ∃ d x e, Blank a d ∧ Derives r .argument d x e := by
      cases h with
      | lastArgument before argument | nextArgument before argument =>
        exact ⟨_, _, _, before, argument⟩
    rw [hargument.dropBlank_eq rfl hblank]
    obtain ⟨l, f, rfl, hl, hne⟩ := hargument.head rfl
    refine ⟨dropBlank_cons hl f, fun e he => hne ?_⟩
    rw [List.cons.injEq] at he
    exact he.1
  have hopen : ctx.nextIs ')' (skipBlank ts) = false :=
    nextIs_eq_false fun e => hskip ▸ hsolid.2 e
  have hlength : (dropBlank a).length < (skipBlank ts).length + 1 := by
    rw [← hskip, length_lexemes]
    omega
  obtain ⟨rest, hrest, hb⟩ := hread ((skipBlank ts).length + 1) hlength
    (show dropBlank (lexemes (skipBlank ts)) = dropBlank a by rw [hskip, hsolid.1])
  refine ⟨rest, ?_, hb⟩
  simp [callArguments, hopen, hrest]

/-- **A call is read** when its arguments are and its function accepts them. -/
theorem call_reads {rules : Nested} {name : String} {f : Function} {xs : List Argument}
    (found : ctx.registry.lookup name = some f)
    (hread : Reads (callArguments ctx rules) a xs b) (valid : f.validate xs = .ok ()) :
    Reads (call ctx (some rules)) (.identifier name :: .punctuation '(' :: a)
      (.mk f.callee xs) b := by
  intro ts hts
  obtain ⟨t, us, rfl, ht, hus⟩ := lexemes_eq_cons hts
  -- the function is known and the level allows one more, so only the arguments are left
  obtain ⟨rest, hrest, hb⟩ := hread (lexemes_tail hus)
  refine ⟨rest, ?_, hb⟩
  simp [call, nextIs_of_lexemes hus, ht, Lexeme.text, found, Context.enter, hrest, valid]

end Primary

/-! ## First lexemes -/

section Heads

variable {r : Registry} {a b : List Lexeme}

/-- A query starts with its anchor. -/
theorem Derives.query_head {q : Query} (h : Derives r .query a q b) :
    ∃ (anchor : Anchor) (c : List Lexeme), a = anchor.lexeme :: c := by
  cases h with
  | query anchor => exact ⟨anchor, _, rfl⟩

/-- A call starts with the name of its function. -/
theorem Derives.call_head {k : Call} (h : Derives r .call a k b) :
    ∃ name c, a = .identifier name :: c := by
  cases h with
  | bareCall | call => exact ⟨_, _, rfl⟩

/-- A group starts with a parenthesis. -/
theorem Derives.group_head {f : Formula} (h : Derives r .group a f b) :
    ∃ c, a = .punctuation '(' :: c := by
  cases h with
  | group => exact ⟨_, rfl⟩

end Heads

/-! ## Comparisons -/

section Comparisons

variable {ctx : Context} {deeper : Option Nested} {ts us : List Token} {a b c d e : List Lexeme}
  {op : Comparator}

/-- A comparison is seen where its sign stands. -/
theorem atComparison_of_comparator (h : lexemes ts = op.characters.map Lexeme.punctuation ++ a) :
    atComparison ctx ts = true := by
  cases op with
  -- one sign is enough to be seen, or two are
  | lt | gt =>
    have hpeek := peek_of_lexemes ctx h
    simp [atComparison, hpeek]
  | eq | ne | le | ge =>
    have hpeek := peek_of_lexemes ctx h
    simp [atComparison, hpeek, nextIs_of_lexemes (lexemes_tail h)]

/-- No comparison is seen where a condition ends. -/
theorem atComparison_of_ends (ctx : Context) (h : Ends conditionEnds a)
    (hts : lexemes ts = dropBlank a) : atComparison ctx ts = false := by
  obtain ⟨ch, hch, d, hd⟩ := h
  have hpeek := peek_of_lexemes ctx (hts.trans hd)
  simp only [conditionEnds, conjunctionEnds, formulaEnds, List.mem_cons, List.not_mem_nil,
    or_false] at hch
  -- one sign after the other, and none of them is one of a comparison
  rcases hch with rfl | rfl | rfl | rfl | rfl <;>
  simp [atComparison, hpeek]

/-- No logical operator is seen where a formula ends. -/
theorem atLogicalOperator_of_ends (ctx : Context) (h : Ends formulaEnds a)
    (hts : lexemes ts = dropBlank a) : atLogicalOperator ctx ts = false := by
  obtain ⟨ch, hch, d, hd⟩ := h
  have hread := hts.trans hd
  simp only [formulaEnds, List.mem_cons, List.not_mem_nil, or_false] at hch
  rcases hch with rfl | rfl | rfl <;>
  simp [atLogicalOperator, Context.nextIsTwice, nextIs_of_lexemes hread]

/-- An operator is read whole where no further `=` follows. -/
theorem comparator_reads (ctx : Context) (hnext : ∀ e, a ≠ .punctuation '=' :: e)
    (hts : dropBlank (lexemes ts) = op.characters.map Lexeme.punctuation ++ a) :
    ∃ rest, comparator ctx ts = .ok (op, rest) ∧ lexemes rest = a := by
  rw [← lexemes_skipBlank] at hts
  cases op with
  | lt | gt =>
    obtain ⟨t, us, hus, ht, hrest⟩ := lexemes_eq_cons hts
    -- the sign stands alone, because no equals sign follows
    have hsingle : ctx.nextIs '=' us = false := nextIs_eq_false fun e => hrest ▸ hnext e
    exact ⟨us, by simp [comparator, hus, ht, hsingle], hrest⟩
  | eq | ne | le | ge =>
    obtain ⟨t, us, hus, ht, hrest⟩ := lexemes_eq_cons hts
    refine ⟨us.tail, ?_, lexemes_tail hrest⟩
    simp [comparator, hus, ht, nextIs_of_lexemes hrest]

/-- An operand does not begin with `=`. -/
theorem Derives.operand_ne_equals {r : Registry} {o : Operand} (h : Derives r .operand a o b)
    (e : List Lexeme) : a ≠ .punctuation '=' :: e := by
  cases h with
  | literalOperand literal => cases literal <;> simp
  | queryOperand query =>
    obtain ⟨anchor, f, rfl⟩ := query.query_head
    cases anchor <;> simp [Anchor.lexeme]
  | callOperand call =>
    obtain ⟨name, f, rfl⟩ := call.call_head
    simp

/-- **A comparison is read** when its right side is. -/
theorem comparison_reads {r : Registry} (left : Operand) {right : Operand}
    (hts : dropBlank (lexemes ts) = op.characters.map Lexeme.punctuation ++ c)
    (hblank : Blank c d) (hright : Derives r .operand d right e)
    (hread : ReadsBehind (operand ctx deeper) d right e) :
    ∃ rest, comparison ctx deeper left ts = .ok (.compare left op right, rest)
      ∧ lexemes rest = e := by
  -- `=` would have to begin the right operand
  have hnext : ∀ e, c ≠ .punctuation '=' :: e := by
    rintro f rfl
    rw [hblank.eq_of_cons rfl] at hright
    exact hright.operand_ne_equals f rfl
  obtain ⟨us, hus, hc⟩ := comparator_reads ctx hnext hts
  have hd : dropBlank (lexemes us) = dropBlank d := by
    rw [hc, hright.dropBlank_eq rfl hblank, hright.dropBlank_eq rfl (.absent d)]
  obtain ⟨rest, hrest, he⟩ := hread hd
  exact ⟨rest, by simp [comparison, hus, hrest], he⟩

end Comparisons

/-! ## Operands -/

section Operands

variable {ctx : Context} {deeper : Option Nested} {ts us : List Token} {a b c : List Lexeme}
  {r : Registry}

/-- A literal is read as a side of a comparison. -/
theorem operand_literal {l : Lexeme} {v : Json} (h : LiteralLexeme l v) :
    ReadsBehind (operand ctx deeper) (l :: a) (.literal v) a := by
  intro ts hts
  have hl : l.isBlank = false := by cases h <;> rfl
  rw [dropBlank_cons hl, ← lexemes_skipBlank] at hts
  obtain ⟨rest, hrest, ha⟩ := literal_reads ctx h hts
  refine ⟨rest, ?_, ha⟩
  cases h <;>
  simp [operand, peek_of_lexemes ctx hts, Lexeme.isQueryStart, hrest]

/-- A singular query is read as a side of a comparison. -/
theorem operand_query {q : Query} {s : SingularQuery} (h : Derives r .query a q b)
    (hread : Reads (embeddedQuery ctx deeper) a q b) (singular : q.singular? = some s) :
    ReadsBehind (operand ctx deeper) a (.singular s) b := by
  intro ts hts
  obtain ⟨anchor, c, rfl⟩ := h.query_head
  rw [h.dropBlank_eq rfl (.absent _), ← lexemes_skipBlank] at hts
  obtain ⟨rest, hrest, hb⟩ := hread hts
  refine ⟨rest, ?_, hb⟩
  -- the anchor tells the rule that a query begins
  have hstart := isQueryStart_iff.mpr ⟨anchor, rfl⟩
  simp [operand, peek_of_lexemes ctx hts, hstart, hrest, queryOperand, singular]

/-- A call that answers a value is read as a side of a comparison. -/
theorem operand_call {k : Call} (h : Derives r .call a k b)
    (hread : Reads (call ctx deeper) a k b) (result : k.result = .value) :
    ReadsBehind (operand ctx deeper) a (.call k) b := by
  intro ts hts
  obtain ⟨name, c, rfl⟩ := h.call_head
  rw [h.dropBlank_eq rfl (.absent _), ← lexemes_skipBlank] at hts
  obtain ⟨rest, hrest, hb⟩ := hread hts
  refine ⟨rest, ?_, hb⟩
  simp [operand, peek_of_lexemes ctx hts, Lexeme.isQueryStart, hrest, callOperand, result]

/-- **A condition begins like its left operand** when a comparison follows. -/
theorem condition_of_operand {left : Operand} {op : Comparator}
    (h : operand ctx deeper ts = .ok (left, us))
    (hus : dropBlank (lexemes us) = op.characters.map Lexeme.punctuation ++ a) :
    ∃ vs, condition ctx deeper ts = comparison ctx deeper left vs
      ∧ dropBlank (lexemes vs) = op.characters.map Lexeme.punctuation ++ a := by
  have hat : atComparison ctx (skipBlank us) = true :=
    atComparison_of_comparator (by rwa [lexemes_skipBlank])
  -- the sign stands there now, so skipping blank space again changes nothing
  have htwice : dropBlank (lexemes (skipBlank us)) = op.characters.map Lexeme.punctuation ++ a := by
    rw [lexemes_skipBlank, hus]
    cases op <;> rfl
  dsimp only [operand] at h
  split at h
  · rename_i hstart
    -- a query is read by both rules, and behind it the operator is seen
    obtain ⟨⟨q, vs⟩, hq, h⟩ := bind_eq_ok.mp h
    obtain ⟨o, ho, heq⟩ := bind_eq_ok.mp h
    cases heq
    refine ⟨skipBlank vs, ?_, htwice⟩
    obtain ⟨anchor, hanchor⟩ := isQueryStart_iff.mp hstart
    have hsign : ∀ ch, ch ≠ '$' → ch ≠ '@' → (ctx.peek (skipBlank ts)).is ch = false := by
      intro ch hroot hcurrent
      cases anchor <;> simp [Token.is, hanchor, Anchor.lexeme, hroot.symm, hcurrent.symm]
    simp [condition, hsign, hstart, hq, hat, ho]
  · rename_i hstart
    split at h
    · rename_i name hname
      obtain ⟨⟨k, vs⟩, hk, h⟩ := bind_eq_ok.mp h
      obtain ⟨o, ho, heq⟩ := bind_eq_ok.mp h
      cases heq
      refine ⟨skipBlank vs, ?_, htwice⟩
      simp [condition, Token.is, hname, Lexeme.isQueryStart, hk, hat, ho]
    -- a literal can only be compared, so the operator is not looked for
    · obtain ⟨⟨v, vs⟩, hv, heq⟩ := bind_eq_ok.mp h
      cases heq
      refine ⟨vs, ?_, hus⟩
      obtain ⟨l, hl, hread⟩ := literal_sound hv
      have hpeek := peek_of_lexemes ctx hread
      cases hl <;>
      simp [condition, Token.is, hpeek, Lexeme.isQueryStart, hv]

end Operands

/-! ## Conditions -/

/-- Whether a condition is a query or a call that is not negated. An argument may be
nothing but that. -/
def Condition.isTest : Condition → Bool
  | .query false _ | .call false _ => true
  | _ => false

/-- Whether no blank space is left behind a query or a call that is read as a
condition. -/
def Settled (ctx : Context) (deeper : Option Nested) (a : List Lexeme) : Prop :=
  ∀ ⦃ts : List Token⦄, dropBlank (lexemes ts) = a → ∀ ⦃k us⦄,
    condition ctx deeper ts = .ok (k, us) → k.isTest = true → skipBlank us = us

section Conditions

variable {ctx : Context} {deeper : Option Nested} {ts us : List Token}
  {a b c d e : List Lexeme} {r : Registry}

/-- Behind a test that ends a condition no blank space is left. -/
theorem Ends.skipBlank_eq {signs : List Char} (h : Ends signs (lexemes us)) :
    skipBlank (skipBlank us) = skipBlank us := by
  obtain ⟨ch, -, d, hd⟩ := h
  rw [← lexemes_skipBlank] at hd
  exact skipBlank_eq_self hd rfl

/-- Both things that are asked of a condition, from what the rule answers. -/
theorem settled_of_eq {k : Condition} {b : List Lexeme}
    (h : ∀ ts, dropBlank (lexemes ts) = a →
      ∃ us, condition ctx deeper ts = .ok (k, us) ∧ (k.isTest = true → skipBlank us = us)
        ∧ Blank b (lexemes us)) :
    Settled ctx deeper a ∧ ReadsLoosely (condition ctx deeper) a k b := by
  constructor
  · intro ts hts l vs hl htest
    obtain ⟨us, hus, hsettled, -⟩ := h ts hts
    rw [hus] at hl
    cases hl
    exact hsettled htest
  · intro ts hts
    obtain ⟨us, hus, -, hblank⟩ := h ts hts
    exact ⟨us, hus, hblank⟩

theorem condition_testQuery {q : Query} (h : Derives r .query a q b)
    (hread : Reads (embeddedQuery ctx deeper) a q b) (hend : Ends conditionEnds b) :
    Settled ctx deeper a ∧ ReadsLoosely (condition ctx deeper) a (.query false q) b := by
  refine settled_of_eq fun ts hts => ?_
  obtain ⟨anchor, c, rfl⟩ := h.query_head
  rw [← lexemes_skipBlank] at hts
  obtain ⟨us, hus, rfl⟩ := hread hts
  -- what ends the condition is no sign of a comparison, so the query stays a test
  have hnone := atComparison_of_ends ctx hend (lexemes_skipBlank us)
  have hstart := isQueryStart_iff.mpr ⟨anchor, rfl⟩
  refine ⟨skipBlank us, ?_, fun _ => hend.skipBlank_eq, blank_skipBlank us⟩
  cases anchor <;>
  simp [condition, Token.is, peek_of_lexemes ctx hts, Anchor.lexeme, Lexeme.isQueryStart, hus,
    hnone]

/-- A call by itself is read as a condition, unless it answers a value. -/
theorem condition_testCall {k : Call} (h : Derives r .call a k b)
    (hread : Reads (call ctx deeper) a k b) (result : k.result ≠ .value)
    (hend : Ends conditionEnds b) :
    Settled ctx deeper a ∧ ReadsLoosely (condition ctx deeper) a (.call false k) b := by
  refine settled_of_eq fun ts hts => ?_
  obtain ⟨name, c, rfl⟩ := h.call_head
  rw [← lexemes_skipBlank] at hts
  obtain ⟨us, hus, rfl⟩ := hread hts
  -- what ends the condition is no sign of a comparison, so the call stays a test
  have hnone := atComparison_of_ends ctx hend (lexemes_skipBlank us)
  refine ⟨skipBlank us, ?_, fun _ => hend.skipBlank_eq, blank_skipBlank us⟩
  simp [condition, Token.is, peek_of_lexemes ctx hts, Lexeme.isQueryStart, hus, hnone,
    callCondition, result]

theorem condition_testGroup {f : Formula} (h : Derives r .group a f b)
    (hread : Reads (group ctx deeper) a f b) :
    Settled ctx deeper a ∧ ReadsLoosely (condition ctx deeper) a (.group false f) b := by
  refine settled_of_eq fun ts hts => ?_
  obtain ⟨c, rfl⟩ := h.group_head
  rw [← lexemes_skipBlank] at hts
  obtain ⟨us, hus, rfl⟩ := hread hts
  refine ⟨us, ?_, fun htest => absurd htest (by simp [Condition.isTest]), .absent _⟩
  simp [condition, Token.is, peek_of_lexemes ctx hts, hus]

/-- What is negated is read behind the `!` and the blank space there. -/
theorem condition_negated {k : Condition} (hk : k.isTest = false) {l : Lexeme}
    (hl : l.isBlank = false) (hblank : Blank a (l :: b))
    (hread : Reads (negated ctx deeper) (l :: b) k c) :
    Settled ctx deeper (.punctuation '!' :: a)
      ∧ ReadsLoosely (condition ctx deeper) (.punctuation '!' :: a) k c := by
  refine settled_of_eq fun ts hts => ?_
  rw [← lexemes_skipBlank] at hts
  have hskip : lexemes (skipBlank (skipBlank ts).tail) = l :: b := by
    rw [lexemes_skipBlank, lexemes_tail hts, hblank.dropBlank_eq hl]
  -- a negated condition is none of the tests that may have blank space behind them
  obtain ⟨us, hus, rfl⟩ := hread hskip
  refine ⟨us, ?_, fun htest => absurd htest (by simp [hk]), .absent _⟩
  simp [condition, Token.is, peek_of_lexemes ctx hts, hus]

theorem condition_notQuery {q : Query} (h : Derives r .query b q c) (hblank : Blank a b)
    (hread : Reads (embeddedQuery ctx deeper) b q c) :
    Settled ctx deeper (.punctuation '!' :: a)
      ∧ ReadsLoosely (condition ctx deeper) (.punctuation '!' :: a) (.query true q) c := by
  obtain ⟨anchor, d, rfl⟩ := h.query_head
  refine condition_negated rfl (by cases anchor <;> rfl) hblank fun ts hts => ?_
  obtain ⟨us, hus, hc⟩ := hread hts
  refine ⟨us, ?_, hc⟩
  cases anchor <;>
  simp [negated, Token.is, peek_of_lexemes ctx hts, Anchor.lexeme, Lexeme.isQueryStart, hus]

theorem condition_notGroup {f : Formula} (h : Derives r .group b f c) (hblank : Blank a b)
    (hread : Reads (group ctx deeper) b f c) :
    Settled ctx deeper (.punctuation '!' :: a)
      ∧ ReadsLoosely (condition ctx deeper) (.punctuation '!' :: a) (.group true f) c := by
  obtain ⟨d, rfl⟩ := h.group_head
  refine condition_negated rfl rfl hblank fun ts hts => ?_
  obtain ⟨us, hus, hc⟩ := hread hts
  refine ⟨us, ?_, hc⟩
  simp [negated, Token.is, peek_of_lexemes ctx hts, hus]

/-- A negated call is read as a condition, unless it answers a value. -/
theorem condition_notCall {k : Call} (h : Derives r .call b k c) (hblank : Blank a b)
    (hread : Reads (call ctx deeper) b k c) (result : k.result ≠ .value) :
    Settled ctx deeper (.punctuation '!' :: a)
      ∧ ReadsLoosely (condition ctx deeper) (.punctuation '!' :: a) (.call true k) c := by
  obtain ⟨name, d, rfl⟩ := h.call_head
  refine condition_negated rfl rfl hblank fun ts hts => ?_
  obtain ⟨us, hus, hc⟩ := hread hts
  refine ⟨us, ?_, hc⟩
  simp [negated, Token.is, peek_of_lexemes ctx hts, Lexeme.isQueryStart, hus, result]

/-- **A comparison is read as a condition** when both of its sides are read. -/
theorem condition_compare {left right : Operand} {op : Comparator}
    (hleft : Derives r .operand a left b) (hright : Derives r .operand d right e)
    (hfirst : ReadsBehind (operand ctx deeper) a left b)
    (hsecond : ReadsBehind (operand ctx deeper) d right e)
    (before : Blank b (op.characters.map Lexeme.punctuation ++ c)) (behind : Blank c d) :
    Settled ctx deeper a
      ∧ ReadsLoosely (condition ctx deeper) a (.compare left op right) e := by
  refine settled_of_eq fun ts hts => ?_
  have hsign : dropBlank b = op.characters.map Lexeme.punctuation ++ c := by
    cases op <;>
    exact before.dropBlank_punctuation
  obtain ⟨us, hus, rfl⟩ := hfirst (hts.trans (hleft.dropBlank_eq rfl (.absent a)).symm)
  -- the condition starts with its left side, and what follows makes it a comparison
  obtain ⟨vs, hvs, hread⟩ := condition_of_operand hus hsign
  obtain ⟨rest, hrest, rfl⟩ := comparison_reads left hread behind hright hsecond
  exact ⟨rest, hvs.trans hrest, fun htest => absurd htest (by simp [Condition.isTest]), .absent _⟩

/-- A group is read when the formula in it is read one level deeper. -/
theorem group_reads {rules : Nested} {f : Formula} (hblank : Blank a b)
    (hformula : Derives r .formula b f c)
    (hread : ReadsLoosely rules.formula b f c) (hclose : Blank c (.punctuation ')' :: d)) :
    Reads (group ctx (some rules)) (.punctuation '(' :: a) f d := by
  intro ts hts
  obtain ⟨t, us, rfl, ht, rfl⟩ := lexemes_eq_cons hts
  have hb := hformula.dropBlank_eq rfl hblank
  have htight := hformula.dropBlank_eq rfl (.absent b)
  have hskip : dropBlank (lexemes (skipBlank us)) = b := by rw [lexemes_skipBlank, hb, htight]
  obtain ⟨vs, hvs, hbehind⟩ := hread hskip
  -- the parenthesis stands behind whatever blank space is left
  have hread := hclose.sign hbehind
  rw [← lexemes_skipBlank] at hread
  refine ⟨(skipBlank vs).tail, ?_, lexemes_tail hread⟩
  simp [group, Context.expect, nextIs_of_lexemes hts, nextIs_of_lexemes hread, Context.enter, hvs,
    Context.next]

end Conditions

/-! ## Chains -/

/-- **Whether a chain is read as a whole** by reading its first item, and then from
that the others. -/
def ReadsChain {α : Type} (ctx : Context) (sign : Char) (item : Rule α) (a : List Lexeme)
    (xs : List α) (b : List Lexeme) : Prop :=
  ∀ ⦃ts : List Token⦄, dropBlank (lexemes ts) = a → ∃ x us, item ts = .ok (x, us)
    ∧ us.length ≤ ts.length ∧ ∃ rest, Blank b (lexemes rest)
      ∧ ∀ fuel, us.length < fuel → chained ctx sign item fuel x us = .ok (xs, rest)

section Chains

variable {ctx : Context} {deeper : Option Nested} {α : Type} {sign : Char} {item : Rule α}
  {x : α} {xs : List α} {a b c d e : List Lexeme}

/-- What is left is not longer than what was there. -/
theorem length_le_of_blank {ts us : List Token} (hts : dropBlank (lexemes ts) = a)
    (hsuffix : b <:+ a) (hus : Blank b (lexemes us)) : us.length ≤ ts.length := by
  have hblank := (blank_dropBlank (lexemes ts)).suffix
  rw [hts] at hblank
  have hlength := (hus.suffix.trans (hsuffix.trans hblank)).length_le
  rwa [length_lexemes, length_lexemes] at hlength

/-- The last item of a chain is read where its sign does not follow. -/
theorem chain_last {signs : List Char} (hitem : ReadsLoosely item a x b) (hsuffix : b <:+ a)
    (hend : Ends signs b) (hsign : sign ∉ signs) : ReadsChain ctx sign item a [x] b := by
  intro ts hts
  obtain ⟨us, hus, hbehind⟩ := hitem hts
  have hread : lexemes (skipBlank us) = dropBlank b := by
    rw [lexemes_skipBlank, hend.dropBlank_eq hbehind]
  have hrest : Blank b (lexemes (skipBlank us)) := by
    rw [hread]
    exact blank_dropBlank b
  -- the joining sign is none of those that may follow
  have hnone : ctx.nextIs sign (skipBlank us) = false := hend.nextIs_eq_false hrest hsign
  refine ⟨x, us, hus, length_le_of_blank hts hsuffix hbehind, skipBlank us, hrest, ?_⟩
  rintro (_ | fuel) hfuel
  · omega
  · simp [chained, Context.nextIsTwice, hnone]

/-- An item of a chain is read with the two signs behind it, and then the others are. -/
theorem chain_next (hitem : ReadsLoosely item a x b) (hsuffix : b <:+ a)
    (before : Blank b (.punctuation sign :: .punctuation sign :: c)) (hd : dropBlank c = d)
    (hmore : ReadsChain ctx sign item d xs e) : ReadsChain ctx sign item a (x :: xs) e := by
  intro ts hts
  obtain ⟨us, hus, hbehind⟩ := hitem hts
  have hread := before.sign hbehind
  have hlength := (blank_skipBlank us).suffix.length_le
  rw [← lexemes_skipBlank] at hread
  -- both signs are there, behind the blank space
  obtain ⟨t, vs, hskip, ht, hvs⟩ := lexemes_eq_cons hread
  obtain ⟨u, ws, rfl, hu, rfl⟩ := lexemes_eq_cons hvs
  rw [hskip, length_lexemes, length_lexemes, List.length_cons, List.length_cons] at hlength
  obtain ⟨y, zs, hy, hzs, rest, hrest, hchain⟩ := hmore hd
  refine ⟨x, us, hus, length_le_of_blank hts hsuffix hbehind, rest, hrest, ?_⟩
  have htwice : ctx.nextIsTwice sign (t :: u :: ws) = true := by
    simp [Context.nextIsTwice, Context.nextIs, Token.is, ht, hu]
  -- two signs were read, which pays for the next round of the loop
  rintro (_ | fuel) hfuel
  · omega
  · have hmore := hchain fuel (by omega)
    simp [chained, hskip, htwice, hy, hmore]

/-- A conjunction is a chain of conditions. -/
theorem conjunction_reads {cs : List Condition}
    (h : ReadsChain ctx '&' (condition ctx deeper) a cs b) :
    ReadsLoosely (conjunction ctx deeper) a cs b := by
  intro ts hts
  obtain ⟨k, us, hk, -, rest, hrest, hchain⟩ := h hts
  refine ⟨rest, ?_, hrest⟩
  simp [conjunction, conjunctionFrom, hk, hchain]

/-- A formula is a chain of conjunctions. -/
theorem formula_eq (ts : List Token) :
    formula ctx deeper ts = (do
      let (c, us) ← conjunction ctx deeper ts
      chained ctx '|' (conjunction ctx deeper) (us.length + 1) c us) := by
  simp [formula, formulaFrom, conjunction]

/-- A formula is read as the chain that it is. -/
theorem formula_reads {f : Formula}
    (h : ReadsChain ctx '|' (conjunction ctx deeper) a f b) :
    ReadsLoosely (formula ctx deeper) a f b := by
  intro ts hts
  obtain ⟨c, us, hc, -, rest, hrest, hchain⟩ := h hts
  refine ⟨rest, ?_, hrest⟩
  rw [formula_eq, hc]
  exact hchain _ (Nat.lt_succ_self _)

end Chains

/-! ## Arguments -/

section Arguments

variable {ctx : Context} {deeper : Option Nested} {ts us : List Token} {a b : List Lexeme}
  {r : Registry}

/-- An operator that is read behind blank space is seen there, and no more blank
space stands before it. -/
theorem comparator_skipBlank {op : Comparator} (h : comparator ctx ts = .ok (op, us)) :
    atComparison ctx (skipBlank ts) = true
      ∧ comparator ctx (skipBlank ts) = comparator ctx ts := by
  have hblank := comparator_sound h
  have hread : lexemes (skipBlank ts) = op.characters.map Lexeme.punctuation ++ lexemes us := by
    rw [lexemes_skipBlank]
    cases op <;>
    exact hblank.dropBlank_punctuation
  have htwice : skipBlank (skipBlank ts) = skipBlank ts := by
    cases op <;>
    exact skipBlank_eq_self hread rfl
  exact ⟨atComparison_of_comparator hread, by simp only [comparator, htwice]⟩

/-- The blank space before a comparison does not matter. -/
theorem comparison_skipBlank {left : Operand} {k : Condition}
    (h : comparison ctx deeper left ts = .ok (k, us)) :
    atComparison ctx (skipBlank ts) = true
      ∧ comparison ctx deeper left (skipBlank ts) = .ok (k, us) := by
  obtain ⟨⟨op, vs⟩, hop, -⟩ := bind_eq_ok.mp h
  obtain ⟨hat, heq⟩ := comparator_skipBlank hop
  refine ⟨hat, ?_⟩
  rw [← h, comparison, comparison, heq]

/-- A sign that begins no query begins a formula. -/
theorem argument_of_sign {k : Condition} {ch : Char} (h : condition ctx deeper ts = .ok (k, us))
    (hsign : (ctx.peek (skipBlank ts)).is ch = true) (hroot : ch ≠ '$') (hcurrent : ch ≠ '@') :
    argument ctx deeper ts = formulaArgument ctx deeper k us := by
  have hread := lexemes_of_nextIs hsign
  have htwice : skipBlank (skipBlank ts) = skipBlank ts := skipBlank_eq_self hread rfl
  have hcondition : condition ctx deeper (skipBlank ts) = .ok (k, us) := by
    rw [← h]
    simp only [condition, htwice]
  have hpeek := peek_of_lexemes ctx hread
  simp [argument, hpeek, Lexeme.isQueryStart, Lexeme.isLiteral, hroot, hcurrent, formula,
    hcondition, formulaArgument]

/-- **An argument begins like a condition** when it is a formula: when the condition is
more than a query or a call, or an operator follows. -/
theorem argument_of_condition {k : Condition} (h : condition ctx deeper ts = .ok (k, us))
    (hk : k.isTest = true → skipBlank us = us ∧ atLogicalOperator ctx us = true) :
    argument ctx deeper ts = formulaArgument ctx deeper k us := by
  have hcondition := h
  dsimp only [condition] at h
  split at h
  · rename_i hsign
    -- a `!` is no query and no literal
    exact argument_of_sign hcondition hsign (by decide) (by decide)
  split at h
  · rename_i hsign
    -- neither is a parenthesis
    exact argument_of_sign hcondition hsign (by decide) (by decide)
  split at h
  · rename_i hstart
    -- a query: compared, or a test that an operator follows
    obtain ⟨⟨q, vs⟩, hq, h⟩ := bind_eq_ok.mp h
    dsimp only at h
    split at h
    · rename_i hat
      obtain ⟨o, ho, hcompare⟩ := bind_eq_ok.mp h
      simp [argument, hstart, hq, hat, ho, hcompare]
    · rename_i hat
      cases h
      obtain ⟨hsettled, hlogical⟩ := hk rfl
      simp [argument, hstart, hq, hat, hsettled, hlogical]
  · rename_i hstart
    split at h
    · rename_i name hname
      -- a call: the same two ways
      obtain ⟨⟨c, vs⟩, hc, h⟩ := bind_eq_ok.mp h
      dsimp only at h
      split at h
      · rename_i hat
        obtain ⟨o, ho, hcompare⟩ := bind_eq_ok.mp h
        simp [argument, hname, Lexeme.isQueryStart, Lexeme.isLiteral, hc, hat, ho, hcompare]
      · rename_i hat
        obtain ⟨test, htest, heq⟩ := bind_eq_ok.mp h
        obtain ⟨rfl, -⟩ := callCondition_eq_ok htest
        cases heq
        obtain ⟨hsettled, hlogical⟩ := hk rfl
        simp [argument, hname, Lexeme.isQueryStart, Lexeme.isLiteral, hc, hat, hsettled, hlogical,
          htest]
    -- a literal: the rule for conditions skips no blank space behind it, this one does
    · obtain ⟨⟨v, vs⟩, hv, hcompare⟩ := bind_eq_ok.mp h
      obtain ⟨l, hl, hread⟩ := literal_sound hv
      obtain ⟨hat, hskip⟩ := comparison_skipBlank hcompare
      have hpeek := peek_of_lexemes ctx hread
      have hliteral : l.isLiteral = true := by cases hl <;> rfl
      have hnoquery : l.isQueryStart = false := by cases hl <;> rfl
      simp [argument, hpeek, hliteral, hnoquery, hv, hat, hskip]

/-- Where no operator follows a formula ends. -/
theorem formulaFrom_single {k : Condition} (hus : skipBlank us = us)
    (hat : atLogicalOperator ctx us = false) :
    formulaFrom ctx deeper k us = .ok ([[k]], us) := by
  rw [atLogicalOperator, Bool.or_eq_false_iff] at hat
  simp [formulaFrom, conjunctionFrom, chained, hus, hat.1, hat.2]

/-- **A formula is read as an argument**, unless it is no more than a query or a call. -/
theorem argument_formula {f : Formula} (hsettled : Settled ctx deeper a)
    (h : ReadsChain ctx '|' (conjunction ctx deeper) a f b) (compound : f.isBare = false) :
    ReadsLoosely (argument ctx deeper) a (.formula f) b := by
  intro ts hts
  obtain ⟨rest, hformula, hrest⟩ := formula_reads h hts
  obtain ⟨⟨k, us⟩, hk, hfrom⟩ := bind_eq_ok.mp hformula
  refine ⟨rest, ?_, hrest⟩
  rw [argument_of_condition hk, formulaArgument]
  · simp only [hfrom, ok_bind, pure_eq_ok]
  · intro htest
    have hus := hsettled hts hk htest
    refine ⟨hus, ?_⟩
    -- a formula of one test and no operator would be a query or a call as an argument
    by_contra hat
    dsimp only at hfrom
    rw [formulaFrom_single hus (by simpa using hat)] at hfrom
    cases hfrom
    unfold Condition.isTest at htest
    split at htest <;>
    first | cases compound | cases htest

theorem argument_literal {l : Lexeme} {v : Json} (h : LiteralLexeme l v)
    (hend : Ends formulaEnds b) :
    ReadsLoosely (argument ctx deeper) (l :: b) (.literal v) b := by
  intro ts hts
  rw [← lexemes_skipBlank] at hts
  obtain ⟨us, hus, rfl⟩ := literal_reads ctx h hts
  -- what ends the argument is no sign of a comparison, so the literal stays one
  have hnone := atComparison_of_ends ctx (hend.mono (by decide)) (lexemes_skipBlank us)
  refine ⟨skipBlank us, ?_, blank_skipBlank us⟩
  have hpeek := peek_of_lexemes ctx hts
  have hliteral : l.isLiteral = true := by cases h <;> rfl
  have hnoquery : l.isQueryStart = false := by cases h <;> rfl
  simp [argument, hpeek, hliteral, hnoquery, hus, hnone]

/-- A query is read as an argument: as a singular one if it is one. -/
theorem argument_query {q : Query} (h : Derives r .query a q b)
    (hread : Reads (embeddedQuery ctx deeper) a q b) (hend : Ends formulaEnds b) :
    ReadsLoosely (argument ctx deeper) a (queryArgument q) b := by
  intro ts hts
  obtain ⟨anchor, c, rfl⟩ := h.query_head
  rw [← lexemes_skipBlank] at hts
  obtain ⟨us, hus, rfl⟩ := hread hts
  -- neither a comparison nor a formula goes on behind it
  have hnone := atComparison_of_ends ctx (hend.mono (by decide)) (lexemes_skipBlank us)
  have hsingle := atLogicalOperator_of_ends ctx hend (lexemes_skipBlank us)
  have hstart := isQueryStart_iff.mpr ⟨anchor, rfl⟩
  refine ⟨skipBlank us, ?_, blank_skipBlank us⟩
  simp [argument, peek_of_lexemes ctx hts, hstart, hus, hnone, hend.skipBlank_eq, hsingle]

theorem argument_call {k : Call} (h : Derives r .call a k b)
    (hread : Reads (call ctx deeper) a k b) (hend : Ends formulaEnds b) :
    ReadsLoosely (argument ctx deeper) a (.call k) b := by
  intro ts hts
  obtain ⟨name, c, rfl⟩ := h.call_head
  rw [← lexemes_skipBlank] at hts
  obtain ⟨us, hus, rfl⟩ := hread hts
  -- neither a comparison nor a formula goes on behind it
  have hnone := atComparison_of_ends ctx (hend.mono (by decide)) (lexemes_skipBlank us)
  have hsingle := atLogicalOperator_of_ends ctx hend (lexemes_skipBlank us)
  refine ⟨skipBlank us, ?_, blank_skipBlank us⟩
  simp [argument, peek_of_lexemes ctx hts, Lexeme.isQueryStart, Lexeme.isLiteral, hus, hnone,
    hend.skipBlank_eq, hsingle]

end Arguments

/-! ## Phrases -/

/-- **What reading a phrase means**, for each kind of phrase and the rule for it. -/
def Readable (ctx : Context) (deeper : Option Nested) :
    (p : Phrase) → List Lexeme → p.Tree → List Lexeme → Prop
  | .path, a, q, _ => deeper = ctx.levels ctx.limit →
      ∀ ts, lexemes ts = a → wholeQuery ctx ts = .ok q
  | .segments, a, ss, b => NoSegment b →
      ∀ fuel, a.length < fuel → Reads (segments ctx deeper fuel) a ss b
  | .segment, a, s, b => Reads (segment? ctx deeper) a (some s) b
  | .selectors, a, ss, b => ∀ d fuel, b = .punctuation ']' :: d → (dropBlank a).length < fuel →
      ReadsBehind (delimited ctx ']' (fun ts => selector ctx deeper (skipBlank ts)) fuel) a ss d
  | .selector, a, s, b => Ends selectorEnds b →
      ReadsLoosely (fun ts => selector ctx deeper (skipBlank ts)) a s b
  | .formula, a, f, b => Ends formulaEnds b →
      Settled ctx deeper a ∧ ReadsChain ctx '|' (conjunction ctx deeper) a f b
  | .conjunction, a, cs, b => Ends conjunctionEnds b →
      Settled ctx deeper a ∧ ReadsChain ctx '&' (condition ctx deeper) a cs b
  | .condition, a, c, b => Ends conditionEnds b →
      Settled ctx deeper a ∧ ReadsLoosely (condition ctx deeper) a c b
  | .group, a, f, b => Reads (group ctx deeper) a f b
  | .query, a, q, b => NoSegment b → Reads (embeddedQuery ctx deeper) a q b
  | .call, a, k, b => Reads (call ctx deeper) a k b
  | .arguments, a, xs, b => ∀ d fuel, b = .punctuation ')' :: d → (dropBlank a).length < fuel →
      ReadsBehind (delimited ctx ')' (argument ctx deeper) fuel) a xs d
  | .operand, a, o, b => NoSegment b → ReadsBehind (operand ctx deeper) a o b
  | .argument, a, x, b => Ends formulaEnds b → ReadsLoosely (argument ctx deeper) a x b

section Phrases

variable {ctx : Context} {deeper : Option Nested} {a b c : List Lexeme} {r : Registry}

/-- What brackets hold is read from behind the opening one. -/
theorem bracketed_reads {ss : List Selector}
    (h : Readable ctx deeper .selectors a ss (.punctuation ']' :: b)) :
    Reads (bracketed ctx deeper) a ss b := by
  intro ts hts
  refine h b _ rfl ?_ (congrArg dropBlank hts)
  -- there is fuel for every token, and blank space is one of them at most
  have hlength := (blank_dropBlank a).suffix.length_le
  rw [← hts, length_lexemes] at hlength
  rw [← hts]
  omega

/-- Behind an item of a list less is left than there was. -/
theorem length_lt_of_item {p : Phrase} {x : p.Tree} {ch : Char} {d : List Lexeme}
    (hp : p.isTight = true) (before : Blank a b) (hitem : Derives r p b x c)
    (behind : Blank c (.punctuation ch :: d)) : (dropBlank d).length < (dropBlank a).length := by
  rw [hitem.dropBlank_eq hp before]
  have hd := (blank_dropBlank d).suffix.length_le
  have hc := (behind.suffix.trans hitem.suffix).length_le
  rw [List.length_cons] at hc
  omega

/-- **What the grammar derives, the rules of the right level read**, by induction on the
derivation. A filter, a group and a call each spend one level. -/
theorem Derives.complete (ctx : Context) {p : Phrase} {x : p.Tree}
    (h : Derives ctx.registry p a x b) :
    ∀ n, p.nesting x ≤ n → Readable ctx (ctx.levels n) p a x b := by
  induction h with
  | path _ ih =>
    intro n hn hlimit ts hts
    -- behind the last segment comes the end of the text
    have hend : NoSegment [.endOfInput] := fun d => by simp [dropBlank, Lexeme.isBlank]
    obtain ⟨rest, hrest, hread⟩ := queryFrom_reads .root (ih n hn hend)
      (lexemes_tail hts)
    rw [hlimit] at hrest
    simp [wholeQuery, Context.expect, nextIs_of_lexemes hts, Context.next, hrest,
      peek_of_lexemes ctx hread]
  | noSegment a =>
    rintro n hn hend (_ | fuel) hfuel
    · omega
    · exact segments_last hend
  | nextSegment blank hsegment _ ihFirst ihRest =>
    rintro n hn hend (_ | fuel) hfuel
    · omega
    · obtain ⟨hfirst, hrest⟩ := Nat.max_le.mp hn
      -- a segment is not empty, so the fuel that is left is enough for the others
      have hlength := blank.suffix.length_le
      have hless := hsegment.segment_length
      exact segments_next hsegment blank (ihFirst n hfirst)
        (ihRest n hrest hend fuel (by omega))
  | dotName name =>
    exact fun n _ => segment?_dot (fun hl => by rw [hl] at name; cases name)
      (dotSelector_name name)
  | dotWildcard a => exact fun n _ => segment?_dot (by simp) dotSelector_wildcard
  | dotsName name =>
    exact fun n _ => segment?_dots (fun hl => by rw [hl] at name; cases name)
      (dotSelector_name name)
  | dotsWildcard a => exact fun n _ => segment?_dots (by simp) dotSelector_wildcard
  | dotsBrackets _ ih => exact fun n hn => segment?_dotsBrackets (bracketed_reads (ih n hn))
  | brackets _ ih => exact fun n hn => segment?_brackets (bracketed_reads (ih n hn))
  | lastSelector before hselector behind ih =>
    rintro n hn d (_ | fuel) rfl hfuel
    · omega
    · have hread := ih n (Nat.max_le.mp hn).1 (.of_blank behind (by decide))
      exact delimited_last hread (hselector.dropBlank_eq rfl before) behind
  | nextSelector before hselector behind _ ihFirst ihRest =>
    rintro n hn d (_ | fuel) hd hfuel
    · omega
    · obtain ⟨hfirst, hrest⟩ := Nat.max_le.mp hn
      have hless := length_lt_of_item rfl before hselector behind
      have hread := ihFirst n hfirst (.of_blank behind (by decide))
      exact delimited_next (by decide) hread (hselector.dropBlank_eq rfl before) behind
        (ihRest n hrest d fuel hd (by omega))
  | name n => exact fun _ _ _ => selector_name n
  | wildcard => exact fun _ _ _ => selector_wildcard
  | index integer => exact fun _ _ hend => selector_index integer hend
  | slice first blank last distance =>
    exact fun _ _ hend => selector_slice first blank last distance hend
  | filter blank hformula ih =>
    -- on the level zero there is no filter
    rintro (_ | n) hn hend
    · cases hn
    · have hread := (ih n (Nat.le_of_succ_le_succ hn) (hend.mono (by decide))).2
      exact selector_filter blank hformula (formula_reads hread)
  | lastBranch hconjunction ih =>
    intro n hn hend
    obtain ⟨hsettled, hread⟩ := ih n (Nat.max_le.mp hn).1 (hend.mono (by decide))
    exact ⟨hsettled, chain_last (conjunction_reads hread) hconjunction.suffix hend (by decide)⟩
  | nextBranch hconjunction before behind hformula ihFirst ihRest =>
    intro n hn hend
    obtain ⟨hfirst, hrest⟩ := Nat.max_le.mp hn
    obtain ⟨hsettled, hread⟩ := ihFirst n hfirst (.of_blank before (by decide))
    exact ⟨hsettled, chain_next (conjunction_reads hread) hconjunction.suffix before
      (hformula.dropBlank_eq rfl behind) (ihRest n hrest hend).2⟩
  | lastCondition hcondition ih =>
    intro n hn hend
    obtain ⟨hsettled, hread⟩ := ih n (Nat.max_le.mp hn).1 (hend.mono (by decide))
    exact ⟨hsettled, chain_last hread hcondition.suffix hend (by decide)⟩
  | nextCondition hcondition before behind hconjunction ihFirst ihRest =>
    intro n hn hend
    obtain ⟨hfirst, hrest⟩ := Nat.max_le.mp hn
    obtain ⟨hsettled, hread⟩ := ihFirst n hfirst (.of_blank before (by decide))
    exact ⟨hsettled, chain_next hread hcondition.suffix before
      (hconjunction.dropBlank_eq rfl behind) (ihRest n hrest hend).2⟩
  | testQuery hquery ih =>
    exact fun n hn hend => condition_testQuery hquery (ih n hn (hend.operand (by decide))) hend
  | testGroup hgroup ih => exact fun n hn _ => condition_testGroup hgroup (ih n hn)
  | testCall hcall result ih =>
    exact fun n hn hend => condition_testCall hcall (ih n hn) result hend
  | notQuery blank hquery ih =>
    exact fun n hn hend => condition_notQuery hquery blank (ih n hn (hend.operand (by decide)))
  | notGroup blank hgroup ih => exact fun n hn _ => condition_notGroup hgroup blank (ih n hn)
  | notCall blank hcall result ih =>
    exact fun n hn _ => condition_notCall hcall blank (ih n hn) result
  | @compare _ _ _ _ _ _ _ op hleft before behind hright ihFirst ihSecond =>
    intro n hn hend
    obtain ⟨hfirst, hsecond⟩ := Nat.max_le.mp hn
    have hop : NoSegment _ := Ends.noSegment (by cases op <;> exact .of_blank before (by decide))
    exact condition_compare hleft hright (ihFirst n hfirst hop)
      (ihSecond n hsecond (hend.operand (by decide))) before behind
  | group before hformula behind ih =>
    rintro (_ | n) hn
    · cases hn
    · have hread := (ih n (Nat.le_of_succ_le_succ hn) (.of_blank behind (by decide))).2
      exact group_reads before hformula (formula_reads hread) behind
  | query anchor _ ih => exact fun n hn hend => embeddedQuery_reads (ih n hn hend)
  | bareCall found blank valid =>
    rintro (_ | n) hn
    · cases hn
    · exact call_reads found (callArguments_nil blank) valid
  | call found harguments valid ih =>
    rintro (_ | n) hn
    · cases hn
    · have hread := fun fuel => ih n (Nat.le_of_succ_le_succ hn) _ fuel rfl
      exact call_reads found (callArguments_reads harguments hread) valid
  | lastArgument before hargument behind ih =>
    rintro n hn d (_ | fuel) rfl hfuel
    · omega
    · have hread := ih n (Nat.max_le.mp hn).1 (.of_blank behind (by decide))
      exact delimited_last hread (hargument.dropBlank_eq rfl before) behind
  | nextArgument before hargument behind _ ihFirst ihRest =>
    rintro n hn d (_ | fuel) hd hfuel
    · omega
    · obtain ⟨hfirst, hrest⟩ := Nat.max_le.mp hn
      have hless := length_lt_of_item rfl before hargument behind
      have hread := ihFirst n hfirst (.of_blank behind (by decide))
      exact delimited_next (by decide) hread (hargument.dropBlank_eq rfl before) behind
        (ihRest n hrest d fuel hd (by omega))
  | literalOperand literal a => exact fun _ _ _ => operand_literal literal
  | queryOperand hquery singular ih =>
    intro n _ hend
    -- a singular query does not nest, so it is read on every level
    have hzero := (Query.nesting_of_singular? singular).trans_le (Nat.zero_le n)
    exact operand_query hquery (ih n hzero hend) singular
  | callOperand hcall result ih => exact fun n hn _ => operand_call hcall (ih n hn) result
  | literalArgument literal => exact fun _ _ hend => argument_literal literal hend
  | @singularArgument _ _ q s hquery singular ih =>
    intro n _ hend
    have hzero := (Query.nesting_of_singular? singular).trans_le (Nat.zero_le n)
    have hargument : JsonQuery.queryArgument q = .singular s := by
      simp [JsonQuery.queryArgument, singular]
    exact hargument ▸ argument_query hquery (ih n hzero (hend.operand (by decide))) hend
  | @queryArgument _ _ q hquery plural ih =>
    intro n hn hend
    have hargument : JsonQuery.queryArgument q = .query q := by
      simp [JsonQuery.queryArgument, plural]
    exact hargument ▸ argument_query hquery (ih n hn (hend.operand (by decide))) hend
  | callArgument hcall ih => exact fun n hn hend => argument_call hcall (ih n hn) hend
  | formulaArgument _ compound ih =>
    intro n hn hend
    obtain ⟨hsettled, hread⟩ := ih n hn hend
    exact argument_formula hsettled hread compound

end Phrases

end JsonQuery
