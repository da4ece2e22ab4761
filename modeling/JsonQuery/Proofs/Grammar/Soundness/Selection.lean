import JsonQuery.Proofs.Grammar.Lookahead

/-
What the rules for segments and selectors read, the grammar derives.

A rule may drop blank space that is not its own, in front of a phrase and behind
it, so what a rule reads is a phrase between two optional blanks (`Padded`). Two
rules that drop blank space one after the other drop one blank token together,
which is true only where blank tokens do not repeat; that is why every statement
here is about separated tokens.

Nothing is assumed of the rules one level deeper but that they are sound
themselves (`SoundBelow`).
-/

set_option autoImplicit false

namespace JsonQuery

/-! ## Statements -/

/-- A phrase that nests no deeper than `n`. -/
def Within (r : Registry) (n : Nat) (p : Phrase) (a : List Lexeme) (x : p.Tree)
    (b : List Lexeme) : Prop :=
  Derives r p a x b ∧ p.nesting x ≤ n

/-- A phrase that nests no deeper than `n`, between optional blanks. -/
def Padded (r : Registry) (n : Nat) (p : Phrase) (a : List Lexeme) (x : p.Tree)
    (b : List Lexeme) : Prop :=
  ∃ c d, Blank a c ∧ Within r n p c x d ∧ Blank d b

/-- **Whether a rule reads only what a relation describes**, on separated tokens. -/
def Rule.Sound {α : Type} (rule : Rule α) (D : List Lexeme → α → List Lexeme → Prop) : Prop :=
  ∀ ⦃ts : List Token⦄ ⦃x : α⦄ ⦃rest : List Token⦄, Separated (lexemes ts) →
    rule ts = .ok (x, rest) → D (lexemes ts) x (lexemes rest)

/-- Whether the rules of a level are sound for phrases that nest no deeper than
`n`. -/
structure Nested.SoundAt (r : Registry) (n : Nat) (rules : Nested) : Prop where
  formula : Rule.Sound rules.formula (Padded r n .formula)
  argument : Rule.Sound rules.argument (Padded r n .argument)

/-- Whether the rules of the next level are sound, if there is one. -/
def SoundBelow (r : Registry) (n : Nat) (deeper : Option Nested) : Prop :=
  ∀ rules, deeper = some rules → ∃ m, n = m + 1 ∧ rules.SoundAt r m

variable {r : Registry} {n : Nat} {p : Phrase} {x : p.Tree} {a b c : List Lexeme}

theorem Within.padded (h : Within r n p a x b) : Padded r n p a x b :=
  ⟨a, b, .absent a, h, .absent b⟩

theorem Padded.suffix (h : Padded r n p a x b) : b <:+ a := by
  obtain ⟨c, d, hbefore, hphrase, hbehind⟩ := h
  exact hbehind.suffix.trans (hphrase.1.suffix.trans hbefore.suffix)

/-- Blank space in front of a padded phrase belongs to the padding. -/
theorem Padded.before (h : Padded r n p b x c) (hblank : Blank a b) (hsep : Separated a) :
    Padded r n p a x c := by
  obtain ⟨d, e, hbefore, hphrase, hbehind⟩ := h
  exact ⟨d, e, hblank.trans hbefore hsep, hphrase, hbehind⟩

/-- Blank space behind a padded phrase belongs to the padding. -/
theorem Padded.behind (h : Padded r n p a x b) (hblank : Blank b c) (hsep : Separated a) :
    Padded r n p a x c := by
  obtain ⟨d, e, hbefore, hphrase, hbehind⟩ := h
  have hsep' : Separated e := hsep.of_suffix (hphrase.1.suffix.trans hbefore.suffix)
  exact ⟨d, e, hbefore, hphrase, hbehind.trans hblank hsep'⟩

/-! ## Integers and slices -/

/-- An integer that is accepted is one of the grammar. -/
theorem integerOf_eq_ok {m : Numeral} {position : Nat} {i : Int64}
    (hm : m.isInteger = true) (h : integerOf m position = .ok i) :
    IntegerLexeme (.numeral m) i := by
  unfold integerOf at h
  split at h
  · cases h
  · rename_i hzero
    split at h
    · rename_i hrange
      cases h
      exact .intro hm (by simpa using hzero) hrange.1 hrange.2
    · cases h

/-- An optional integer is read whole, or nothing is read. -/
theorem optionalInteger_sound {ctx : Context} {ts rest : List Token} {o : Option Int64}
    (h : optionalInteger ctx ts = .ok (o, rest)) :
    (∃ l i, o = some i ∧ IntegerLexeme l i ∧ lexemes ts = l :: lexemes rest)
      ∨ (o = none ∧ rest = ts) := by
  unfold optionalInteger at h
  simp only [Context.next] at h
  split at h
  · rename_i m hpeek
    split at h
    · rename_i hm
      obtain ⟨i, hi, heq⟩ := bind_eq_ok.mp h
      cases heq
      exact .inl ⟨_, i, rfl, integerOf_eq_ok hm hi, lexemes_of_peek hpeek (by simp)⟩
    · cases h
      exact .inr ⟨rfl, rfl⟩
  · cases h
    exact .inr ⟨rfl, rfl⟩

/-- An optional integer and the blank space behind it are a bound, where no blank
space stands before it. -/
theorem bound_sound {ctx : Context} {ts rest : List Token} {o : Option Int64}
    (h : optionalInteger ctx ts = .ok (o, rest)) (hts : skipBlank ts = ts) :
    BoundLexemes (lexemes ts) o (lexemes (skipBlank rest)) := by
  rcases optionalInteger_sound h with ⟨l, i, rfl, hinteger, hread⟩ | ⟨rfl, rfl⟩
  · rw [hread]
    exact .present hinteger (blank_skipBlank rest)
  · rw [hts]
    exact .absent _

/-- What follows the first colon of a slice. -/
theorem sliceTail_sound {ctx : Context} {start : Option Int64} {ts rest : List Token}
    {s : Selector} (hsep : Separated (lexemes ts))
    (h : sliceTail ctx start ts = .ok (s, rest)) :
    ∃ stop step c, s = .slice ⟨start, stop, step⟩
      ∧ BoundLexemes (lexemes (skipBlank ts)) stop c ∧ StepLexemes c step (lexemes rest) := by
  obtain ⟨⟨stop, us⟩, hstop, h⟩ := bind_eq_ok.mp h
  have hbound := bound_sound hstop (skipBlank_skipBlank hsep)
  dsimp only at h
  split at h
  · rename_i hcolon
    obtain ⟨⟨step, vs⟩, hstep, heq⟩ := bind_eq_ok.mp h
    cases heq
    refine ⟨stop, step, _, rfl, hbound, ?_⟩
    rw [lexemes_of_nextIs hcolon]
    -- the step may be missing behind its colon; the blank space there is read all the same
    have hblank := blank_skipBlank (skipBlank us).tail
    rcases optionalInteger_sound hstep with ⟨l, i, rfl, hinteger, hread⟩ | ⟨rfl, rfl⟩
    · exact .present (hread ▸ hblank) hinteger
    · exact .empty hblank
  · cases h
    exact ⟨stop, none, _, rfl, hbound, .absent _⟩

/-- An index or a slice, where a numeral or a colon stands first. -/
theorem indexOrSlice_sound {ctx : Context} {ts rest : List Token} {s : Selector}
    (hsep : Separated (lexemes ts)) (hts : skipBlank ts = ts)
    (h : indexOrSlice ctx ts = .ok (s, rest)) :
    Padded r n .selector (lexemes ts) s (lexemes rest) := by
  obtain ⟨⟨start, us⟩, hstart, h⟩ := bind_eq_ok.mp h
  have hbound := bound_sound hstart hts
  dsimp only at h
  split at h
  · rename_i hcolon
    rw [lexemes_of_nextIs hcolon] at hbound
    -- what is left behind the colon is part of what was there
    have hsep' : Separated (lexemes (skipBlank us).tail) :=
      (hsep.of_suffix hbound.passed.suffix).tail
    obtain ⟨stop, step, c, rfl, hstop, hstep⟩ := sliceTail_sound hsep' h
    exact Within.padded ⟨.slice hbound (blank_skipBlank _) hstop hstep, Nat.zero_le n⟩
  · split at h
    · rename_i i
      cases h
      -- without a colon the integer must be there, since it is what the rule answers
      rcases optionalInteger_sound hstart with ⟨l, j, hj, hinteger, hread⟩ | ⟨hnone, -⟩
      · cases hj
        rw [hread]
        exact ⟨_, _, .absent _, ⟨.index hinteger _, Nat.zero_le n⟩, blank_skipBlank us⟩
      · cases hnone
    · cases h

/-! ## Lists -/

/-- Padded items with commas between them, up to a closing character, are a list of
the grammar if the grammar has the two productions of such lists. -/
theorem delimited_sound {ctx : Context} {close : Char} {item : Rule p.Tree}
    {L : List Lexeme → List p.Tree → List Lexeme → Prop}
    (hitem : item.Sound (Padded r n p))
    (hlast : ∀ {a x b}, Padded r n p a x b → L a [x] b)
    (hnext : ∀ {a x b xs c}, Padded r n p a x (.punctuation ',' :: b) → L b xs c →
      L a (x :: xs) c) (fuel : Nat) :
    Rule.Sound (delimited ctx close item fuel)
      fun a xs b => L a xs (.punctuation close :: b) := by
  induction fuel with
  | zero => intro ts xs rest _ h; cases h
  | succ fuel ih =>
    intro ts xs rest hsep h
    obtain ⟨⟨x, us⟩, hx, h⟩ := bind_eq_ok.mp h
    -- the blank space before the comma or the closing sign belongs to the item
    have hpadded := (hitem hsep hx).behind (blank_skipBlank us) hsep
    dsimp only at h
    split at h
    · rename_i hclose
      cases h
      rw [lexemes_of_nextIs hclose] at hpadded
      exact hlast hpadded
    · split at h
      · rename_i hcomma
        obtain ⟨⟨more, vs⟩, hmore, heq⟩ := bind_eq_ok.mp h
        cases heq
        rw [lexemes_of_nextIs hcomma] at hpadded
        exact hnext hpadded (ih (hsep.of_suffix hpadded.suffix).tail hmore)
      · cases h

/-- A rule stays sound when blank space before it is dropped. -/
theorem skippingBlank_sound {rule : Rule p.Tree} (h : rule.Sound (Padded r n p)) :
    Rule.Sound (fun ts => rule (skipBlank ts)) (Padded r n p) := by
  intro ts x rest hsep hread
  exact (h (separated_skipBlank hsep) hread).before (blank_skipBlank ts) hsep

/-! ## Selectors and segments -/

section Level

variable {ctx : Context} {deeper : Option Nested}

/-- **A selector is read from a phrase of its kind.** -/
theorem selector_sound (hdeep : SoundBelow ctx.registry n deeper) :
    Rule.Sound (selector ctx deeper) (Padded ctx.registry n .selector) := by
  intro ts s rest hsep h
  dsimp only [selector, Context.next] at h
  split at h
  · rename_i name hpeek
    cases h
    rw [lexemes_of_peek hpeek (by simp)]
    exact Within.padded ⟨.name name _, Nat.zero_le n⟩
  · rename_i hpeek
    cases h
    rw [lexemes_of_peek hpeek (by simp)]
    exact Within.padded ⟨.wildcard _, Nat.zero_le n⟩
  · rename_i hpeek
    have hts := skipBlank_eq_self (lexemes_of_peek hpeek (by simp)) rfl
    exact indexOrSlice_sound hsep hts h
  · rename_i m hpeek
    split at h
    · have hts := skipBlank_eq_self (lexemes_of_peek hpeek (by simp)) rfl
      exact indexOrSlice_sound hsep hts h
    · cases h
  · rename_i hpeek
    obtain ⟨rules, henter, h⟩ := bind_eq_ok.mp h
    obtain ⟨⟨f, us⟩, hf, heq⟩ := bind_eq_ok.mp h
    cases heq
    -- a filter spends a level, so there is one, and its formula nests less
    obtain ⟨m, rfl, hrules⟩ := hdeep rules (enter_eq_ok henter)
    rw [lexemes_of_peek hpeek (by simp)] at hsep ⊢
    obtain ⟨c, d, hbefore, ⟨hformula, hnest⟩, hbehind⟩ :=
      (hrules.formula (separated_skipBlank hsep.tail) hf).before (blank_skipBlank _) hsep.tail
    exact ⟨_, d, .absent _, ⟨.filter hbefore hformula, Nat.succ_le_succ hnest⟩, hbehind⟩
  · cases h

/-- The selectors between brackets. -/
theorem bracketed_sound (hdeep : SoundBelow ctx.registry n deeper) :
    Rule.Sound (bracketed ctx deeper)
      fun a ss b => Within ctx.registry n .selectors a ss (.punctuation ']' :: b) := by
  intro ts ss rest hsep h
  refine delimited_sound (p := .selector) (skippingBlank_sound (selector_sound hdeep)) ?_ ?_ _
    hsep h
  · rintro a s b ⟨c, d, hbefore, ⟨hselector, hnest⟩, hbehind⟩
    exact ⟨.lastSelector hbefore hselector hbehind, max_le hnest (Nat.zero_le n)⟩
  · rintro a s b ss c ⟨d, e, hbefore, ⟨hselector, hnest⟩, hbehind⟩ ⟨hselectors, hnests⟩
    exact ⟨.nextSelector hbefore hselector hbehind hselectors, max_le hnest hnests⟩

/-- A selector behind a point is a wildcard or a name. -/
theorem dotSelector_sound {ts rest : List Token} {s : Selector}
    (h : dotSelector ctx ts = .ok (s, rest)) :
    (s = .wildcard ∧ lexemes ts = .punctuation '*' :: lexemes rest)
      ∨ ∃ l name, s = .name name ∧ l.memberName? = some name
          ∧ lexemes ts = l :: lexemes rest := by
  dsimp only [dotSelector] at h
  split at h
  · rename_i hstar
    cases h
    exact .inl ⟨rfl, lexemes_of_nextIs hstar⟩
  · split at h
    · rename_i name hname
      cases h
      refine .inr ⟨_, name, rfl, hname, lexemes_of_peek rfl ?_⟩
      intro hend
      dsimp only [Context.next] at hend hname
      rw [hend] at hname
      cases hname
    · cases h

/-- A segment is read whole. -/
theorem segment?_sound (hdeep : SoundBelow ctx.registry n deeper) {ts rest : List Token}
    {s : Segment} (hsep : Separated (lexemes ts))
    (h : segment? ctx deeper ts = .ok (some s, rest)) :
    Within ctx.registry n .segment (lexemes ts) s (lexemes rest) := by
  dsimp only [segment?] at h
  split at h
  · rename_i hopen
    obtain ⟨⟨ss, us⟩, hss, heq⟩ := bind_eq_ok.mp h
    cases heq
    rw [lexemes_of_nextIs hopen] at hsep ⊢
    obtain ⟨hselectors, hnest⟩ := bracketed_sound hdeep hsep.tail hss
    exact ⟨.brackets hselectors, hnest⟩
  · split at h
    · rename_i hdot
      rw [lexemes_of_nextIs hdot] at hsep ⊢
      split at h
      · rename_i hdots
        rw [lexemes_of_nextIs hdots] at hsep ⊢
        split at h
        · rename_i hopen
          obtain ⟨⟨ss, us⟩, hss, heq⟩ := bind_eq_ok.mp h
          cases heq
          rw [lexemes_of_nextIs hopen] at hsep ⊢
          obtain ⟨hselectors, hnest⟩ := bracketed_sound hdeep hsep.tail.tail.tail hss
          exact ⟨.dotsBrackets hselectors, hnest⟩
        · obtain ⟨⟨t, us⟩, ht, heq⟩ := bind_eq_ok.mp h
          cases heq
          -- a wildcard or a name behind two points
          rcases dotSelector_sound ht with ⟨rfl, hread⟩ | ⟨l, name, rfl, hname, hread⟩
          · rw [hread]
            exact ⟨.dotsWildcard _, Nat.zero_le n⟩
          · rw [hread]
            exact ⟨.dotsName hname, Nat.zero_le n⟩
      · obtain ⟨⟨t, us⟩, ht, heq⟩ := bind_eq_ok.mp h
        cases heq
        rcases dotSelector_sound ht with ⟨rfl, hread⟩ | ⟨l, name, rfl, hname, hread⟩
        · rw [hread]
          exact ⟨.dotWildcard _, Nat.zero_le n⟩
        · rw [hread]
          exact ⟨.dotName hname, Nat.zero_le n⟩
    · cases h

/-- No segment is found only where none begins. -/
theorem segment?_eq_none {ts rest : List Token} (h : segment? ctx deeper ts = .ok (none, rest)) :
    rest = ts ∧ ctx.nextIs '[' ts = false ∧ ctx.nextIs '.' ts = false := by
  dsimp only [segment?] at h
  split at h
  · obtain ⟨_, -, heq⟩ := bind_eq_ok.mp h
    cases heq
  · rename_i hopen
    split at h
    · split at h
      · split at h <;> (obtain ⟨_, -, heq⟩ := bind_eq_ok.mp h; cases heq)
      · obtain ⟨_, -, heq⟩ := bind_eq_ok.mp h
        cases heq
    · rename_i hdot
      cases h
      exact ⟨rfl, by simpa using hopen, by simpa using hdot⟩

/-- What is dropped before a segment is optional blank space. -/
theorem blank_skipBlankBeforeSegment (ctx : Context) (ts : List Token) :
    Blank (lexemes ts) (lexemes (skipBlankBeforeSegment ctx ts)) := by
  dsimp only [skipBlankBeforeSegment]
  split
  · exact blank_skipBlank ts
  · exact .absent _

/-- **Segments are read from a phrase of their kind**, however long the loop runs. -/
theorem segments_sound (hdeep : SoundBelow ctx.registry n deeper) (fuel : Nat) :
    Rule.Sound (segments ctx deeper fuel) (Within ctx.registry n .segments) := by
  induction fuel with
  | zero => intro ts ss rest _ h; cases h
  | succ fuel ih =>
    intro ts ss rest hsep h
    obtain ⟨⟨s, us⟩, hs, h⟩ := bind_eq_ok.mp h
    have hblank := blank_skipBlankBeforeSegment ctx ts
    have hsep' := hsep.of_suffix hblank.suffix
    cases s with
    | none =>
      cases h
      -- the loop ends and leaves the blank space where it is
      obtain ⟨rfl, hopen, hdot⟩ := segment?_eq_none hs
      have hkept : skipBlankBeforeSegment ctx ts = ts := by
        -- blank space is dropped only where a segment begins, and none does here
        dsimp only [skipBlankBeforeSegment] at hopen hdot ⊢
        split
        · rename_i hbegins
          rw [if_pos hbegins] at hopen hdot
          rw [hopen, hdot] at hbegins
          cases hbegins
        · rfl
      rw [hkept]
      exact ⟨.noSegment _, Nat.zero_le n⟩
    | some s =>
      obtain ⟨⟨more, vs⟩, hmore, heq⟩ := bind_eq_ok.mp h
      cases heq
      obtain ⟨hsegment, hnest⟩ := segment?_sound hdeep hsep' hs
      obtain ⟨hsegments, hnests⟩ := ih (hsep'.of_suffix hsegment.suffix) hmore
      exact ⟨.nextSegment hblank hsegment hsegments, max_le hnest hnests⟩

/-- The segments behind an anchor. -/
theorem queryFrom_sound (hdeep : SoundBelow ctx.registry n deeper) {anchor : Anchor}
    {ts rest : List Token} {q : Query} (hsep : Separated (lexemes ts))
    (h : queryFrom ctx deeper anchor ts = .ok (q, rest)) :
    ∃ ss, q = .mk anchor ss ∧ Within ctx.registry n .segments (lexemes ts) ss (lexemes rest) := by
  obtain ⟨⟨ss, us⟩, hss, heq⟩ := bind_eq_ok.mp h
  cases heq
  exact ⟨ss, rfl, segments_sound hdeep _ hsep hss⟩

end Level

end JsonQuery
