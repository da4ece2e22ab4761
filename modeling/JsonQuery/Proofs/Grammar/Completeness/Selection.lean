import JsonQuery.Proofs.Grammar.Lookahead

/-
What the grammar derives, the rules read.

A rule stops by looking at the token behind a phrase, and the grammar does not say
what stands there. So a phrase is read as a whole only where nothing follows that
the rule would read on with (`Ends`, `NoSegment`): what can follow a formula inside
a query is a comma or a closing sign, a conjunction may be followed by `||`
besides, and so on outwards. Each production hands its parts a remainder of the
right sort, and that is the whole of the argument.

Some rules drop blank space behind a phrase and some leave it there, so what they
leave is told up to that (`dropBlank`), save where the difference shows: behind a
query, where only a whole text may end.

This module has what the rules have in common, and the rules without filters.
-/

set_option autoImplicit false

namespace JsonQuery

/-! ## Dropping blank space -/

/-- Lexemes without the blank space in front. -/
def dropBlank : List Lexeme → List Lexeme
  | [] => []
  | l :: a => if l.isBlank = true then a else l :: a

/-- A lexeme that is not blank is kept. -/
theorem dropBlank_cons {l : Lexeme} (hl : l.isBlank = false) (a : List Lexeme) :
    dropBlank (l :: a) = l :: a := by
  rw [dropBlank, if_neg (by simp [hl])]

/-- A sign is not blank. -/
@[simp] theorem dropBlank_punctuation (ch : Char) (a : List Lexeme) :
    dropBlank (.punctuation ch :: a) = .punctuation ch :: a := rfl

/-- The lexemes of tokens without blank space in front. -/
@[simp] theorem lexemes_skipBlank (ts : List Token) :
    lexemes (skipBlank ts) = dropBlank (lexemes ts) := by
  cases ts with
  | nil => rfl
  | cons t ts =>
    rw [skipBlank_cons, lexemes_cons, dropBlank]
    split <;> rfl

/-- Optional blank space before a lexeme that is none is dropped whole. -/
theorem Blank.dropBlank_eq {a b : List Lexeme} {l : Lexeme} (h : Blank a (l :: b))
    (hl : l.isBlank = false) : dropBlank a = l :: b := by
  cases h with
  | absent => exact dropBlank_cons hl b
  | present text => rfl

/-- Blank space before a sign is dropped whole. -/
theorem Blank.dropBlank_punctuation {a b : List Lexeme} {ch : Char}
    (h : Blank a (.punctuation ch :: b)) : dropBlank a = .punctuation ch :: b :=
  h.dropBlank_eq rfl

/-- Blank space before a phrase that does not start with any is dropped whole. -/
theorem Derives.dropBlank_eq {r : Registry} {p : Phrase} {a b c : List Lexeme} {x : p.Tree}
    (h : Derives r p a x b) (hp : p.isTight = true) (hblank : Blank c a) : dropBlank c = a := by
  obtain ⟨l, d, rfl, hl, -⟩ := h.head hp
  exact hblank.dropBlank_eq hl

/-! ## What may follow -/

/-- Behind optional blank space stands one of these signs. -/
def Ends (signs : List Char) (b : List Lexeme) : Prop :=
  ∃ ch ∈ signs, ∃ d, dropBlank b = .punctuation ch :: d

/-- No segment follows. -/
def NoSegment (b : List Lexeme) : Prop :=
  ∀ d, dropBlank b ≠ .punctuation '.' :: d ∧ dropBlank b ≠ .punctuation '[' :: d

/-- What can follow a selector. -/
def selectorEnds : List Char := [',', ']']

/-- What can follow a formula. -/
def formulaEnds : List Char := [',', ']', ')']

/-- What can follow a conjunction. -/
def conjunctionEnds : List Char := '|' :: formulaEnds

/-- What can follow a condition. -/
def conditionEnds : List Char := '&' :: conjunctionEnds

/-- What can follow an operand. -/
def operandEnds : List Char := '=' :: '!' :: '<' :: '>' :: conditionEnds

/-- A sign behind blank space is what follows. -/
theorem Ends.of_blank {signs : List Char} {b d : List Lexeme} {ch : Char}
    (h : Blank b (.punctuation ch :: d)) (hch : ch ∈ signs) : Ends signs b :=
  ⟨ch, hch, d, h.dropBlank_punctuation⟩

/-- What may follow among few signs may follow among more. -/
theorem Ends.mono {signs more : List Char} {b : List Lexeme} (h : Ends signs b)
    (hsub : signs ⊆ more) : Ends more b := by
  obtain ⟨ch, hch, d, hd⟩ := h
  exact ⟨ch, hsub hch, d, hd⟩

/-- Behind an operand no segment goes on. -/
theorem Ends.noSegment {b : List Lexeme} (h : Ends operandEnds b) : NoSegment b := by
  obtain ⟨ch, hch, d, hd⟩ := h
  intro e
  rw [hd]
  constructor <;>
  · intro heq
    simp only [List.cons.injEq, Lexeme.punctuation.injEq] at heq
    -- neither a point nor a bracket is among the signs
    rw [heq.1] at hch
    exact absurd hch (by decide)

theorem Ends.operand {signs : List Char} {b : List Lexeme} (h : Ends signs b)
    (hsub : signs ⊆ operandEnds) : NoSegment b :=
  (h.mono hsub).noSegment

/-- What follows is the same up to blank space. -/
theorem Ends.dropBlank_eq {signs : List Char} {b c : List Lexeme} (h : Ends signs b)
    (hblank : Blank b c) : dropBlank c = dropBlank b := by
  obtain ⟨ch, -, d, hd⟩ := h
  cases hblank with
  | absent => rfl
  | present text =>
    rw [show dropBlank (.blank text :: c) = c from rfl] at hd ⊢
    rw [hd, dropBlank_punctuation]

/-- No number follows where a sign does. -/
theorem Ends.ne_numeral {signs : List Char} {b c : List Lexeme} (h : Ends signs b)
    (hblank : Blank b c) (m : Numeral) (e : List Lexeme) : c ≠ .numeral m :: e := by
  rintro rfl
  obtain ⟨ch, -, d, hd⟩ := h
  rw [hblank.dropBlank_eq rfl] at hd
  cases hd

/-- What is dropped is optional blank space. -/
theorem blank_dropBlank (b : List Lexeme) : Blank b (dropBlank b) := by
  cases b with
  | nil => exact .absent _
  | cons l b =>
    cases l with
    | blank text => exact .present text b
    | _ => exact .absent _

/-- What is left when blank space is dropped, and what a production leaves, differ by
optional blank space. -/
theorem Blank.dropBlank_left {a b : List Lexeme} (h : Blank a b) : Blank b (dropBlank a) := by
  cases h with
  | absent => exact blank_dropBlank a
  | present text => exact .absent b

/-- A sign stays where it is, whoever drops the blank space before it. -/
theorem Blank.sign {a b c : List Lexeme} {ch : Char} (h : Blank a (.punctuation ch :: b))
    (hblank : Blank a c) : dropBlank c = .punctuation ch :: b := by
  rw [(Ends.of_blank h List.mem_cons_self : Ends [ch] a).dropBlank_eq hblank,
    h.dropBlank_punctuation]

/-! ## Reading -/

/-- **Whether a rule reads a phrase as a whole.** -/
def Reads {α : Type} (rule : Rule α) (a : List Lexeme) (x : α) (b : List Lexeme) : Prop :=
  ∀ ⦃ts : List Token⦄, lexemes ts = a → ∃ rest, rule ts = .ok (x, rest) ∧ lexemes rest = b

/-- Whether a rule reads a phrase as a whole behind blank space, and drops some of
what stands behind the phrase, or none. -/
def ReadsLoosely {α : Type} (rule : Rule α) (a : List Lexeme) (x : α) (b : List Lexeme) :
    Prop :=
  ∀ ⦃ts : List Token⦄, dropBlank (lexemes ts) = a →
    ∃ rest, rule ts = .ok (x, rest) ∧ Blank b (lexemes rest)

/-- Whether a rule reads a phrase as a whole, and drops blank space before it. -/
def ReadsBehind {α : Type} (rule : Rule α) (a : List Lexeme) (x : α) (b : List Lexeme) : Prop :=
  ∀ ⦃ts : List Token⦄, dropBlank (lexemes ts) = dropBlank a →
    ∃ rest, rule ts = .ok (x, rest) ∧ lexemes rest = b

section Tokens

variable {ctx : Context} {ts : List Token} {a : List Lexeme} {l : Lexeme}

/-- The next token has the first of the lexemes. -/
theorem peek_of_lexemes (ctx : Context) (h : lexemes ts = l :: a) : (ctx.peek ts).lexeme = l := by
  rw [peek_lexeme, h]
  rfl

/-- Whether a sign comes next is a matter of the first lexeme. -/
theorem nextIs_of_lexemes (h : lexemes ts = l :: a) (ch : Char) :
    ctx.nextIs ch ts = (l == .punctuation ch) := by
  rw [Context.nextIs, Token.is, peek_of_lexemes ctx h]

/-- Behind the first token are the other lexemes. -/
theorem lexemes_tail (h : lexemes ts = l :: a) : lexemes ts.tail = a := by
  obtain ⟨t, us, rfl, -, hus⟩ := lexemes_eq_cons h
  exact hus

/-- There are as many lexemes as tokens. -/
theorem length_lexemes (ts : List Token) : (lexemes ts).length = ts.length :=
  List.length_map _

/-- A sign that does not follow is not seen. -/
theorem nextIs_eq_false {ch : Char} (h : ∀ d, lexemes ts ≠ .punctuation ch :: d) :
    ctx.nextIs ch ts = false := by
  by_contra hnext
  exact h _ (lexemes_of_nextIs (by simpa using hnext))

/-- A sign that may not follow is not seen behind the blank space that is left. -/
theorem Ends.nextIs_eq_false {signs : List Char} {b : List Lexeme} {ch : Char}
    (h : Ends signs b) (hblank : Blank b (lexemes ts)) (hch : ch ∉ signs) :
    ctx.nextIs ch ts = false := by
  obtain ⟨sign, hsign, d, hd⟩ := h
  refine JsonQuery.nextIs_eq_false fun e he => ?_
  rw [he] at hblank
  rw [hblank.dropBlank_punctuation, List.cons.injEq, Lexeme.punctuation.injEq] at hd
  exact hch (hd.1 ▸ hsign)

end Tokens

/-! ## Integers and slices -/

section Integers

variable {ctx : Context} {ts : List Token} {a b c d e : List Lexeme} {l : Lexeme} {i : Int64}
  {o : Option Int64}

/-- An integer is not blank. -/
theorem IntegerLexeme.isBlank_eq_false (h : IntegerLexeme l i) : l.isBlank = false := by
  cases h
  rfl

/-- An integer of the grammar is one that the rule accepts. -/
theorem IntegerLexeme.integerOf {m : Numeral} (h : IntegerLexeme (.numeral m) i)
    (position : Nat) : m.isInteger = true ∧ integerOf m position = .ok i := by
  obtain ⟨hinteger, hzero, hleast, hgreatest⟩ := h
  refine ⟨hinteger, ?_⟩
  -- it is no negative zero and within the range, which is all that the rule asks
  rw [JsonQuery.integerOf, if_neg (by simp [hzero]), if_pos ⟨hleast, hgreatest⟩]

/-- An integer that is there is read. -/
theorem optionalInteger_present (ctx : Context) (h : IntegerLexeme l i) :
    Reads (optionalInteger ctx) (l :: a) (some i) a := by
  intro ts hts
  obtain ⟨t, us, rfl, rfl, rfl⟩ := lexemes_eq_cons hts
  cases ht : t.lexeme with
  | numeral m =>
    rw [ht] at h
    obtain ⟨hinteger, hi⟩ := h.integerOf t.position
    refine ⟨us, ?_, rfl⟩
    simp only [optionalInteger, Context.next_cons, ht, hinteger, hi]
    rfl
  | _ => rw [ht] at h; cases h

/-- Where no number stands none is read. -/
theorem optionalInteger_absent (ctx : Context) (h : ∀ m e, lexemes ts ≠ .numeral m :: e) :
    optionalInteger ctx ts = .ok (none, ts) := by
  dsimp only [optionalInteger]
  split
  · rename_i m hm
    exact absurd (lexemes_of_peek hm (by simp)) (h m _)
  · rfl

/-- A bound, behind optional blank space. -/
theorem bound_reads (ctx : Context) {signs : List Char} (hblank : Blank a b)
    (hbound : BoundLexemes b o c) (hend : Ends signs c) (hts : lexemes ts = a) :
    ∃ us, optionalInteger ctx (skipBlank ts) = .ok (o, us)
      ∧ Blank c (lexemes (skipBlank us)) := by
  have hskip : lexemes (skipBlank ts) = dropBlank a := by rw [lexemes_skipBlank, hts]
  cases hbound with
  | absent =>
    -- there is no number to read: a sign follows, as it does behind the bound
    have hleft := hblank.dropBlank_left
    refine ⟨skipBlank ts, optionalInteger_absent ctx fun m e => ?_, ?_⟩
    · rw [hskip]
      exact hend.ne_numeral hleft m e
    · rw [lexemes_skipBlank, hskip, hend.dropBlank_eq hleft]
      exact blank_dropBlank b
  | present integer blank =>
    -- the number stands behind the blank space, and more blank space behind it
    rw [hblank.dropBlank_eq integer.isBlank_eq_false] at hskip
    obtain ⟨us, hus, hrest⟩ := optionalInteger_present ctx integer hskip
    refine ⟨us, hus, ?_⟩
    rw [lexemes_skipBlank, hrest]
    exact blank.dropBlank_left

/-- **The rest of a slice is read**: the second bound, and a step if there is one. -/
theorem sliceTail_reads (ctx : Context) (start : Option Int64) {stop step : Option Int64}
    (hblank : Blank a b)
    (hlast : BoundLexemes b stop c) (hstep : StepLexemes c step d) (hend : Ends selectorEnds d)
    (hts : lexemes ts = a) :
    ∃ rest, sliceTail ctx start ts = .ok (.slice ⟨start, stop, step⟩, rest)
      ∧ Blank d (lexemes rest) := by
  -- behind the second bound stands the second colon, or what ends the slice
  have hcolon : Ends (':' :: selectorEnds) c := by
    cases hstep with
    | absent => exact hend.mono (List.subset_cons_self _ _)
    | empty | present => exact ⟨':', List.mem_cons_self, _, rfl⟩
  obtain ⟨us, hus, hrest⟩ := bound_reads ctx hblank hlast hcolon hts
  simp only [sliceTail, hus, ok_bind]
  cases hstep with
  | absent =>
    -- no colon ends a slice, so none is taken for the second one
    rw [hend.nextIs_eq_false hrest (by decide)]
    exact ⟨skipBlank us, rfl, hrest⟩
  | @empty f _ blank =>
    -- a second colon with nothing behind it leaves the step out
    have hread : lexemes (skipBlank us) = .punctuation ':' :: f := hrest.eq_of_cons rfl
    rw [nextIs_of_lexemes hread]
    have hskip : lexemes (skipBlank (skipBlank us).tail) = dropBlank f := by
      rw [lexemes_skipBlank, lexemes_tail hread]
    have hnone : optionalInteger ctx (skipBlank (skipBlank us).tail)
        = .ok (none, skipBlank (skipBlank us).tail) := optionalInteger_absent ctx fun m e =>
      hskip ▸ hend.ne_numeral blank.dropBlank_left m e
    refine ⟨skipBlank (skipBlank us).tail, ?_, ?_⟩
    · simp [hnone]
    · rw [hskip]
      exact blank.dropBlank_left
  | @present k _ f _ blank integer =>
    have hread : lexemes (skipBlank us) = .punctuation ':' :: f := hrest.eq_of_cons rfl
    rw [nextIs_of_lexemes hread]
    have hskip : lexemes (skipBlank (skipBlank us).tail) = k :: d := by
      rw [lexemes_skipBlank, lexemes_tail hread, blank.dropBlank_eq integer.isBlank_eq_false]
    obtain ⟨vs, hvs, hvs'⟩ := optionalInteger_present ctx integer hskip
    exact ⟨vs, by simp [hvs], hvs' ▸ .absent _⟩

/-- An index is read as one, because no colon follows it. -/
theorem index_reads (integer : IntegerLexeme l i) (hend : Ends selectorEnds a)
    (hts : lexemes ts = l :: a) :
    ∃ rest, indexOrSlice ctx ts = .ok (.index i, rest) ∧ Blank a (lexemes rest) := by
  obtain ⟨us, hus, rfl⟩ := optionalInteger_present ctx integer hts
  have hnone : ctx.nextIs ':' (skipBlank us) = false :=
    hend.nextIs_eq_false (blank_skipBlank us) (by decide)
  exact ⟨skipBlank us, by simp [indexOrSlice, hus, hnone], blank_skipBlank us⟩

/-- **A slice is read as one**, with or without its first bound. -/
theorem slice_reads {start stop step : Option Int64}
    (first : BoundLexemes a start (.punctuation ':' :: b)) (blank : Blank b c)
    (last : BoundLexemes c stop d) (distance : StepLexemes d step e)
    (hend : Ends selectorEnds e) (hts : lexemes ts = a) :
    ∃ rest, indexOrSlice ctx ts = .ok (.slice ⟨start, stop, step⟩, rest)
      ∧ Blank e (lexemes rest) := by
  -- with a first bound or without it the rule comes to the first colon
  obtain ⟨us, hus, hread⟩ : ∃ us, optionalInteger ctx ts = .ok (start, us)
      ∧ lexemes (skipBlank us) = .punctuation ':' :: b := by
    cases first with
    | absent =>
      refine ⟨ts, optionalInteger_absent ctx fun m e => by simp [hts], ?_⟩
      rw [lexemes_skipBlank, hts, dropBlank_punctuation]
    | present integer behind =>
      obtain ⟨us, hus, hrest⟩ := optionalInteger_present ctx integer hts
      refine ⟨us, hus, ?_⟩
      rw [lexemes_skipBlank, hrest, behind.dropBlank_punctuation]
  obtain ⟨rest, hrest, hblank⟩ := sliceTail_reads ctx start blank last
    distance hend (lexemes_tail hread)
  exact ⟨rest, by simp [indexOrSlice, hus, nextIs_of_lexemes hread, hrest], hblank⟩

/-- An integer or a colon begins an index or a slice. -/
theorem selector_eq_indexOrSlice {deeper : Option Nested} (hts : lexemes ts = l :: a)
    (hl : l = .punctuation ':' ∨ ∃ i, IntegerLexeme l i) :
    selector ctx deeper ts = indexOrSlice ctx ts := by
  obtain ⟨t, us, rfl, rfl, -⟩ := lexemes_eq_cons hts
  rcases hl with hl | ⟨i, hl⟩
  · simp only [selector, Context.next_cons, hl]
  · cases ht : t.lexeme with
    | numeral m =>
      rw [ht] at hl
      simp only [selector, Context.next_cons, ht, (hl.integerOf 0).1, if_true]
    | _ => rw [ht] at hl; cases hl

end Integers

/-! ## Selectors -/

section Selectors

variable {ctx : Context} {deeper : Option Nested} {a b c : List Lexeme}

theorem selector_name (n : String) :
    ReadsLoosely (fun ts => selector ctx deeper (skipBlank ts)) (.string n :: a) (.name n) a := by
  intro ts hts
  rw [← lexemes_skipBlank] at hts
  obtain ⟨t, us, hus, ht, rfl⟩ := lexemes_eq_cons hts
  exact ⟨us, by simp [selector, hus, ht], .absent _⟩

theorem selector_wildcard :
    ReadsLoosely (fun ts => selector ctx deeper (skipBlank ts)) (.punctuation '*' :: a)
      .wildcard a := by
  intro ts hts
  rw [← lexemes_skipBlank] at hts
  obtain ⟨t, us, hus, ht, rfl⟩ := lexemes_eq_cons hts
  exact ⟨us, by simp [selector, hus, ht], .absent _⟩

theorem selector_index {l : Lexeme} {i : Int64} (integer : IntegerLexeme l i)
    (hend : Ends selectorEnds a) :
    ReadsLoosely (fun ts => selector ctx deeper (skipBlank ts)) (l :: a) (.index i) a := by
  intro ts hts
  rw [← lexemes_skipBlank] at hts
  dsimp only
  rw [selector_eq_indexOrSlice hts (.inr ⟨i, integer⟩)]
  exact index_reads integer hend hts

theorem selector_slice {start stop step : Option Int64} {d e : List Lexeme}
    (first : BoundLexemes a start (.punctuation ':' :: b)) (blank : Blank b c)
    (last : BoundLexemes c stop d) (distance : StepLexemes d step e)
    (hend : Ends selectorEnds e) :
    ReadsLoosely (fun ts => selector ctx deeper (skipBlank ts)) a
      (.slice ⟨start, stop, step⟩) e := by
  intro ts hts
  rw [← lexemes_skipBlank] at hts
  -- the first lexeme is the bound or the colon, and either leads to the rule for slices
  obtain ⟨l, f, hread, hl⟩ : ∃ l f, lexemes (skipBlank ts) = l :: f
      ∧ (l = .punctuation ':' ∨ ∃ i, IntegerLexeme l i) := by
    cases first with
    | absent => exact ⟨_, _, hts, .inl rfl⟩
    | present integer => exact ⟨_, _, hts, .inr ⟨_, integer⟩⟩
  dsimp only
  rw [selector_eq_indexOrSlice hread hl]
  exact slice_reads first blank last distance hend hts

/-- A filter is read as a selector when its formula is read one level deeper. -/
theorem selector_filter {rules : Nested} {r : Registry} {f : Formula} (hblank : Blank a b)
    (hformula : Derives r .formula b f c) (hread : ReadsLoosely rules.formula b f c) :
    ReadsLoosely (fun ts => selector ctx (some rules) (skipBlank ts)) (.punctuation '?' :: a)
      (.filter f) c := by
  intro ts hts
  rw [← lexemes_skipBlank] at hts
  obtain ⟨t, us, hus, ht, rfl⟩ := lexemes_eq_cons hts
  -- the formula starts behind blank space, which the rule for formulas skips by itself
  have hb := hformula.dropBlank_eq rfl hblank
  have htight := hformula.dropBlank_eq rfl (.absent b)
  have hskip : dropBlank (lexemes (skipBlank us)) = b := by rw [lexemes_skipBlank, hb, htight]
  obtain ⟨rest, hrest, hc⟩ := hread hskip
  exact ⟨rest, by simp [selector, hus, ht, Context.enter, hrest], hc⟩

end Selectors

/-! ## Lists -/

section Lists

variable {ctx : Context} {α : Type} {fuel : Nat} {x : α} {xs : List α} {a b c d e : List Lexeme}

/-- The last item of a list is read with the bracket behind it. -/
theorem delimited_last {close : Char} {item : Rule α} (hitem : ReadsLoosely item b x c)
    (hb : dropBlank a = b) (hc : Blank c (.punctuation close :: d)) :
    ReadsBehind (delimited ctx close item (fuel + 1)) a [x] d := by
  intro ts hts
  obtain ⟨us, hus, hbehind⟩ := hitem (hts.trans hb)
  -- whoever drops the blank space behind the item, the bracket stands behind it
  have hclose := hc.sign hbehind
  rw [← lexemes_skipBlank] at hclose
  obtain ⟨t, vs, hvs, ht, rfl⟩ := lexemes_eq_cons hclose
  refine ⟨vs, ?_, rfl⟩
  simp [delimited, hus, hvs, Token.is, ht]

/-- An item of a list is read with the comma behind it, and then the others are. -/
theorem delimited_next {close : Char} {item : Rule α} (hne : close ≠ ',')
    (hitem : ReadsLoosely item b x c) (hb : dropBlank a = b)
    (hc : Blank c (.punctuation ',' :: d))
    (hmore : ReadsBehind (delimited ctx close item fuel) d xs e) :
    ReadsBehind (delimited ctx close item (fuel + 1)) a (x :: xs) e := by
  intro ts hts
  obtain ⟨us, hus, hbehind⟩ := hitem (hts.trans hb)
  have hcomma := hc.sign hbehind
  rw [← lexemes_skipBlank] at hcomma
  obtain ⟨t, vs, hvs, ht, rfl⟩ := lexemes_eq_cons hcomma
  obtain ⟨rest, hrest, he⟩ := hmore rfl
  refine ⟨rest, ?_, he⟩
  simp [delimited, hus, hvs, Token.is, ht, hne.symm, hrest]

end Lists

/-! ## Segments -/

section Segments

variable {ctx : Context} {deeper : Option Nested} {ts : List Token} {a b c : List Lexeme}
  {s : Segment} {ss : List Segment} {selectors : List Selector}

/-- A name behind a point is read. -/
theorem dotSelector_name {l : Lexeme} {n : String} (name : l.memberName? = some n) :
    Reads (dotSelector ctx) (l :: a) (.name n) a := by
  intro ts hts
  obtain ⟨t, us, rfl, rfl, rfl⟩ := lexemes_eq_cons hts
  -- a star is no name
  have hstar : t.is '*' = false := by
    rw [← Bool.not_eq_true, Token.is_iff]
    intro ht
    rw [ht] at name
    cases name
  refine ⟨us, ?_, rfl⟩
  simp [dotSelector, hstar, name]

/-- A star behind a point is read. -/
theorem dotSelector_wildcard : Reads (dotSelector ctx) (.punctuation '*' :: a) .wildcard a := by
  intro ts hts
  obtain ⟨t, us, rfl, ht, rfl⟩ := lexemes_eq_cons hts
  refine ⟨us, ?_, rfl⟩
  simp [dotSelector, Token.is, ht]

/-- Brackets are read as a child segment. -/
theorem segment?_brackets (h : Reads (bracketed ctx deeper) a selectors b) :
    Reads (segment? ctx deeper) (.punctuation '[' :: a) (some (.child selectors)) b := by
  intro ts hts
  obtain ⟨rest, hrest, hb⟩ := h (lexemes_tail hts)
  refine ⟨rest, ?_, hb⟩
  simp [segment?, nextIs_of_lexemes hts, hrest]

/-- One point and a selector are read as a child segment. -/
theorem segment?_dot {s : Selector} {l : Lexeme} (hl : l ≠ .punctuation '.')
    (h : Reads (dotSelector ctx) (l :: a) s b) :
    Reads (segment? ctx deeper) (.punctuation '.' :: l :: a) (some (.child [s])) b := by
  intro ts hts
  obtain ⟨rest, hrest, hb⟩ := h (lexemes_tail hts)
  refine ⟨rest, ?_, hb⟩
  simp [segment?, nextIs_of_lexemes hts, nextIs_of_lexemes (lexemes_tail hts), hl, hrest]

/-- Two points and a selector are read as a descendant segment. -/
theorem segment?_dots {s : Selector} {l : Lexeme} (hl : l ≠ .punctuation '[')
    (h : Reads (dotSelector ctx) (l :: a) s b) :
    Reads (segment? ctx deeper) (.punctuation '.' :: .punctuation '.' :: l :: a)
      (some (.descendant [s])) b := by
  intro ts hts
  have hmore := lexemes_tail hts
  obtain ⟨rest, hrest, hb⟩ := h (lexemes_tail hmore)
  refine ⟨rest, ?_, hb⟩
  simp [segment?, nextIs_of_lexemes hts, nextIs_of_lexemes hmore,
    nextIs_of_lexemes (lexemes_tail hmore), hl, hrest]

/-- Two points and brackets are read as a descendant segment. -/
theorem segment?_dotsBrackets (h : Reads (bracketed ctx deeper) a selectors b) :
    Reads (segment? ctx deeper)
      (.punctuation '.' :: .punctuation '.' :: .punctuation '[' :: a)
      (some (.descendant selectors)) b := by
  intro ts hts
  have hmore := lexemes_tail hts
  have hopen := lexemes_tail hmore
  obtain ⟨rest, hrest, hb⟩ := h (lexemes_tail hopen)
  refine ⟨rest, ?_, hb⟩
  simp [segment?, nextIs_of_lexemes hts, nextIs_of_lexemes hmore, nextIs_of_lexemes hopen, hrest]

/-- Blank space is left where it stands when no segment follows. -/
theorem segment?_absent (h : NoSegment (lexemes ts)) :
    segment? ctx deeper (skipBlankBeforeSegment ctx ts) = .ok (none, ts) := by
  have hno : ∀ us, (∀ e, lexemes us ≠ .punctuation '.' :: e ∧ lexemes us ≠ .punctuation '[' :: e) →
      ctx.nextIs '.' us = false ∧ ctx.nextIs '[' us = false := fun us hus =>
    ⟨nextIs_eq_false fun e => (hus e).1, nextIs_eq_false fun e => (hus e).2⟩
  -- a segment is looked for behind blank space first, and then where that stands
  obtain ⟨hdot, hopen⟩ := hno (skipBlank ts) (by rwa [lexemes_skipBlank])
  obtain ⟨hdot', hopen'⟩ := hno ts fun e => by
    constructor <;>
    · intro he
      have := h e
      simp [he] at this
  simp [segment?, skipBlankBeforeSegment, hdot, hopen, hdot', hopen']

/-- **A segment begins with a point or a bracket.** -/
theorem Derives.segment_head {r : Registry} (h : Derives r .segment a s b) :
    ∃ c, a = .punctuation '.' :: c ∨ a = .punctuation '[' :: c := by
  cases h with
  | brackets => exact ⟨_, .inr rfl⟩
  | _ => exact ⟨_, .inl rfl⟩

/-- A segment has a lexeme of its own. -/
theorem Derives.segment_length {r : Registry} (h : Derives r .segment a s b) :
    b.length < a.length := by
  cases h with
  | dotName | dotWildcard | dotsName | dotsWildcard =>
    simp only [List.length_cons]
    omega
  | dotsBrackets selectors | brackets selectors =>
    -- what is behind the selectors is an end of what they start with
    have hlength := selectors.suffix.length_le
    simp only [List.length_cons] at hlength ⊢
    omega

/-- The blank space before a segment is skipped. -/
theorem skipBlankBeforeSegment_of_segment (ctx : Context) {r : Registry}
    (h : Derives r .segment b s c) (hblank : Blank a b) (hts : lexemes ts = a) :
    lexemes (skipBlankBeforeSegment ctx ts) = b := by
  have hskip : lexemes (skipBlank ts) = b := by
    rw [lexemes_skipBlank, hts, h.dropBlank_eq rfl hblank]
  -- the blank space is skipped because a segment stands behind it
  have hnext : (ctx.nextIs '.' (skipBlank ts) || ctx.nextIs '[' (skipBlank ts)) = true := by
    obtain ⟨d, rfl | rfl⟩ := h.segment_head <;>
    simp [nextIs_of_lexemes hskip]
  rw [skipBlankBeforeSegment, if_pos hnext, hskip]

/-- Where no segment follows, the segments end. -/
theorem segments_last {fuel : Nat} (h : NoSegment a) :
    Reads (segments ctx deeper (fuel + 1)) a [] a := by
  intro ts hts
  -- the blank space before nothing is left to whoever called
  refine ⟨ts, ?_, hts⟩
  simp [segments, segment?_absent (hts ▸ h)]

/-- One segment is read, and then the others are. -/
theorem segments_next {r : Registry} {fuel : Nat} {d : List Lexeme}
    (h : Derives r .segment b s c) (hblank : Blank a b)
    (hsegment : Reads (segment? ctx deeper) b (some s) c)
    (hmore : Reads (segments ctx deeper fuel) c ss d) :
    Reads (segments ctx deeper (fuel + 1)) a (s :: ss) d := by
  intro ts hts
  obtain ⟨us, hus, hc⟩ := hsegment
    (skipBlankBeforeSegment_of_segment ctx h hblank hts)
  obtain ⟨rest, hrest, hd⟩ := hmore hc
  refine ⟨rest, ?_, hd⟩
  simp [segments, hus, hrest]

/-- **The segments of a query are read**, with fuel for every token. -/
theorem queryFrom_reads (anchor : Anchor)
    (h : ∀ fuel, a.length < fuel → Reads (segments ctx deeper fuel) a ss b) :
    Reads (queryFrom ctx deeper anchor) a (.mk anchor ss) b := by
  intro ts hts
  -- every segment takes a token, so there is more fuel than segments
  obtain ⟨rest, hrest, hb⟩ := h (ts.length + 1) (by rw [← hts, length_lexemes]; omega) hts
  refine ⟨rest, ?_, hb⟩
  simp [queryFrom, hrest]

end Segments

end JsonQuery
