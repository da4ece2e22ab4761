import JsonQuery.Proofs.Number.Layout
import JsonQuery.Proofs.Query.WellFormed

/-
The canonical lexemes of a well-formed tree derive it.

They are a phrase that stands for the tree, whatever stands behind them. This is an
induction on the tree, and well-formedness is what it asks for at each node: the lists
that need an element have one, numbers are in range and functions are registered under
their names. What the grammar derives is well formed, so the canonical lexemes of a
derived tree derive it again (`Derives.canonical`).
-/

set_option autoImplicit false

namespace JsonQuery

/-- The canonical lexemes of what a phrase stands for. -/
def Phrase.lexemes [FloatPrinter] : (p : Phrase) → p.Tree → List Lexeme
  | .path, q | .query, q => Query.lexemes q
  | .segments, ss => Segment.lexemesAll ss
  | .segment, s => Segment.lexemes s
  | .selectors, ss => Selector.lexemesAll ss
  | .selector, s => Selector.lexemes s
  | .formula, f => Formula.lexemes f
  | .conjunction, cs => Condition.lexemesAll cs
  | .condition, c => Condition.lexemes c
  | .group, f => .punctuation '(' :: (Formula.lexemes f ++ [.punctuation ')'])
  | .call, c => Call.lexemes c
  | .arguments, xs => Argument.lexemesAll xs
  | .operand, o => Operand.lexemes o
  | .argument, x => Argument.lexemes x

/-! ## Lists -/

section Lists

variable {r : Registry} {a b : List Lexeme}

/-- A list of selectors is derived with at least one. -/
theorem Derives.selectors_ne_nil {ss : List Selector} (h : Derives r .selectors a ss b) :
    ss ≠ [] := by
  cases h <;>
  exact List.cons_ne_nil _ _

/-- A list of arguments is derived with at least one. -/
theorem Derives.arguments_ne_nil {xs : List Argument} (h : Derives r .arguments a xs b) :
    xs ≠ [] := by
  cases h <;>
  exact List.cons_ne_nil _ _

/-- A formula is derived with at least one branch. -/
theorem Derives.formula_ne_nil {f : Formula} (h : Derives r .formula a f b) : f ≠ [] := by
  cases h <;>
  exact List.cons_ne_nil _ _

/-- A conjunction is derived with at least one condition. -/
theorem Derives.conjunction_ne_nil {cs : List Condition} (h : Derives r .conjunction a cs b) :
    cs ≠ [] := by
  cases h <;>
  exact List.cons_ne_nil _ _

variable [FloatPrinter]

/-- Selectors are written with a comma between them. -/
theorem Selector.lexemesAll_cons (s : Selector) {ss : List Selector} (h : ss ≠ []) :
    Selector.lexemesAll (s :: ss) = s.lexemes ++ .punctuation ',' :: Selector.lexemesAll ss := by
  cases ss with
  | nil => exact absurd rfl h
  | cons t ss => simp only [Selector.lexemesAll]

/-- Arguments are written with a comma between them. -/
theorem Argument.lexemesAll_cons (x : Argument) {xs : List Argument} (h : xs ≠ []) :
    Argument.lexemesAll (x :: xs) = x.lexemes ++ .punctuation ',' :: Argument.lexemesAll xs := by
  cases xs with
  | nil => exact absurd rfl h
  | cons y xs => simp only [Argument.lexemesAll]

/-- Branches are written with two bars between them. -/
theorem Formula.lexemes_cons (c : List Condition) {f : Formula} (h : f ≠ []) :
    Formula.lexemes (c :: f)
      = Condition.lexemesAll c ++ spaced ['|', '|'] ++ Formula.lexemes f := by
  cases f with
  | nil => exact absurd rfl h
  | cons d f => simp only [Formula.lexemes]

/-- Conditions are written with two ampersands between them. -/
theorem Condition.lexemesAll_cons (c : Condition) {cs : List Condition} (h : cs ≠ []) :
    Condition.lexemesAll (c :: cs)
      = c.lexemes ++ spaced ['&', '&'] ++ Condition.lexemesAll cs := by
  cases cs with
  | nil => exact absurd rfl h
  | cons d cs => simp only [Condition.lexemesAll]

end Lists

/-! ## Integers, slices and literals -/

/-- An integer in the range of indexes is written as a lexeme that stands for it. -/
theorem integerLexeme_ofInt {n : Int} (h : InIndexRange n) :
    IntegerLexeme (.numeral (.ofInt n)) (.ofInt n) := by
  obtain ⟨least, greatest⟩ := h
  have hint := Numeral.toInt_ofInt n
  -- the numeral has the value of the integer, so its range is that of the integer
  have hlexeme := IntegerLexeme.intro (Numeral.isInteger_ofInt n)
    (Numeral.isNegativeZero_ofInt n) (hint.symm ▸ least) (hint.symm ▸ greatest)
  rwa [hint] at hlexeme

/-- An index is written as a lexeme that stands for it. -/
theorem integerLexeme_index {i : Int64} (h : InIndexRange i.toInt) :
    IntegerLexeme (indexLexeme i) i := by
  have hlexeme := integerLexeme_ofInt h
  rwa [Int64.ofInt_toInt] at hlexeme

/-- A bound is written as a lexeme that stands for it, and one that is missing is not written. -/
theorem boundLexemes {o : Option Int64} (h : ∀ i ∈ o, InIndexRange i.toInt)
    (rest : List Lexeme) : BoundLexemes (o.toList.map indexLexeme ++ rest) o rest := by
  cases o with
  | none => exact .absent rest
  | some i => exact .present (integerLexeme_index (h i rfl)) (.absent rest)

/-- **The lexemes of a slice** derive it; the second colon is written with the step only. -/
theorem Slice.derives {r : Registry} {s : Slice} (h : s.WellFormed) (rest : List Lexeme) :
    Derives r .selector (s.lexemes ++ rest) (.slice s) rest := by
  obtain ⟨start, stop, step⟩ := s
  simp only [WellFormed, List.forall_mem_cons] at h
  obtain ⟨hstart, hstop, hstep, -⟩ := h
  cases step with
  | none =>
    simp only [lexemes, List.append_assoc, List.nil_append, List.cons_append]
    exact .slice (boundLexemes hstart _) (.absent _) (boundLexemes hstop rest) (.absent rest)
  | some i =>
    have hdistance := StepLexemes.present (.absent (indexLexeme i :: rest))
      (integerLexeme_index (hstep i rfl))
    simp only [lexemes, List.append_assoc, List.nil_append, List.cons_append]
    exact .slice (boundLexemes hstart _) (.absent _) (boundLexemes hstop _) hdistance

/-- **A literal is written as one lexeme that stands for it.** -/
theorem Json.IsLiteral.lexeme [FloatPrinter] [LawfulFloatPrinter] {v : Json} (h : v.IsLiteral) :
    ∃ l, v.lexemes = [l] ∧ LiteralLexeme l v := by
  cases v with
  | null => exact ⟨_, by simp only [lexemes], .null⟩
  | bool b =>
    cases b with
    | true => exact ⟨_, by simp only [lexemes], .yes⟩
    | false => exact ⟨_, by simp only [lexemes], .no⟩
  | string s => exact ⟨_, by simp only [lexemes], .string s⟩
  | number n =>
    cases n with
    | integer i =>
      have hlexeme := LiteralLexeme.integer (integerLexeme_ofInt h)
      rw [toInt_ofInt_index h] at hlexeme
      exact ⟨_, by simp only [lexemes, Number.numeral], hlexeme⟩
    | float x =>
      -- a negative zero is written `-0.0`, so it is a number with a fraction too
      exact ⟨_, by simp only [lexemes, Number.numeral],
        .float (LawfulFloatPrinter.isInteger_numeral x) (LawfulFloatPrinter.ofDecimal_numeral x)⟩
  | array _ | object _ => exact h.elim

/-! ## Singular queries -/

/-- A segment and its singular form are written alike. -/
theorem SingularSelector.lexemes_of_singular? [FloatPrinter] {s : Segment} {t : SingularSelector}
    (h : s.singular? = some t) : s.lexemes = t.lexemes := by
  unfold Segment.singular? at h
  split at h
  · cases h
    simp [Segment.lexemes, Selector.lexemesAll, Selector.lexemes, SingularSelector.lexemes]
  · cases h
    simp [Segment.lexemes, Selector.lexemesAll, Selector.lexemes, SingularSelector.lexemes]
  · cases h

/-- **A query and its singular form are written alike.** -/
theorem SingularQuery.lexemes_of_singular? [FloatPrinter] {q : Query} {s : SingularQuery}
    (h : q.singular? = some s) : s.lexemes = q.lexemes := by
  obtain ⟨anchor, ss⟩ := q
  obtain ⟨ts, hts, rfl⟩ := Option.map_eq_some_iff.mp h
  simp only [Query.lexemes, SingularQuery.lexemes, Query.anchor_mk]
  congr 1
  rw [Query.segments_mk] at hts
  -- the two lists of segments differ in their types only, so they are walked together
  clear h
  induction ss generalizing ts with
  | nil =>
    cases hts
    simp [Segment.lexemesAll]
  | cons s ss ih =>
    obtain ⟨t, more, ht, hmore, rfl⟩ := Segment.allSingular?_cons_eq_some.mp hts
    rw [Segment.lexemesAll, List.flatMap_cons, ih more hmore,
      SingularSelector.lexemes_of_singular? ht]

/-- The segment of a single selector. -/
def SingularSelector.segment : SingularSelector → Segment
  | name n => .child [.name n]
  | index i => .child [.index i]

/-- The query that a singular query is the form of. -/
def SingularQuery.query (s : SingularQuery) : Query :=
  .mk s.anchor (s.selectors.map SingularSelector.segment)

/-- The query that a singular query is the form of has that form. -/
theorem SingularQuery.singular?_query (s : SingularQuery) : s.query.singular? = some s := by
  have hselectors : ∀ ts : List SingularSelector,
      Segment.allSingular? (ts.map SingularSelector.segment) = some ts := by
    intro ts
    induction ts with
    | nil => rfl
    | cons t ts ih =>
      have ht : t.segment.singular? = some t := by cases t <;> rfl
      exact Segment.allSingular?_cons_eq_some.mpr ⟨t, ts, ht, ih, rfl⟩
  rw [Query.singular?, query, Query.segments_mk, hselectors]
  rfl

/-- The lexemes of a singular selector derive its segment. -/
theorem SingularSelector.derives {r : Registry} {t : SingularSelector}
    (h : ∀ i, t = .index i → InIndexRange i.toInt) (rest : List Lexeme) :
    Derives r .segment (t.lexemes ++ rest) t.segment rest := by
  cases t with
  | name n => exact .brackets (.lastSelector (.absent _) (.name n _) (.absent _))
  | index i =>
    have hindex := integerLexeme_index (h i rfl)
    exact .brackets (.lastSelector (.absent _) (.index hindex _) (.absent _))

/-- The lexemes of singular selectors derive their segments. -/
theorem SingularSelector.derivesAll {r : Registry} {ts : List SingularSelector}
    (h : ∀ i, .index i ∈ ts → InIndexRange i.toInt) (rest : List Lexeme) :
    Derives r .segments (ts.flatMap lexemes ++ rest) (ts.map segment) rest := by
  induction ts with
  | nil => exact .noSegment rest
  | cons t ts ih =>
    have hfirst : ∀ i, t = .index i → InIndexRange i.toInt :=
      fun i hi => h i (List.mem_cons.mpr (.inl hi.symm))
    have hrest := ih fun i hi => h i (List.mem_cons_of_mem t hi)
    rw [List.flatMap_cons, List.append_assoc]
    exact .nextSegment (.absent _) (derives hfirst _) hrest

/-- **The lexemes of a singular query** derive the query that it is the form of. -/
theorem SingularQuery.derives {r : Registry} {s : SingularQuery} (h : s.WellFormed)
    (rest : List Lexeme) : Derives r .query (s.lexemes ++ rest) s.query rest :=
  .query s.anchor (SingularSelector.derivesAll h rest)

/-! ## Trees -/

section Trees

-- what the printer has to keep to is used at the literals only, which the others reach in turn
set_option linter.unusedSectionVars false

variable {r : Registry} [FloatPrinter] [LawfulFloatPrinter]

mutual

/-- **The lexemes of a selector derive it.** -/
theorem Selector.derives : ∀ s : Selector, s.WellFormed r → ∀ rest,
    Derives r .selector (s.lexemes ++ rest) s rest
  | .name n, _, rest => by
    rw [Selector.lexemes]
    exact .name n rest
  | .wildcard, _, rest => by
    rw [Selector.lexemes]
    exact .wildcard rest
  | .index i, h, rest => by
    rw [Selector.WellFormed] at h
    rw [Selector.lexemes]
    exact .index (integerLexeme_index h) rest
  | .slice s, h, rest => by
    rw [Selector.WellFormed] at h
    rw [Selector.lexemes]
    exact Slice.derives h rest
  | .filter f, h, rest => by
    rw [Selector.WellFormed] at h
    rw [Selector.lexemes, List.cons_append]
    exact .filter (.absent _) (Formula.derives f h.1 h.2 rest)

/-- The lexemes of selectors derive them, if there are any. -/
theorem Selector.derivesAll : ∀ ss : List Selector, ss ≠ [] → Selector.AllWellFormed r ss →
    ∀ rest, Derives r .selectors (Selector.lexemesAll ss ++ rest) ss rest
  | [], hne, _, _ => absurd rfl hne
  | [s], _, h, rest => by
    rw [Selector.AllWellFormed] at h
    rw [Selector.lexemesAll]
    exact .lastSelector (.absent _) (s.derives h.1 rest) (.absent rest)
  | s :: t :: ss, _, h, rest => by
    rw [Selector.AllWellFormed] at h
    rw [Selector.lexemesAll_cons s (List.cons_ne_nil t ss), List.append_assoc, List.cons_append]
    exact .nextSelector (.absent _) (s.derives h.1 _) (.absent _)
      (Selector.derivesAll (t :: ss) (List.cons_ne_nil t ss) h.2 rest)

/-- The lexemes of a segment derive it. All segments are written with brackets. -/
theorem Segment.derives : ∀ s : Segment, s.WellFormed r → ∀ rest,
    Derives r .segment (s.lexemes ++ rest) s rest
  | .child ss, h, rest => by
    rw [Segment.WellFormed] at h
    rw [Segment.lexemes, List.cons_append, List.append_assoc]
    exact .brackets (Selector.derivesAll ss h.1 h.2 _)
  | .descendant ss, h, rest => by
    rw [Segment.WellFormed] at h
    simp only [Segment.lexemes, List.cons_append, List.append_assoc]
    exact .dotsBrackets (Selector.derivesAll ss h.1 h.2 _)

/-- The lexemes of segments derive them. -/
theorem Segment.derivesAll : ∀ ss : List Segment, Segment.AllWellFormed r ss →
    ∀ rest, Derives r .segments (Segment.lexemesAll ss ++ rest) ss rest
  | [], _, rest => by
    rw [Segment.lexemesAll]
    exact .noSegment rest
  | s :: ss, h, rest => by
    rw [Segment.AllWellFormed] at h
    rw [Segment.lexemesAll, List.append_assoc]
    exact .nextSegment (.absent _) (s.derives h.1 _) (Segment.derivesAll ss h.2 rest)

/-- **The lexemes of a query derive it.** -/
theorem Query.derives : ∀ q : Query, q.WellFormed r → ∀ rest,
    Derives r .query (q.lexemes ++ rest) q rest
  | .mk anchor ss, h, rest => by
    rw [Query.WellFormed] at h
    rw [Query.lexemes, List.cons_append]
    exact .query anchor (Segment.derivesAll ss h rest)

/-- **The lexemes of a formula derive it**, if it has a branch. -/
theorem Formula.derives : ∀ f : List (List Condition), f ≠ [] → Formula.AllWellFormed r f →
    ∀ rest, Derives r .formula (Formula.lexemes f ++ rest) f rest
  | [], hne, _, _ => absurd rfl hne
  | [c], _, h, rest => by
    rw [Formula.AllWellFormed] at h
    rw [Formula.lexemes]
    exact .lastBranch (Condition.derivesAll c h.1.1 h.1.2 rest)
  | c :: d :: f, _, h, rest => by
    rw [Formula.AllWellFormed] at h
    simp only [Formula.lexemes_cons c (List.cons_ne_nil d f), spaced, List.append_assoc,
      List.cons_append]
    exact .nextBranch (Condition.derivesAll c h.1.1 h.1.2 _) (.present _ _) (.present _ _)
      (Formula.derives (d :: f) (List.cons_ne_nil d f) h.2 rest)

/-- The lexemes of conditions derive their conjunction, if there are any. -/
theorem Condition.derivesAll : ∀ cs : List Condition, cs ≠ [] → Condition.AllWellFormed r cs →
    ∀ rest, Derives r .conjunction (Condition.lexemesAll cs ++ rest) cs rest
  | [], hne, _, _ => absurd rfl hne
  | [c], _, h, rest => by
    rw [Condition.AllWellFormed] at h
    rw [Condition.lexemesAll]
    exact .lastCondition (c.derives h.1 rest)
  | c :: d :: cs, _, h, rest => by
    rw [Condition.AllWellFormed] at h
    simp only [Condition.lexemesAll_cons c (List.cons_ne_nil d cs), spaced, List.append_assoc,
      List.cons_append]
    exact .nextCondition (c.derives h.1 _) (.present _ _) (.present _ _)
      (Condition.derivesAll (d :: cs) (List.cons_ne_nil d cs) h.2 rest)

/-- The lexemes of a condition derive it. -/
theorem Condition.derives : ∀ c : Condition, c.WellFormed r → ∀ rest,
    Derives r .condition (c.lexemes ++ rest) c rest
  | .query negated q, h, rest => by
    rw [Condition.WellFormed] at h
    rw [Condition.lexemes]
    cases negated with
    | false => exact .testQuery (q.derives h rest)
    | true => exact .notQuery (.absent _) (q.derives h rest)
  | .group negated f, h, rest => by
    rw [Condition.WellFormed] at h
    have hformula := Formula.derives f h.1 h.2 (.punctuation ')' :: rest)
    have hgroup := Derives.group (.absent _) hformula (.absent _)
    simp only [Condition.lexemes, List.append_assoc, List.cons_append]
    cases negated with
    | false => exact .testGroup hgroup
    | true => exact .notGroup (.absent _) hgroup
  | .compare a op b, h, rest => by
    rw [Condition.WellFormed] at h
    simp only [Condition.lexemes, spaced, List.append_assoc, List.cons_append]
    exact .compare (a.derives h.1 _) (.present _ _) (.present _ _) (b.derives h.2 rest)
  | .call negated c, h, rest => by
    rw [Condition.WellFormed] at h
    -- a call that answers a value is no condition
    have hresult : c.result ≠ .value := by
      rcases h.2 with h | h <;> simp [h]
    rw [Condition.lexemes]
    cases negated with
    | false => exact .testCall (c.derives h.1 rest) hresult
    | true => exact .notCall (.absent _) (c.derives h.1 rest) hresult

/-- The lexemes of a side of a comparison derive it. -/
theorem Operand.derives : ∀ o : Operand, o.WellFormed r → ∀ rest,
    Derives r .operand (o.lexemes ++ rest) o rest
  | .literal v, h, rest => by
    rw [Operand.WellFormed] at h
    obtain ⟨l, hl, hliteral⟩ := h.lexeme
    rw [Operand.lexemes, hl]
    exact .literalOperand hliteral rest
  | .singular s, h, rest => by
    rw [Operand.WellFormed] at h
    rw [Operand.lexemes]
    exact .queryOperand (s.derives h rest) s.singular?_query
  | .call c, h, rest => by
    rw [Operand.WellFormed] at h
    rw [Operand.lexemes]
    exact .callOperand (c.derives h.1 rest) h.2

/-- **The lexemes of a call derive it**: its function is found under its name and accepts its
arguments. -/
theorem Call.derives : ∀ c : Call, c.WellFormed r → ∀ rest,
    Derives r .call (c.lexemes ++ rest) c rest
  | .mk callee xs, h, rest => by
    rw [Call.WellFormed] at h
    obtain ⟨⟨f, found, rfl, valid⟩, hxs⟩ := h
    simp only [Call.lexemes, List.cons_append, List.append_assoc]
    -- the grammar has a production of its own for a call without arguments
    by_cases hne : xs = []
    · subst hne
      rw [Argument.lexemesAll]
      exact .bareCall found (.absent _) valid
    · exact .call found (Argument.derivesAll xs hne hxs _) valid

/-- The lexemes of arguments derive them, if there are any. -/
theorem Argument.derivesAll : ∀ xs : List Argument, xs ≠ [] → Argument.AllWellFormed r xs →
    ∀ rest, Derives r .arguments (Argument.lexemesAll xs ++ rest) xs rest
  | [], hne, _, _ => absurd rfl hne
  | [x], _, h, rest => by
    rw [Argument.AllWellFormed] at h
    rw [Argument.lexemesAll]
    exact .lastArgument (.absent _) (x.derives h.1 rest) (.absent rest)
  | x :: y :: xs, _, h, rest => by
    rw [Argument.AllWellFormed] at h
    rw [Argument.lexemesAll_cons x (List.cons_ne_nil y xs), List.append_assoc, List.cons_append]
    exact .nextArgument (.absent _) (x.derives h.1 _) (.absent _)
      (Argument.derivesAll (y :: xs) (List.cons_ne_nil y xs) h.2 rest)

/-- The lexemes of an argument derive it, as an argument of the same kind. -/
theorem Argument.derives : ∀ x : Argument, x.WellFormed r → ∀ rest,
    Derives r .argument (x.lexemes ++ rest) x rest
  | .literal v, h, rest => by
    rw [Argument.WellFormed] at h
    obtain ⟨l, hl, hliteral⟩ := h.lexeme
    rw [Argument.lexemes, hl]
    exact .literalArgument hliteral rest
  | .singular s, h, rest => by
    rw [Argument.WellFormed] at h
    rw [Argument.lexemes]
    exact .singularArgument (s.derives h rest) s.singular?_query
  | .query q, h, rest => by
    rw [Argument.WellFormed] at h
    -- a singular query would be an argument of another kind
    have plural : q.singular? = none := by
      rw [← Option.not_isSome_iff_eq_none, q.isSome_singular?, h.2]
      exact Bool.false_ne_true
    rw [Argument.lexemes]
    exact .queryArgument (q.derives h.1 rest) plural
  | .formula f, h, rest => by
    rw [Argument.WellFormed] at h
    rw [Argument.lexemes]
    exact .formulaArgument (Formula.derives f h.1.1 h.1.2 rest) h.2
  | .call c, h, rest => by
    rw [Argument.WellFormed] at h
    rw [Argument.lexemes]
    exact .callArgument (c.derives h rest)

end

end Trees

/-! ## Phrases -/

/-- **The canonical lexemes of a derived tree derive it again**, whatever stands behind
them. -/
theorem Derives.canonical [FloatPrinter] [LawfulFloatPrinter] {r : Registry} {p : Phrase}
    {a b : List Lexeme} {x : p.Tree}
    (h : Derives r p a x b) (hp : p ≠ .path) (rest : List Lexeme) :
    Derives r p (p.lexemes x ++ rest) x rest := by
  -- what was derived is well formed, which is all that its own lexemes need
  have hx := h.wellFormed
  cases p with
  | path => exact absurd rfl hp
  | segments => exact Segment.derivesAll x hx rest
  | segment => exact Segment.derives x hx rest
  | selectors => exact Selector.derivesAll x hx.1 hx.2 rest
  | selector => exact Selector.derives x hx rest
  | formula => exact Formula.derives x hx.1 hx.2 rest
  | conjunction => exact Condition.derivesAll x hx.1 hx.2 rest
  | condition => exact Condition.derives x hx rest
  | group =>
    have hformula := Formula.derives x hx.1 hx.2 (.punctuation ')' :: rest)
    simp only [Phrase.lexemes, List.cons_append, List.append_assoc]
    exact .group (.absent _) hformula (.absent _)
  | query => exact Query.derives x hx rest
  | call => exact Call.derives x hx rest
  -- a list of arguments is derived when it is not empty
  | arguments => exact Argument.derivesAll x h.arguments_ne_nil hx rest
  | operand => exact Operand.derives x hx rest
  | argument => exact Argument.derives x hx rest

end JsonQuery
