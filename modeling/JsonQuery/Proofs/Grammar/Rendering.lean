import JsonQuery.Proofs.Grammar.Canonical
import JsonQuery.Proofs.Token.Legible

/-
Canonical texts compile to the queries they are texts of.

The canonical lexemes of a derived tree are legible (`Derives.legible`): where a number,
a name or blank space stands, what comes next in a phrase ends it. So the tokens of a
canonical text are the canonical lexemes, and these derive the query again.

The one name that is not read back is that of a function called like a keyword, which a
registry may hold.
-/

set_option autoImplicit false

namespace JsonQuery

/-! ## What ends a lexeme -/

/-- Whether what follows ends every lexeme before it. -/
def Closes (ls : List Lexeme) : Prop :=
  ∀ l ∈ ls.head?, l = .blank " " ∨ ∃ ch ∈ [',', ':', ']', ')'], l = .punctuation ch

section Closing

variable {ls : List Lexeme}

/-- Separators and closing brackets go on with no number and no name. -/
theorem closes_cons {ch : Char} (hch : ch ∈ [',', ':', ']', ')']) (ls : List Lexeme) :
    Closes (.punctuation ch :: ls) := by
  rintro l ⟨⟩
  exact .inr ⟨ch, hch, rfl⟩

theorem closes_blank (ls : List Lexeme) : Closes (.blank " " :: ls) := by
  rintro l ⟨⟩
  exact .inl rfl

/-- The text of what ends a lexeme begins with blank space or a closing sign. -/
theorem Closes.head (h : Closes ls) :
    ∀ c ∈ (spelled ls).head?, c ∈ [' ', ',', ':', ']', ')'] := by
  cases ls with
  | nil => nofun
  | cons l ls =>
    intro c hc
    rcases h l rfl with rfl | ⟨ch, hch, rfl⟩
    · cases hc
      exact List.mem_cons_self
    · cases hc
      exact List.mem_cons_of_mem _ hch

theorem Closes.numeral (h : Closes ls) : Numeral.Ends (spelled ls) := by
  intro c hc
  have hmem := h.head c hc
  simp only [List.mem_cons, List.not_mem_nil, or_false] at hmem
  rcases hmem with rfl | rfl | rfl | rfl | rfl <;>
  decide

theorem Closes.name (h : Closes ls) : EndsName (spelled ls) := by
  intro c hc
  have hmem := h.head c hc
  simp only [List.mem_cons, List.not_mem_nil, or_false] at hmem
  rcases hmem with rfl | rfl | rfl | rfl | rfl <;>
  decide

end Closing

/-! ## Legible lexemes -/

/-- A lexeme other than blank space does not begin with blank space. -/
theorem Lexeme.ReadsBack.head_solid {l : Lexeme} {behind : List Char} (h : l.ReadsBack behind)
    (hl : l.isBlank = false) : ∀ c ∈ (l.spelling ++ behind).head?, JsonQuery.isBlank c = false := by
  intro c hc
  rw [← Bool.not_eq_true]
  intro hblank
  have hread := h.2 ⟨0, l.spelling ++ behind⟩ rfl
  obtain ⟨cs, hcs⟩ : ∃ cs, l.spelling ++ behind = c :: cs := List.head?_eq_some_iff.mp hc
  simp only [Cursor.lexeme, hcs, hblank, if_true] at hread
  -- a blank character would have been read as blank space
  have heq : (Cursor.mk 0 (c :: cs)).blank.1 = l := congrArg Prod.fst (Except.ok.inj hread)
  rw [← heq] at hl
  cases hl

theorem legible_punctuation {ch : Char} (hch : isSign ch = true) {ls : List Lexeme}
    (h : Legible ls) : Legible (.punctuation ch :: ls) :=
  ⟨punctuation_readsBack hch _, h⟩

/-- Signs before a legible text are legible. -/
theorem legible_signs (chars : List Char) (hchars : chars.all isSign = true)
    {ls : List Lexeme} (h : Legible ls) : Legible (chars.map Lexeme.punctuation ++ ls) := by
  induction chars with
  | nil => exact h
  | cons ch chars ih =>
    rw [List.all_cons, Bool.and_eq_true] at hchars
    exact legible_punctuation hchars.1 (ih hchars.2)

/-- An index is legible where its digits end. -/
theorem legible_index {i : Int64} {ls : List Lexeme} (h : Legible ls) (hcloses : Closes ls) :
    Legible (indexLexeme i :: ls) :=
  ⟨numeral_readsBack (Numeral.wellFormed_ofInt _) hcloses.numeral, h⟩

theorem legible_bound {o : Option Int64} {ls : List Lexeme} (h : Legible ls)
    (hcloses : Closes ls) : Legible (o.toList.map indexLexeme ++ ls) := by
  cases o with
  | none => exact h
  | some i => exact legible_index h hcloses

theorem legible_slice (s : Slice) {ls : List Lexeme} (h : Legible ls) (hcloses : Closes ls) :
    Legible (s.lexemes ++ ls) := by
  have hcolon : Closes (.punctuation ':' :: ls) := closes_cons (by decide) ls
  -- every bound ends before a colon or where the slice does
  unfold Slice.lexemes
  simp only [List.append_assoc]
  cases s.step with
  | none => exact legible_bound (legible_punctuation rfl (legible_bound h hcloses)) hcolon
  | some step =>
    have hstep : Legible (.punctuation ':' :: indexLexeme step :: ls) :=
      legible_punctuation rfl (legible_index h hcloses)
    exact legible_bound (legible_punctuation rfl (legible_bound hstep hcolon)) hcolon

/-- **Operator signs stand between blank space**, if what follows is none. -/
theorem legible_spaced {ch : Char} {chars : List Char}
    (hchars : (ch :: chars).all isSign = true) {l : Lexeme} {ls : List Lexeme}
    (h : Legible (l :: ls)) (hl : l.isBlank = false) :
    Legible (spaced (ch :: chars) ++ l :: ls) := by
  have hbehind : Legible (.blank " " :: l :: ls) := ⟨blank_readsBack (h.1.head_solid hl), h⟩
  have hsigns := legible_signs _ hchars hbehind
  have hsign := List.all_eq_true.mp hchars ch List.mem_cons_self
  have hsolid : JsonQuery.isBlank ch = false := by
    simp only [isSign, Bool.not_eq_true', Bool.or_eq_false_iff] at hsign
    exact hsign.1.1.1.1.1.1
  simp only [spaced, List.map_cons, List.cons_append, List.append_assoc,
    List.nil_append] at hsigns ⊢
  refine ⟨blank_readsBack ?_, hsigns⟩
  rintro c ⟨⟩
  exact hsolid

/-- A literal is read back where it ends. -/
theorem LiteralLexeme.legible [FloatPrinter] [LawfulFloatPrinter] {l : Lexeme} {v : Json}
    (h : LiteralLexeme l v) {ls : List Lexeme} (hls : Legible ls) (hcloses : Closes ls) :
    Legible (v.lexemes ++ ls) := by
  have hword (c : Char) (name : List Char) (hc : c.isLower = true)
      (hname : name.all isNameChar = true) : Legible (nameLexeme (c :: name) :: ls) :=
    ⟨nameLexeme_readsBack hc (List.all_eq_true.mp hname) hcloses.name, hls⟩
  cases h with
  | string s =>
    simp only [Json.lexemes]
    exact ⟨string_readsBack s _, hls⟩
  | yes =>
    simp only [Json.lexemes]
    exact hword 't' ['r', 'u', 'e'] rfl rfl
  | no =>
    simp only [Json.lexemes]
    exact hword 'f' ['a', 'l', 's', 'e'] rfl rfl
  | null =>
    simp only [Json.lexemes]
    exact hword 'n' ['u', 'l', 'l'] rfl rfl
  | integer =>
    simp only [Json.lexemes, Number.numeral]
    exact ⟨numeral_readsBack (Numeral.wellFormed_ofInt _) hcloses.numeral, hls⟩
  | negativeZero | float =>
    simp only [Json.lexemes, Number.numeral]
    exact ⟨numeral_readsBack (LawfulFloatPrinter.wellFormed_numeral _) hcloses.numeral, hls⟩

/-! ## Function names -/

/-- **Whether no function is called like a keyword.** -/
def Registry.NamesLegible (r : Registry) : Prop :=
  ∀ f ∈ r.functions, f.name ≠ "true" ∧ f.name ≠ "false" ∧ f.name ≠ "null"

/-- No standard function is. -/
theorem Registry.namesLegible_standard (engine : Engine) : (standard engine).NamesLegible := by
  intro f hf
  have hnames : ∀ name ∈ Standard.names, name ≠ "true" ∧ name ≠ "false" ∧ name ≠ "null" := by
    decide
  exact hnames f.name (Standard.name_mem_names hf)

/-- **A name that functions can have is read back before its parenthesis**, as a keyword if
it is one. -/
theorem functionName_readsBack {name : String} (h : isFunctionName name = true)
    (ls : List Lexeme) :
    (nameLexeme name.toList).ReadsBack (spelled (.punctuation '(' :: ls)) := by
  unfold isFunctionName at h
  split at h
  · cases h
  · rename_i c cs hname
    rw [Bool.and_eq_true, List.all_eq_true] at h
    have hchars : ∀ d ∈ cs, isNameChar d = true := by
      intro d hd
      have hallowed := h.2 d hd
      simp only [Bool.or_eq_true, beq_iff_eq] at hallowed
      rcases hallowed with (hlower | hdigit) | hline
      · simp [isNameChar, isNameStart, isAlpha_of_isLower hlower]
      · simp [isNameChar, hdigit]
      · simp [isNameChar, isNameStart, hline]
    have hopen : EndsName (spelled (.punctuation '(' :: ls)) := by
      rintro d ⟨⟩
      decide
    rw [hname]
    exact nameLexeme_readsBack h.1 hchars hopen

/-- A name that is no bare word is an identifier. -/
theorem nameLexeme_eq_identifier {name : String} (h : Keyword.ofText? name.toList = none) :
    nameLexeme name.toList = .identifier name := by
  rw [nameLexeme, h, String.ofList_toList]

/-- The name of a function that is called is read back before its parenthesis. -/
theorem legible_call {r : Registry} (hr : r.NamesLegible) {name : String} {f : Function}
    (found : r.lookup name = some f) {ls : List Lexeme}
    (h : Legible (.punctuation '(' :: ls)) :
    Legible (.identifier f.callee.name :: .punctuation '(' :: ls) := by
  have hmem := List.mem_of_find?_eq_some found
  obtain ⟨hyes, hno, hnull⟩ := hr f hmem
  have hne (s : List Char) (hs : f.name ≠ String.ofList s) : f.name.toList ≠ s := by
    rintro rfl
    exact hs String.ofList_toList.symm
  -- this is where a function called like a keyword would go wrong
  have hkeyword : Keyword.ofText? f.name.toList = none := by
    unfold Keyword.ofText?
    rw [if_neg (hne _ hyes), if_neg (hne _ hno), if_neg (hne _ hnull)]
  have hread := functionName_readsBack (r.names_valid f hmem) ls
  rw [nameLexeme_eq_identifier hkeyword] at hread
  exact ⟨hread, h⟩

/-! ## Phrases -/

/-- Whether the lexemes of a phrase end only with what stands behind them. -/
def Phrase.isOpen : Phrase → Bool
  | .segments | .segment | .group | .query | .call => false
  | _ => true

/-- Operator signs end what stands before them. -/
theorem closes_spaced (chars : List Char) (ls : List Lexeme) : Closes (spaced chars ++ ls) :=
  closes_blank _

section Printing

variable [FloatPrinter] [LawfulFloatPrinter]

/-- Operator signs stand before the canonical lexemes of a tight phrase. -/
theorem Derives.legible_spaced {r : Registry} {p : Phrase} {a b rest : List Lexeme}
    {x : p.Tree} (h : Derives r p a x b) (hp : p ≠ .path) (htight : p.isTight = true)
    {ch : Char} {chars : List Char} (hchars : (ch :: chars).all isSign = true)
    (hlegible : Legible (p.lexemes x ++ rest)) :
    Legible (spaced (ch :: chars) ++ (p.lexemes x ++ rest)) := by
  obtain ⟨l, c, heq, hl, -⟩ := (h.canonical hp rest).head htight
  rw [heq] at hlegible ⊢
  exact JsonQuery.legible_spaced hchars hlegible hl

/-- **The canonical lexemes of a derived tree are legible.** -/
theorem Derives.legible {r : Registry} (hr : r.NamesLegible) {p : Phrase} {a b : List Lexeme}
    {x : p.Tree} (h : Derives r p a x b) (hp : p ≠ .path) {rest : List Lexeme}
    (hrest : Legible rest) (hcloses : p.isOpen = true → Closes rest) :
    Legible (p.lexemes x ++ rest) := by
  induction h generalizing rest with
  | path => exact absurd rfl hp
  | noSegment =>
    simp only [Phrase.lexemes, Segment.lexemesAll, List.nil_append]
    exact hrest
  | nextSegment _ _ _ ihFirst ihRest =>
    simp only [Phrase.lexemes, Segment.lexemesAll, List.append_assoc]
    have hmore := ihRest (by decide) hrest (absurd · (by decide))
    exact ihFirst (by decide) hmore (absurd · (by decide))
  | dotName =>
    simp only [Phrase.lexemes, Segment.lexemes, Selector.lexemesAll, Selector.lexemes]
    exact legible_punctuation rfl ⟨string_readsBack _ _, legible_punctuation rfl hrest⟩
  | dotWildcard =>
    simp only [Phrase.lexemes, Segment.lexemes, Selector.lexemesAll, Selector.lexemes]
    exact legible_signs ['[', '*', ']'] rfl hrest
  | dotsName =>
    simp only [Phrase.lexemes, Segment.lexemes, Selector.lexemesAll, Selector.lexemes]
    exact legible_signs ['.', '.', '['] rfl
      ⟨string_readsBack _ _, legible_punctuation rfl hrest⟩
  | dotsWildcard =>
    simp only [Phrase.lexemes, Segment.lexemes, Selector.lexemesAll, Selector.lexemes]
    exact legible_signs ['.', '.', '[', '*', ']'] rfl hrest
  | dotsBrackets _ ih =>
    simp only [Phrase.lexemes, Segment.lexemes, List.cons_append, List.append_assoc]
    exact legible_signs ['.', '.', '['] rfl
      (ih (by decide) (legible_punctuation rfl hrest) fun _ => closes_cons (by decide) _)
  | brackets _ ih =>
    simp only [Phrase.lexemes, Segment.lexemes, List.cons_append, List.append_assoc]
    exact legible_punctuation rfl
      (ih (by decide) (legible_punctuation rfl hrest) fun _ => closes_cons (by decide) _)
  | lastSelector _ _ _ ih =>
    simp only [Phrase.lexemes, Selector.lexemesAll]
    exact ih (by decide) hrest fun _ => hcloses rfl
  | nextSelector _ _ _ hselectors ihFirst ihRest =>
    simp only [Phrase.lexemes, Selector.lexemesAll_cons _ hselectors.selectors_ne_nil,
      List.append_assoc, List.cons_append]
    have hmore := ihRest (by decide) hrest fun _ => hcloses rfl
    exact ihFirst (by decide) (legible_punctuation rfl hmore) fun _ => closes_cons (by decide) _
  | name =>
    simp only [Phrase.lexemes, Selector.lexemes]
    exact ⟨string_readsBack _ _, hrest⟩
  | wildcard =>
    simp only [Phrase.lexemes, Selector.lexemes]
    exact legible_punctuation rfl hrest
  | index =>
    simp only [Phrase.lexemes, Selector.lexemes]
    exact legible_index hrest (hcloses rfl)
  | slice =>
    simp only [Phrase.lexemes, Selector.lexemes]
    exact legible_slice _ hrest (hcloses rfl)
  | filter _ _ ih =>
    simp only [Phrase.lexemes, Selector.lexemes, List.cons_append]
    exact legible_punctuation rfl (ih (by decide) hrest fun _ => hcloses rfl)
  | lastBranch _ ih =>
    simp only [Phrase.lexemes, Formula.lexemes]
    exact ih (by decide) hrest fun _ => hcloses rfl
  | nextBranch _ _ _ hformula ihFirst ihRest =>
    simp only [Phrase.lexemes, Formula.lexemes_cons _ hformula.formula_ne_nil, List.append_assoc]
    have hmore := ihRest (by decide) hrest fun _ => hcloses rfl
    exact ihFirst (by decide) (hformula.legible_spaced (by decide) rfl rfl hmore)
      fun _ => closes_spaced _ _
  | lastCondition _ ih =>
    simp only [Phrase.lexemes, Condition.lexemesAll]
    exact ih (by decide) hrest fun _ => hcloses rfl
  | nextCondition _ _ _ hconjunction ihFirst ihRest =>
    simp only [Phrase.lexemes, Condition.lexemesAll_cons _ hconjunction.conjunction_ne_nil,
      List.append_assoc]
    have hmore := ihRest (by decide) hrest fun _ => hcloses rfl
    exact ihFirst (by decide) (hconjunction.legible_spaced (by decide) rfl rfl hmore)
      fun _ => closes_spaced _ _
  | testQuery _ ih | testGroup _ ih | testCall _ _ ih =>
    simp only [Phrase.lexemes, Condition.lexemes]
    exact ih (by decide) hrest (absurd · (by decide))
  | notQuery _ _ ih | notGroup _ _ ih | notCall _ _ _ ih =>
    simp only [Phrase.lexemes, Condition.lexemes]
    exact legible_punctuation rfl (ih (by decide) hrest (absurd · (by decide)))
  | @compare _ _ _ _ _ _ _ op _ _ _ hsecond ihFirst ihSecond =>
    simp only [Phrase.lexemes, Condition.lexemes, List.append_assoc]
    have hmore := ihSecond (by decide) hrest fun _ => hcloses rfl
    refine ihFirst (by decide) ?_ fun _ => closes_spaced _ _
    cases op <;>
    exact hsecond.legible_spaced (by decide) rfl rfl hmore
  | group _ _ _ ih =>
    simp only [Phrase.lexemes, List.cons_append, List.append_assoc]
    exact legible_punctuation rfl
      (ih (by decide) (legible_punctuation rfl hrest) fun _ => closes_cons (by decide) _)
  | query anchor _ ih =>
    simp only [Phrase.lexemes, Query.lexemes, List.cons_append]
    have hmore := ih (by decide) hrest (absurd · (by decide))
    cases anchor <;>
    exact legible_punctuation rfl hmore
  | bareCall found =>
    simp only [Phrase.lexemes, Call.lexemes, Argument.lexemesAll]
    exact legible_call hr found (legible_signs ['(', ')'] rfl hrest)
  | call found _ _ ih =>
    simp only [Phrase.lexemes, Call.lexemes, List.cons_append, List.append_assoc]
    have hclosed : Legible (.punctuation ')' :: _) := legible_punctuation rfl hrest
    have hmore := ih (by decide) hclosed fun _ => closes_cons (by decide) _
    exact legible_call hr found (legible_punctuation rfl hmore)
  | lastArgument _ _ _ ih =>
    simp only [Phrase.lexemes, Argument.lexemesAll]
    exact ih (by decide) hrest fun _ => hcloses rfl
  | nextArgument _ _ _ harguments ihFirst ihRest =>
    simp only [Phrase.lexemes, Argument.lexemesAll_cons _ harguments.arguments_ne_nil,
      List.append_assoc, List.cons_append]
    have hmore := ihRest (by decide) hrest fun _ => hcloses rfl
    exact ihFirst (by decide) (legible_punctuation rfl hmore) fun _ => closes_cons (by decide) _
  | literalOperand literal =>
    simp only [Phrase.lexemes, Operand.lexemes]
    exact literal.legible hrest (hcloses rfl)
  | queryOperand _ singular ih =>
    simp only [Phrase.lexemes, Operand.lexemes, SingularQuery.lexemes_of_singular? singular]
    exact ih (by decide) hrest (absurd · (by decide))
  | callOperand _ _ ih =>
    simp only [Phrase.lexemes, Operand.lexemes]
    exact ih (by decide) hrest (absurd · (by decide))
  | literalArgument literal =>
    simp only [Phrase.lexemes, Argument.lexemes]
    exact literal.legible hrest (hcloses rfl)
  | singularArgument _ singular ih =>
    simp only [Phrase.lexemes, Argument.lexemes, SingularQuery.lexemes_of_singular? singular]
    exact ih (by decide) hrest (absurd · (by decide))
  | queryArgument _ _ ih | callArgument _ ih =>
    simp only [Phrase.lexemes, Argument.lexemes]
    exact ih (by decide) hrest (absurd · (by decide))
  | formulaArgument _ _ ih =>
    simp only [Phrase.lexemes, Argument.lexemes]
    exact ih (by decide) hrest fun _ => hcloses rfl

/-! ## Texts -/

/-- **The tokens of a canonical text are a path that stands for the query.** -/
theorem Derives.path_text {r : Registry} (hr : r.NamesLegible) {a b : List Lexeme} {q : Query}
    (h : Derives r .path a q b) : Derives r .path (lexemes (tokenize q.text)) q [] := by
  cases h with
  | @path _ ss segments =>
    have hlegible : Legible (Query.lexemes (.mk .root ss)) := by
      have hend : Legible [] := trivial
      have hsegments := segments.legible hr nofun hend nofun
      rw [List.append_nil] at hsegments
      simp only [Query.lexemes]
      exact legible_punctuation rfl hsegments
    rw [Query.text, tokenize_spell hlegible, Query.lexemes, List.cons_append]
    exact .path (segments.canonical nofun [.endOfInput])

/-- **A canonical text compiles to the query that it is the text of**, functions and
literals included. -/
theorem Compiler.compile_canonical {c : Compiler} (hc : c.registry.NamesLegible) {text : String}
    {q : Query} (h : c.compile text = .ok q) : c.compile q.text = .ok q := by
  obtain ⟨hpath, hnest⟩ := derives_of_compile h
  exact compile_of_derives (hpath.path_text hc) hnest

/-! ## Well-formed queries -/

/-- **A well-formed query from the root is derived from its canonical text.** -/
theorem Query.derives_text {r : Registry} (hr : r.NamesLegible) {q : Query}
    (hroot : q.anchor = .root) (hq : q.WellFormed r) :
    Derives r .path (JsonQuery.lexemes (tokenize q.text)) q [] := by
  obtain ⟨anchor, ss⟩ := q
  rw [anchor_mk] at hroot
  subst hroot
  rw [Query.WellFormed] at hq
  exact (Derives.path (Segment.derivesAll ss hq [.endOfInput])).path_text hr

/-- **Well-formed queries from the root are told apart by their canonical texts.** -/
theorem Query.eq_of_text_eq {r : Registry} (hr : r.NamesLegible) {p q : Query}
    (hproot : p.anchor = .root) (hp : p.WellFormed r) (hqroot : q.anchor = .root)
    (hq : q.WellFormed r) (htext : p.text = q.text) : p = q := by
  have hderives := derives_text hr hproot hp
  rw [htext] at hderives
  exact hderives.path_unique (derives_text hr hqroot hq)

end Printing

/-- **What texts compile to** are the well-formed queries from the root that nest within the
limit, all of them. -/
theorem Compiler.exists_compile_iff {c : Compiler} (hc : c.registry.NamesLegible) (q : Query) :
    (∃ text, c.compile text = .ok q)
      ↔ q.anchor = .root ∧ q.WellFormed c.registry ∧ q.nesting ≤ c.limit := by
  constructor
  · rintro ⟨text, h⟩
    obtain ⟨hpath, hnest⟩ := derives_of_compile h
    exact ⟨hpath.path_anchor, hpath.wellFormed, hnest⟩
  · rintro ⟨hroot, hq, hnest⟩
    exact ⟨q.text, compile_of_derives (Query.derives_text hc hroot hq) hnest⟩

end JsonQuery
