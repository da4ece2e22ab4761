import JsonQuery.Proofs.Grammar.Derivation
import JsonQuery.Proofs.Outcome

/-
What a rule sees of the tokens in front of it.

Rules look at one or two tokens and drop blank space, and both are told here in
terms of the lexemes, which is all the grammar knows of. Dropping blank space twice
is dropping it once where blank tokens do not repeat (`skipBlank_skipBlank`), and
only there.
-/

set_option autoImplicit false

namespace JsonQuery

/-! ## Tokens -/

/-- What tokens are, wherever they stand in the text. -/
def lexemes (ts : List Token) : List Lexeme := ts.map Token.lexeme

@[simp] theorem lexemes_nil : lexemes [] = [] := rfl

@[simp] theorem lexemes_cons (t : Token) (ts : List Token) :
    lexemes (t :: ts) = t.lexeme :: lexemes ts := rfl

/-- A first lexeme is the lexeme of a first token. -/
theorem lexemes_eq_cons {ts : List Token} {l : Lexeme} {a : List Lexeme}
    (h : lexemes ts = l :: a) : ∃ t us, ts = t :: us ∧ t.lexeme = l ∧ lexemes us = a :=
  List.map_eq_cons_iff.mp h

variable {a : List Lexeme}

/-! ## Looking ahead -/

/-- The next token is the end of the text where no token is left. -/
theorem peek_lexeme (ctx : Context) (ts : List Token) :
    (ctx.peek ts).lexeme = (lexemes ts).headD .endOfInput := by
  cases ts <;> rfl

/-- What is seen next stands first, unless it is the end. -/
theorem lexemes_of_peek {ctx : Context} {ts : List Token} {l : Lexeme}
    (h : (ctx.peek ts).lexeme = l) (hl : l ≠ .endOfInput) :
    lexemes ts = l :: lexemes ts.tail := by
  cases ts with
  | nil => exact absurd h.symm hl
  | cons t ts => exact congrArg (· :: lexemes ts) h

/-- A token is a character when it is that punctuation. -/
theorem Token.is_iff {t : Token} {ch : Char} : t.is ch = true ↔ t.lexeme = .punctuation ch := by
  simp [Token.is]

/-- Punctuation that is seen next stands first. -/
theorem lexemes_of_nextIs {ctx : Context} {ts : List Token} {ch : Char}
    (h : ctx.nextIs ch ts = true) : lexemes ts = .punctuation ch :: lexemes ts.tail :=
  lexemes_of_peek (Token.is_iff.mp h) (by simp)

/-- Punctuation that is seen twice stands first and second. -/
theorem lexemes_of_nextIsTwice {ctx : Context} {ts : List Token} {ch : Char}
    (h : ctx.nextIsTwice ch ts = true) :
    lexemes ts = .punctuation ch :: .punctuation ch :: lexemes ts.tail.tail := by
  rw [Context.nextIsTwice, Bool.and_eq_true] at h
  rw [lexemes_of_nextIs h.1, lexemes_of_nextIs h.2]

/-- One token is dropped where it is blank, and none elsewhere. -/
theorem skipBlank_cons (t : Token) (ts : List Token) :
    skipBlank (t :: ts) = if t.lexeme.isBlank = true then ts else t :: ts := by
  obtain ⟨l, position⟩ := t
  cases l <;> rfl

/-- What is dropped is optional blank space. -/
theorem blank_skipBlank (ts : List Token) : Blank (lexemes ts) (lexemes (skipBlank ts)) := by
  cases ts with
  | nil => exact .absent _
  | cons t ts =>
    obtain ⟨l, position⟩ := t
    cases l with
    | blank text => exact .present text _
    | _ => exact .absent _

/-- No blank tokens come to stand side by side. -/
theorem separated_skipBlank {ts : List Token} (h : Separated (lexemes ts)) :
    Separated (lexemes (skipBlank ts)) :=
  h.of_suffix (blank_skipBlank ts).suffix

/-- Nothing is dropped where no blank space stands. -/
theorem skipBlank_eq_self {ts : List Token} {l : Lexeme} {a : List Lexeme}
    (h : lexemes ts = l :: a) (hl : l.isBlank = false) : skipBlank ts = ts := by
  obtain ⟨t, us, rfl, rfl, -⟩ := lexemes_eq_cons h
  rw [skipBlank_cons, if_neg (by simp [hl])]

/-- Where nothing is dropped no blank space stands. -/
theorem eq_of_blank {ts : List Token} (hts : skipBlank ts = ts) (h : Blank (lexemes ts) a) :
    a = lexemes ts := by
  cases ts with
  | nil => cases h; rfl
  | cons t us =>
    rw [skipBlank_cons] at hts
    by_cases ht : t.lexeme.isBlank = true
    · rw [if_pos ht] at hts
      -- a token that is dropped does not stand before itself
      exact absurd hts.symm (List.cons_ne_self t us)
    · exact h.eq_of_cons (by simpa using ht)

/-- **Blank space is dropped at once.** -/
theorem skipBlank_skipBlank {ts : List Token} (h : Separated (lexemes ts)) :
    skipBlank (skipBlank ts) = skipBlank ts := by
  cases ts with
  | nil => rfl
  | cons t ts =>
    rw [skipBlank_cons]
    split
    · rename_i hblank
      cases ts with
      | nil => rfl
      | cons u us =>
        -- one blank token was dropped, and a second one would stand beside it
        rw [lexemes_cons, lexemes_cons, Separated, List.isChain_cons_cons] at h
        rw [skipBlank_cons, if_neg fun hu => h.1 ⟨hblank, hu⟩]
    · rename_i hsolid
      rw [skipBlank_cons, if_neg hsolid]

/-- A level that is entered is one that the limit allows. -/
theorem enter_eq_ok {ctx : Context} {deeper : Option Nested} {position : Nat} {rules : Nested}
    (h : ctx.enter deeper position = .ok rules) : deeper = some rules := by
  unfold Context.enter at h
  split at h
  · exact congrArg some (Except.ok.inj h)
  · cases h

/-- Punctuation that was asked for stood first. -/
theorem expect_eq_ok {ctx : Context} {ch : Char} {ts rest : List Token} {t : Token}
    (h : ctx.expect ch ts = .ok (t, rest)) : lexemes ts = .punctuation ch :: lexemes rest := by
  unfold Context.expect at h
  split at h
  · rename_i hnext
    cases h
    exact lexemes_of_nextIs hnext
  · cases h

end JsonQuery
