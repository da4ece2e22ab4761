import JsonQuery.Proofs.Grammar.Completeness.Filter
import JsonQuery.Proofs.Token.Span

/-
A compiler accepts exactly the texts that the grammar describes.

The rules read what the grammar derives and derive what they read; what is left is to
see that the tokens of a text are such as both directions need them. No two blank
tokens stand side by side, and only the last token is an end of input or malformed, so
a path that ends there has been read from a text without malformed tokens.
-/

set_option autoImplicit false

namespace JsonQuery

/-! ## The tokens of a text -/

namespace Cursor

/-- A token is read well, or it is malformed. -/
theorem scan_cases (here : Cursor) :
    (∃ l next, here.Scans l next ∧ here.scan = (⟨l, here.offset⟩, next))
      ∨ ∃ fault : Fault, here.scan = (⟨.invalid fault.cause, fault.offset⟩, here.atEnd) := by
  unfold scan
  cases h : here.lexeme with
  | ok read => exact .inl ⟨read.1, read.2, scans_of_lexeme h, rfl⟩
  | error fault => exact .inr ⟨fault, rfl⟩

/-- **Only the last token is last**: the tokens end where the text does, or with the
first malformed one. -/
theorem tokens_eq {fuel : Nat} (here : Cursor) (hfuel : here.rest.length < fuel) :
    ∃ init last, here.tokens fuel = init ++ [last] ∧ (∀ t ∈ init, t.lexeme.isLast = false)
      ∧ last.lexeme.isLast = true := by
  induction fuel generalizing here with
  | zero => omega
  | succ fuel ih =>
    unfold tokens
    rcases here.scan_cases with ⟨l, next, hscans, hscan⟩ | ⟨fault, hscan⟩
    · simp only [hscan]
      by_cases hlast : l.isLast = true
      · rw [if_pos hlast]
        exact ⟨[], _, rfl, by simp, hlast⟩
      · rw [if_neg hlast]
        obtain ⟨w, hspans, hw⟩ := hscans.spans
        -- the token has a character, so the fuel outlasts what is left of the text
        have hlt := hspans.length_lt (hw fun hl => hlast (hl ▸ rfl))
        obtain ⟨init, last, htokens, hinit, hfinal⟩ := ih next (by omega)
        refine ⟨⟨l, here.offset⟩ :: init, last, by rw [htokens]; rfl, ?_, hfinal⟩
        rintro t (_ | ⟨_, ht⟩)
        · simpa using hlast
        · exact hinit t ht
    · simp only [hscan]
      exact ⟨[], _, rfl, by simp, rfl⟩

/-- **Blank tokens do not repeat**, and none stands first where the text begins with
something else. -/
theorem separated_tokens (fuel : Nat) (here : Cursor) :
    Separated (lexemes (here.tokens fuel))
      ∧ ((∀ c ∈ here.rest.head?, JsonQuery.isBlank c = false) →
        ∀ l ∈ (lexemes (here.tokens fuel)).head?, l.isBlank = false) := by
  induction fuel generalizing here with
  | zero => exact ⟨.nil, by simp [tokens]⟩
  | succ fuel ih =>
    unfold tokens
    rcases here.scan_cases with ⟨l, next, hscans, hscan⟩ | ⟨fault, hscan⟩
    · simp only [hscan]
      obtain ⟨hseparated, hfirst⟩ := ih next
      by_cases hlast : l.isLast = true
      · rw [if_pos hlast]
        refine ⟨.singleton _, fun hstart m hm => ?_⟩
        cases hm
        exact hscans.isBlank_eq_false hstart
      · rw [if_neg hlast]
        constructor
        · rw [lexemes_cons, Separated, List.isChain_cons]
          refine ⟨fun m hm hblank => ?_, hseparated⟩
          -- a blank token takes the whole run, so the token behind it is not blank
          rw [hfirst (hscans.stops hblank.1) m hm] at hblank
          cases hblank.2
        · intro hstart m hm
          cases hm
          exact hscans.isBlank_eq_false hstart
    · simp only [hscan]
      refine ⟨.singleton _, fun _ m hm => ?_⟩
      cases hm
      rfl

end Cursor

/-- No two blank tokens of a text stand side by side. -/
theorem separated_tokenize (text : String) : Separated (lexemes (tokenize text)) :=
  (Cursor.separated_tokens _ _).1

/-- The tokens of a text end with an end of input or a malformed token, and hold neither before
that. -/
theorem tokenize_split (text : String) :
    ∃ init last, tokenize text = init ++ [last] ∧ (∀ t ∈ init, t.lexeme.isLast = false)
      ∧ last.lexeme.isLast = true :=
  Cursor.tokens_eq (.start text.toList) (Nat.lt_succ_self text.toList.length)

/-- The last token of a text is the only last one. -/
theorem tokenize_eq (text : String) :
    ∃ init last, lexemes (tokenize text) = init ++ [last] ∧ (∀ l ∈ init, l.isLast = false)
      ∧ last.isLast = true := by
  obtain ⟨init, last, htokens, hinit, hlast⟩ := tokenize_split text
  refine ⟨lexemes init, last.lexeme, ?_, ?_, hlast⟩
  · rw [htokens]
    exact List.map_append
  · intro l hl
    obtain ⟨t, ht, rfl⟩ := List.mem_map.mp hl
    exact hinit t ht

/-! ## Paths -/

/-- What is left before the end of input, when nothing last has been read, is the end of
input alone. -/
theorem eq_endOfInput {init read rest : List Lexeme} {last : Lexeme}
    (h : init ++ [last] = read ++ rest) (hinit : ∀ l ∈ init, l.isLast = false)
    (hlast : last.isLast = true) (hread : ∀ l ∈ read, l.isLast = false)
    (hend : rest.headD .endOfInput = .endOfInput) : rest = [.endOfInput] := by
  rcases List.append_eq_append_iff.mp h with ⟨more, rfl, hmore⟩ | ⟨more, rfl, hmore⟩
  · cases more with
    | nil =>
      rw [List.nil_append] at hmore
      rw [← hmore] at hend ⊢
      exact congrArg (fun l => [l]) hend
    | cons l more =>
      rw [List.cons_append, List.cons.injEq] at hmore
      -- the last lexeme would have been read
      rw [hread last (by simp [hmore.1])] at hlast
      cases hlast
  · cases more with
    | nil =>
      rw [List.nil_append] at hmore
      rw [hmore] at hend ⊢
      exact congrArg (fun l => [l]) hend
    | cons l more =>
      rw [hmore] at hend
      -- the end of input would stand before the last lexeme
      rw [show l = .endOfInput from hend] at hinit
      exact absurd (hinit .endOfInput (by simp)) (by simp [Lexeme.isLast])

/-- **What is read as a whole text is a path**, up to an end of input. -/
theorem wholeQuery_sound {ctx : Context} {ts : List Token} {q : Query} {init : List Lexeme}
    {last : Lexeme} (hseparated : Separated (lexemes ts)) (htokens : lexemes ts = init ++ [last])
    (hinit : ∀ l ∈ init, l.isLast = false) (hlast : last.isLast = true)
    (h : wholeQuery ctx ts = .ok q) : Within ctx.registry ctx.limit .path (lexemes ts) q [] := by
  obtain ⟨⟨t, us⟩, hexpect, h⟩ := bind_eq_ok.mp h
  obtain ⟨⟨p, vs⟩, hquery, h⟩ := bind_eq_ok.mp h
  have hread := expect_eq_ok hexpect
  dsimp only at h
  split at h
  · rename_i hend
    cases h
    rw [hread] at hseparated
    obtain ⟨ss, rfl, hsegments, hnest⟩ := queryFrom_sound (levels_sound ctx ctx.limit)
      hseparated.tail hquery
    obtain ⟨read, hus, hpassed⟩ := hsegments.passed nofun
    -- what was read ends before the last lexeme, and that is looked at as the end
    have hsplit : init ++ [last] = (.punctuation '$' :: read) ++ lexemes vs := by
      rw [← htokens, hread, hus, List.cons_append]
    have hrest : lexemes vs = [.endOfInput] := by
      refine eq_endOfInput hsplit hinit hlast ?_ (by rw [← peek_lexeme ctx, hend])
      rintro l (_ | ⟨_, hl⟩)
      · rfl
      · exact hpassed l hl
    rw [hread]
    rw [hrest] at hsegments
    exact ⟨.path hsegments, hnest⟩
  · cases h

/-- **A path has one tree**: its tokens are read in one way, whatever its depth. -/
theorem Derives.path_unique {r : Registry} {a b c : List Lexeme} {p q : Query}
    (hp : Derives r .path a p b) (hq : Derives r .path a q c) : p = q := by
  let ctx : Context := ⟨r, max p.nesting q.nesting, 0⟩
  obtain ⟨ts, rfl⟩ : ∃ ts, lexemes ts = a :=
    ⟨a.map fun l => ⟨l, 0⟩, by simp [lexemes, Function.comp_def]⟩
  have hreadp := hp.complete ctx ctx.limit (Nat.le_max_left ..) rfl ts rfl
  have hreadq := hq.complete ctx ctx.limit (Nat.le_max_right ..) rfl ts rfl
  exact Except.ok.inj (hreadp.symm.trans hreadq)

/-- No token of a path is malformed. -/
theorem Derives.path_valid {r : Registry} {a b : List Lexeme} {q : Query}
    (h : Derives r .path a q b) (cause : LexicalError) : Lexeme.invalid cause ∉ a := by
  cases h with
  | path segments =>
    obtain ⟨read, rfl, hread⟩ := segments.passed nofun
    intro hmem
    simp only [List.mem_cons, List.mem_append, List.not_mem_nil, or_false, reduceCtorEq,
      false_or] at hmem
    exact absurd (hread _ hmem) (by simp [Lexeme.isLast])

/-! ## Texts -/

/-- What a text compiles to is derived from its tokens. -/
theorem Compiler.derives_of_compile {c : Compiler} {text : String} {q : Query}
    (h : c.compile text = .ok q) :
    Derives c.registry .path (lexemes (tokenize text)) q [] ∧ q.nesting ≤ c.limit := by
  obtain ⟨init, last, htokens, hinit, hlast⟩ := tokenize_eq text
  exact wholeQuery_sound (separated_tokenize text) htokens hinit hlast h

/-- What is derived from the tokens of a text is what it compiles to. -/
theorem Compiler.compile_of_derives {c : Compiler} {text : String} {q : Query}
    (h : Derives c.registry .path (lexemes (tokenize text)) q []) (hnest : q.nesting ≤ c.limit) :
    c.compile text = .ok q :=
  h.complete ⟨c.registry, c.limit, utf8Size text.toList⟩ c.limit hnest rfl
    (tokenize text) rfl

/-- **A compiler accepts exactly the paths of its grammar**: a text compiles to a query
when none of its tokens is malformed, they derive that query and no other, and the query
nests within the limit. -/
theorem Compiler.compile_eq_ok_iff (c : Compiler) (text : String) (q : Query) :
    c.compile text = .ok q ↔
      (∀ t ∈ tokenize text, ∀ cause, t.lexeme ≠ .invalid cause)
        ∧ Derives c.registry .path (lexemes (tokenize text)) q []
        ∧ (∀ p, Derives c.registry .path (lexemes (tokenize text)) p [] → p = q)
        ∧ q.nesting ≤ c.limit := by
  constructor
  · intro h
    obtain ⟨hpath, hnest⟩ := derives_of_compile h
    refine ⟨fun t ht cause hcause => ?_, hpath, fun p hp => hp.path_unique hpath, hnest⟩
    exact hpath.path_valid cause (hcause ▸ List.mem_map_of_mem ht)
  · rintro ⟨-, hpath, -, hnest⟩
    exact compile_of_derives hpath hnest

end JsonQuery
