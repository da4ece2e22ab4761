import JsonQuery.Proofs.Grammar.Acceptance
import JsonQuery.Proofs.Number.Literal
import JsonQuery.Proofs.Token.Position

/-
Tokens tile a text.

Without a malformed token the tokens of a text cover it from its start to its end: the part
between two of them is not empty, and these parts make up the text. What a token is follows
from its part, and for blank space from the characters around it too (`Lexeme.Covers`).

All of that is seen when a token is read (`Cursor.covers_of_lexeme`), but for one thing: a run
of blank space is whole only if the token before it did not end with some. No other token ends
with blank space, and a blank one takes all that there is (`Cursor.Scans.uncut`); that is what
the run of the scanner keeps (`Cursor.tiled_tokens`).
-/

set_option autoImplicit false

namespace JsonQuery

/-- **How a token covers the characters `w`** of a text: what it is and they are, with the
characters `before` and `behind` them. -/
structure Lexeme.Covers (l : Lexeme) (before w behind : List Char) : Prop where
  /-- Blank space is all the blank space there is. -/
  blank : ∀ text, l = .blank text → text.toList = w ∧ (∀ c ∈ w, JsonQuery.isBlank c = true)
    ∧ (∀ c ∈ before.getLast?, JsonQuery.isBlank c = false)
    ∧ ∀ c ∈ behind.head?, JsonQuery.isBlank c = false
  /-- A numeral is a number literal, and one without fraction and exponent is an integer. -/
  numeral : ∀ n, l = .numeral n → n.text = w ∧ w ∈ Numeral.literals
    ∧ (n.isInteger = true ↔ w ∈ Numeral.integers)
  /-- The bare words are the keywords. -/
  keyword : ∀ k, l = .keyword k ↔ w = k.text.toList
  /-- Every other spelling of a name is an identifier, which has the decoded name. -/
  identifier : ∀ name, l = .identifier name ↔
    NameSpelling false w name.toList ∧ ∀ k : Keyword, w ≠ k.text.toList
  /-- A sign is one character. -/
  punctuation : ∀ c, l = .punctuation c → w = [c]

/-- Whether a run of blank space is not cut between two parts of a text. -/
def Uncut (before behind : List Char) : Prop :=
  ∀ c ∈ before.getLast?, isBlank c = true → ∀ d ∈ behind.head?, isBlank d = false

/-! ## One token -/

namespace Cursor

variable {here next : Cursor} {l : Lexeme} {w before : List Char}

/-- A keyword is spelled as itself, without escapes. -/
theorem Scans.keyword_spelled {k : Keyword} (h : here.Scans (.keyword k) next)
    (hspans : here.Spans next w) : w = k.text.toList := by
  cases h with
  | keyword _ _ hbody hname =>
    obtain ⟨v, hv, hspelled, hescapes⟩ := nameBody_spans hbody
    rw [hspans.unique hv]
    have hslash : '\\' ∉ v := fun hmem => absurd (hescapes.mpr hmem) (by decide)
    rw [← hspelled.eq_of_notMem hslash]
    exact Keyword.eq_of_ofText? hname

/-- A name is spelled with escapes or is no bare word. -/
theorem Scans.identifier_spelled {name : String} (h : here.Scans (.identifier name) next)
    (hspans : here.Spans next w) :
    NameSpelling false w name.toList ∧ ∀ k : Keyword, w ≠ k.text.toList := by
  cases h with
  | identifier _ _ hbody hname =>
    obtain ⟨v, hv, hspelled, hescapes⟩ := nameBody_spans hbody
    rw [hspans.unique hv, String.toList_ofList]
    refine ⟨hspelled, fun k hk => ?_⟩
    -- a bare word is spelled without escapes, and then the name is the word
    have hslash : '\\' ∉ v := by
      rw [hk]
      cases k <;> decide
    rw [hspelled.eq_of_notMem hslash, hk, Keyword.ofText?_text] at hname
    rcases hname with hname | hname
    · exact hslash (hescapes.mp hname)
    · cases hname

/-- **Where a name begins, a name is read.** -/
theorem exists_name {c : Char} {cs : List Char} (hrest : here.rest = c :: cs)
    (hc : c = '\\' ∨ isNameStart c = true) (h : here.lexeme = .ok (l, next)) :
    (∃ k, l = .keyword k) ∨ ∃ name, l = .identifier name := by
  obtain ⟨hblank, hsingle, hdouble, hminus, hdigit⟩ : JsonQuery.isBlank c = false ∧ c ≠ '\''
      ∧ c ≠ '"' ∧ c ≠ '-' ∧ c.isDigit = false := by
    rcases hc with rfl | hc
    · decide
    · exact begins_name hc
  rw [lexeme, hrest] at h
  simp only [hblank, Bool.false_eq_true, if_false, hsingle, hdouble, or_self, hminus, hdigit, hc,
    if_true] at h
  obtain ⟨⟨name, escapes, last⟩, -, heq⟩ := bind_eq_ok.mp h
  cases heq
  cases escapes with
  | true => exact .inr ⟨_, rfl⟩
  | false =>
    simp only [Bool.false_eq_true, if_false]
    split
    · exact .inl ⟨_, rfl⟩
    · exact .inr ⟨_, rfl⟩

/-- The bare words are read as keywords and nothing else is. -/
theorem keyword_iff (h : here.lexeme = .ok (l, next)) (hspans : here.Spans next w) (k : Keyword) :
    l = .keyword k ↔ w = k.text.toList := by
  have hscans := scans_of_lexeme h
  refine ⟨fun hl => (hl ▸ hscans).keyword_spelled hspans, fun hk => ?_⟩
  obtain ⟨c, cs, htext, hc⟩ : ∃ c cs, k.text.toList = c :: cs ∧ isNameStart c = true := by
    cases k <;> exact ⟨_, _, rfl, rfl⟩
  have hrest : here.rest = c :: (cs ++ next.rest) := by
    rw [hspans.rest, hk, htext, List.cons_append]
  rcases exists_name hrest (.inr hc) h with ⟨m, rfl⟩ | ⟨name, rfl⟩
  · have hm := hscans.keyword_spelled hspans
    have hread := m.ofText?_text
    rw [← hm, hk, k.ofText?_text] at hread
    cases hread
    rfl
  · exact absurd hk ((hscans.identifier_spelled hspans).2 k)

/-- The spellings of names that are no bare words are read as names and nothing else is. -/
theorem identifier_iff (h : here.lexeme = .ok (l, next)) (hspans : here.Spans next w)
    (hw : w ≠ []) (name : String) : l = .identifier name ↔
      NameSpelling false w name.toList ∧ ∀ k : Keyword, w ≠ k.text.toList := by
  have hscans := scans_of_lexeme h
  refine ⟨fun hl => (hl ▸ hscans).identifier_spelled hspans, ?_⟩
  rintro ⟨hspelled, hbare⟩
  obtain ⟨c, cs, hfirst, hc⟩ := hspelled.head hw
  have hrest : here.rest = c :: (cs ++ next.rest) := by
    rw [hspans.rest, hfirst, List.cons_append]
  rcases exists_name hrest hc h with ⟨k, rfl⟩ | ⟨m, rfl⟩
  · exact absurd (hscans.keyword_spelled hspans) (hbare k)
  -- the name that was read is spelled in the same way, so it is this one
  · have hm := (hscans.identifier_spelled hspans).1.unique hspelled rfl
    rw [String.toList_injective hm]

/-- **A token covers what it is read from**, if no blank space is cut before it. -/
theorem covers_of_lexeme (h : here.lexeme = .ok (l, next)) (hspans : here.Spans next w)
    (hw : w ≠ []) (huncut : Uncut before here.rest) : l.Covers before w next.rest where
  blank := by
    rintro text rfl
    cases scans_of_lexeme h with
    | blank hrest hblank hspan =>
      obtain ⟨hsplit, hall, hstop⟩ := span_eq_iff.mp hspan
      obtain rfl := hspans.unique (.after hsplit)
      refine ⟨String.toList_ofList, hall, fun c hc => ?_, hstop⟩
      rw [← Bool.not_eq_true]
      intro hlast
      rw [huncut c hc hlast _ (by rw [hrest]; rfl)] at hblank
      cases hblank
  numeral := by
    rintro n rfl
    cases scans_of_lexeme h with
    | numeral hrest hstart hscan =>
      obtain rfl := hspans.unique (.after (Numeral.scan_split hscan).2)
      have hn := Numeral.scan_wellFormed hscan
      exact ⟨rfl, hn.mem_literals, hn.isInteger_iff⟩
  keyword := keyword_iff h hspans
  identifier := identifier_iff h hspans hw
  punctuation := by
    rintro c rfl
    cases scans_of_lexeme h with
    | punctuation hrest => exact hspans.unique (.after hrest)

/-- **No token but a blank one ends with blank space.** -/
theorem Scans.isBlank_getLast (h : here.Scans l next) (hspans : here.Spans next w)
    (hl : l.isBlank = false) : ∀ c ∈ w.getLast?, JsonQuery.isBlank c = false := by
  intro c hc
  have hmem := List.mem_of_getLast? hc
  cases h with
  | finished =>
    rw [hspans.unique (.nil _)] at hmem
    cases hmem
  | blank => cases hl
  | string hrest hquote hquoted =>
    obtain ⟨v, -, hv⟩ := quoted_spans hrest hquoted
    rw [hspans.unique hv, List.getLast?_cons, List.getLast?_concat] at hc
    cases hc
    rcases hquote with rfl | rfl <;> rfl
  | numeral hrest hstart hscan =>
    rw [hspans.unique (.after (Numeral.scan_split hscan).2)] at hmem
    exact (Numeral.scan_wellFormed hscan).isBlank_eq_false c hmem
  | identifier _ _ hbody | keyword _ _ hbody =>
    obtain ⟨v, hv, hspelled, -⟩ := nameBody_spans hbody
    rw [hspans.unique hv] at hmem
    exact hspelled.isBlank_eq_false c hmem
  | punctuation hrest hblank =>
    rw [hspans.unique (.after hrest)] at hmem
    rwa [List.mem_singleton.mp hmem]

/-- **No blank space is cut behind a token**: a blank token leaves none, and the others do not
end with any. -/
theorem Scans.uncut (h : here.Scans l next) (hspans : here.Spans next w) (hw : w ≠ [])
    (before : List Char) : Uncut (before ++ w) next.rest := by
  intro c hc hblank
  rw [List.getLast?_append_of_ne_nil _ hw] at hc
  by_cases hl : l.isBlank = true
  · exact h.stops hl
  · rw [h.isBlank_getLast hspans (by simpa using hl) c hc] at hblank
    cases hblank

end Cursor

/-! ## All tokens -/

/-- **Tokens that are read one behind the other**, through the end of a text: each covers what it
takes of the `rest`, and from then on that stands `before` the others. -/
inductive Tiled : (before : List Char) → List Token → (rest : List Char) → Prop
  | finished (before : List Char) : Tiled before [⟨.endOfInput, utf8Size before⟩] []
  | token {before w behind : List Char} {l : Lexeme} {ts : List Token}
      (covers : l.Covers before w behind) (nonempty : w ≠ [])
      (more : Tiled (before ++ w) ts behind) :
      Tiled before (⟨l, utf8Size before⟩ :: ts) (w ++ behind)

/-- **Without a malformed token the tokens of a text are read one behind the other** through its
end. -/
theorem Cursor.tiled_tokens {here : Cursor} {before : List Char} {fuel : Nat}
    (hfuel : here.rest.length < fuel) (hoffset : here.offset = utf8Size before)
    (huncut : Uncut before here.rest)
    (hvalid : ∀ t ∈ here.tokens fuel, ∀ cause, t.lexeme ≠ .invalid cause) :
    Tiled before (here.tokens fuel) here.rest := by
  induction fuel generalizing here before with
  | zero => omega
  | succ fuel ih =>
    have hsteps := here.scan_steps
    unfold tokens at hvalid ⊢
    generalize here.scan = read at hsteps hvalid
    obtain ⟨t, next⟩ := read
    dsimp only at hsteps hvalid ⊢
    cases hsteps with
    | last reaches last ended =>
      rw [if_pos last] at hvalid ⊢
      obtain ⟨l, position⟩ := t
      have hl : l = .endOfInput := by
        cases l with
        | endOfInput => rfl
        | invalid cause => exact absurd rfl (hvalid _ List.mem_cons_self cause)
        | _ => cases last
      obtain ⟨hrest, hposition⟩ := ended hl
      dsimp only at hposition
      rw [hl, hposition, finish, hrest, hoffset]
      exact .finished before
    | @more l next w reads spans nonempty more =>
      rw [if_neg (by simp [more])] at hvalid ⊢
      have hlength : next.rest.length < fuel := by
        have := spans.length_lt nonempty
        omega
      have hnext : next.offset = utf8Size (before ++ w) := by
        rw [spans.offset, hoffset, utf8Size_append]
      have hmore := ih hlength hnext ((scans_of_lexeme reads).uncut spans nonempty before)
        fun t ht => hvalid t (List.mem_cons_of_mem _ ht)
      rw [spans.rest, hoffset]
      exact .token (covers_of_lexeme reads spans nonempty huncut) nonempty hmore

/-! ## The parts of a text -/

/-- The characters of a text between two places. -/
def slice (text : String) (start stop : Nat) : List Char :=
  (String.Pos.Raw.extract text ⟨start⟩ ⟨stop⟩).toList

/-- Tokens that stand one behind the other, in pairs. -/
def adjacent (ts : List Token) : List (Token × Token) := ts.zip ts.tail

theorem slice_eq {text : String} {a b c : List Char} {start stop : Nat}
    (h : text.toList = a ++ b ++ c) (hstart : start = utf8Size a)
    (hstop : stop = utf8Size (a ++ b)) : slice text start stop = b := by
  have htext : text = String.ofList (a ++ b ++ c) := by rw [← h, String.ofList_toList]
  rw [slice, hstart, hstop, utf8Size_append, utf8Size_eq_utf8Len, utf8Size_eq_utf8Len, htext,
    String.extract_of_valid, String.toList_ofList]

theorem adjacent_singleton (t : Token) : adjacent [t] = [] := rfl

theorem adjacent_cons (t u : Token) (ts : List Token) :
    adjacent (t :: u :: ts) = (t, u) :: adjacent (u :: ts) := rfl

/-- **Whether tokens tile a text**: they begin where it begins and end where it ends, and each
covers the part up to the next one. -/
structure Tiles (text : String) (ts : List Token) : Prop where
  starts : ts.head?.map Token.position = some 0
  ends : ts.getLast? = some ⟨.endOfInput, text.utf8ByteSize⟩
  joins : (adjacent ts).flatMap (fun p => slice text p.1.position p.2.position) = text.toList
  covers : ∀ t u, (t, u) ∈ adjacent ts → slice text t.position u.position ≠ []
    ∧ t.lexeme.Covers (slice text 0 t.position) (slice text t.position u.position)
        (slice text u.position text.utf8ByteSize)

namespace Tiled

variable {text : String} {before rest : List Char} {ts : List Token}

/-- The first token stands where the rest of the text begins. -/
theorem starts (h : Tiled before ts rest) :
    ∃ t us, ts = t :: us ∧ t.position = utf8Size before := by
  cases h with
  | finished => exact ⟨_, _, rfl, rfl⟩
  | token => exact ⟨_, _, rfl, rfl⟩

/-- The last token is the end of input, behind everything. -/
theorem ends (h : Tiled before ts rest) :
    ts.getLast? = some ⟨.endOfInput, utf8Size (before ++ rest)⟩ := by
  induction h with
  | finished before => rw [List.append_nil, List.getLast?_singleton]
  | token covers nonempty more ih =>
    obtain ⟨u, us, rfl, -⟩ := more.starts
    rw [List.getLast?_cons_cons, ih, List.append_assoc]

/-- The parts between neighbours join to the rest of the text. -/
theorem joins (h : Tiled before ts rest) (htext : text.toList = before ++ rest) :
    (adjacent ts).flatMap (fun p => slice text p.1.position p.2.position) = rest := by
  induction h with
  | finished => rw [adjacent_singleton, List.flatMap_nil]
  | token covers nonempty more ih =>
    rw [← List.append_assoc] at htext
    obtain ⟨u, us, rfl, hu⟩ := more.starts
    rw [adjacent_cons, List.flatMap_cons, ih htext, slice_eq htext rfl hu]

/-- Each token but the last one covers the part up to its neighbour. -/
theorem covers (h : Tiled before ts rest) (htext : text.toList = before ++ rest) :
    ∀ t u, (t, u) ∈ adjacent ts → slice text t.position u.position ≠ []
      ∧ t.lexeme.Covers (slice text 0 t.position) (slice text t.position u.position)
          (slice text u.position text.utf8ByteSize) := by
  induction h with
  | finished => simp [adjacent_singleton]
  | @token before w behind l ts covers nonempty more ih =>
    rw [← List.append_assoc] at htext
    obtain ⟨v, us, rfl, hv⟩ := more.starts
    intro t u hmem
    rw [adjacent_cons, List.mem_cons, Prod.mk.injEq] at hmem
    rcases hmem with ⟨rfl, rfl⟩ | hmem
    · have hbefore : slice text 0 (utf8Size before) = before :=
        slice_eq (a := []) (c := w ++ behind) (by rw [htext]; simp) rfl rfl
      have hbehind : slice text u.position text.utf8ByteSize = behind :=
        slice_eq (c := []) (by rw [htext, List.append_nil]) hv (by rw [← htext, utf8Size_toList])
      have hpart : slice text (utf8Size before) u.position = w := slice_eq htext rfl hv
      dsimp only
      rw [hbefore, hpart, hbehind]
      exact ⟨nonempty, covers⟩
    · exact ih htext t u hmem

theorem tiles (h : Tiled [] ts text.toList) : Tiles text ts := by
  obtain ⟨t, us, rfl, ht⟩ := h.starts
  refine ⟨congrArg some ht, ?_, h.joins rfl, h.covers rfl⟩
  rw [h.ends, List.nil_append, utf8Size_toList]

end Tiled

/-- **Tokens tile the text.** The last one and no other is an end of input or malformed; they
stand between characters, one behind the other; without a malformed one they cover the text from
its start to its end; and once they are read there are ends of input only. -/
theorem tokenize_tiles (text : String) :
    (∃ init last, tokenize text = init ++ [last] ∧ (∀ t ∈ init, t.lexeme.isLast = false)
        ∧ last.lexeme.isLast = true)
      ∧ (∀ t ∈ tokenize text, String.Pos.Raw.IsValid text ⟨t.position⟩)
      ∧ (tokenize text).Pairwise (fun t u => t.position < u.position)
      ∧ ((∀ t ∈ tokenize text, ∀ cause, t.lexeme ≠ .invalid cause) →
          Tiles text (tokenize text))
      ∧ ∀ count, scanRepeatedly ((tokenize text).length + count) (.start text.toList)
          = tokenize text ++ List.replicate count ⟨.endOfInput, text.utf8ByteSize⟩ := by
  obtain ⟨hvalid, hincreasing, -⟩ := tokenize_position text
  refine ⟨tokenize_split text, hvalid, hincreasing, fun h => ?_, scanRepeatedly_tokenize text⟩
  -- nothing stands before a text, so no blank space is cut there
  have huncut : Uncut [] text.toList := nofun
  exact (Cursor.tiled_tokens (Nat.lt_succ_self text.toList.length) rfl huncut h).tiles

/-- A word that is spelled with an escape is a name. -/
example : tokenize "true tr\\u0075e"
    = [⟨.keyword .yes, 0⟩, ⟨.blank " ", 4⟩, ⟨.identifier "true", 5⟩, ⟨.endOfInput, 14⟩] := by
  decide

end JsonQuery
