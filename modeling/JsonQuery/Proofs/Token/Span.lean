import JsonQuery.Proofs.Grammar.Derivation
import JsonQuery.Proofs.Outcome
import JsonQuery.Proofs.Token.Spelling

/-
A token is a stretch of the text.

Every scanner splits what is in front of it into the characters that it reads and
the ones it leaves, and moves the cursor over the former (`Cursor.Spans`). Since a
token that is not the last one has at least one character, the fuel of `tokenize` is
never used up, and the tokens of a text end with the end of input or a malformed
token, and hold neither before that.
-/

set_option autoImplicit false

namespace JsonQuery

/-- Whether the characters `w` stand between two places of one text. -/
structure Cursor.Spans (here next : Cursor) (w : List Char) : Prop where
  rest : here.rest = w ++ next.rest
  offset : next.offset = here.offset + utf8Size w

namespace Cursor.Spans

variable {here next last : Cursor} {v w : List Char}

/-- Nothing stands between a place and itself. -/
theorem nil (here : Cursor) : here.Spans here [] := ⟨rfl, by simp⟩

/-- What is read stands between where it begins and what is left. -/
theorem after {rest : List Char} (h : here.rest = w ++ rest) :
    here.Spans (here.after w rest) w :=
  ⟨h, rfl⟩

/-- Stretches of the text join. -/
theorem trans (hv : here.Spans next v) (hw : next.Spans last w) : here.Spans last (v ++ w) :=
  ⟨by rw [hv.rest, hw.rest, List.append_assoc],
    by rw [hw.offset, hv.offset, utf8Size_append, Nat.add_assoc]⟩

/-- Only one text stands between two places. -/
theorem unique (hv : here.Spans next v) (hw : here.Spans next w) : v = w := by
  have h := hw.rest
  rw [hv.rest] at h
  exact List.append_cancel_right h

theorem length_lt (h : here.Spans next w) (hw : w ≠ []) :
    next.rest.length < here.rest.length := by
  have hpos := List.length_pos_iff.mpr hw
  rw [h.rest, List.length_append]
  omega

end Cursor.Spans

/-! ## Escapes -/

/-- An escape is read from its spelling behind the backslash. -/
theorem Cursor.escape_spans {quote : Option Char} {here next : Cursor} {cs : List Char}
    {ch : Char} (hslash : here.rest = '\\' :: cs) (h : here.escape quote = .ok (ch, next)) :
    ∃ e, EscapeSpelling quote e ch ∧ here.Spans next ('\\' :: e) := by
  unfold Cursor.escape at h
  split at h
  · rename_i decoded rest hescape
    cases h
    rw [hslash, List.drop_one, List.tail_cons] at hescape
    obtain ⟨e, rfl, he⟩ := escape_sound hescape
    refine ⟨e, he, ?_⟩
    -- what was read is what is missing at the end of the text
    have htake : here.rest.take (here.rest.length - rest.length) = '\\' :: e := by
      rw [hslash, show '\\' :: (e ++ rest) = ('\\' :: e) ++ rest from rfl, List.length_append,
        Nat.add_sub_cancel, List.take_left]
    rw [htake]
    exact .after hslash
  · cases h

/-! ## Strings -/

/-- **The inside of a string is read from items**, up to the first quote that is none. -/
theorem Cursor.quotedBody_spans {quote : Char} {opening fuel : Nat} {here next : Cursor}
    {value : List Char} (h : here.quotedBody quote opening fuel = .ok (value, next)) :
    ∃ w, StringItems quote w value ∧ here.Spans next (w ++ [quote]) := by
  induction fuel generalizing here value with
  | zero => cases h
  | succ fuel ih =>
    unfold quotedBody at h
    split at h
    · cases h
    · rename_i c cs hrest
      split at h
      · rename_i hquote
        cases h
        rw [← hquote]
        exact ⟨[], .nil, .after hrest⟩
      rename_i hquote
      split at h
      · rename_i hslash
        obtain ⟨⟨decoded, middle⟩, hescape, h⟩ := bind_eq_ok.mp h
        obtain ⟨⟨more, last⟩, hmore, heq⟩ := bind_eq_ok.mp h
        cases heq
        -- the escape and what the loop reads behind it join into one stretch
        obtain ⟨e, hspelling, he⟩ := escape_spans (hslash ▸ hrest) hescape
        obtain ⟨w, hitems, hw⟩ := ih hmore
        refine ⟨'\\' :: e ++ w, .cons (stringItem_iff.mpr (.inr ⟨e, rfl, hspelling⟩)) hitems, ?_⟩
        rw [List.append_assoc]
        exact he.trans hw
      · rename_i hslash
        split at h
        · cases h
        · rename_i hcontrol
          obtain ⟨⟨more, last⟩, hmore, heq⟩ := bind_eq_ok.mp h
          cases heq
          obtain ⟨w, hitems, hw⟩ := ih hmore
          exact ⟨[c] ++ w, .cons (.plain (Nat.not_lt.mp hcontrol) hslash hquote) hitems,
            (Spans.after (w := [c]) hrest).trans hw⟩

/-- A string is read from its items between two quotes. -/
theorem Cursor.quoted_spans {quote : Char} {here next : Cursor} {cs value : List Char}
    (hquote : here.rest = quote :: cs) (h : here.quoted quote = .ok (value, next)) :
    ∃ w, StringItems quote w value ∧ here.Spans next (quote :: (w ++ [quote])) := by
  unfold quoted at h
  rw [hquote, List.drop_one, List.tail_cons] at h
  obtain ⟨w, hitems, hw⟩ := quotedBody_spans h
  exact ⟨w, hitems, (Spans.after (w := [quote]) hquote).trans hw⟩

/-! ## Numerals -/

namespace Numeral

/-- The spelling of a fraction, if there is one. -/
def fractionText : Option (List Char) → List Char
  | none => []
  | some ds => '.' :: ds

/-- The spelling of an exponent part, if there is one. -/
def exponentText : Option Exponent → List Char
  | none => []
  | some e => e.text

/-- The spelling of a sign. -/
def signText (negative : Bool) : List Char := if negative then ['-'] else []

/-- The spelling of a numeral is that of its four parts. -/
theorem text_eq (n : Numeral) :
    n.text = signText n.negative ++ n.whole ++ fractionText n.fraction
      ++ exponentText n.exponent := by
  unfold text fractionText exponentText
  rfl

variable {cs rest : List Char}

/-- The whole part is cut off the front, and is not empty. -/
theorem scanWhole_split {ds : List Char} (h : scanWhole cs = some (ds, rest)) :
    ds ≠ [] ∧ cs = ds ++ rest := by
  unfold scanWhole at h
  split at h
  · split at h
    · cases h
      exact ⟨by simp, rfl⟩
    · split at h
      · cases h
      · cases h
        exact ⟨by simp, rfl⟩
  -- a number that does not begin with zero has all the digits that stand there
  · obtain ⟨taken, left, hspan⟩ : ∃ taken left, cs.span Char.isDigit = (taken, left) :=
      ⟨_, _, rfl⟩
    rw [hspan] at h
    cases taken with
    | nil => cases h
    | cons d ds =>
      cases h
      exact ⟨by simp, (span_eq_iff.mp hspan).1⟩

theorem scanFraction_split {fraction : Option (List Char)}
    (h : scanFraction cs = some (fraction, rest)) : cs = fractionText fraction ++ rest := by
  unfold scanFraction at h
  split at h
  · rename_i cs
    obtain ⟨taken, left, hspan⟩ : ∃ taken left, cs.span Char.isDigit = (taken, left) :=
      ⟨_, _, rfl⟩
    rw [hspan] at h
    cases taken with
    | nil => cases h
    | cons d ds =>
      cases h
      rw [(span_eq_iff.mp hspan).1]
      rfl
  · cases h
    rfl

/-- The sign of an exponent is cut off the front. -/
theorem scanSign_split (cs : List Char) : cs = (scanSign cs).1.toList ++ (scanSign cs).2 := by
  unfold scanSign
  split <;>
  rfl

theorem scanExponent_split {exponent : Option Exponent}
    (h : scanExponent cs = some (exponent, rest)) : cs = exponentText exponent ++ rest := by
  unfold scanExponent at h
  split at h
  · cases h
    rfl
  · rename_i c cs
    split at h
    · have hsign := scanSign_split cs
      -- the sign is cut off first, and the digits behind it decide
      generalize scanSign cs = scanned at h hsign
      obtain ⟨sign, more⟩ := scanned
      obtain ⟨taken, left, hspan⟩ : ∃ taken left, more.span Char.isDigit = (taken, left) :=
        ⟨_, _, rfl⟩
      dsimp only at h hsign
      rw [hspan] at h
      rw [hsign, (span_eq_iff.mp hspan).1]
      cases taken with
      | nil => cases h
      | cons d ds =>
        cases h
        simp [exponentText, Exponent.text]
    · cases h
      rfl

/-- **A numeral is scanned as it is spelled.** -/
theorem scan_split {n : Numeral} (h : scan cs = some (n, rest)) :
    n.whole ≠ [] ∧ cs = n.text ++ rest := by
  simp only [scan, bind, Option.bind_eq_some_iff] at h
  obtain ⟨⟨whole, us⟩, hwhole, h⟩ := h
  obtain ⟨⟨fraction, vs⟩, hfraction, h⟩ := h
  obtain ⟨⟨exponent, ws⟩, hexponent, heq⟩ := h
  cases heq
  obtain ⟨hne, hus⟩ := scanWhole_split hwhole
  have hvs := scanFraction_split hfraction
  have hws := scanExponent_split hexponent
  refine ⟨hne, ?_⟩
  -- put together from the end: each part is what the one before it left
  dsimp only at hus hvs hws
  rw [text_eq]
  rw [hvs, hws] at hus
  split at hus <;>
  simpa [signText] using hus

end Numeral

/-! ## Tokens -/

namespace Cursor

/-- A name is read from its spelling, which has a backslash just where it has an escape. -/
theorem nameBody_spans {fuel : Nat} {read : Bool} {here next : Cursor} {name : List Char}
    {escapes : Bool} (h : here.nameBody fuel read = .ok (name, escapes, next)) :
    ∃ w, here.Spans next w ∧ NameSpelling read w name ∧ (escapes = true ↔ '\\' ∈ w) := by
  induction fuel generalizing here read name escapes with
  | zero =>
    cases h
    exact ⟨[], .nil _, .done read, by simp⟩
  | succ fuel ih =>
    unfold nameBody at h
    split at h
    · cases h
      exact ⟨[], .nil _, .done read, by simp⟩
    · rename_i c cs hrest
      split at h
      · rename_i hslash
        obtain ⟨⟨decoded, middle⟩, hescape, h⟩ := bind_eq_ok.mp h
        obtain ⟨⟨more, others, last⟩, hmore, heq⟩ := bind_eq_ok.mp h
        cases heq
        obtain ⟨e, he, hspans⟩ := escape_spans (hslash ▸ hrest) hescape
        obtain ⟨w, hw, hname, -⟩ := ih hmore
        exact ⟨_, hspans.trans hw, .escape he hname, by simp⟩
      · rename_i hslash
        by_cases hc : (if read then isNameChar c else isNameStart c) = true
        · rw [if_pos hc] at h
          obtain ⟨⟨more, others, last⟩, hmore, heq⟩ := bind_eq_ok.mp h
          cases heq
          obtain ⟨w, hw, hname, hescapes⟩ := ih hmore
          refine ⟨[c] ++ w, .trans (.after hrest) hw, .plain hc hname, hescapes.trans ?_⟩
          rw [List.singleton_append, List.mem_cons, or_iff_right (Ne.symm hslash)]
        · rw [if_neg hc] at h
          cases h
          exact ⟨[], .nil _, .done read, by simp⟩

/-- A name has a character where one begins. -/
theorem nameBody_ne_nil {fuel : Nat} {here next : Cursor} {name : List Char} {escapes : Bool}
    {c : Char} {cs : List Char} (hrest : here.rest = c :: cs) (hc : c = '\\' ∨ isNameStart c)
    (h : here.nameBody (fuel + 1) false = .ok (name, escapes, next)) : name ≠ [] := by
  unfold nameBody at h
  rw [hrest] at h
  dsimp only at h
  split at h
  · obtain ⟨⟨decoded, middle⟩, -, h⟩ := bind_eq_ok.mp h
    obtain ⟨⟨more, others, last⟩, -, heq⟩ := bind_eq_ok.mp h
    cases heq
    simp
  -- no backslash, so a letter stands here and is read
  · rename_i hslash
    simp only [Bool.false_eq_true, if_false, hc.resolve_left hslash, if_true] at h
    obtain ⟨⟨more, others, last⟩, -, heq⟩ := bind_eq_ok.mp h
    cases heq
    simp

/-- **How a token is read**: by which scanner, and what that scanner answered. -/
inductive Scans (here : Cursor) : Lexeme → Cursor → Prop
  | finished (hrest : here.rest = []) : Scans here .endOfInput here
  | blank {c : Char} {cs run rest : List Char} (hrest : here.rest = c :: cs)
      (hblank : JsonQuery.isBlank c = true)
      (hspan : here.rest.span JsonQuery.isBlank = (run, rest)) :
      Scans here (.blank (String.ofList run)) (here.after run rest)
  | string {quote : Char} {cs value : List Char} {next : Cursor}
      (hrest : here.rest = quote :: cs) (hquote : quote = '\'' ∨ quote = '"')
      (hquoted : here.quoted quote = .ok (value, next)) :
      Scans here (.string (String.ofList value)) next
  | numeral {n : Numeral} {c : Char} {cs rest : List Char} (hrest : here.rest = c :: cs)
      (hstart : c = '-' ∨ c.isDigit = true) (hscan : Numeral.scan here.rest = some (n, rest)) :
      Scans here (.numeral n) (here.after n.text rest)
  | identifier {c : Char} {cs name : List Char} {escapes : Bool} {next : Cursor}
      (hrest : here.rest = c :: cs) (hstart : c = '\\' ∨ isNameStart c = true)
      (hbody : here.nameBody here.rest.length false = .ok (name, escapes, next))
      (hname : escapes = true ∨ Keyword.ofText? name = none) :
      Scans here (.identifier (String.ofList name)) next
  | keyword {c : Char} {cs name : List Char} {k : Keyword} {next : Cursor}
      (hrest : here.rest = c :: cs) (hstart : c = '\\' ∨ isNameStart c = true)
      (hbody : here.nameBody here.rest.length false = .ok (name, false, next))
      (hname : Keyword.ofText? name = some k) : Scans here (.keyword k) next
  | punctuation {c : Char} {cs : List Char} (hrest : here.rest = c :: cs)
      (hblank : JsonQuery.isBlank c = false) :
      Scans here (.punctuation c) (here.after [c] cs)

variable {here next : Cursor} {l : Lexeme}

/-- What is read is read by one of the scanners. -/
theorem scans_of_lexeme (h : here.lexeme = .ok (l, next)) : here.Scans l next := by
  unfold lexeme at h
  split at h
  · rename_i hrest
    cases h
    exact .finished hrest
  · rename_i c cs hrest
    split at h
    · rename_i hblank
      cases h
      exact .blank hrest hblank rfl
    rename_i hsolid
    split at h
    · rename_i hquote
      obtain ⟨⟨value, last⟩, hquoted, heq⟩ := bind_eq_ok.mp h
      cases heq
      exact .string hrest hquote hquoted
    split at h
    · rename_i hstart
      unfold numeral at h
      split at h
      · rename_i hscan
        cases h
        exact .numeral hrest hstart hscan
      · cases h
    split at h
    · rename_i hstart
      obtain ⟨⟨name, escapes, last⟩, hbody, heq⟩ := bind_eq_ok.mp h
      cases heq
      cases escapes with
      | true => exact .identifier hrest hstart hbody (.inl rfl)
      | false =>
        simp only [Bool.false_eq_true, if_false]
        split
        · rename_i hname
          exact .keyword hrest hstart hbody hname
        · rename_i hname
          exact .identifier hrest hstart hbody (.inr hname)
    · cases h
      exact .punctuation hrest (by simpa using hsolid)

/-- **A token is a stretch of the text**, and not an empty one unless the text ends. -/
theorem Scans.spans (h : here.Scans l next) :
    ∃ w, here.Spans next w ∧ (l ≠ .endOfInput → w ≠ []) := by
  cases h with
  | finished => exact ⟨[], .nil here, fun hl => absurd rfl hl⟩
  | blank hrest hblank hspan =>
    obtain ⟨hsplit, -, hstop⟩ := span_eq_iff.mp hspan
    refine ⟨_, .after hsplit, fun _ hrun => ?_⟩
    -- an empty run would stop at a character that is blank
    rw [hrun, List.nil_append, hrest] at hsplit
    rw [← hsplit] at hstop
    rw [hstop _ rfl] at hblank
    cases hblank
  | string hrest hquote hquoted =>
    obtain ⟨w, -, hspans⟩ := quoted_spans hrest hquoted
    exact ⟨_, hspans, fun _ => by simp⟩
  | @numeral n _ _ _ hrest hstart hscan =>
    obtain ⟨hne, hsplit⟩ := Numeral.scan_split hscan
    exact ⟨n.text, .after hsplit, fun _ => by simp [Numeral.text_eq, hne]⟩
  | identifier hrest hstart hbody | keyword hrest hstart hbody =>
    obtain ⟨w, hspans, hname, -⟩ := nameBody_spans hbody
    rw [hrest, List.length_cons] at hbody
    refine ⟨w, hspans, fun _ hnil => ?_⟩
    -- nothing spells no name but the one without characters
    subst hnil
    cases hname
    exact nameBody_ne_nil hrest hstart hbody rfl
  | punctuation hrest => exact ⟨_, .after hrest, fun _ => by simp⟩

/-- No blank space is left behind a blank token. -/
theorem Scans.stops (h : here.Scans l next) (hl : l.isBlank = true) :
    ∀ c ∈ next.rest.head?, JsonQuery.isBlank c = false := by
  cases h with
  | blank hrest hblank hspan => exact (span_eq_iff.mp hspan).2.2
  | _ => cases hl

/-- A blank token is read only where blank space stands. -/
theorem Scans.isBlank_eq_false (h : here.Scans l next)
    (hstart : ∀ c ∈ here.rest.head?, JsonQuery.isBlank c = false) : l.isBlank = false := by
  cases h with
  | blank hrest hblank =>
    rw [hstart _ (by rw [hrest]; rfl)] at hblank
    cases hblank
  | _ => rfl

end Cursor

end JsonQuery
