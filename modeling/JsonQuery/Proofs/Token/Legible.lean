import JsonQuery.Json.Printer
import JsonQuery.Proofs.Grammar.Acceptance
import JsonQuery.Proofs.Number.Spelling
import JsonQuery.Proofs.Token.StringLiteral

/-
Lexemes that are read back from their spelling.

A lexeme is found again at the start of a text when nothing behind it goes on with it.
That is no matter for strings and signs, but names, numbers and blank space end where
the text behind them says so. A list of lexemes is legible when each is found again
before the spelling of those behind it, and then the tokens of its spelling are the
list. A lexeme may be written in another way than its spelling; what matters is that it
is read as that lexeme (`Lexeme.ReadFrom`).
-/

set_option autoImplicit false

namespace JsonQuery

/-- **Whether a lexeme is found again at the start of a text**, before `behind`. -/
def Lexeme.ReadsBack (l : Lexeme) (behind : List Char) : Prop :=
  l.isLast = false ∧ ∀ here : Cursor, here.rest = l.spelling ++ behind →
    here.lexeme = .ok (l, here.after l.spelling behind)

/-- **Whether a lexeme is read from the characters `w`**, before `behind`. -/
def Lexeme.ReadFrom (l : Lexeme) (w behind : List Char) : Prop :=
  l.isLast = false ∧ ∀ here : Cursor, here.rest = w ++ behind →
    here.lexeme = .ok (l, here.after w behind)

theorem Lexeme.ReadsBack.readFrom {l : Lexeme} {behind : List Char} (h : l.ReadsBack behind) :
    l.ReadFrom l.spelling behind := h

/-- The characters of lexemes one after the other. -/
def spelled (ls : List Lexeme) : List Char := ls.flatMap Lexeme.spelling

/-- **Whether lexemes are read back from their spelling**, each before those behind it. -/
def Legible : List Lexeme → Prop
  | [] => True
  | l :: ls => l.ReadsBack (spelled ls) ∧ Legible ls

/-! ## Signs and blank space -/

/-- Whether a character is a token of its own wherever it stands. -/
def isSign (c : Char) : Bool :=
  !(isBlank c || c == '\'' || c == '"' || c == '-' || c.isDigit || c == '\\' || isNameStart c)

/-- A sign is found again before anything. -/
theorem punctuation_readsBack {c : Char} (hc : isSign c = true) (behind : List Char) :
    (Lexeme.punctuation c).ReadsBack behind := by
  refine ⟨rfl, fun here hrest => ?_⟩
  simp only [isSign, Bool.not_eq_true', Bool.or_eq_false_iff, beq_eq_false_iff_ne] at hc
  obtain ⟨⟨⟨⟨⟨⟨hblank, hsingle⟩, hdouble⟩, hminus⟩, hdigit⟩, hslash⟩, hname⟩ := hc
  rw [Cursor.lexeme, hrest]
  simp [Lexeme.spelling, hblank, hsingle, hdouble, hminus, hdigit, hslash, hname]

/-- Blank space is found again where no more of it follows. -/
theorem blank_readsBack {behind : List Char} (h : ∀ c ∈ behind.head?, isBlank c = false) :
    (Lexeme.blank " ").ReadsBack behind := by
  refine ⟨rfl, fun here hrest => ?_⟩
  have hspan : here.rest.span isBlank = ([' '], behind) :=
    span_eq_iff.mpr ⟨hrest, fun c hc => List.mem_singleton.mp hc ▸ rfl, h⟩
  have hblank : here.blank = (.blank " ", here.after [' '] behind) := by
    rw [Cursor.blank, hspan]
  rw [Cursor.lexeme, hrest]
  exact congrArg Except.ok hblank

/-! ## Strings and numbers -/

/-- **A string is read from between quotes of either sort.** -/
theorem string_readFrom {quote : Char} (hquote : quote = '\'' ∨ quote = '"') (value : String)
    (behind : List Char) :
    (Lexeme.string value).ReadFrom (quotedText quote value.toList) behind := by
  refine ⟨rfl, fun here hrest => ?_⟩
  have hquoted := Cursor.quoted_quotedText hquote value.toList here hrest
  rw [quotedText, List.cons_append] at hrest
  rw [Cursor.lexeme_quote hquote hrest, Cursor.stringLiteral, hquoted]
  simp

/-- A string is found again before anything, since it has quotes. -/
theorem string_readsBack (value : String) (behind : List Char) :
    (Lexeme.string value).ReadsBack behind :=
  string_readFrom (.inr rfl) value behind

/-- A number begins with a character that begins nothing else. -/
theorem numeral_start {c : Char} (hc : c = '-' ∨ c.isDigit = true) :
    isBlank c = false ∧ c ≠ '\'' ∧ c ≠ '"' := by
  rcases hc with rfl | hc
  · decide
  · have hne (d : Char) (hd : d.isDigit = false) : c ≠ d := ne_of_isDigit hc hd
    exact ⟨isBlank_of_isDigit hc, hne _ rfl, hne _ rfl⟩

/-- A number is found again where the text does not go on with it. -/
theorem numeral_readsBack {n : Numeral} {behind : List Char} (h : n.WellFormed)
    (hbehind : Numeral.Ends behind) : (Lexeme.numeral n).ReadsBack behind := by
  refine ⟨rfl, fun here hrest => ?_⟩
  obtain ⟨c, cs, htext, hc⟩ : ∃ c cs, n.text = c :: cs ∧ (c = '-' ∨ c.isDigit = true) := by
    -- the first character is the sign, or else the first digit
    rw [Numeral.text_eq]
    cases n.negative with
    | true => exact ⟨'-', _, rfl, .inl rfl⟩
    | false =>
      cases hwhole : n.whole with
      | nil => exact absurd hwhole h.whole.1
      | cons d ds => exact ⟨d, _, rfl, .inr (h.whole.2 d (by simp [hwhole]))⟩
  obtain ⟨hblank, hsingle, hdouble⟩ := numeral_start hc
  have hscan : Numeral.scan here.rest = some (n, behind) := hrest ▸ Numeral.scan_text h hbehind
  have hstart : here.rest = c :: (cs ++ behind) := by
    rw [hrest, Lexeme.spelling, htext]
    rfl
  rw [Cursor.lexeme, hstart]
  simp [hblank, hsingle, hdouble, hc, Cursor.numeral, hscan, Lexeme.spelling]

/-! ## Names -/

/-- Whether a text does not go on with a name before it. -/
def EndsName (behind : List Char) : Prop :=
  ∀ c ∈ behind.head?, isNameChar c = false ∧ c ≠ '\\'

theorem ne_slash_of_isNameChar {c : Char} (hc : isNameChar c = true) : c ≠ '\\' := by
  rintro rfl
  exact absurd hc (by decide)

/-- **The characters of a name are read through its end.** -/
theorem nameBody_eq {name behind : List Char} (hname : ∀ c ∈ name, isNameChar c = true)
    (hbehind : EndsName behind) (fuel : Nat) (here : Cursor) (hrest : here.rest = name ++ behind)
    (hfuel : name.length ≤ fuel) :
    here.nameBody fuel true = .ok (name, false, here.after name behind) := by
  induction name generalizing here fuel with
  | nil =>
    have hhere : here.after [] behind = here := by
      rw [Cursor.after, utf8Size_nil, Nat.add_zero, ← List.nil_append behind, ← hrest]
    rw [hhere]
    cases fuel with
    | zero => rfl
    | succ fuel =>
      rw [Cursor.nameBody, hrest]
      cases behind with
      | nil => rfl
      | cons c behind =>
        obtain ⟨hc, hslash⟩ := hbehind c rfl
        simp [hc, hslash]
  | cons c name ih =>
    obtain ⟨fuel, rfl⟩ := Nat.exists_eq_add_one.mpr (Nat.zero_lt_of_lt hfuel)
    have hc := hname c List.mem_cons_self
    have hnext := ih (fun d hd => hname d (List.mem_cons_of_mem _ hd)) fuel
      (here.after [c] (name ++ behind)) rfl (by simpa using hfuel)
    -- one character and then the others is the same way as all of them
    have hafter : (here.after [c] (name ++ behind)).after name behind
        = here.after (c :: name) behind := by
      simp [Cursor.after, Nat.add_assoc]
    rw [hafter] at hnext
    rw [Cursor.nameBody, hrest]
    simp [ne_slash_of_isNameChar hc, hc, hnext]

theorem isAlpha_of_isLower {c : Char} (hc : c.isLower = true) : c.isAlpha = true := by
  show (c.isUpper || c.isLower) = true
  rw [hc, Bool.or_true]

/-- A lowercase letter begins a name and nothing else. -/
theorem name_start {c : Char} (hc : c.isLower = true) :
    isNameStart c = true ∧ isBlank c = false ∧ c ≠ '\'' ∧ c ≠ '"' ∧ c ≠ '-'
      ∧ c.isDigit = false := by
  have hstart : isNameStart c = true := by simp [isNameStart, isAlpha_of_isLower hc]
  exact ⟨hstart, begins_name hstart⟩

/-- The lexeme of a name that is written without escapes. -/
def nameLexeme (name : List Char) : Lexeme :=
  match Keyword.ofText? name with
  | some k => .keyword k
  | none => .identifier (String.ofList name)

/-- A name is spelled as it is written, whether it is a keyword or not. -/
theorem spelling_nameLexeme (name : List Char) : (nameLexeme name).spelling = name := by
  unfold nameLexeme
  split
  · rename_i k hk
    exact (Keyword.eq_of_ofText? hk).symm
  · simp [Lexeme.spelling]

/-- **A name of lowercase letters and the like is read back**, as a keyword if it is
one. -/
theorem nameLexeme_readsBack {c : Char} {name behind : List Char} (hc : c.isLower = true)
    (hname : ∀ d ∈ name, isNameChar d = true) (hbehind : EndsName behind) :
    (nameLexeme (c :: name)).ReadsBack behind := by
  refine ⟨by unfold nameLexeme; split <;> rfl, fun here hrest => ?_⟩
  rw [spelling_nameLexeme] at hrest ⊢
  obtain ⟨hstart, hblank, hsingle, hdouble, hminus, hdigit⟩ := name_start hc
  have hslash : c ≠ '\\' := ne_slash_of_isNameChar (by simp [isNameChar, hstart])
  have hlength : here.rest.length = (name ++ behind).length + 1 := by
    rw [hrest]
    rfl
  have hbody := nameBody_eq hname hbehind (name ++ behind).length
    (here.after [c] (name ++ behind)) rfl (by simp)
  have hafter : (here.after [c] (name ++ behind)).after name behind
      = here.after (c :: name) behind := by
    simp [Cursor.after, Nat.add_assoc]
  -- the first character has to begin a name, and the others need only belong to one
  have hwhole : here.nameBody here.rest.length false
      = .ok (c :: name, false, here.after (c :: name) behind) := by
    rw [hlength, Cursor.nameBody, hrest]
    simp only [List.cons_append, hslash, if_false, Bool.false_eq_true, hstart, if_true, hbody,
      ok_bind, hafter]
    rfl
  rw [Cursor.lexeme, hrest]
  simp only [List.cons_append, hblank, Bool.false_eq_true, if_false, hsingle, hdouble, or_self,
    hminus, hdigit, hstart, or_true, if_true, Cursor.name, hwhole, ok_bind]
  rfl

/-! ## Texts -/

/-- A lexeme is read from a character at least. -/
theorem Lexeme.ReadFrom.ne_nil {l : Lexeme} {w behind : List Char} (h : l.ReadFrom w behind) :
    w ≠ [] := by
  intro hnil
  obtain ⟨hlast, hread⟩ := h
  have hscans := Cursor.scans_of_lexeme (hread ⟨0, behind⟩ (by simp [hnil]))
  obtain ⟨v, hspans, hv⟩ := hscans.spans
  have hne : l ≠ .endOfInput := fun hl => by rw [hl] at hlast; cases hlast
  -- a token that is not the last one moves the cursor, and this one would not
  have hlt := hspans.length_lt (hv hne)
  rw [hnil] at hlt
  exact absurd hlt (Nat.lt_irrefl _)

/-- The characters that lexemes are read from, one after the other. -/
def written (ms : List (Lexeme × List Char)) : List Char := ms.flatMap Prod.snd

/-- **Whether lexemes are read from the characters they come with**, each before those of
the ones behind it. -/
def ReadInTurn : List (Lexeme × List Char) → Prop
  | [] => True
  | m :: ms => m.1.ReadFrom m.2 (written ms) ∧ ReadInTurn ms

/-- **Lexemes that are read in turn are the tokens of what they are read from**, up to the
end of input. -/
theorem tokens_written {ms : List (Lexeme × List Char)} (h : ReadInTurn ms) (fuel : Nat)
    (here : Cursor) (hrest : here.rest = written ms) (hfuel : (written ms).length < fuel) :
    lexemes (here.tokens fuel) = ms.map Prod.fst ++ [.endOfInput] := by
  induction ms generalizing here fuel with
  | nil =>
    obtain ⟨fuel, rfl⟩ := Nat.exists_eq_add_one.mpr (Nat.zero_lt_of_lt hfuel)
    have hscan : here.scan = (⟨.endOfInput, here.offset⟩, here) := by
      rw [Cursor.scan, Cursor.lexeme, hrest]
      rfl
    rw [Cursor.tokens, hscan]
    rfl
  | cons m ms ih =>
    obtain ⟨fuel, rfl⟩ := Nat.exists_eq_add_one.mpr (Nat.zero_lt_of_lt hfuel)
    obtain ⟨hm, hms⟩ := h
    have hpos := List.length_pos_iff.mpr hm.ne_nil
    have hsplit : written (m :: ms) = m.2 ++ written ms := List.flatMap_cons
    rw [hsplit] at hrest hfuel
    rw [List.length_append] at hfuel
    have hnext := ih hms fuel (here.after m.2 (written ms)) rfl (by omega)
    have hscan : here.scan = (⟨m.1, here.offset⟩, here.after m.2 (written ms)) := by
      rw [Cursor.scan, hm.2 here hrest]
    rw [Cursor.tokens, hscan]
    simp [hm.1, hnext]

/-- A text is cut into the lexemes that are read in turn from it. -/
theorem tokenize_written {ms : List (Lexeme × List Char)} (h : ReadInTurn ms) :
    lexemes (tokenize (String.ofList (written ms))) = ms.map Prod.fst ++ [.endOfInput] := by
  rw [tokenize, String.toList_ofList]
  exact tokens_written h _ _ rfl (Nat.lt_succ_self _)

/-- A lexeme with its spelling. -/
def Lexeme.withSpelling (l : Lexeme) : Lexeme × List Char := (l, l.spelling)

theorem written_withSpelling (ls : List Lexeme) :
    written (ls.map Lexeme.withSpelling) = spelled ls := List.flatMap_map ..

/-- Legible lexemes are read in turn from their spellings. -/
theorem Legible.readInTurn {ls : List Lexeme} (h : Legible ls) :
    ReadInTurn (ls.map Lexeme.withSpelling) := by
  induction ls with
  | nil => trivial
  | cons l ls ih =>
    refine ⟨?_, ih h.2⟩
    rw [written_withSpelling]
    exact h.1.readFrom

/-- **A legible text is cut into the lexemes that it spells.** -/
theorem tokenize_spell {ls : List Lexeme} (h : Legible ls) :
    lexemes (tokenize (Lexeme.spell ls)) = ls ++ [.endOfInput] := by
  have htokens := tokenize_written h.readInTurn
  rw [written_withSpelling, List.map_map] at htokens
  rw [Lexeme.spell]
  refine htokens.trans (congrArg (· ++ [Lexeme.endOfInput]) ?_)
  exact List.map_id ls

end JsonQuery
