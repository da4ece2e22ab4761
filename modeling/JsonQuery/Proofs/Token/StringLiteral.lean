import JsonQuery.Proofs.Token.Span

/-
String literals are decoded exactly.

A string literal is a quote, items and the same quote (`StringLiteral`), and stands for the text of
its items. What the scanner reads is one (`Cursor.quoted_spans`), and it reads every one, whatever
stands behind it (`Cursor.quoted_literal`). Since the scanner has one answer, no two literals
begin a text (`StringLiteral.unique`): an item that ends with a quote hides it behind a backslash,
which belongs to the same item. So the literal at the start of a text is the shortest one there,
and without any the first token is malformed.

Among the spellings of a text is the one that is written for it, so a text that is written between
quotes is read back (`Cursor.quoted_quotedText`).
-/

set_option autoImplicit false

namespace JsonQuery

/-- **A string literal** between `quote`s, and the text that it stands for. -/
inductive StringLiteral (quote : Char) : List Char → List Char → Prop
  | quoted {w value : List Char} (items : StringItems quote w value) :
      StringLiteral quote (quote :: (w ++ [quote])) value

/-- **The shortest string literal at the start of a text.** -/
structure ShortestLiteral (quote : Char) (text w value : List Char) : Prop where
  starts : w <+: text
  literal : StringLiteral quote w value
  shortest : ∀ v other, v <+: text → StringLiteral quote v other → w.length ≤ v.length

/-! ## Reading -/

section Reading

variable {quote : Char} {opening : Nat} {v w value other rest : List Char}

/-- An item is not empty. -/
theorem StringItem.ne_nil {c : Char} (h : StringItem quote w c) : w ≠ [] := by
  cases h <;> exact List.cons_ne_nil _ _

/-- **Items are read as the text they stand for**, up to the quote behind them. -/
theorem Cursor.quotedBody_items (hquote : quote = '\'' ∨ quote = '"')
    (h : StringItems quote w value) (fuel : Nat) (here : Cursor)
    (hrest : here.rest = w ++ quote :: rest) (hfuel : w.length < fuel) :
    here.quotedBody quote opening fuel = .ok (value, here.after (w ++ [quote]) rest) := by
  induction h generalizing here fuel with
  | nil =>
    obtain ⟨fuel, rfl⟩ := Nat.exists_eq_add_one.mpr (Nat.zero_lt_of_lt hfuel)
    rw [quotedBody, hrest]
    simp
  | @cons item w value c first more ih =>
    obtain ⟨fuel, rfl⟩ := Nat.exists_eq_add_one.mpr (Nat.zero_lt_of_lt hfuel)
    have hpos := List.length_pos_iff.mpr first.ne_nil
    rw [List.length_append] at hfuel
    rw [List.append_assoc] at hrest
    have hnext := ih fuel (here.after item (w ++ quote :: rest)) rfl (by omega)
    -- one item and then the others is the same way as all of them
    have hafter : (here.after item (w ++ quote :: rest)).after (w ++ [quote]) rest
        = here.after (item ++ w ++ [quote]) rest := by
      simp [after, Nat.add_assoc]
    rw [hafter] at hnext
    rcases stringItem_iff.mp first with ⟨rfl, hcontrol, hslash, hne⟩ | ⟨e, rfl, he⟩
    · rw [quotedBody, hrest]
      simp only [List.singleton_append, hne, hslash, Nat.not_lt.mpr hcontrol, if_false]
      rw [hnext]
      rfl
    · have hescape := escape_eq hrest (he.complete (by simpa using hquote) _)
      -- the backslash is no quote, so it does not end the string
      have hslash : ('\\' : Char) ≠ quote := by
        rcases hquote with rfl | rfl <;>
        decide
      rw [quotedBody, hrest]
      simp only [List.cons_append, hslash, if_false, if_true, hescape, ok_bind]
      rw [hnext]
      rfl

/-- **A string literal is read as the text it stands for**, whatever stands behind it. -/
theorem Cursor.quoted_literal (hquote : quote = '\'' ∨ quote = '"')
    (h : StringLiteral quote w value) (here : Cursor) (hrest : here.rest = w ++ rest) :
    here.quoted quote = .ok (value, here.after w rest) := by
  obtain @⟨w, _, items⟩ := h
  have hinside : here.rest.drop 1 = w ++ quote :: rest := by
    rw [hrest]
    simp
  have hfuel : w.length < here.rest.length := by
    rw [hrest]
    simp only [List.cons_append, List.length_cons, List.length_append]
    omega
  rw [quoted, quotedBody_items hquote items _ (here.after [quote] (here.rest.drop 1)) hinside hfuel]
  simp [after, Nat.add_assoc]

/-- **No two string literals begin a text**, and a literal stands for one text. -/
theorem StringLiteral.unique (hquote : quote = '\'' ∨ quote = '"')
    (hv : StringLiteral quote v value) (hw : StringLiteral quote w other) {text : List Char}
    (hvtext : v <+: text) (hwtext : w <+: text) : v = w ∧ value = other := by
  obtain ⟨behind, hbehind⟩ := hvtext
  obtain ⟨rest, hrest⟩ := hwtext
  have hread := Cursor.quoted_literal hquote hv (.start text) hbehind.symm
  rw [Cursor.quoted_literal hquote hw (.start text) hrest.symm] at hread
  obtain ⟨hvalue, hnext⟩ := Prod.mk.inj (Except.ok.inj hread)
  -- what is left behind both is the same, so what was read is too
  have hleft : rest = behind := congrArg Cursor.rest hnext
  rw [← hbehind, hleft] at hrest
  exact ⟨(List.append_cancel_right hrest).symm, hvalue.symm⟩

/-- So a literal at the start of a text is the shortest one there. -/
theorem StringLiteral.isShortest (hquote : quote = '\'' ∨ quote = '"')
    (hw : StringLiteral quote w value) {text : List Char} (htext : w <+: text) :
    ShortestLiteral quote text w value where
  starts := htext
  literal := hw
  shortest v other hv hother := by
    rw [(hw.unique hquote hother htext hv).1]

end Reading

/-! ## Written strings -/

/-- **What is written for a text between quotes spells it.** -/
theorem stringItems_escaped {quote : Char} (hquote : quote = '\'' ∨ quote = '"')
    (value : List Char) : StringItems quote (value.flatMap (escaped quote)) value := by
  induction value with
  | nil => exact .nil
  | cons c value ih =>
    rw [List.flatMap_cons]
    refine .cons (stringItem_iff.mpr ?_) ih
    rcases escaped_cases hquote c with ⟨hself, hne, hslash, hplain⟩ | ⟨e, hescaped, hread⟩
    · exact .inl ⟨hself, hplain, hslash, hne⟩
    · obtain ⟨f, hf, hspelling⟩ := escape_sound (hread [])
      obtain rfl := List.append_cancel_right hf
      exact .inr ⟨e, hescaped, hspelling⟩

/-- **A quoted text is read back.** -/
theorem Cursor.quoted_quotedText {quote : Char} {rest : List Char}
    (hquote : quote = '\'' ∨ quote = '"') (value : List Char) (here : Cursor)
    (hrest : here.rest = quotedText quote value ++ rest) :
    here.quoted quote = .ok (value, here.after (quotedText quote value) rest) :=
  quoted_literal hquote (.quoted (stringItems_escaped hquote value)) here hrest

/-! ## The first token -/

/-- Where a quote stands a string literal is read. -/
theorem Cursor.lexeme_quote {quote : Char} (hquote : quote = '\'' ∨ quote = '"') {here : Cursor}
    {cs : List Char} (hrest : here.rest = quote :: cs) :
    here.lexeme = here.stringLiteral quote := by
  have hblank : JsonQuery.isBlank quote = false := by
    rcases hquote with rfl | rfl <;>
    decide
  rw [lexeme, hrest]
  simp only [hblank, hquote, Bool.false_eq_true, if_false, if_true]

/-- A string that is read well is the token. -/
theorem Cursor.scan_quoted {quote : Char} (hquote : quote = '\'' ∨ quote = '"')
    {here next : Cursor} {cs value : List Char} (hrest : here.rest = quote :: cs)
    (h : here.quoted quote = .ok (value, next)) :
    here.scan = (⟨.string (String.ofList value), here.offset⟩, next) := by
  rw [scan, lexeme_quote hquote hrest, stringLiteral, h]
  rfl

/-- A string that is not is a malformed token, and the last one. -/
theorem Cursor.scan_malformed {quote : Char} (hquote : quote = '\'' ∨ quote = '"')
    {here : Cursor} {cs : List Char} {fault : Fault} (hrest : here.rest = quote :: cs)
    (h : here.quoted quote = .error fault) :
    here.scan = (⟨.invalid fault.cause, fault.offset⟩, here.atEnd) := by
  rw [scan, lexeme_quote hquote hrest, stringLiteral, h]
  rfl

/-- The first token of a text is the one that is scanned first. -/
theorem head?_tokenize (text : String) :
    (tokenize text).head? = some (Cursor.start text.toList).scan.1 := by
  unfold tokenize Cursor.tokens
  dsimp only
  split <;> rfl

/-- **String literals are decoded exactly.** Where a text begins with a quote, its first token is
a string read from the characters `w` just when `w` is the shortest string literal at the start of
the text, and the string is the text that it stands for. Without any the token is malformed. And a
literal is decoded to that text however it is spelled, and whatever stands behind it. -/
theorem scan_stringLiteral {quote : Char} (hquote : quote = '\'' ∨ quote = '"') {text : String}
    (hstart : text.toList.head? = some quote) :
    ∃ t next, (Cursor.start text.toList).scan = (t, next) ∧ (tokenize text).head? = some t
      ∧ (∀ w value, t = ⟨.string value, 0⟩ ∧ (Cursor.start text.toList).Spans next w ↔
          ShortestLiteral quote text.toList w value.toList)
      ∧ ((¬ ∃ w value, ShortestLiteral quote text.toList w value) →
          ∃ cause, t.lexeme = .invalid cause)
      ∧ ∀ w value, StringLiteral quote w value → w <+: text.toList →
          t = ⟨.string (String.ofList value), 0⟩ ∧ (Cursor.start text.toList).Spans next w := by
  obtain ⟨cs, hcs⟩ : ∃ cs, (Cursor.start text.toList).rest = quote :: cs :=
    List.head?_eq_some_iff.mp hstart
  have hhead := head?_tokenize text
  cases hquoted : (Cursor.start text.toList).quoted quote with
  | ok read =>
    obtain ⟨value, next⟩ := read
    obtain ⟨inside, items, hspans⟩ := Cursor.quoted_spans hcs hquoted
    have hliteral := StringLiteral.quoted items
    have hstarts : quote :: (inside ++ [quote]) <+: text.toList := ⟨next.rest, hspans.rest.symm⟩
    have hscan := Cursor.scan_quoted hquote hcs hquoted
    rw [hscan] at hhead
    refine ⟨_, next, hscan, hhead, fun w other => ⟨?_, ?_⟩, ?_, ?_⟩
    · rintro ⟨htoken, hw⟩
      cases htoken
      rw [hw.unique hspans, String.toList_ofList]
      exact hliteral.isShortest hquote hstarts
    · intro h
      obtain ⟨rfl, hvalue⟩ := h.literal.unique hquote hliteral h.starts hstarts
      rw [← hvalue, String.ofList_toList]
      exact ⟨rfl, hspans⟩
    · intro hnone
      exact absurd ⟨_, _, hliteral.isShortest hquote hstarts⟩ hnone
    · intro w other hw hwtext
      obtain ⟨rfl, rfl⟩ := hw.unique hquote hliteral hwtext hstarts
      exact ⟨rfl, hspans⟩
  | error fault =>
    -- a literal at the start of the text would have been read
    have hnone {w value : List Char} (hw : StringLiteral quote w value) : ¬ w <+: text.toList := by
      rintro ⟨rest, hrest⟩
      rw [Cursor.quoted_literal hquote hw _ hrest.symm] at hquoted
      cases hquoted
    have hscan := Cursor.scan_malformed hquote hcs hquoted
    rw [hscan] at hhead
    refine ⟨_, _, hscan, hhead, fun w value => ⟨?_, ?_⟩, fun _ => ⟨_, rfl⟩, ?_⟩
    · rintro ⟨htoken, -⟩
      cases htoken
    · intro h
      exact absurd h.starts (hnone h.literal)
    · intro w value hw hwtext
      exact absurd hwtext (hnone hw)

/-- A pair of surrogates in digits of both cases, an escaped quote and one of the other sort make up
a literal, which ends at its own quote and not at the next one. -/
theorem scan_stringLiteral_mixed :
    let text := "'\\uD834\\udd1e\\'\"' 'x'"
    let w := "'\\uD834\\udd1e\\'\"'".toList
    ('\'' = '\'' ∨ '\'' = '"') ∧ text.toList.head? = some '\''
      ∧ StringLiteral '\'' w ['𝄞', '\'', '"'] ∧ w <+: text.toList
      ∧ ∃ t next, (Cursor.start text.toList).scan = (t, next)
        ∧ t = ⟨.string "𝄞'\"", 0⟩ ∧ (Cursor.start text.toList).Spans next w := by
  intro text w
  have hhigh : Hex4 ['D', '8', '3', '4'] 0xD834 :=
    @Hex4.digits _ _ _ _ 13 8 3 4 (by decide) (by decide) (by decide) (by decide)
  have hlow : Hex4 ['d', 'd', '1', 'e'] 0xDD1E :=
    @Hex4.digits _ _ _ _ 13 13 1 14 (by decide) (by decide) (by decide) (by decide)
  have hpair := @StringItem.pair '\'' _ _ _ _ hhigh hlow (by decide) (by decide)
  rw [show 0x10000 + (0xD834 - 0xD800) * 0x400 + (0xDD1E - 0xDC00) = 0x1D11E by decide] at hpair
  have hother : StringItem '\'' _ '"' := .plain (by decide) (by decide) (by decide)
  have hliteral : StringLiteral '\'' w ['𝄞', '\'', '"'] :=
    .quoted (.cons hpair (.cons .quote (.cons hother .nil)))
  have hstarts : w <+: text.toList := ⟨" 'x'".toList, by decide⟩
  obtain ⟨t, next, hscan, -, -, -, hread⟩ :=
    @scan_stringLiteral '\'' (.inl rfl) text (by decide)
  exact ⟨.inl rfl, by decide, hliteral, hstarts, t, next, hscan, hread w _ hliteral hstarts⟩

end JsonQuery
