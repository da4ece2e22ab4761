import JsonQuery.Proofs.Outcome
import JsonQuery.Text.Quoted

/-
Characters between quotes.

A character is written between quotes as itself or as one escape, and an escape that is
written is read as the character it was written for, whatever stands behind it.
-/

set_option autoImplicit false

namespace JsonQuery

/-! ## Escapes -/

section Escapes

variable {quote c : Char} {rest : List Char}

/-- Four digits are read as the number they stand for. -/
theorem hex4?_hex4Text {n : Nat} (hn : n < 0x20) : hex4? (hex4Text n ++ rest) = some (n, rest) := by
  -- there are only thirty-two of them
  have hdigits : ∀ m < 0x20, ∃ a ∈ [hex4Text m], a.length = 4 ∧ a.all isHexDigit = true
      ∧ ofHexDigits a = m := by decide
  obtain ⟨ds, hds, hlength, hhex, hvalue⟩ := hdigits n hn
  rw [List.mem_singleton] at hds
  subst hds
  match hex4Text n, hlength, hhex, hvalue with
  | [a, b, c, d], _, hhex, hvalue =>
    rw [List.cons_append, List.cons_append, List.cons_append, List.cons_append, List.nil_append,
      hex4?, if_pos hhex, hvalue]

theorem charOfCodePoint?_toNat (c : Char) : charOfCodePoint? c.toNat = some c := by
  unfold charOfCodePoint?
  rw [dif_pos (show c.toNat.isValidChar from c.valid)]
  rfl

/-- A control character is written by its number. -/
theorem unicodeEscape?_hex4Text (hc : c.toNat < 0x20) :
    unicodeEscape? (hex4Text c.toNat ++ rest) = some (c, rest) := by
  -- so no second escape is looked for
  have hhigh : isHighSurrogate c.toNat = false := by
    simp [isHighSurrogate]
    omega
  simp [unicodeEscape?, hex4?_hex4Text hc, hhigh, charOfCodePoint?_toNat]

/-- **A character is written as itself or as an escape of it.** -/
theorem escaped_cases (hquote : quote = '\'' ∨ quote = '"') (c : Char) :
    (escaped quote c = [c] ∧ c ≠ quote ∧ c ≠ '\\' ∧ 0x20 ≤ c.toNat)
      ∨ ∃ e, escaped quote c = '\\' :: e
        ∧ ∀ rest, escape (some quote) (e ++ rest) = .ok (c, rest) := by
  unfold escaped
  split
  · rename_i hc
    refine .inr ⟨[c], rfl, fun rest => ?_⟩
    rcases hc with rfl | rfl
    · rcases hquote with rfl | rfl <;>
      rfl
    · rfl
  · rename_i hc
    rw [not_or] at hc
    split
    · rename_i heq
      exact .inr ⟨['b'], rfl, fun rest => by rw [heq]; rfl⟩
    split
    · rename_i heq
      exact .inr ⟨['f'], rfl, fun rest => by rw [heq]; rfl⟩
    split
    · rename_i heq
      exact .inr ⟨['n'], rfl, fun rest => by rw [heq]; rfl⟩
    split
    · rename_i heq
      exact .inr ⟨['r'], rfl, fun rest => by rw [heq]; rfl⟩
    split
    · rename_i heq
      exact .inr ⟨['t'], rfl, fun rest => by rw [heq]; rfl⟩
    split
    · rename_i hcontrol
      refine .inr ⟨'u' :: hex4Text c.toNat, rfl, fun rest => ?_⟩
      rw [List.cons_append, escape]
      · simp only [unicodeEscape?_hex4Text hcontrol]
      · nofun
    · rename_i hplain
      exact .inl ⟨rfl, hc.1, hc.2, Nat.not_lt.mp hplain⟩

end Escapes

/-- At a cursor an escape is read as it is from the text behind the backslash. -/
theorem Cursor.escape_eq {quote c : Char} {rest e : List Char} {here : Cursor}
    (hrest : here.rest = '\\' :: e ++ rest)
    (h : JsonQuery.escape (some quote) (e ++ rest) = .ok (c, rest)) :
    here.escape (some quote) = .ok (c, here.after ('\\' :: e) rest) := by
  have htake : here.rest.take (here.rest.length - rest.length) = '\\' :: e := by
    rw [hrest, List.length_append, Nat.add_sub_cancel, List.take_left]
  have hdrop : here.rest.drop 1 = e ++ rest := by
    rw [hrest]
    rfl
  rw [escape, hdrop, h]
  simp only [htake]

end JsonQuery
