import JsonQuery.Proofs.Text.Run
import JsonQuery.Proofs.Token.Quoting
import JsonQuery.Token.Scan

/-
How escapes, strings and names are spelled.

What may stand behind a backslash is told by the forms of an escape alone, without the
scanner (`EscapeSpelling`): a letter, the quote around a string, the four digits of a code point
that is not half a pair, the two halves of one, or a code point between braces. The scanner
reads these and nothing else (`escape_sound`, `EscapeSpelling.complete`), so an escape has one
meaning, and no two escapes begin alike (`EscapeSpelling.unique`).

What may stand for a character between quotes is told in full (`StringItem`), by the letters, the
digits and their values, with no table of the scanner. An item is a character or an escape
(`stringItem_iff`), so the inside of a string is items one after the other (`StringItems`).

A name is spelled by its characters and by escapes of any characters (`NameSpelling`). Hence a
spelling stands for one name, and one without a backslash for itself.
-/

set_option autoImplicit false

namespace JsonQuery

/-- Four hexadecimal digits. -/
structure IsHex4 (ds : List Char) : Prop where
  length : ds.length = 4
  digits : ∀ d ∈ ds, isHexDigit d = true

/-- **How a character is spelled behind a backslash**: between `quote`s, or, if there is none, in
a name. A character has a code point, so four digits alone never stand for half a pair. -/
inductive EscapeSpelling (quote : Option Char) : List Char → Char → Prop
  | short {a c : Char} (hshort : shortEscape? a = some c) : EscapeSpelling quote [a] c
  | quote {c : Char} (hquote : c ∈ quote) : EscapeSpelling quote [c] c
  | unit {ds : List Char} {c : Char} (hds : IsHex4 ds) (hc : c.toNat = ofHexDigits ds) :
      EscapeSpelling quote ('u' :: ds) c
  | pair {high low : List Char} {c : Char} (hhigh : IsHex4 high) (hlow : IsHex4 low)
      (hfirst : isHighSurrogate (ofHexDigits high) = true)
      (hsecond : isLowSurrogate (ofHexDigits low) = true)
      (hc : c.toNat = pairCodePoint (ofHexDigits high) (ofHexDigits low)) :
      EscapeSpelling quote ('u' :: (high ++ '\\' :: 'u' :: low)) c
  | braced {ds : List Char} {c : Char} (hname : quote = none)
      (hds : ∀ d ∈ ds, isHexDigit d = true) (hleast : 1 ≤ ds.length) (hmost : ds.length ≤ 6)
      (hc : c.toNat = ofHexDigits ds) : EscapeSpelling quote ('u' :: '{' :: (ds ++ ['}'])) c

variable {quote : Option Char} {cs rest : List Char} {c : Char} {n : Nat}

/-! ## What the scanner reads -/

/-- A code point is of a character when it is its number. -/
theorem charOfCodePoint?_eq_some_iff : charOfCodePoint? n = some c ↔ c.toNat = n := by
  constructor
  · intro h
    by_cases hn : n.isValidChar
    · rw [charOfCodePoint?, dif_pos hn] at h
      cases h
      rfl
    · rw [charOfCodePoint?, dif_neg hn] at h
      cases h
  · rintro rfl
    exact charOfCodePoint?_toNat c

/-- **Four digits are read as the number they stand for.** -/
theorem hex4?_eq_some_iff :
    hex4? cs = some (n, rest) ↔ ∃ ds, IsHex4 ds ∧ cs = ds ++ rest ∧ n = ofHexDigits ds := by
  constructor
  · intro h
    unfold hex4? at h
    split at h
    · rename_i a b c d more
      split at h
      · rename_i hhex
        cases h
        exact ⟨[a, b, c, d], ⟨rfl, List.all_eq_true.mp hhex⟩, rfl, rfl⟩
      · cases h
    · cases h
  · rintro ⟨ds, ⟨hlength, hdigits⟩, rfl, rfl⟩
    match ds, hlength, hdigits with
    | [a, b, c, d], _, hdigits =>
      exact if_pos (List.all_eq_true.mpr hdigits)

/-- The digits of a code point that is no half of a pair, or those of both halves. -/
theorem unicodeEscape?_sound (h : unicodeEscape? cs = some (c, rest)) :
    ∃ e, cs = e ++ rest ∧ EscapeSpelling quote ('u' :: e) c := by
  simp only [unicodeEscape?, bind, Option.bind_eq_some_iff] at h
  obtain ⟨⟨first, after⟩, hfirst, h⟩ := h
  obtain ⟨high, hhigh, rfl, rfl⟩ := hex4?_eq_some_iff.mp hfirst
  split at h
  · rename_i hsurrogate
    split at h
    -- a high surrogate: the low one is a second escape behind it
    · rename_i digits
      obtain ⟨⟨second, last⟩, hsecond, h⟩ := Option.bind_eq_some_iff.mp h
      obtain ⟨low, hlow, hsplit, rfl⟩ := hex4?_eq_some_iff.mp hsecond
      dsimp only at digits
      split at h
      · rename_i hpaired
        obtain ⟨decoded, hdecoded, heq⟩ := Option.bind_eq_some_iff.mp h
        cases heq
        refine ⟨high ++ '\\' :: 'u' :: low, ?_, .pair hhigh hlow hsurrogate hpaired
          (charOfCodePoint?_eq_some_iff.mp hdecoded)⟩
        rw [digits, hsplit, List.append_assoc]
        rfl
      · cases h
    · cases h
  · obtain ⟨decoded, hdecoded, heq⟩ := Option.bind_eq_some_iff.mp h
    cases heq
    exact ⟨high, rfl, .unit hhigh (charOfCodePoint?_eq_some_iff.mp hdecoded)⟩

/-- An escape in braces has digits between them and a closing brace. -/
theorem bracedEscape?_sound (h : bracedEscape? cs = some (c, rest)) :
    ∃ e, cs = e ++ rest ∧ EscapeSpelling none ('u' :: '{' :: e) c := by
  unfold bracedEscape? at h
  split at h
  · rename_i ds after hspan
    split at h
    · rename_i hlength
      obtain ⟨decoded, hdecoded, heq⟩ := Option.map_eq_some_iff.mp h
      cases heq
      obtain ⟨rfl, hds, -⟩ := span_eq_iff.mp hspan
      exact ⟨ds ++ ['}'], by simp, .braced rfl hds hlength.1 hlength.2
        (charOfCodePoint?_eq_some_iff.mp hdecoded)⟩
    · cases h
  · cases h

/-- **What is read behind a backslash is the spelling of a character.** -/
theorem escape_sound (h : escape quote cs = .ok (c, rest)) :
    ∃ e, cs = e ++ rest ∧ EscapeSpelling quote e c := by
  unfold escape at h
  split at h
  · rename_i digits
    dsimp only at h
    split at h
    · rename_i hdecoded
      cases h
      split at hdecoded
      · obtain ⟨e, rfl, he⟩ := bracedEscape?_sound hdecoded
        exact ⟨'u' :: '{' :: e, rfl, he⟩
      · obtain ⟨e, rfl, he⟩ := unicodeEscape?_sound hdecoded
        exact ⟨'u' :: e, rfl, he⟩
    · cases h
  · rename_i a more _
    split at h
    · rename_i hshort
      cases h
      exact ⟨[a], rfl, .short hshort⟩
    · split at h
      · rename_i hquote
        cases h
        exact ⟨[c], rfl, .quote hquote.symm⟩
      · cases h
  · cases h

/-! ## What the scanner reads well -/

/-- A character is no surrogate. -/
theorem isHighSurrogate_toNat (c : Char) : isHighSurrogate c.toNat = false := by
  have hvalid : c.toNat.isValidChar := c.valid
  simp only [isHighSurrogate, Bool.and_eq_false_iff, decide_eq_false_iff_not]
  unfold Nat.isValidChar at hvalid
  omega

/-- Four digits are read as the character of that number. -/
theorem unicodeEscape?_unit {ds : List Char} (hds : IsHex4 ds) (hc : c.toNat = ofHexDigits ds) :
    unicodeEscape? (ds ++ rest) = some (c, rest) := by
  have hread : hex4? (ds ++ rest) = some (c.toNat, rest) :=
    hex4?_eq_some_iff.mpr ⟨ds, hds, rfl, hc⟩
  simp [unicodeEscape?, hread, isHighSurrogate_toNat, charOfCodePoint?_toNat]

/-- Two surrogates are read as the one character that they make. -/
theorem unicodeEscape?_pair {high low : List Char} (hhigh : IsHex4 high) (hlow : IsHex4 low)
    (hfirst : isHighSurrogate (ofHexDigits high) = true)
    (hsecond : isLowSurrogate (ofHexDigits low) = true)
    (hc : c.toNat = pairCodePoint (ofHexDigits high) (ofHexDigits low)) :
    unicodeEscape? (high ++ '\\' :: 'u' :: (low ++ rest)) = some (c, rest) := by
  have hread : hex4? (high ++ '\\' :: 'u' :: (low ++ rest))
      = some (ofHexDigits high, '\\' :: 'u' :: (low ++ rest)) :=
    hex4?_eq_some_iff.mpr ⟨high, hhigh, rfl, rfl⟩
  have hmore : hex4? (low ++ rest) = some (ofHexDigits low, rest) :=
    hex4?_eq_some_iff.mpr ⟨low, hlow, rfl, rfl⟩
  simp [unicodeEscape?, hread, hmore, hfirst, hsecond, charOfCodePoint?_eq_some_iff.mpr hc]

/-- Up to six digits in braces are read as the character of that number. -/
theorem bracedEscape?_digits {ds : List Char} (hds : ∀ d ∈ ds, isHexDigit d = true)
    (hleast : 1 ≤ ds.length) (hmost : ds.length ≤ 6) (hc : c.toNat = ofHexDigits ds) :
    bracedEscape? (ds ++ '}' :: rest) = some (c, rest) := by
  have hspan : (ds ++ '}' :: rest).span isHexDigit = (ds, '}' :: rest) := by
    refine span_eq_iff.mpr ⟨rfl, hds, fun d hd => ?_⟩
    cases hd
    rfl
  rw [bracedEscape?, hspan]
  simp [hleast, hmost, charOfCodePoint?_eq_some_iff.mpr hc]

/-- Digits are no brace, so the braced form is not tried on them. -/
theorem IsHex4.escape_eq {ds : List Char} (hds : IsHex4 ds)
    (h : unicodeEscape? (ds ++ cs) = some (c, rest)) :
    escape quote ('u' :: (ds ++ cs)) = .ok (c, rest) := by
  cases ds with
  | nil => cases hds.length
  | cons d ds =>
    have hbrace : d ≠ '{' := by
      rintro rfl
      cases hds.digits '{' List.mem_cons_self
    rw [List.cons_append] at h ⊢
    cases quote with
    | none => simp [escape, hbrace, h]
    | some q => simp [escape, h]

/-- **Every spelling of a character is read**, whatever stands behind it. -/
theorem EscapeSpelling.complete {e : List Char} (h : EscapeSpelling quote e c)
    (hquote : ∀ q ∈ quote, q = '\'' ∨ q = '"') (rest : List Char) :
    escape quote (e ++ rest) = .ok (c, rest) := by
  cases h with
  | @short a _ hshort =>
    have hne : a ≠ 'u' := by
      rintro rfl
      cases hshort
    simp [escape, hshort]
  | quote hmem =>
    rcases hquote c hmem with rfl | rfl <;>
    simp [escape, shortEscape?, Option.mem_def.mp hmem]
  | unit hds hc => exact hds.escape_eq (unicodeEscape?_unit hds hc)
  | pair hhigh hlow hfirst hsecond hc =>
    rw [List.cons_append, List.append_assoc]
    exact hhigh.escape_eq (unicodeEscape?_pair hhigh hlow hfirst hsecond hc)
  | braced hname hds hleast hmost hc =>
    rw [hname]
    simp [escape, bracedEscape?_digits hds hleast hmost hc]

/-- **No two escapes begin alike**, and an escape has one meaning. -/
theorem EscapeSpelling.unique {e f v w : List Char} {d : Char} (he : EscapeSpelling quote e c)
    (hf : EscapeSpelling quote f d) (hquote : ∀ q ∈ quote, q = '\'' ∨ q = '"')
    (h : e ++ v = f ++ w) : c = d ∧ v = w := by
  have hread := he.complete hquote v
  rw [h, hf.complete hquote w] at hread
  cases hread
  exact ⟨rfl, rfl⟩

/-! ## Strings -/

/-- **A hexadecimal digit** of either case, and its value. -/
def HexDigit (d : Char) (n : Nat) : Prop :=
  n < 16 ∧ (d = n.digitChar ∨ d = n.digitChar.toUpper)

instance (d : Char) (n : Nat) : Decidable (HexDigit d n) := inferInstanceAs (Decidable (_ ∧ _))

/-- Four hexadecimal digits, and the number that they stand for. -/
inductive Hex4 : List Char → Nat → Prop
  | digits {a b c d : Char} {x y z w : Nat} (ha : HexDigit a x) (hb : HexDigit b y)
      (hc : HexDigit c z) (hd : HexDigit d w) :
      Hex4 [a, b, c, d] (0x1000 * x + 0x100 * y + 0x10 * z + w)

/-- Hexadecimal digits are those with a value. -/
theorem hexValue?_eq_some_iff {d : Char} : hexValue? d = some n ↔ HexDigit d n := by
  constructor
  · intro h
    -- all digits are ASCII characters
    have hascii : d.toNat < 128 := by
      unfold hexValue? at h
      have hle {e : Char} (hde : d ≤ e) : d.toNat ≤ e.toNat := hde
      split at h
      · rename_i hd
        exact Nat.lt_of_le_of_lt (hle hd.2) (by decide)
      split at h
      · rename_i hd
        exact Nat.lt_of_le_of_lt (hle hd.2) (by decide)
      split at h
      · rename_i hd
        exact Nat.lt_of_le_of_lt (hle hd.2) (by decide)
      · cases h
    have hall : ∀ k < 128, ∀ m ∈ hexValue? (Char.ofNat k), HexDigit (Char.ofNat k) m := by decide
    have hd := hall d.toNat hascii n
    rw [Char.ofNat_toNat] at hd
    exact hd h
  · rintro ⟨hn, hd⟩
    have hall : ∀ m < 16, hexValue? m.digitChar = some m
        ∧ hexValue? m.digitChar.toUpper = some m := by decide
    rcases hd with rfl | rfl
    · exact (hall n hn).1
    · exact (hall n hn).2

/-- Four digits have the value that they are read with. -/
theorem hex4_iff {ds : List Char} : Hex4 ds n ↔ IsHex4 ds ∧ n = ofHexDigits ds := by
  constructor
  · rintro ⟨ha, hb, hc, hd⟩
    rw [← hexValue?_eq_some_iff] at ha hb hc hd
    refine ⟨⟨rfl, by simp [isHexDigit, ha, hb, hc, hd]⟩, ?_⟩
    simp only [ofHexDigits, List.foldl_cons, List.foldl_nil, ha, hb, hc, hd, Option.getD_some]
    omega
  · rintro ⟨⟨hlength, hdigits⟩, rfl⟩
    match ds, hlength, hdigits with
    | [a, b, c, d], _, hdigits =>
      simp only [List.mem_cons, List.not_mem_nil, or_false, forall_eq_or_imp, forall_eq, isHexDigit,
        Option.isSome_iff_exists] at hdigits
      obtain ⟨⟨x, hx⟩, ⟨y, hy⟩, ⟨z, hz⟩, ⟨w, hw⟩⟩ := hdigits
      have hvalue : ofHexDigits [a, b, c, d] = 0x1000 * x + 0x100 * y + 0x10 * z + w := by
        simp only [ofHexDigits, List.foldl_cons, List.foldl_nil, hx, hy, hz, hw, Option.getD_some]
        omega
      rw [hvalue]
      exact .digits (hexValue?_eq_some_iff.mp hx) (hexValue?_eq_some_iff.mp hy)
        (hexValue?_eq_some_iff.mp hz) (hexValue?_eq_some_iff.mp hw)

theorem Hex4.lt {ds : List Char} (h : Hex4 ds n) : n < 0x10000 := by
  obtain ⟨ha, hb, hc, hd⟩ := h
  have hx := ha.1
  have hy := hb.1
  have hz := hc.1
  have hw := hd.1
  omega

/-- **What stands for a character between `quote`s**: the character itself, a letter or the quote
behind a backslash, or the digits of its code point, of which a pair of surrogates has two
groups. -/
inductive StringItem (quote : Char) : List Char → Char → Prop
  | plain {c : Char} (hcontrol : 0x20 ≤ c.toNat) (hslash : c ≠ '\\') (hquote : c ≠ quote) :
      StringItem quote [c] c
  | backspace : StringItem quote ['\\', 'b'] (Char.ofNat 0x08)
  | formFeed : StringItem quote ['\\', 'f'] (Char.ofNat 0x0C)
  | lineFeed : StringItem quote ['\\', 'n'] (Char.ofNat 0x0A)
  | carriageReturn : StringItem quote ['\\', 'r'] (Char.ofNat 0x0D)
  | tab : StringItem quote ['\\', 't'] (Char.ofNat 0x09)
  | slash : StringItem quote ['\\', '/'] '/'
  | backslash : StringItem quote ['\\', '\\'] '\\'
  | quote : StringItem quote ['\\', quote] quote
  | unit {ds : List Char} {n : Nat} (hds : Hex4 ds n) (hunit : n < 0xD800 ∨ 0xDFFF < n) :
      StringItem quote ('\\' :: 'u' :: ds) (Char.ofNat n)
  | pair {high low : List Char} {m n : Nat} (hhigh : Hex4 high m) (hlow : Hex4 low n)
      (hfirst : 0xD800 ≤ m ∧ m ≤ 0xDBFF) (hsecond : 0xDC00 ≤ n ∧ n ≤ 0xDFFF) :
      StringItem quote ('\\' :: 'u' :: (high ++ '\\' :: 'u' :: low))
        (Char.ofNat (0x10000 + (m - 0xD800) * 0x400 + (n - 0xDC00)))

/-- **The inside of a string literal**, item by item, and the text that it stands for. -/
inductive StringItems (quote : Char) : List Char → List Char → Prop
  | nil : StringItems quote [] []
  | cons {item w value : List Char} {c : Char} (first : StringItem quote item c)
      (more : StringItems quote w value) : StringItems quote (item ++ w) (c :: value)

/-- A code point that is no surrogate is that of its character. -/
theorem toNat_ofNat (h : n < 0xD800 ∨ 0xDFFF < n ∧ n < 0x110000) : (Char.ofNat n).toNat = n := by
  have hvalid : n.isValidChar := h
  refine charOfCodePoint?_eq_some_iff.mp ?_
  rw [charOfCodePoint?, dif_pos hvalid, Char.ofNat, dif_pos hvalid]

/-- **An item is a character or an escape.** -/
theorem stringItem_iff {quote : Char} {w : List Char} : StringItem quote w c ↔
    (w = [c] ∧ 0x20 ≤ c.toNat ∧ c ≠ '\\' ∧ c ≠ quote)
      ∨ ∃ e, w = '\\' :: e ∧ EscapeSpelling (some quote) e c := by
  constructor
  · intro h
    cases h with
    | plain hcontrol hslash hquote => exact .inl ⟨rfl, hcontrol, hslash, hquote⟩
    | backspace | formFeed | lineFeed | carriageReturn | tab | slash | backslash =>
      exact .inr ⟨_, rfl, .short rfl⟩
    | quote => exact .inr ⟨_, rfl, .quote rfl⟩
    | @unit ds n hds hunit =>
      obtain ⟨hhex, rfl⟩ := hex4_iff.mp hds
      have hlt := hds.lt
      exact .inr ⟨_, rfl, .unit hhex (toNat_ofNat (by omega))⟩
    | @pair high low m n hhigh hlow hfirst hsecond =>
      obtain ⟨hhex, rfl⟩ := hex4_iff.mp hhigh
      obtain ⟨hmore, rfl⟩ := hex4_iff.mp hlow
      refine .inr ⟨_, rfl, .pair hhex hmore ?_ ?_ (toNat_ofNat (by omega))⟩
      · simpa [isHighSurrogate] using hfirst
      · simpa [isLowSurrogate] using hsecond
  · rintro (⟨rfl, hcontrol, hslash, hquote⟩ | ⟨e, rfl, he⟩)
    · exact .plain hcontrol hslash hquote
    · cases he with
      | short hshort =>
        unfold shortEscape? at hshort
        split at hshort <;> cases hshort
        · exact .backspace
        · exact .formFeed
        · exact .lineFeed
        · exact .carriageReturn
        · exact .tab
        · exact .slash
        · exact .backslash
      | quote hmem =>
        cases hmem
        exact .quote
      | unit hds hc =>
        rw [← Char.ofNat_toNat c]
        have hvalid : c.toNat.isValidChar := c.valid
        unfold Nat.isValidChar at hvalid
        exact .unit (hex4_iff.mpr ⟨hds, hc⟩) (by omega)
      | pair hhigh hlow hfirst hsecond hc =>
        simp only [isHighSurrogate, isLowSurrogate, Bool.and_eq_true, decide_eq_true_eq]
          at hfirst hsecond
        rw [← Char.ofNat_toNat c, hc]
        exact .pair (hex4_iff.mpr ⟨hhigh, rfl⟩) (hex4_iff.mpr ⟨hlow, rfl⟩) hfirst hsecond
      | braced hname => cases hname

/-! ## Blank space -/

/-- A character that passes a test is not blank where blank space fails it. -/
theorem isBlank_eq_false_of {p : Char → Bool} (hc : p c = true)
    (h : p ' ' = false ∧ p '\t' = false ∧ p '\n' = false ∧ p '\r' = false) :
    isBlank c = false := by
  obtain ⟨hspace, htab, hfeed, hreturn⟩ := h
  rw [← Bool.not_eq_true]
  intro hblank
  simp only [isBlank, Bool.or_eq_true, beq_iff_eq] at hblank
  -- each of the blank characters fails the test, and this one passes it
  rcases hblank with ((rfl | rfl) | rfl) | rfl <;>
  simp_all

theorem isBlank_of_isHexDigit (hc : isHexDigit c = true) : isBlank c = false :=
  isBlank_eq_false_of hc ⟨rfl, rfl, rfl, rfl⟩

theorem isBlank_of_isNameChar (hc : isNameChar c = true) : isBlank c = false :=
  isBlank_eq_false_of hc ⟨rfl, rfl, rfl, rfl⟩

theorem isBlank_of_isDigit (hc : c.isDigit = true) : isBlank c = false :=
  isBlank_eq_false_of hc ⟨rfl, rfl, rfl, rfl⟩

/-- There is no blank space in the escapes of a name. -/
theorem EscapeSpelling.isBlank_eq_false {e : List Char} (h : EscapeSpelling none e c) :
    ∀ d ∈ e, isBlank d = false := by
  cases h with
  | @short a _ hshort =>
    have ha : isBlank a = false :=
      isBlank_eq_false_of (p := fun a => (shortEscape? a).isSome) (by rw [hshort]; rfl)
        ⟨rfl, rfl, rfl, rfl⟩
    simpa using ha
  | quote hquote => cases hquote
  | unit hds =>
    rintro d (_ | ⟨_, hd⟩)
    · rfl
    · exact isBlank_of_isHexDigit (hds.digits d hd)
  | pair hhigh hlow =>
    intro d hd
    simp only [List.mem_cons, List.mem_append] at hd
    rcases hd with rfl | hd | rfl | rfl | hd
    · rfl
    · exact isBlank_of_isHexDigit (hhigh.digits d hd)
    · rfl
    · rfl
    · exact isBlank_of_isHexDigit (hlow.digits d hd)
  | braced hname hds =>
    intro d hd
    simp only [List.mem_cons, List.mem_append, List.not_mem_nil, or_false] at hd
    rcases hd with rfl | rfl | hd | rfl
    · rfl
    · rfl
    · exact isBlank_of_isHexDigit (hds d hd)
    · rfl

/-! ## Names -/

/-- **How a name is spelled**, from its first character on, or behind it if one has been `read`:
by its characters and by escapes of any. -/
inductive NameSpelling : (read : Bool) → List Char → List Char → Prop
  | done (read : Bool) : NameSpelling read [] []
  | plain {read : Bool} {c : Char} {w name : List Char}
      (hc : (if read then isNameChar c else isNameStart c) = true)
      (more : NameSpelling true w name) : NameSpelling read (c :: w) (c :: name)
  | escape {read : Bool} {c : Char} {e w name : List Char} (he : EscapeSpelling none e c)
      (more : NameSpelling true w name) : NameSpelling read ('\\' :: (e ++ w)) (c :: name)

/-- A digit does not begin a name. -/
theorem isDigit_of_isNameStart (hc : isNameStart c = true) : c.isDigit = false := by
  rw [← Bool.not_eq_true]
  intro hdigit
  have hle : c.toNat ≤ 57 := (Char.isDigit_iff_toNat.mp hdigit).2
  have hc : (c.isUpper || c.isLower || c == '_' || decide (0x80 ≤ c.toNat)) = true := hc
  simp only [Bool.or_eq_true, beq_iff_eq] at hc
  -- letters and all that is outside ASCII have higher code points than digits
  rcases hc with ((hupper | hlower) | rfl) | houtside
  · have hleast : 65 ≤ c.toNat := UInt32.le_iff_toNat_le.mp (of_decide_eq_true hupper).1
    omega
  · have hleast : 97 ≤ c.toNat :=
      UInt32.le_iff_toNat_le.mp (of_decide_eq_true (Bool.and_eq_true_iff.mp hlower).1)
    omega
  · cases hdigit
  · have hleast : 0x80 ≤ c.toNat := of_decide_eq_true houtside
    omega

/-- A character that begins a name begins nothing else. -/
theorem begins_name (hc : isNameStart c = true) :
    isBlank c = false ∧ c ≠ '\'' ∧ c ≠ '"' ∧ c ≠ '-' ∧ c.isDigit = false := by
  have hne (d : Char) (hd : isNameStart d = false) : c ≠ d := by
    rintro rfl
    rw [hc] at hd
    cases hd
  exact ⟨isBlank_eq_false_of hc ⟨rfl, rfl, rfl, rfl⟩, hne _ rfl, hne _ rfl, hne _ rfl,
    isDigit_of_isNameStart hc⟩

theorem isNameChar_of_plain {read : Bool}
    (hc : (if read then isNameChar c else isNameStart c) = true) : isNameChar c = true := by
  cases read with
  | true => exact hc
  | false => simp only [isNameChar, show isNameStart c = true from hc, Bool.true_or]

namespace NameSpelling

variable {read : Bool} {v w m name : List Char}

/-- **A spelling stands for one name.** -/
theorem unique (hv : NameSpelling read v m) (hw : NameSpelling read w name) (h : v = w) :
    m = name := by
  induction hv generalizing w name with
  | done =>
    cases hw with
    | done => rfl
    | plain | escape => cases h
  | plain hc more ih =>
    cases hw with
    | done => cases h
    | plain _ hw =>
      obtain ⟨rfl, htail⟩ := List.cons.inj h
      rw [ih hw htail]
    | escape =>
      obtain ⟨rfl, -⟩ := List.cons.inj h
      exact absurd (isNameChar_of_plain hc) (by decide)
  | escape he more ih =>
    cases hw with
    | done => cases h
    | plain hc =>
      obtain ⟨rfl, -⟩ := List.cons.inj h
      exact absurd (isNameChar_of_plain hc) (by decide)
    | escape hf hw =>
      obtain ⟨rfl, htail⟩ := he.unique hf nofun (List.cons.inj h).2
      rw [ih hw htail]

/-- A name that is spelled without a backslash stands for itself. -/
theorem eq_of_notMem (h : NameSpelling read w name) (hslash : '\\' ∉ w) : name = w := by
  induction h with
  | done => rfl
  | plain hc more ih => rw [ih fun hmem => hslash (List.mem_cons_of_mem _ hmem)]
  | escape => exact absurd List.mem_cons_self hslash

/-- There is no blank space in a name. -/
theorem isBlank_eq_false (h : NameSpelling read w name) : ∀ d ∈ w, isBlank d = false := by
  induction h with
  | done => nofun
  | plain hc more ih =>
    rintro d (_ | ⟨_, hd⟩)
    · exact isBlank_of_isNameChar (isNameChar_of_plain hc)
    · exact ih d hd
  | escape he more ih =>
    intro d hd
    rw [List.mem_cons, List.mem_append] at hd
    rcases hd with rfl | hd | hd
    · rfl
    · exact he.isBlank_eq_false d hd
    · exact ih d hd

/-- A name begins with a backslash or a character that begins names. -/
theorem head (h : NameSpelling false w name) (hw : w ≠ []) :
    ∃ c cs, w = c :: cs ∧ (c = '\\' ∨ isNameStart c = true) := by
  cases h with
  | done => exact absurd rfl hw
  | plain hc => exact ⟨_, _, rfl, .inr hc⟩
  | escape => exact ⟨_, _, rfl, .inl rfl⟩

end NameSpelling

/-! ## Keywords -/

/-- A keyword is found for its own text only. -/
theorem Keyword.eq_of_ofText? {k : Keyword} {name : List Char} (h : ofText? name = some k) :
    name = k.text.toList := by
  unfold ofText? at h
  split at h
  · rename_i hname
    cases h
    exact hname
  split at h
  · rename_i hname
    cases h
    exact hname
  split at h
  · rename_i hname
    cases h
    exact hname
  · cases h

theorem Keyword.ofText?_text (k : Keyword) : ofText? k.text.toList = some k := by
  cases k <;> rfl

end JsonQuery
