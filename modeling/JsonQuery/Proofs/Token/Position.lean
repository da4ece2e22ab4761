import JsonQuery.Proofs.Token.Span
import Mathlib.Data.String.Basic

/-
Where tokens stand.

A token is reported at a place that its scanner reached: where it begins, or, if it is
malformed, at that place or further inside (`Cursor.Reaches`). The scanner goes on behind what
it read, so the tokens of a text stand one behind the other, each between two characters, and
the end of input stands at the end of the text (`Cursor.tokens_position`). Behind the last token
there are ends of input only, however often the scanner is asked
(`scanRepeatedly_tokenize`).
-/

set_option autoImplicit false

namespace JsonQuery

/-! ## Bytes of a text -/

theorem utf8Size_eq_utf8Len (cs : List Char) : utf8Size cs = String.utf8Len cs := by
  induction cs with
  | nil => rfl
  | cons c cs ih => rw [utf8Size_cons, ih, String.utf8Len_cons, Nat.add_comm]

theorem utf8Size_toList (text : String) : utf8Size text.toList = text.utf8ByteSize := by
  rw [utf8Size_eq_utf8Len, ← String.utf8ByteSize_ofList, String.ofList_toList]

/-- **The size of a beginning of a text is a place between two characters.** -/
theorem isValid_of_append {text : String} {w rest : List Char} (h : text.toList = w ++ rest) :
    String.Pos.Raw.IsValid text ⟨utf8Size w⟩ := by
  rw [String.Pos.Raw.isValid_iff_exists_append]
  refine ⟨String.ofList w, String.ofList rest, ?_, ?_⟩
  · rw [← String.ofList_append, ← h, String.ofList_toList]
  · rw [String.rawEndPos, String.utf8ByteSize_ofList, utf8Size_eq_utf8Len]

/-! ## Places within reach -/

namespace Cursor

/-- **Whether an offset is that of a place behind a cursor**, or of the cursor itself. -/
def Reaches (here : Cursor) (offset : Nat) : Prop :=
  ∃ next w, here.Spans next w ∧ next.offset = offset

namespace Reaches

variable {here next : Cursor} {w : List Char} {offset : Nat}

theorem refl (here : Cursor) : here.Reaches here.offset := ⟨here, [], .nil here, rfl⟩

/-- What is within reach of a later place is within reach. -/
theorem of_spans (h : here.Spans next w) (hnext : next.Reaches offset) : here.Reaches offset := by
  obtain ⟨last, v, hv, hoffset⟩ := hnext
  exact ⟨last, w ++ v, h.trans hv, hoffset⟩

theorem le (h : here.Reaches offset) : here.offset ≤ offset := by
  obtain ⟨next, w, hspans, rfl⟩ := h
  rw [hspans.offset]
  exact Nat.le_add_right ..

/-- What is reached in a text lies between two of its characters. -/
theorem isValid {text : String} (h : (Cursor.start text.toList).Reaches offset) :
    String.Pos.Raw.IsValid text ⟨offset⟩ := by
  obtain ⟨next, w, hspans, rfl⟩ := h
  rw [hspans.offset, start, Nat.zero_add]
  exact isValid_of_append hspans.rest

end Reaches

/-- The text ends at the same offset wherever the cursor stands in it. -/
theorem Spans.finish_eq {here next : Cursor} {w : List Char} (h : here.Spans next w) :
    next.finish = here.finish := by
  rw [finish, finish, h.rest, h.offset, utf8Size_append, Nat.add_assoc]

theorem Spans.offset_lt {here next : Cursor} {w : List Char} (h : here.Spans next w)
    (hw : w ≠ []) : here.offset < next.offset := by
  obtain ⟨c, cs, rfl⟩ := List.exists_cons_of_ne_nil hw
  rw [h.offset, utf8Size_cons]
  have := c.utf8Size_pos
  omega

/-! ## Malformed tokens -/

variable {here : Cursor} {fault : Fault}

/-- A malformed escape is reported where it begins. -/
theorem escape_fault {quote : Option Char} (h : here.escape quote = .error fault) :
    fault.offset = here.offset := by
  unfold escape at h
  split at h
  · cases h
  · cases h
    rfl

/-- A malformed string is reported at its opening quote, or inside. -/
theorem quotedBody_fault {quote : Char} {opening fuel : Nat}
    (h : here.quotedBody quote opening fuel = .error fault) :
    fault.offset = opening ∨ here.Reaches fault.offset := by
  induction fuel generalizing here with
  | zero =>
    cases h
    exact .inl rfl
  | succ fuel ih =>
    unfold quotedBody at h
    split at h
    · cases h
      exact .inl rfl
    · rename_i c cs hrest
      split at h
      · cases h
      split at h
      · rename_i hslash
        -- either the escape is malformed, or the string is behind it
        rcases bind_eq_error.mp h with h | ⟨⟨decoded, middle⟩, hescape, h⟩
        · rw [escape_fault h]
          exact .inr (.refl here)
        · obtain ⟨w, -, hspans⟩ := escape_spans (hslash ▸ hrest) hescape
          rcases bind_eq_error.mp h with h | ⟨_, -, h⟩
          · exact (ih h).imp_right (.of_spans hspans)
          · cases h
      split at h
      · cases h
        exact .inr (.refl here)
      · rcases bind_eq_error.mp h with h | ⟨_, -, h⟩
        · exact (ih h).imp_right (.of_spans (.after hrest))
        · cases h

theorem quoted_fault {quote : Char} {cs : List Char} (hrest : here.rest = quote :: cs)
    (h : here.quoted quote = .error fault) : here.Reaches fault.offset := by
  unfold quoted at h
  rw [hrest, List.drop_one, List.tail_cons] at h
  rcases quotedBody_fault h with hoffset | hreaches
  · rw [hoffset]
    exact .refl here
  · exact hreaches.of_spans (.after hrest)

/-- A malformed name is reported inside of it. -/
theorem nameBody_fault {fuel : Nat} {read : Bool}
    (h : here.nameBody fuel read = .error fault) : here.Reaches fault.offset := by
  induction fuel generalizing here read with
  | zero => cases h
  | succ fuel ih =>
    unfold nameBody at h
    split at h
    · cases h
    · rename_i c cs hrest
      split at h
      · rename_i hslash
        rcases bind_eq_error.mp h with h | ⟨⟨decoded, middle⟩, hescape, h⟩
        · rw [escape_fault h]
          exact .refl here
        · obtain ⟨w, -, hspans⟩ := escape_spans (hslash ▸ hrest) hescape
          rcases bind_eq_error.mp h with h | ⟨_, -, h⟩
          · exact (ih h).of_spans hspans
          · cases h
      · generalize (if read = true then isNameChar c else isNameStart c) = allowed at h
        split at h
        · rcases bind_eq_error.mp h with h | ⟨_, -, h⟩
          · exact (ih h).of_spans (.after hrest)
          · cases h
        · cases h

/-- **A malformed token is reported within reach of where it begins.** -/
theorem lexeme_fault (h : here.lexeme = .error fault) : here.Reaches fault.offset := by
  unfold lexeme at h
  split at h
  · cases h
  · rename_i c cs hrest
    split at h
    · cases h
    split at h
    · rcases bind_eq_error.mp h with h | ⟨_, -, h⟩
      · exact quoted_fault hrest h
      · cases h
    split at h
    · unfold numeral at h
      split at h
      · cases h
      · cases h
        exact .refl here
    split at h
    · rcases bind_eq_error.mp h with h | ⟨_, -, h⟩
      · exact nameBody_fault h
      · cases h
    · cases h

/-! ## The tokens of a text -/

/-- **How the scanner goes on.** It reads a token that begins here and is not the last one, and
stands behind it; or it reads the last token, within reach, and stands at the end of the text. -/
inductive Steps (here : Cursor) : Token → Cursor → Prop
  | more {l : Lexeme} {next : Cursor} {w : List Char} (reads : here.lexeme = .ok (l, next))
      (spans : here.Spans next w) (nonempty : w ≠ []) (more : l.isLast = false) :
      Steps here ⟨l, here.offset⟩ next
  | last {t : Token} (reaches : here.Reaches t.position) (last : t.lexeme.isLast = true)
      (ended : t.lexeme = .endOfInput → here.rest = [] ∧ t.position = here.finish) :
      Steps here t here.atEnd

/-- **Every scan is such a step**, wherever the cursor stands. -/
theorem scan_steps (here : Cursor) : here.Steps here.scan.1 here.scan.2 := by
  unfold scan
  cases h : here.lexeme with
  | error fault => exact .last (lexeme_fault h) rfl nofun
  | ok read =>
    obtain ⟨l, next⟩ := read
    have hscans := scans_of_lexeme h
    obtain ⟨w, hspans, hw⟩ := hscans.spans
    by_cases hlast : l.isLast = true
    · -- of the last tokens only the end of input is read, and nothing is left to read then
      cases hscans with
      | finished hrest =>
        have hfinish : here.finish = here.offset := by
          rw [finish, hrest, utf8Size_nil, Nat.add_zero]
        have hend : here.atEnd = here := by
          rw [atEnd, hfinish, ← hrest]
        have hsteps : here.Steps ⟨.endOfInput, here.offset⟩ here.atEnd :=
          .last (.refl here) rfl fun _ => ⟨hrest, hfinish.symm⟩
        rwa [hend] at hsteps
      | _ => cases hlast
    · exact .more h hspans (hw fun hl => hlast (hl ▸ rfl)) (by simpa using hlast)

variable {fuel : Nat} {t : Token}

/-- **Where the tokens stand that are read from a cursor on**: within reach of it, one behind
the other, and the end of input at the end of the text. -/
theorem tokens_position (here : Cursor) (hfuel : here.rest.length < fuel) :
    (∀ t ∈ here.tokens fuel, here.Reaches t.position)
      ∧ (here.tokens fuel).Pairwise (fun t u => t.position < u.position)
      ∧ ∀ t ∈ here.tokens fuel, t.lexeme = .endOfInput → t.position = here.finish := by
  induction fuel generalizing here with
  | zero => omega
  | succ fuel ih =>
    have hsteps := here.scan_steps
    unfold tokens
    generalize here.scan = read at hsteps
    obtain ⟨t, next⟩ := read
    dsimp only at hsteps ⊢
    cases hsteps with
    | last reaches last ended =>
      rw [if_pos last]
      refine ⟨by simpa using reaches, List.pairwise_singleton _ _, ?_⟩
      simpa using fun h => (ended h).2
    | more reads spans nonempty more =>
      -- a token that is not the last one has a character, so the fuel suffices for the rest
      have hlt := spans.length_lt nonempty
      obtain ⟨hreaches, hincreasing, hfinish⟩ := ih next (by omega)
      rw [if_neg (by simp [more])]
      refine ⟨?_, ?_, ?_⟩
      · rintro t (_ | ⟨_, ht⟩)
        · exact .refl here
        · exact (hreaches t ht).of_spans spans
      · refine List.pairwise_cons.mpr ⟨fun u hu => ?_, hincreasing⟩
        exact (spans.offset_lt nonempty).trans_le (hreaches u hu).le
      · rintro t (_ | ⟨_, ht⟩) hend
        · dsimp only at hend
          rw [hend] at more
          cases more
        · rw [hfinish t ht hend, spans.finish_eq]

/-- At the end of a text there are ends of input only. -/
theorem scanRepeatedly_atEnd (here : Cursor) (count : Nat) :
    scanRepeatedly count here.atEnd = List.replicate count ⟨.endOfInput, here.finish⟩ := by
  induction count with
  | zero => rfl
  | succ count ih => exact congrArg (_ :: ·) ih

/-- **Behind the last token there are ends of input only.** -/
theorem scanRepeatedly_tokens (here : Cursor) (hfuel : here.rest.length < fuel) (count : Nat) :
    scanRepeatedly ((here.tokens fuel).length + count) here
      = here.tokens fuel ++ List.replicate count ⟨.endOfInput, here.finish⟩ := by
  induction fuel generalizing here with
  | zero => omega
  | succ fuel ih =>
    have hsteps := here.scan_steps
    unfold tokens
    generalize hscan : here.scan = read at hsteps
    obtain ⟨t, next⟩ := read
    have hrepeat (n : Nat) : scanRepeatedly (n + 1) here = t :: scanRepeatedly n next := by
      rw [scanRepeatedly, hscan]
    dsimp only at hsteps ⊢
    cases hsteps with
    | last reaches last ended =>
      rw [if_pos last, List.length_singleton, Nat.add_comm, hrepeat, scanRepeatedly_atEnd,
        List.singleton_append]
    | more reads spans nonempty more =>
      have hlt := spans.length_lt nonempty
      have hnext := ih next (by omega)
      rw [if_neg (by simp [more]), List.length_cons, Nat.add_right_comm, hrepeat, hnext,
        spans.finish_eq, List.cons_append]

end Cursor

/-- **The tokens of a text stand between its characters**, one behind the other. -/
theorem tokenize_position (text : String) :
    (∀ t ∈ tokenize text, String.Pos.Raw.IsValid text ⟨t.position⟩)
      ∧ (tokenize text).Pairwise (fun t u => t.position < u.position)
      ∧ ∀ t ∈ tokenize text, t.lexeme = .endOfInput → t.position = text.utf8ByteSize := by
  obtain ⟨hreaches, hincreasing, hfinish⟩ :=
    (Cursor.start text.toList).tokens_position (Nat.lt_succ_self text.toList.length)
  refine ⟨fun t ht => (hreaches t ht).isValid, hincreasing, fun t ht hend => ?_⟩
  rw [hfinish t ht hend, Cursor.finish_start, utf8Size_toList]

/-- **After the tokens of a text every further scan answers the end of input**, at the end of
the text. -/
theorem scanRepeatedly_tokenize (text : String) (count : Nat) :
    scanRepeatedly ((tokenize text).length + count) (.start text.toList)
      = tokenize text ++ List.replicate count ⟨.endOfInput, text.utf8ByteSize⟩ := by
  rw [← utf8Size_toList, ← Cursor.finish_start]
  exact Cursor.scanRepeatedly_tokens _ (Nat.lt_succ_self _) count

end JsonQuery
