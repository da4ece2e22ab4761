import JsonQuery.Proofs.Regex.Dialect
import JsonQuery.Regex.Interoperable

/-
Adapting a pattern takes it to the dialect that engines have in common.

A pattern is adapted one character at a time, with no more knowledge than whether a class is open.
On a pattern of the interoperable dialect that is enough: an escape hides the character behind it,
a class ends at its first unescaped closing bracket, and in both places every character is
rewritten as its own kind asks. On trees the same is done by `Expression.adapted`, which leaves the
shape of a tree alone: a character that engines give a meaning gets a backslash, and a point
becomes a class. The two agree, whatever follows a pattern (`Expression.adapt_text`), and the tree
that comes out stands for the same language (`Expression.language_adapted`).
-/

set_option autoImplicit false

namespace JsonQuery
namespace Dialect

open Interoperable

/-! ## Trees -/

/-- The escapes of the interoperable dialect are common ones. -/
def Escape.adapted (e : Escape interoperable) : Escape common where
  letter := e.letter
  listed := by
    have hlisted : ∀ c ∈ interoperable.escapeLetters, c ∈ common.escapeLetters := by
      simp [interoperable, common]
    exact hlisted e.letter e.listed

/-- Outside of a class a normal character stays normal, except for the circumflex and the dollar
sign. -/
theorem isNormal_common {c : Char} (h : interoperable.isNormal c = true)
    (hc : ¬ (c = '^' ∨ c = '$')) : common.isNormal c = true := by
  -- the signs of the common dialect are those of the interoperable one and these two
  have hsigns : common.signs = interoperable.signs ++ ['^', '$'] := rfl
  simp only [isNormal, Bool.not_eq_true', List.contains_eq_mem, decide_eq_false_iff_not] at h ⊢
  rw [hsigns, List.mem_append]
  rintro (hmem | hmem)
  · exact h hmem
  · exact hc (by simpa using hmem)

/-- Inside of a class a normal character stays normal, except for the ampersand and the tilde. -/
theorem isClassNormal_common {c : Char} (h : interoperable.isClassNormal c = true)
    (hc : ¬ (c = '&' ∨ c = '~')) : common.isClassNormal c = true := by
  have hsigns : common.classSigns = interoperable.classSigns ++ ['&', '~'] := rfl
  simp only [isClassNormal, Bool.not_eq_true', List.contains_eq_mem, decide_eq_false_iff_not]
    at h ⊢
  rw [hsigns, List.mem_append]
  rintro (hmem | hmem)
  · exact h hmem
  · exact hc (by simpa using hmem)

/-- A character of a class, with a backslash where engines give it a meaning. -/
def ClassChar.adapted : ClassChar interoperable → ClassChar common
  | normal c h =>
    if hc : c = '&' ∨ c = '~' then escape ⟨c, by rcases hc with rfl | rfl <;> decide⟩
    else normal c (isClassNormal_common h hc)
  | escape e => escape e.adapted

/-- An escape still stands for the same character. -/
@[simp] theorem Escape.char_adapted (e : Escape interoperable) : e.adapted.char = e.char := rfl

/-- A character of a class still stands for the same character. -/
@[simp] theorem ClassChar.char_adapted (x : ClassChar interoperable) :
    x.adapted.char = x.char := by
  cases x with
  | escape e => rfl
  | normal c h =>
    rw [adapted]
    split
    · next hc => rcases hc with rfl | rfl <;> rfl
    · rfl

/-- An item of a class. -/
def ClassItem.adapted : ClassItem interoperable → ClassItem common
  | single x => single x.adapted
  | range first last h => range first.adapted last.adapted (by simpa using h)

/-! ## Characters -/

variable (rest : List Char)

/-- An escape is copied, inside a class and outside of one. -/
theorem Escape.adapt_text (inClass : Bool) (e : Escape interoperable) :
    adapt inClass (e.text ++ rest) = e.adapted.text ++ adapt inClass rest := by
  cases inClass <;> rfl

/-- Inside of a class an ampersand and a tilde get a backslash. -/
theorem ClassChar.adapt_text (x : ClassChar interoperable) :
    adapt true (x.text ++ rest) = x.adapted.text ++ adapt true rest := by
  cases x with
  | escape e => exact e.adapt_text rest true
  | normal c h =>
    -- none of the signs that would end or escape something is normal
    have hslash : c ≠ '\\' := by rintro rfl; cases h
    have hopen : c ≠ '[' := by rintro rfl; cases h
    have hclose : c ≠ ']' := by rintro rfl; cases h
    rw [text, List.singleton_append, adapt, if_neg hclose, adapted]
    · by_cases hc : c = '&' ∨ c = '~'
      · rw [if_pos (.inr hc), dif_pos hc]
        rfl
      · rw [if_neg (by simpa [hopen] using hc), dif_neg hc]
        rfl
    · exact hslash

/-! ## Classes -/

/-- An item is adapted character by character. -/
theorem ClassItem.adapt_text (item : ClassItem interoperable) :
    adapt true (item.text ++ rest) = item.adapted.text ++ adapt true rest := by
  cases item with
  | single x => exact x.adapt_text rest
  | range first last h =>
    have hhyphen (cs : List Char) : adapt true ('-' :: cs) = '-' :: adapt true cs := rfl
    simp only [text, adapted, List.append_assoc, List.cons_append, first.adapt_text, hhyphen,
      last.adapt_text]

/-- Items are adapted one after the other. -/
theorem adapt_items (items : List (ClassItem interoperable)) :
    adapt true (items.flatMap ClassItem.text ++ rest) =
      (items.map ClassItem.adapted).flatMap ClassItem.text ++ adapt true rest := by
  induction items with
  | nil => rfl
  | cons item items ih =>
    simp only [List.map_cons, List.flatMap_cons, List.append_assoc, item.adapt_text, ih]

/-- Adapting puts no circumflex in front. -/
theorem head?_of_head?_adapt {cs : List Char} (h : (adapt true cs).head? = some '^') :
    cs.head? = some '^' := by
  cases cs with
  | nil => cases h
  | cons c cs =>
    by_cases hslash : c = '\\'
    · subst hslash
      cases cs <;> cases h
    · rw [adapt] at h
      · split at h
        · cases h
        · split at h
          · cases h
          · exact h
      · exact hslash

/-- What the items of an adapted class are written as, read off the class. -/
theorem flatMap_adapted (items : List (ClassItem interoperable)) :
    (items.map ClassItem.adapted).flatMap ClassItem.text =
      adapt true (items.flatMap ClassItem.text) := by
  have h := adapt_items [] items
  rw [List.append_nil, adapt, List.append_nil] at h
  exact h.symm

/-- A circumflex comes first among adapted items only when it did before. -/
theorem head?_flatMap_of_adapted {items : List (ClassItem interoperable)}
    (h : ((items.map ClassItem.adapted).flatMap ClassItem.text).head? = some '^') :
    (items.flatMap ClassItem.text).head? = some '^' := by
  rw [flatMap_adapted] at h
  exact head?_of_head?_adapt h

namespace Class

/-- **An adapted class** lists the adapted items. -/
def adapted (k : Class interoperable) : Class common where
  negated := k.negated
  leading := k.leading
  items := k.items.map ClassItem.adapted
  trailing := k.trailing
  nonempty := k.nonempty.imp_right fun h => by simpa using h
  unambiguous hnegated hleading hhead := by
    obtain ⟨htext, htrailing⟩ :=
      k.unambiguous hnegated hleading (head?_flatMap_of_adapted hhead)
    refine ⟨?_, htrailing⟩
    rw [flatMap_adapted, htext]
    rfl

/-- A class is adapted between its brackets, which its inside cannot close. -/
theorem adapt_text (k : Class interoperable) :
    adapt false (k.text ++ rest) = k.adapted.text ++ adapt false rest := by
  have hopen (cs : List Char) : adapt false ('[' :: cs) = '[' :: adapt true cs := rfl
  have hclose (cs : List Char) : adapt true (']' :: cs) = ']' :: adapt false cs := rfl
  have hhyphen (present : Bool) (cs : List Char) :
      adapt true (ifPresent '-' present ++ cs) = ifPresent '-' present ++ adapt true cs := by
    cases present <;> rfl
  have hnegation (present : Bool) (cs : List Char) :
      adapt true (ifPresent '^' present ++ cs) = ifPresent '^' present ++ adapt true cs := by
    cases present <;> rfl
  simp only [text, inside, adapted, List.cons_append, List.append_assoc, List.nil_append, hopen,
    hclose, hhyphen, hnegation, adapt_items]

/-- An adapted class lists the same characters. -/
theorem lists_adapted (k : Class interoperable) (c : Char) : k.adapted.Lists c ↔ k.Lists c := by
  have hitem (item : ClassItem interoperable) : item.adapted.Lists c ↔ item.Lists c := by
    cases item <;> simp [ClassItem.adapted, ClassItem.Lists]
  refine or_congr_right ?_
  simp only [adapted, List.mem_map, exists_exists_and_eq_and, hitem]

/-- **An adapted class contains the same characters.** -/
theorem contains_adapted (k : Class interoperable) : k.adapted.Contains = k.Contains := by
  funext c
  have hnegated : k.adapted.negated = k.negated := rfl
  rw [Contains, Contains, hnegated, propext (k.lists_adapted c)]

/-- A class stays different from `[^]` when it is adapted. -/
theorem CaretFree.adapted {k : Class interoperable} (h : k.CaretFree) : k.adapted.CaretFree := by
  rw [caretFree_iff] at h ⊢
  exact fun hnegated hleading hhead =>
    h hnegated hleading (head?_flatMap_of_adapted hhead)

/-- A point as a class: neither a line feed nor a carriage return. -/
def noLineBreak : Class common where
  negated := true
  leading := false
  items := [.single (.escape ⟨'n', by decide⟩), .single (.escape ⟨'r', by decide⟩)]
  trailing := false
  nonempty := .inr (List.cons_ne_nil _ _)
  unambiguous h := Bool.noConfusion h

/-- That class contains what a point stands for. -/
theorem noLineBreak_contains (c : Char) : noLineBreak.Contains c ↔ c ≠ '\n' ∧ c ≠ '\r' := by
  simp [Contains, Lists, noLineBreak, ClassItem.Lists, ClassChar.char, Escape.char]

end Class

/-! ## Expressions -/

mutual

/-- **An expression of the interoperable dialect in the common one.** -/
def Expression.adapted : Expression interoperable → Expression common
  | .last b => .last b.adapted
  | .either b e => .either b.adapted e.adapted

/-- A branch in the common dialect. -/
def Branch.adapted : Branch interoperable → Branch common
  | .nil => .nil
  | .piece p q b => .piece p.adapted q b.adapted

/-- A particle in the common dialect: a circumflex and a dollar sign get a backslash, and a point
becomes a class. -/
def Particle.adapted : Particle interoperable → Particle common
  | .char c h =>
    if hc : c = '^' ∨ c = '$' then .escape ⟨c, by rcases hc with rfl | rfl <;> decide⟩
    else .char c (isNormal_common h hc)
  | .point _ => .bracketed .noLineBreak
  | .escape e => .escape e.adapted
  | .bracketed k => .bracketed k.adapted
  | .group e => .group e.adapted

end

/-! ### Writing -/

/-- A quantifier is copied. -/
theorem Quantifier.adapt_text (q : Quantifier) :
    adapt false (q.text ++ rest) = q.text ++ adapt false rest := by
  cases q <;> rfl

mutual

/-- **Adapting the text of an expression writes the adapted expression**, whatever follows. -/
theorem Expression.adapt_text (e : Expression interoperable) (rest : List Char) :
    adapt false (e.text ++ rest) = e.adapted.text ++ adapt false rest := by
  have hor (cs : List Char) : adapt false ('|' :: cs) = '|' :: adapt false cs := rfl
  cases e with
  | last b => exact b.adapt_text rest
  | either b e =>
    simp only [Expression.text, Expression.adapted, List.append_assoc, List.cons_append,
      b.adapt_text, hor, e.adapt_text]

/-- A branch is adapted piece by piece. -/
theorem Branch.adapt_text (b : Branch interoperable) (rest : List Char) :
    adapt false (b.text ++ rest) = b.adapted.text ++ adapt false rest := by
  cases b with
  | nil => rfl
  | piece p q b =>
    simp only [Branch.text, Branch.adapted, List.append_assoc, p.adapt_text, q.adapt_text,
      b.adapt_text]

/-- A particle is adapted by its kind. -/
theorem Particle.adapt_text (p : Particle interoperable) (rest : List Char) :
    adapt false (p.text ++ rest) = p.adapted.text ++ adapt false rest := by
  have hopen (cs : List Char) : adapt false ('(' :: cs) = '(' :: adapt false cs := rfl
  have hclose (cs : List Char) : adapt false (')' :: cs) = ')' :: adapt false cs := rfl
  cases p with
  | char c h =>
    have hslash : c ≠ '\\' := by rintro rfl; cases h
    have hbracket : c ≠ '[' := by rintro rfl; cases h
    have hpoint : c ≠ '.' := by rintro rfl; cases h
    rw [Particle.text, List.singleton_append, adapt, if_neg hbracket, if_neg hpoint,
      Particle.adapted]
    · by_cases hc : c = '^' ∨ c = '$'
      · rw [if_pos hc, dif_pos hc]
        rfl
      · rw [if_neg hc, dif_neg hc]
        rfl
    · exact hslash
  | point h => rfl
  | escape e => exact e.adapt_text rest false
  | bracketed k => exact k.adapt_text rest
  | group e =>
    simp only [Particle.text, Particle.adapted, List.append_assoc, List.cons_append,
      List.nil_append, hopen, e.adapt_text, hclose]

end

/-- **What is searched for is the adapted expression.** -/
theorem Expression.searchPattern_text (e : Expression interoperable) :
    searchPattern e.text = e.adapted.text := by
  have h := e.adapt_text []
  rwa [List.append_nil, adapt, List.append_nil] at h

/-! ### Meaning -/

mutual

/-- **An adapted expression stands for the same language.** -/
theorem Expression.language_adapted (e : Expression interoperable) :
    e.adapted.language = e.language := by
  cases e with
  | last b => exact b.language_adapted
  | either b e =>
    rw [Expression.adapted, Expression.language, Expression.language, b.language_adapted,
      e.language_adapted]

theorem Branch.language_adapted (b : Branch interoperable) :
    b.adapted.language = b.language := by
  cases b with
  | nil => rfl
  | piece p q b =>
    rw [Branch.adapted, Branch.language, Branch.language, p.language_adapted,
      b.language_adapted]

theorem Particle.language_adapted (p : Particle interoperable) :
    p.adapted.language = p.language := by
  cases p with
  | char c h =>
    rw [Particle.adapted]
    split
    · next hc => rcases hc with rfl | rfl <;> rfl
    · rfl
  | point h =>
    rw [Particle.adapted, Particle.language, Particle.language,
      funext fun c => propext (Class.noLineBreak_contains c)]
  | escape e => rfl
  | bracketed k =>
    rw [Particle.adapted, Particle.language, Particle.language, k.contains_adapted]
  | group e => exact e.language_adapted

end

mutual

/-- Adapting an expression brings no `[^]` into it. -/
theorem Expression.CaretFree.adapted {e : Expression interoperable} (h : e.CaretFree) :
    e.adapted.CaretFree := by
  cases e with
  | last b => exact Branch.CaretFree.adapted h
  | either b e => exact ⟨Branch.CaretFree.adapted h.1, Expression.CaretFree.adapted h.2⟩

theorem Branch.CaretFree.adapted {b : Branch interoperable} (h : b.CaretFree) :
    b.adapted.CaretFree := by
  cases b with
  | nil => trivial
  | piece p q b => exact ⟨Particle.CaretFree.adapted h.1, Branch.CaretFree.adapted h.2⟩

theorem Particle.CaretFree.adapted {p : Particle interoperable} (h : p.CaretFree) :
    p.adapted.CaretFree := by
  cases p with
  | char c h' =>
    rw [Particle.adapted]
    split <;> trivial
  | point h' => exact (Class.caretFree_iff _).2 fun hnegated => Bool.noConfusion hnegated
  | escape e => trivial
  | bracketed k => exact Class.CaretFree.adapted h
  | group e => exact Expression.CaretFree.adapted (e := e) h

end

end Dialect
end JsonQuery
