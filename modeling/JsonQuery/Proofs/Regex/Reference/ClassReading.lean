import Mathlib.Tactic.FinCases
import JsonQuery.Proofs.Regex.Dialect
import JsonQuery.Proofs.Regex.Reference.Locality.Class

/-
Classes of the common dialect are read as they are meant.

Inside a class the reader gives a meaning to more signs than the dialect does: an opening bracket
nests, doubled signs are operators, a hyphen makes a range. None of these can come up in a class of
the dialect. Every item starts with a sign that starts no operator (`ClassChar.text_head`), and a
hyphen stands either inside a range or next to one of the brackets, where the reader takes it for
itself. Only `[^]` is left out: the reader takes its circumflex for a negation, and then the
closing bracket for a member.
-/

set_option autoImplicit false

namespace JsonQuery
namespace Dialect

open Pattern

/-! ## What a class reads as -/

/-- What an item of a class reads as. -/
def ClassItem.body : ClassItem common → ClassBody
  | single x => .literal x.char false
  | range first last _ => .range first.char last.char false false

/-- A hyphen at an end of a class. -/
def hyphenBody (present : Bool) : List ClassBody :=
  (ifPresent '-' present).map (ClassBody.literal · false)

/-- The parts of a class, as they are read. -/
def Class.members (k : Class common) : List ClassBody :=
  hyphenBody k.leading ++ (k.items.map ClassItem.body ++ hyphenBody k.trailing)

/-- **What a class reads as.** -/
def Class.pattern (k : Class common) : Pattern := .bracketed k.negated (.ofItems k.members)

variable {rest : List Char}

/-- Without verbose mode nothing is skipped. -/
theorem skipSpace_off (cs : List Char) : skipSpace false cs = cs := rfl

/-! ## Characters -/

/-- An escape is read as the character that it stands for. -/
theorem Escape.escapeAtom (e : Escape common) (rest : List Char) :
    Pattern.escapeAtom false (e.letter :: rest) = .ok (.literal e.char false, rest) := by
  obtain ⟨letter, h⟩ := e
  fin_cases h <;> rfl

/-- A character of a class is written as an escape, or by itself where it has no meaning. -/
theorem ClassChar.text_cases (x : ClassChar common) :
    (∃ e : Escape common, x.text = ['\\', e.letter] ∧ x.char = e.char) ∨
      x.text = [x.char] ∧ x.char ∉ ['[', ']', '&', '-', '~', '\\'] := by
  cases x with
  | escape e => exact .inl ⟨e, rfl, rfl⟩
  | normal c h =>
    refine .inr ⟨rfl, fun hmem => ?_⟩
    -- each of these is a sign of the dialect
    simp only [char] at hmem
    fin_cases hmem <;> cases h

/-- **A character of a class starts no operator, no nested class and no end.** -/
theorem ClassChar.text_head (x : ClassChar common) :
    ∃ c cs, x.text = c :: cs ∧ c ∉ ['[', ']', '&', '-', '~'] := by
  obtain ⟨e, htext, -⟩ | ⟨htext, hmeaning⟩ := x.text_cases
  · exact ⟨'\\', [e.letter], htext, by decide⟩
  · exact ⟨x.char, [], htext, fun hmem => hmeaning (List.mem_append_left ['\\'] hmem)⟩

/-- A character of a class is read as the character that it stands for. -/
theorem ClassChar.classAtom_text (x : ClassChar common) (rest : List Char) :
    classAtom false (x.text ++ rest) = .ok (.literal x.char false, rest) := by
  obtain ⟨e, htext, hchar⟩ | ⟨htext, hmeaning⟩ := x.text_cases
  · rw [htext, hchar]
    exact e.escapeAtom rest
  · rw [htext, List.singleton_append, classAtom]
    intro hslash
    rw [hslash] at hmeaning
    exact hmeaning (by decide)

/-! ## Items -/

/-- What may follow an item: anything that makes no range of it. -/
def EndsItem (rest : List Char) : Prop :=
  ∃ c cs, rest = c :: cs ∧ (c = '-' → ∃ cs', cs = ']' :: cs')

/-- An item is read as what it is, up to what ends it. -/
theorem ClassItem.classRange_text (item : ClassItem common) (hrest : EndsItem rest) :
    classRange false (item.text ++ rest) = .ok (item.body, rest) := by
  cases item with
  | single x =>
    obtain ⟨c, cs, rfl, hhyphen⟩ := hrest
    rw [classRange, text, x.classAtom_text, ok_bind]
    by_cases hc : c = '-'
    · -- a hyphen in front of the closing bracket makes no range
      obtain ⟨cs', rfl⟩ := hhyphen hc
      subst hc
      rfl
    · simp [skipSpace_off, hc, classItem, body]
  | range first last h =>
    -- behind its hyphen a range goes on with a character, which is neither an end nor a hyphen
    obtain ⟨c, cs, hlast, hc⟩ := last.text_head
    have hend : ¬ (c = ']' ∨ c = '-') := by
      rintro (rfl | rfl) <;> exact hc (by decide)
    have hread := last.classAtom_text rest
    rw [text, List.append_assoc, List.cons_append, classRange, first.classAtom_text, ok_bind]
    rw [hlast, List.cons_append] at hread ⊢
    simp only [skipSpace_off, if_neg hend, hread, ok_bind, if_pos h]
    rfl

/-- An item starts no operator, no nested class and no end. -/
theorem ClassItem.text_head (item : ClassItem common) :
    ∃ c cs, item.text = c :: cs ∧ c ∉ ['[', ']', '&', '-', '~'] := by
  cases item with
  | single x => exact x.text_head
  | range first last h =>
    obtain ⟨c, cs, hfirst, hc⟩ := first.text_head
    refine ⟨c, cs ++ '-' :: last.text, ?_, hc⟩
    rw [text, hfirst, List.cons_append]

/-! ## The inside of a class -/

/-- What starts neither a class, nor an operator, nor the end is read as an item. -/
theorem classBody_range {c : Char} {cs : List Char} (hc : c ∉ ['[', ']', '&', '-', '~'])
    (fuel : Nat) (items : List ClassBody) :
    classBody false (fuel + 1) none items (c :: cs) = (do
      let (item, rest) ← classRange false (c :: cs)
      classBody false fuel none (item :: items) rest) := by
  rw [classBody, skipSpace_off]
  split <;> simp_all

/-- One item more is read, in one turn of the reader. -/
theorem ClassItem.classBody_text (item : ClassItem common) (fuel : Nat) (items : List ClassBody)
    (hrest : EndsItem rest) :
    classBody false (fuel + 1) none items (item.text ++ rest) =
      classBody false fuel none (item.body :: items) rest := by
  have hread := item.classRange_text hrest
  obtain ⟨c, cs, htext, hc⟩ := item.text_head
  rw [htext, List.cons_append] at hread ⊢
  rw [classBody_range hc, hread, ok_bind]

/-- What follows an item of a class makes no range of it. -/
theorem endsItem_items (items : List (ClassItem common)) (trailing : Bool) :
    EndsItem (items.flatMap ClassItem.text ++ (ifPresent '-' trailing ++ ']' :: rest)) := by
  cases items with
  | nil =>
    cases trailing with
    | false => exact ⟨']', rest, rfl, nofun⟩
    | true => exact ⟨'-', ']' :: rest, rfl, fun _ => ⟨rest, rfl⟩⟩
  | cons item items =>
    obtain ⟨c, cs, htext, hc⟩ := item.text_head
    rw [List.flatMap_cons, htext]
    exact ⟨c, _, rfl, fun hhyphen => absurd (by rw [hhyphen]; decide) hc⟩

/-- The items of a class are read one after the other, up to the closing bracket. -/
theorem classBody_items (items : List (ClassItem common)) (trailing : Bool) {fuel : Nat}
    (hfuel : items.length + 1 < fuel) (read : List ClassBody) :
    classBody false fuel none read (items.flatMap ClassItem.text ++
        (ifPresent '-' trailing ++ ']' :: rest)) =
      .ok (.ofItems (read.reverse ++ (items.map ClassItem.body ++ hyphenBody trailing)),
        rest) := by
  induction items generalizing fuel read with
  | nil =>
    -- the trailing hyphen, if there is one, takes a turn of its own
    obtain ⟨fuel, rfl⟩ := Nat.exists_eq_add_of_le' hfuel
    have hclose (read : List ClassBody) :
        classBody false (fuel + 1) none read (']' :: rest) = .ok (.ofItems read.reverse, rest) :=
      rfl
    cases trailing with
    | false => exact (hclose read).trans (by rw [List.map_nil, hyphenBody]; simp [ifPresent])
    | true => exact (hclose _).trans (by simp [hyphenBody, ifPresent])
  | cons item items ih =>
    obtain ⟨fuel, rfl⟩ := Nat.exists_eq_add_one_of_ne_zero (Nat.ne_zero_of_lt hfuel)
    rw [List.flatMap_cons, List.append_assoc, item.classBody_text _ _ (endsItem_items ..),
      ih (Nat.lt_of_succ_lt_succ hfuel), List.reverse_cons, List.append_assoc]
    rfl

/-! ## The start of a class -/

/-- Hyphens at the start of a class are read ahead of its items. -/
theorem classOpening_item {c : Char} {cs : List Char} (negated leading : Bool) (hhyphen : c ≠ '-')
    (hclose : c ≠ ']') (hcaret : negated = false → leading = false → c ≠ '^') :
    classOpening false (ifPresent '^' negated ++ (ifPresent '-' leading ++ c :: cs)) =
      .ok (negated, hyphenBody leading, c :: cs) := by
  have hnegation :
      Pattern.negation false (ifPresent '^' negated ++ (ifPresent '-' leading ++ c :: cs)) =
        (negated, ifPresent '-' leading ++ c :: cs) := by
    cases negated with
    | true => rfl
    | false =>
      cases leading with
      | true => rfl
      | false =>
        -- only here could the first character be taken for a negation
        refine Pattern.negation.eq_2 false _ fun rest hrest => ?_
        exact hcaret rfl rfl (List.head_eq_of_cons_eq hrest)
  have hspaced : spacedWhile false (· == '-') (ifPresent '-' leading ++ c :: cs).length
      (ifPresent '-' leading ++ c :: cs) = (ifPresent '-' leading, c :: cs) := by
    cases leading <;> simp [ifPresent, spacedWhile, skipSpace_off, hhyphen]
  have hfirst : firstBracket false negated (hyphenBody leading) (c :: cs) =
      .ok (negated, hyphenBody leading, c :: cs) := by
    rw [firstBracket]
    · rfl
    · exact List.cons_ne_nil c cs
    · exact fun rest hrest => hclose (List.head_eq_of_cons_eq hrest)
  rw [classOpening_eq, skipSpace_off, hnegation]
  simp only [hspaced]
  exact hfirst

/-- The start of a class with items is read up to the first of them. -/
theorem classOpening_items {items : List (ClassItem common)} (negated leading : Bool)
    (hitems : items ≠ [])
    (hcaret : negated = false → leading = false →
      (items.flatMap ClassItem.text).head? ≠ some '^') (tail : List Char) :
    classOpening false (ifPresent '^' negated ++ (ifPresent '-' leading ++
        (items.flatMap ClassItem.text ++ tail))) =
      .ok (negated, hyphenBody leading, items.flatMap ClassItem.text ++ tail) := by
  obtain ⟨item, items, rfl⟩ := List.exists_cons_of_ne_nil hitems
  obtain ⟨c, cs, htext, hc⟩ := item.text_head
  rw [List.flatMap_cons, htext] at hcaret ⊢
  rw [List.append_assoc, List.cons_append]
  refine classOpening_item negated leading ?_ ?_ fun hnegated hleading hcircumflex => ?_
  · exact fun hhyphen => absurd (by rw [hhyphen]; decide) hc
  · exact fun hclose => absurd (by rw [hclose]; decide) hc
  · exact hcaret hnegated hleading (congrArg some hcircumflex)

/-- The start of a class of hyphens is the whole class. -/
theorem classOpening_hyphens (negated trailing : Bool) :
    classOpening false
        (ifPresent '^' negated ++ ('-' :: (ifPresent '-' trailing ++ ']' :: rest))) =
      .ok (negated, hyphenBody true ++ hyphenBody trailing, ']' :: rest) := by
  cases negated <;> cases trailing <;> rfl

/-! ## Classes -/

/-- Items take at least one character each. -/
theorem length_items_le (items : List (ClassItem common)) :
    items.length ≤ (items.flatMap ClassItem.text).length := by
  induction items with
  | nil => exact Nat.le_refl 0
  | cons item items ih =>
    have hpos := List.length_pos_of_ne_nil item.text_ne_nil
    rw [List.flatMap_cons, List.length_append, List.length_cons]
    omega

/-- A class is read in two steps, its start and its inside. -/
theorem bracketedClass_eq {negated : Bool} {opening : List ClassBody} {body : ClassBody}
    {cs inside : List Char} (hopening : classOpening false cs = .ok (negated, opening, inside))
    (hbody : classBody false (2 * cs.length + 2) none opening.reverse inside = .ok (body, rest)) :
    bracketedClass false cs = .ok (.bracketed negated body, rest) := by
  simp only [bracketedClass, hopening, ok_bind, hbody]
  rfl

/-- **A class is read as the class that it is**, unless it is `[^]`. -/
theorem Class.bracketedClass_text (k : Class common) (hfree : k.CaretFree) (rest : List Char) :
    bracketedClass false (ifPresent '^' k.negated ++ (k.inside ++ ']' :: rest)) =
      .ok (k.pattern, rest) := by
  have hcaret := k.caretFree_iff.1 hfree
  obtain ⟨negated, leading, items, trailing, hnonempty, _⟩ := k
  simp only [inside, List.append_assoc]
  by_cases hitems : items = []
  · -- nothing but hyphens, all of which belong to the start
    subst hitems
    obtain rfl : leading = true := hnonempty.resolve_right (· rfl)
    refine bracketedClass_eq (classOpening_hyphens negated trailing) ?_
    rw [classBody, skipSpace_off, joinOperand, List.reverse_reverse]
    rfl
  · have hlength := length_items_le items
    refine bracketedClass_eq (classOpening_items negated leading hitems hcaret _) ?_
    rw [classBody_items, List.reverse_reverse]
    · rfl
    · simp only [List.length_append]
      omega

end Dialect
end JsonQuery
