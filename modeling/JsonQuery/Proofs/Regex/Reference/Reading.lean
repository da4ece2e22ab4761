import JsonQuery.Proofs.Regex.Reference.ClassReading
import JsonQuery.Proofs.Regex.Reference.Locality.Pattern

/-
Expressions of the common dialect are read as they are meant.

The reader goes through the text of an expression particle by particle. Two signs have to be kept
from a wrong neighbour: a question mark behind a quantifier would only change what the quantifier
prefers, and behind an opening parenthesis it would start flags. Nothing in the dialect starts with
a question mark (`Particle.text_head`), so neither comes up.

The lemmas say what is read whatever follows, as long as it ends the part that is read. Each
particle takes at least one character and at most two turns of the reader, which pays for the fuel.
-/

set_option autoImplicit false

namespace JsonQuery
namespace Dialect

open Pattern

/-! ## What an expression reads as -/

/-- What a quantified part reads as. -/
def Quantifier.pattern (p : Pattern) : Quantifier → Pattern
  | once => p
  | star => .repetition p 0 none
  | plus => .repetition p 1 none
  | optional => .repetition p 0 (some 1)

mutual

/-- The branches of an expression as patterns. -/
def Expression.branches : Expression common → List Pattern
  | .last b => [.ofItems b.items]
  | .either b e => .ofItems b.items :: e.branches

/-- The pieces of a branch as patterns. -/
def Branch.items : Branch common → List Pattern
  | .nil => []
  | .piece p q b => q.pattern p.pattern :: b.items

/-- What a particle reads as. -/
def Particle.pattern : Particle common → Pattern
  | .char c _ => .atom (.literal c false)
  | .point h => Bool.noConfusion h
  | .escape e => .atom (.literal e.char false)
  | .bracketed k => k.pattern
  | .group e => .group [] (.ofBranches e.branches)

end

/-- **The pattern that an expression reads as.** -/
def Expression.pattern (e : Expression common) : Pattern := .ofBranches e.branches

variable {rest : List Char}

/-! ## Question marks -/

/-- Text that does not start with a question mark. -/
def NotQuestion (cs : List Char) : Prop := ∀ rest, cs ≠ '?' :: rest

/-- Text that starts with another sign does not start with a question mark. -/
theorem NotQuestion.cons {c : Char} (hc : c ≠ '?') (cs : List Char) : NotQuestion (c :: cs) :=
  fun _ h => hc (List.head_eq_of_cons_eq h)

/-- Where no question mark stands, a quantifier keeps its preference. -/
theorem NotQuestion.skipLazy (h : NotQuestion rest) : Pattern.skipLazy rest = rest :=
  Pattern.skipLazy.eq_2 rest h

/-- **No particle starts with a question mark.** -/
theorem Particle.text_head (p : Particle common) : ∃ c cs, p.text = c :: cs ∧ c ≠ '?' := by
  cases p with
  | char c h => exact ⟨c, [], rfl, by rintro rfl; cases h⟩
  | point h => cases h
  | escape e => exact ⟨'\\', _, rfl, by decide⟩
  | bracketed k => exact ⟨'[', _, rfl, by decide⟩
  | group e => exact ⟨'(', _, rfl, by decide⟩

/-- A branch brings no question mark to the front. -/
theorem Branch.not_question (b : Branch common) (h : NotQuestion rest) :
    NotQuestion (b.text ++ rest) := by
  cases b with
  | nil => exact h
  | piece p q b =>
    obtain ⟨c, cs, htext, hc⟩ := p.text_head
    rw [text, htext, List.append_assoc]
    exact .cons hc _

theorem Expression.not_question (e : Expression common) (h : NotQuestion rest) :
    NotQuestion (e.text ++ rest) := by
  cases e with
  | last b => exact b.not_question h
  | either b e =>
    rw [text, List.append_assoc]
    exact b.not_question (.cons (by decide) _)

/-! ## Particles -/

variable {names : List (List Char)} {items : List Pattern}

/-- A character without a meaning is read as itself. -/
theorem readItems_normal {c : Char} (hc : common.isNormal c = true) (fuel : Nat)
    (rest : List Char) :
    readItems (fuel + 1) ⟨false, names⟩ items (c :: rest) =
      readItems fuel ⟨false, names⟩ (.atom (.literal c false) :: items) rest := by
  rw [readItems, skipSpace_off]
  -- every sign that the reader gives a meaning is one of the dialect
  split <;> simp_all [isNormal, common]

/-- An escape is read as the character that it stands for. -/
theorem readItems_escape {c d : Char}
    (h : escapeAtom false (c :: rest) = .ok (.literal d false, rest)) (fuel : Nat) :
    readItems (fuel + 1) ⟨false, names⟩ items ('\\' :: c :: rest) =
      readItems fuel ⟨false, names⟩ (.atom (.literal d false) :: items) rest := by
  rw [readItems, skipSpace_off]
  simp only [h, ok_bind]

/-- A class is read as the class that it is. -/
theorem readItems_class {k : Class common} (hfree : k.CaretFree) (fuel : Nat)
    (rest : List Char) :
    readItems (fuel + 1) ⟨false, names⟩ items (k.text ++ rest) =
      readItems fuel ⟨false, names⟩ (k.pattern :: items) rest := by
  have hread := k.bracketedClass_text hfree rest
  rw [Class.text, List.cons_append, List.append_assoc, List.append_assoc, List.singleton_append,
    readItems, skipSpace_off]
  simp only [hread, ok_bind]

/-- A group is read up to its closing parenthesis, and names nothing. -/
theorem readItems_group {body : Pattern} {cs : List Char} {fuel : Nat}
    (hquestion : NotQuestion (cs ++ ')' :: rest))
    (hbody : readBranches fuel ⟨false, names⟩ [] (cs ++ ')' :: rest) =
      .ok (body, ⟨false, names⟩, ')' :: rest)) :
    readItems (fuel + 1) ⟨false, names⟩ items ('(' :: (cs ++ ')' :: rest)) =
      readItems fuel ⟨false, names⟩ (.group [] body :: items) rest := by
  have hopening : opening ⟨false, names⟩ (cs ++ ')' :: rest) =
      .ok (.group [], ⟨false, names⟩, cs ++ ')' :: rest) := opening_plain hquestion
  rw [readItems, skipSpace_off]
  simp only [hopening, ok_bind]
  change (readBranches fuel ⟨false, names⟩ [] (cs ++ ')' :: rest) >>= _) = _
  rw [hbody, ok_bind]
  rfl

/-- **A quantifier repeats the particle in front of it.** -/
theorem readItems_quantifier (q : Quantifier) {p : Pattern} (hp : p.isRepeatable = true)
    (hrest : NotQuestion rest) (fuel : Nat) :
    readItems (fuel + q.text.length) ⟨false, names⟩ (p :: items) (q.text ++ rest) =
      readItems fuel ⟨false, names⟩ (q.pattern p :: items) rest := by
  have hrepeat (least : Nat) (most : Option Nat) :
      repeatLast (p :: items) least most = .ok (.repetition p least most :: items) := if_pos hp
  cases q with
  | once => rfl
  | star | plus | optional =>
    simp only [Quantifier.text, List.singleton_append, List.length_singleton]
    rw [readItems, skipSpace_off]
    simp only [hrepeat, ok_bind, hrest.skipLazy]
    rfl

/-- A quantifier can stand behind every particle. -/
theorem Particle.isRepeatable (p : Particle common) : p.pattern.isRepeatable = true := by
  cases p with
  | point h => cases h
  | _ => rfl

/-! ## Expressions -/

section Branches

variable {state state' : ReaderState} {fuel : Nat} {cs : List Char} {p : Pattern}
  {branches : List Pattern}

/-- Without a bar behind it a branch is the last one. -/
theorem readBranches_last (h : readItems fuel state [] cs = .ok (p, state', rest))
    (hrest : ∀ x, rest ≠ '|' :: x) :
    readBranches (fuel + 1) state branches cs =
      .ok (.ofBranches (branches.reverse ++ [p]), state', rest) := by
  rw [readBranches, h, ok_bind]
  dsimp only
  split
  · next rest => exact absurd rfl (hrest rest)
  · rw [List.reverse_cons]
    rfl

/-- Behind a bar another branch is read. -/
theorem readBranches_next (h : readItems fuel state [] cs = .ok (p, state', '|' :: rest)) :
    readBranches (fuel + 1) state branches cs =
      readBranches fuel state' (p :: branches) rest := by
  rw [readBranches, h, ok_bind]
  rfl

end Branches

mutual

/-- **An expression is read as the expression that it is**, up to a closing parenthesis or to the
end. -/
theorem Expression.readBranches_text (e : Expression common) (hfree : e.CaretFree) {fuel : Nat}
    {names : List (List Char)} {rest : List Char} (hfuel : 2 * e.text.length + 1 < fuel)
    (hrest : ∀ c x, rest = c :: x → c = ')') (branches : List Pattern) :
    readBranches fuel ⟨false, names⟩ branches (e.text ++ rest) =
      .ok (.ofBranches (branches.reverse ++ e.branches), ⟨false, names⟩, rest) := by
  obtain ⟨fuel, rfl⟩ := Nat.exists_eq_add_one_of_ne_zero (Nat.ne_zero_of_lt hfuel)
  cases e with
  | last b =>
    rw [Expression.text] at hfuel ⊢
    have hread : readItems fuel ⟨false, names⟩ [] (b.text ++ rest) =
        .ok (.ofItems b.items, ⟨false, names⟩, rest) :=
      b.readItems_text hfree (Nat.lt_of_succ_lt_succ hfuel)
        (fun c x h => .inr (hrest c x h)) []
    exact readBranches_last hread fun x h => absurd (hrest '|' x h) (by decide)
  | either b e =>
    rw [Expression.text, List.length_append, List.length_cons] at hfuel
    have hread : readItems fuel ⟨false, names⟩ [] (b.text ++ '|' :: (e.text ++ rest)) =
        .ok (.ofItems b.items, ⟨false, names⟩, '|' :: (e.text ++ rest)) :=
      b.readItems_text hfree.1 (by omega)
        (fun c x h => .inl (List.head_eq_of_cons_eq h).symm) []
    rw [Expression.text, List.append_assoc, List.cons_append, readBranches_next hread,
      e.readBranches_text hfree.2 (by omega) hrest, List.reverse_cons, List.append_assoc]
    rfl

/-- A branch is read piece by piece, up to what ends it. -/
theorem Branch.readItems_text (b : Branch common) (hfree : b.CaretFree) {fuel : Nat}
    {names : List (List Char)} {rest : List Char} (hfuel : 2 * b.text.length < fuel)
    (hrest : ∀ c x, rest = c :: x → c = '|' ∨ c = ')') (items : List Pattern) :
    readItems fuel ⟨false, names⟩ items (b.text ++ rest) =
      .ok (.ofItems (items.reverse ++ b.items), ⟨false, names⟩, rest) := by
  cases b with
  | nil =>
    obtain ⟨fuel, rfl⟩ := Nat.exists_eq_add_one_of_ne_zero (Nat.ne_zero_of_lt hfuel)
    rw [Branch.items, List.append_nil]
    exact readItems_done rfl hrest
  | piece p q b =>
    rw [Branch.text, List.length_append, List.length_append] at hfuel
    have hp : 0 < p.text.length := by
      obtain ⟨c, cs, htext, -⟩ := p.text_head
      rw [htext]
      exact Nat.succ_pos _
    obtain ⟨fuel, rfl⟩ : ∃ n, fuel = n + q.text.length + 1 :=
      ⟨fuel - (q.text.length + 1), by omega⟩
    -- behind the quantifier stands another particle or the end, so nothing is skipped
    have hquestion : NotQuestion rest := fun x h => absurd (hrest '?' x h) (by decide)
    rw [Branch.text, List.append_assoc, List.append_assoc, p.readItems_text hfree.1 (by omega),
      readItems_quantifier q p.isRepeatable (b.not_question hquestion),
      b.readItems_text hfree.2 (by omega) hrest, List.reverse_cons, List.append_assoc]
    rfl

/-- A particle is read in one turn of the reader. -/
theorem Particle.readItems_text (p : Particle common) (hfree : p.CaretFree) {fuel : Nat}
    {names : List (List Char)} (hfuel : 2 * p.text.length ≤ fuel + 2) (items : List Pattern)
    (rest : List Char) :
    readItems (fuel + 1) ⟨false, names⟩ items (p.text ++ rest) =
      readItems fuel ⟨false, names⟩ (p.pattern :: items) rest := by
  cases p with
  | char c h => exact readItems_normal h fuel rest
  | point h => cases h
  | escape e => exact readItems_escape (e.escapeAtom rest) fuel
  | bracketed k => exact readItems_class hfree fuel rest
  | group e =>
    rw [Particle.text, List.length_cons, List.length_append, List.length_singleton] at hfuel
    have hend : ∀ c x, ')' :: rest = c :: x → c = ')' :=
      fun c x h => (List.head_eq_of_cons_eq h).symm
    -- both signs of the group are paid for, which leaves enough for what is inside
    rw [Particle.text, List.cons_append, List.append_assoc, List.singleton_append]
    exact readItems_group (e.not_question (.cons (by decide) _))
      (e.readBranches_text hfree (by omega) hend [])

end

end Dialect
end JsonQuery
