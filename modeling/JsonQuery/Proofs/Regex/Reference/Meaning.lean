import JsonQuery.Proofs.Regex.Reference.Anchoring
import JsonQuery.Proofs.Regex.Reference.Denotes
import JsonQuery.Proofs.Regex.Reference.Reading

/-
Expressions of the common dialect compile to expressions for their languages.

The pattern that an expression reads as compiles to a regular expression that stands for the
expression's language (`Expression.means`). Under the settings at the start of a pattern nothing
changes on the way: no flag is switched, so every part compiles under the same settings, and a class
contains what its items list. The lemmas follow the tree, one for each thing that a pattern of the
dialect is built by.
-/

set_option autoImplicit false

namespace JsonQuery
namespace Dialect

open Regex Pattern
open scoped Computability

/-! ## Patterns and languages -/

/-- **A pattern that compiles to an expression for a language**, and switches no
flags. -/
def Means (p : Pattern) (L : Language Char) : Prop :=
  ∃ r, p.regex .initial = .ok (r, .initial) ∧ r.Denotes L

/-- Patterns whose sequence stands for a language. -/
inductive MeansInOrder : List Pattern → Language Char → Prop
  | nil : MeansInOrder [] 1
  | cons {p : Pattern} {ps : List Pattern} {L M : Language Char} :
      Means p L → MeansInOrder ps M → MeansInOrder (p :: ps) (L * M)

/-- Patterns whose alternatives stand for a language. -/
inductive MeansEither : List Pattern → Language Char → Prop
  | nil : MeansEither [] 0
  | cons {p : Pattern} {ps : List Pattern} {L M : Language Char} :
      Means p L → MeansEither ps M → MeansEither (p :: ps) (L + M)

variable {p : Pattern} {ps : List Pattern} {L M : Language Char}

/-- A character is known by its code point. -/
theorem char_toNat_eq_iff {c d : Char} : c.toNat = d.toNat ↔ c = d :=
  ⟨fun h => Char.ext (UInt32.toNat_inj.1 h), congrArg Char.toNat⟩

/-- A literal stands for the word of its character. -/
theorem means_literal (c : Char) : Means (.atom (.literal c false)) (oneOf (· = c)) := by
  refine ⟨.set (.single c), rfl, .set fun d => ?_⟩
  rw [CharSet.contains_single, beq_iff_eq, char_toNat_eq_iff]

/-- A group stands for what is in it. -/
theorem Means.group (h : Means p L) : Means (.group [] p) L := by
  obtain ⟨r, hr, hden⟩ := h
  refine ⟨r, ?_, hden⟩
  have hchange : Flags.initial.change [] = .initial := rfl
  rw [Pattern.regex, hchange, hr]
  rfl

/-- A quantified pattern stands for what the quantifier makes of its language. -/
theorem Means.quantifier (q : Quantifier) (h : Means p L) :
    Means (q.pattern p) (q.language L) := by
  obtain ⟨r, hr, hden⟩ := h
  have hrepeat (least : Nat) (most : Option Nat) :
      (Pattern.repetition p least most).regex .initial =
        .ok (.repeat r least most, .initial) := by
    rw [Pattern.regex, hr]
    rfl
  cases q with
  | once => exact ⟨r, hr, hden⟩
  | star => exact ⟨_, hrepeat 0 none, hden.star⟩
  | plus => exact ⟨_, hrepeat 1 none, hden.plus⟩
  | optional => exact ⟨_, hrepeat 0 (some 1), hden.optional⟩

/-- Patterns one after the other compile one after the other, under the same settings. -/
theorem MeansInOrder.regexSeq (h : MeansInOrder ps L) :
    ∃ r, Pattern.regexSeq .initial ps = .ok (r, .initial) ∧ r.Denotes L := by
  induction h with
  | nil => exact ⟨.empty, rfl, .empty⟩
  | cons hp _ ih =>
    obtain ⟨r, hr, hden⟩ := hp
    obtain ⟨s, hs, hrest⟩ := ih
    refine ⟨.seq r s, ?_, hden.seq hrest⟩
    simp only [Pattern.regexSeq, hr, ok_bind, hs]
    rfl

/-- A sequence stands for its language, also where it has no part or a single one. -/
theorem MeansInOrder.means (h : MeansInOrder ps L) : Means (.ofItems ps) L := by
  obtain - | ⟨hp, - | ⟨hq, hps⟩⟩ := h
  · exact ⟨.empty, rfl, .empty⟩
  · rwa [mul_one]
  · exact (MeansInOrder.cons hp (.cons hq hps)).regexSeq

/-- Alternatives compile one after the other too. -/
theorem MeansEither.regexAlt (h : MeansEither ps L) :
    ∃ r, Pattern.regexAlt .initial ps = .ok (r, .initial) ∧ r.Denotes L := by
  induction h with
  | nil => exact ⟨.never, rfl, .never⟩
  | cons hp _ ih =>
    obtain ⟨r, hr, hden⟩ := hp
    obtain ⟨s, hs, hrest⟩ := ih
    refine ⟨.alt r s, ?_, hden.alt hrest⟩
    simp only [Pattern.regexAlt, hr, ok_bind, hs]
    rfl

/-- An alternation stands for its language, also where it has a single branch. -/
theorem MeansEither.means (h : MeansEither ps L) : Means (.ofBranches ps) L := by
  obtain - | ⟨hp, - | ⟨hq, hps⟩⟩ := h
  · exact ⟨.never, rfl, .never⟩
  · rwa [add_zero]
  · exact (MeansEither.cons hp (.cons hq hps)).regexAlt

/-! ## Classes -/

/-- Whether a literal or a range has a character. -/
def HasChar : ClassBody → Char → Prop
  | .literal x _, c => c = x
  | .range a b _ _, c => a ≤ c ∧ c ≤ b
  | _, _ => False

/-- A part of a class that stands for the characters that it has. -/
def MeansItself (b : ClassBody) : Prop :=
  ∃ s, b.chars .initial = .ok s ∧ ∀ c : Char, s.contains c.toNat = true ↔ HasChar b c

/-- A literal of a class contains its character. -/
theorem meansItself_literal (x : Char) : MeansItself (.literal x false) := by
  refine ⟨.single x, rfl, fun c => ?_⟩
  rw [CharSet.contains_single, beq_iff_eq, char_toNat_eq_iff]
  rfl

/-- A range of a class contains the characters from its first to its last. -/
theorem meansItself_range (a b : Char) : MeansItself (.range a b false false) := by
  refine ⟨.range a.toNat b.toNat, rfl, fun c => ?_⟩
  rw [CharSet.contains, Bool.and_eq_true, decide_eq_true_iff, decide_eq_true_iff]
  rfl

/-- Parts of a class contain together what any of them has. -/
theorem charsAll_means {bodies : List ClassBody} (h : ∀ b ∈ bodies, MeansItself b) :
    ∃ s, ClassBody.charsAll .initial bodies = .ok s ∧
      ∀ c : Char, s.contains c.toNat = true ↔ ∃ b ∈ bodies, HasChar b c := by
  induction bodies with
  | nil => exact ⟨.empty, rfl, fun c => ⟨nofun, nofun⟩⟩
  | cons b bodies ih =>
    obtain ⟨s, hs, hb⟩ := h b (List.mem_cons_self ..)
    obtain ⟨t, ht, hbodies⟩ := ih fun b hmem => h b (List.mem_cons_of_mem _ hmem)
    refine ⟨.union s t, ?_, fun c => ?_⟩
    · simp only [ClassBody.charsAll, hs, ok_bind, ht]
      rfl
    · rw [CharSet.contains, Bool.or_eq_true, hb, hbodies, List.exists_mem_cons_iff]

theorem ofItems_means {bodies : List ClassBody} (h : ∀ b ∈ bodies, MeansItself b) :
    ∃ s, (ClassBody.ofItems bodies).chars .initial = .ok s ∧
      ∀ c : Char, s.contains c.toNat = true ↔ ∃ b ∈ bodies, HasChar b c := by
  match bodies with
  | [] => exact charsAll_means h
  | [b] =>
    obtain ⟨s, hs, hb⟩ := h b (List.mem_cons_self ..)
    exact ⟨s, hs, fun c => (hb c).trans (by simp)⟩
  | b :: b' :: bodies => exact charsAll_means h

namespace Class

/-- Everything that a class is made of stands for itself. -/
theorem meansItself_of_mem (k : Class common) {b : ClassBody} (hb : b ∈ k.members) :
    MeansItself b := by
  have hhyphen (present : Bool) : b ∈ hyphenBody present → MeansItself b := by
    intro hmem
    obtain ⟨c, -, rfl⟩ := List.mem_map.1 hmem
    exact meansItself_literal c
  rw [members, List.mem_append, List.mem_append] at hb
  obtain hmem | hmem | hmem := hb
  · exact hhyphen _ hmem
  · obtain ⟨item, -, rfl⟩ := List.mem_map.1 hmem
    cases item with
    | single x => exact meansItself_literal x.char
    | range first last _ => exact meansItself_range first.char last.char
  · exact hhyphen _ hmem

/-- What a class is made of has the characters that the class lists. -/
theorem lists_iff (k : Class common) (c : Char) :
    (∃ b ∈ k.members, HasChar b c) ↔ k.Lists c := by
  have hhyphen (present : Bool) :
      (∃ b ∈ hyphenBody present, HasChar b c) ↔ c = '-' ∧ present = true := by
    cases present with
    | false => simp [hyphenBody, ifPresent]
    | true => simp [hyphenBody, ifPresent, HasChar]
  have hitem (item : ClassItem common) : HasChar item.body c ↔ item.Lists c := by
    cases item <;> rfl
  simp only [members, List.mem_append, or_and_right, exists_or, hhyphen, List.mem_map,
    exists_exists_and_eq_and, hitem, Lists]
  rw [and_or_left, or_assoc]
  exact or_congr_right or_comm

/-- **A class compiles to the set of its characters.** -/
theorem means (k : Class common) : Means k.pattern (oneOf k.Contains) := by
  obtain ⟨s, hs, hmem⟩ := ofItems_means fun b hb => k.meansItself_of_mem hb
  refine ⟨.set (s.negatedIf k.negated), ?_, .set fun c => ?_⟩
  · rw [pattern, Pattern.regex, hs]
    rfl
  · rw [Contains, ← k.lists_iff, ← hmem]
    cases k.negated with
    | false => rfl
    | true => simp [CharSet.negatedIf, CharSet.contains]

end Class

/-! ## Expressions -/

mutual

/-- **An expression is read as a pattern for its language.** -/
theorem Expression.means (e : Expression common) : MeansEither e.branches e.language := by
  cases e with
  | last b =>
    rw [Expression.language, ← add_zero b.language]
    exact .cons b.means.means .nil
  | either b e => exact .cons b.means.means e.means

/-- A branch is read as a sequence for its language. -/
theorem Branch.means (b : Branch common) : MeansInOrder b.items b.language := by
  cases b with
  | nil => exact .nil
  | piece p q b => exact .cons (p.means.quantifier q) b.means

/-- A particle is read as a pattern for its language. -/
theorem Particle.means (p : Particle common) : Means p.pattern p.language := by
  cases p with
  | char c h => exact means_literal c
  | point h => cases h
  | escape e => exact means_literal e.char
  | bracketed k => exact k.means
  | group e => exact e.means.means.group

end

end Dialect
end JsonQuery
