import JsonQuery.Proofs.Regex.Reference.Spans

/-
Expressions and languages.

An expression without assertions does not look around: where it may end depends on nothing but the
words of its language (`Denotes`). Every constructor corresponds to an operation on languages, and
the places that the words of those take up are known (`occurs_mul`, `occurs_pow`), so each lemma
here only has to put the two side by side.
-/

set_option autoImplicit false

namespace JsonQuery
namespace Regex

open scoped Computability

variable {cs : List Char} {L M : Language Char} {P : Char → Prop}

/-- **An expression that stands for a language**: it spans the places that the words of
the language take up, whatever stands around them. -/
def Denotes (r : Regex) (L : Language Char) : Prop := ∀ cs, Spans cs r = Occurs cs L

namespace Denotes

variable {r s : Regex}

/-- It is enough to compare the places one by one. -/
theorem of_iff (h : ∀ cs i j, Spans cs r i j ↔ Occurs cs L i j) : Denotes r L :=
  fun cs => funext fun i => funext fun j => propext (h cs i j)

/-- The empty expression stands for the empty word. -/
theorem empty : Denotes .empty 1 := of_iff fun _ _ _ => occurs_one.symm

/-- A set stands for the words of one of its characters. -/
theorem set {chars : CharSet} (h : ∀ c, chars.contains c.toNat = true ↔ P c) :
    Denotes (.set chars) (oneOf P) := by
  refine of_iff fun cs i j => ?_
  rw [occurs_oneOf]
  refine and_congr_right fun _ => ?_
  cases cs[i]? with
  | none => simp [inWord]
  | some c => simp [inWord, h]

/-- Expressions one after the other stand for words one after the other. -/
theorem seq (hr : Denotes r L) (hs : Denotes s M) : Denotes (.seq r s) (L * M) := by
  refine of_iff fun cs i k => ?_
  rw [Spans, hr cs, hs cs, occurs_mul]

/-- Alternatives stand for the words of either. -/
theorem alt (hr : Denotes r L) (hs : Denotes s M) : Denotes (.alt r s) (L + M) := by
  refine of_iff fun cs i j => ?_
  rw [Spans, hr cs, hs cs, occurs_add]

/-- The expression that matches nothing stands for no word. -/
theorem never : Denotes never 0 := by
  refine of_iff fun cs i j => ⟨?_, ?_⟩
  · rintro ⟨-, h⟩
    cases hget : cs[i]? with
    | none => rw [hget] at h; cases h
    | some c => rw [hget] at h; cases h
  · rintro ⟨w, hw, -⟩
    exact absurd hw (Language.notMem_zero w)

/-- **Any number of times.** -/
theorem star (hr : Denotes r L) : Denotes (.repeat r 0 none) L∗ := by
  refine of_iff fun cs i j => ?_
  rw [occurs_kstar, Spans, hr cs]
  constructor
  · rintro ⟨n, -, -, h⟩
    exact ⟨n, h⟩
  · rintro ⟨n, h⟩
    exact ⟨n, Nat.zero_le n, fun m hm => absurd hm (Option.not_mem_none m), h⟩

/-- **At least once.** -/
theorem plus (hr : Denotes r L) : Denotes (.repeat r 1 none) (L * L∗) := by
  refine of_iff fun cs i j => ?_
  rw [occurs_mul, Spans, hr cs]
  constructor
  · rintro ⟨n, hn, -, h⟩
    obtain ⟨n, rfl⟩ := Nat.exists_eq_succ_of_ne_zero (Nat.ne_of_gt hn)
    obtain ⟨k, hik, hkj⟩ := h
    exact ⟨k, hik, occurs_kstar.2 ⟨n, hkj⟩⟩
  · rintro ⟨k, hik, hkj⟩
    obtain ⟨n, hn⟩ := occurs_kstar.1 hkj
    exact ⟨n + 1, Nat.le_add_left 1 n, fun m hm => absurd hm (Option.not_mem_none m), k, hik, hn⟩

/-- **At most once.** -/
theorem optional (hr : Denotes r L) : Denotes (.repeat r 0 (some 1)) (1 + L) := by
  refine of_iff fun cs i j => ?_
  rw [occurs_add, occurs_one, Spans, hr cs]
  have honce : Times (Occurs cs L) 1 = Occurs cs L := Relation.comp_eq
  constructor
  · rintro ⟨n, -, hn, h⟩
    obtain rfl | rfl : n = 0 ∨ n = 1 := Nat.le_one_iff_eq_zero_or_eq_one.1 (hn 1 rfl)
    · exact .inl h
    · rw [honce] at h
      exact .inr h
  · rintro (h | h)
    · exact ⟨0, Nat.le_refl 0, fun _ _ => Nat.zero_le _, h⟩
    · refine ⟨1, Nat.zero_le 1, fun m hm => ?_, ?_⟩
      · rw [← Option.mem_some_iff.1 hm]
        exact Nat.le_max_right 0 1
      · rwa [honce]

/-- The language of an expression is what it spans from end to end. -/
theorem mem_iff (h : Denotes r L) (w : List Char) : w ∈ L ↔ Spans w r 0 w.length := by
  rw [h]
  constructor
  · intro hw
    exact ⟨w, hw, List.prefix_refl w, (Nat.zero_add _).symm⟩
  · rintro ⟨v, hv, hprefix, hlength⟩
    rw [Nat.zero_add] at hlength
    rw [List.drop_zero] at hprefix
    rwa [← hprefix.eq_of_length hlength.symm]

/-- **An expression stands for one language only.** -/
theorem unique (hL : Denotes r L) (hM : Denotes r M) : L = M :=
  Language.ext fun w => (hL.mem_iff w).trans (hM.mem_iff w).symm

end Denotes

end Regex
end JsonQuery
