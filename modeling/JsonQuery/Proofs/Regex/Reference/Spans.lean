import JsonQuery.Proofs.Regex.Language
import JsonQuery.Regex.Reference.Matcher

/-
What the matcher computes.

An expression relates the place where a match starts to the place where it ends
(`Spans`), by recursion on the expression and without any marks. The matcher takes
a set of places to the set of places related to one of them (`image_follows`), and
the proof goes through what a step on marks may be built from: one step after
another, the union of two steps, a number of steps.

Only an unbounded repetition needs an argument of its own. Each round keeps the
places found so far, so a round that finds nothing new is the last that could, and
there are no more rounds that find something new than there are places
(`widen_iterate`). What is then marked is closed under the relation, however often
that is taken.

What follows about matching needs no marks any more. An expression between the two ends of the
text, for one, spans the whole text or nothing (`spans_betweenEnds_iff`).
-/

set_option autoImplicit false

namespace JsonQuery
namespace Regex

/-! ## Places -/

/-- The character in front of a place. -/
def charBefore (cs : List Char) : Nat → Option Char
  | 0 => none
  | i + 1 => cs[i]?

/-- **The places where a match of an expression may start and end.** -/
def Spans (cs : List Char) : Regex → Nat → Nat → Prop
  | empty => Eq
  | set chars => fun i j => j = i + 1 ∧ inWord chars cs[i]? = true
  | look assertion => fun i j =>
    i = j ∧ i ≤ cs.length ∧ assertion.holds (charBefore cs i) cs[i]? = true
  | seq a b => Relation.Comp (Spans cs a) (Spans cs b)
  | alt a b => fun i j => Spans cs a i j ∨ Spans cs b i j
  | «repeat» body least most => fun i j =>
    ∃ n, least ≤ n ∧ (∀ m ∈ most, n ≤ max least m) ∧ Times (Spans cs body) n i j

/-! ## Steps that follow a relation -/

/-- A place that is marked. -/
def Marks.At (m : Marks) (i : Nat) : Prop := m[i]? = some true

/-- **A step on marks that follows a relation on places**: it marks the places that are
related to a marked one. -/
structure Follows (size : Nat) (step : Marks → Marks) (R : Nat → Nat → Prop) : Prop where
  length : ∀ m, m.length = size → (step m).length = size
  at_iff : ∀ m, m.length = size → ∀ j, Marks.At (step m) j ↔ ∃ i, Marks.At m i ∧ R i j

variable {cs : List Char} {size : Nat} {a b m : Marks} {step step' : Marks → Marks}
  {R S : Nat → Nat → Prop}

/-- A union marks what either marks. -/
theorem Marks.at_union (h : a.length = b.length) (i : Nat) :
    Marks.At (Marks.union a b) i ↔ Marks.At a i ∨ Marks.At b i := by
  simp only [Marks.At, Marks.union, List.getElem?_zipWith]
  by_cases hi : i < a.length
  · rw [List.getElem?_eq_getElem hi, List.getElem?_eq_getElem (h ▸ hi)]
    simp
  · rw [List.getElem?_eq_none (Nat.le_of_not_lt hi),
      List.getElem?_eq_none (h ▸ Nat.le_of_not_lt hi)]
    simp

/-- A union has as many places as its parts. -/
theorem Marks.length_union (ha : a.length = size) (hb : b.length = size) :
    (Marks.union a b).length = size := by
  rw [Marks.union, List.length_zipWith, ha, hb, Nat.min_self]

namespace Follows

/-- A relation can be put in other words. -/
theorem congr (h : Follows size step R) (hR : ∀ i j, R i j ↔ S i j) : Follows size step S where
  length := h.length
  at_iff m hm j := by
    rw [h.at_iff m hm]
    exact exists_congr fun i => and_congr_right fun _ => hR i j

/-- No step follows equality. -/
theorem id : Follows size id Eq where
  length _ hm := hm
  at_iff _ _ j := ⟨fun h => ⟨j, h, rfl⟩, fun ⟨_, h, hij⟩ => hij ▸ h⟩

/-- A step after another follows one relation after the other. -/
theorem comp (h : Follows size step R) (h' : Follows size step' S) :
    Follows size (fun m => step' (step m)) (Relation.Comp R S) where
  length m hm := h'.length (step m) (h.length m hm)
  at_iff m hm k := by
    rw [h'.at_iff _ (h.length m hm)]
    constructor
    · rintro ⟨j, hj, hjk⟩
      obtain ⟨i, hi, hij⟩ := (h.at_iff m hm j).1 hj
      exact ⟨i, hi, j, hij, hjk⟩
    · rintro ⟨i, hi, j, hij, hjk⟩
      exact ⟨j, (h.at_iff m hm j).2 ⟨i, hi, hij⟩, hjk⟩

/-- The union of two steps follows either relation. -/
theorem union (h : Follows size step R) (h' : Follows size step' S) :
    Follows size (fun m => Marks.union (step m) (step' m)) (fun i j => R i j ∨ S i j) where
  length m hm := Marks.length_union (h.length m hm) (h'.length m hm)
  at_iff m hm j := by
    rw [Marks.at_union ((h.length m hm).trans (h'.length m hm).symm), h.at_iff m hm,
      h'.at_iff m hm, ← exists_or]
    exact exists_congr fun i => and_or_left.symm

/-- A number of steps follows the relation that many times. -/
theorem iterate (h : Follows size step R) (n : Nat) :
    Follows size (iterate step n) (Times R n) := by
  induction n with
  | zero => exact id
  | succ n ih => exact h.comp ih

end Follows

/-! ## Repetition -/

/-- A number of steps, any of which may be left out, is at most that number of steps. -/
theorem times_or_eq_iff (n i j : Nat) :
    Times (fun i j => i = j ∨ R i j) n i j ↔ ∃ k ≤ n, Times R k i j := by
  induction n generalizing i with
  | zero => exact ⟨fun h => ⟨0, Nat.le_refl 0, h⟩, fun ⟨_, hk, h⟩ => by cases hk; exact h⟩
  | succ n ih =>
    constructor
    · rintro ⟨i', hstep, hrest⟩
      obtain ⟨k, hk, hrest⟩ := (ih i').1 hrest
      obtain rfl | hstep := hstep
      · exact ⟨k, Nat.le_succ_of_le hk, hrest⟩
      · exact ⟨k + 1, Nat.succ_le_succ hk, i', hstep, hrest⟩
    · rintro ⟨k, hk, h⟩
      cases k with
      | zero => exact ⟨i, .inl rfl, (ih i).2 ⟨0, Nat.zero_le n, h⟩⟩
      | succ k =>
        obtain ⟨i', hstep, hrest⟩ := h
        exact ⟨i', .inr hstep, (ih i').2 ⟨k, Nat.le_of_succ_le_succ hk, hrest⟩⟩

/-- What is closed under a relation is closed under taking it a number of times. -/
theorem at_of_times (hclosed : ∀ i j, Marks.At m i → R i j → Marks.At m j) {n i j : Nat}
    (hi : Marks.At m i) (h : Times R n i j) : Marks.At m j := by
  induction n generalizing i with
  | zero => exact h ▸ hi
  | succ n ih =>
    obtain ⟨i', hstep, hrest⟩ := h
    exact ih (hclosed i i' hi hstep) hrest

/-- Steps can be taken in two lots. -/
theorem times_add (n k : Nat) : Times R (n + k) = Relation.Comp (Times R n) (Times R k) := by
  induction n with
  | zero => rw [Nat.zero_add, Times, Relation.eq_comp]
  | succ n ih => rw [Nat.succ_add, Times, ih, Times, Relation.comp_assoc]

/-- A step that keeps the places it starts from. -/
def Marks.widen (step : Marks → Marks) (m : Marks) : Marks := Marks.union m (step m)

/-- A step that changes nothing can be taken as often as one likes. -/
theorem iterate_of_fixed (h : step m = m) (n : Nat) : Regex.iterate step n m = m := by
  induction n with
  | zero => rfl
  | succ n ih => rw [Regex.iterate, h, ih]

/-- **Stopping once nothing new is reached makes no difference.** -/
theorem reach_eq_iterate (n : Nat) : reach step n = iterate (Marks.widen step) n := by
  funext m
  induction n generalizing m with
  | zero => rfl
  | succ n ih =>
    rw [reach, iterate]
    split
    · next h =>
      have hfixed : Marks.widen step m = m := h
      rw [hfixed, iterate_of_fixed hfixed]
    · exact ih _

/-- **At most a number of steps.** -/
theorem Follows.reach (h : Follows size step R) (n : Nat) :
    Follows size (reach step n) (fun i j => ∃ k ≤ n, Times R k i j) := by
  rw [reach_eq_iterate]
  exact ((Follows.id.union h).iterate n).congr (times_or_eq_iff n)

/-- A union adds nothing or marks a place more. -/
theorem Marks.union_eq_or_count_lt (h : a.length = b.length) :
    Marks.union a b = a ∨ a.count true < (Marks.union a b).count true := by
  induction a generalizing b with
  | nil => exact .inl rfl
  | cons x a ih =>
    cases b with
    | nil => exact absurd h nofun
    | cons y b =>
      have hcons : Marks.union (x :: a) (y :: b) = (x || y) :: Marks.union a b := rfl
      rw [hcons]
      cases x with
      | true =>
        rw [Bool.true_or, List.count_cons_self, List.count_cons_self]
        exact (ih (Nat.succ.inj h)).imp (congrArg (true :: ·)) Nat.succ_lt_succ
      | false =>
        rw [Bool.false_or, List.count_cons_of_ne (by decide)]
        cases y with
        | true =>
          rw [List.count_cons_self]
          obtain heq | hlt := ih (Nat.succ.inj h)
          · exact .inr (heq.symm ▸ Nat.lt_succ_self _)
          · exact .inr (Nat.lt_succ_of_lt hlt)
        | false =>
          rw [List.count_cons_of_ne (by decide)]
          exact (ih (Nat.succ.inj h)).imp_left (congrArg (false :: ·))

/-- **As many rounds as there are unmarked places find every place that more rounds
would.** -/
theorem widen_iterate (hlength : ∀ m, m.length = size → (step m).length = size) (n : Nat)
    (hm : m.length = size) (hn : size ≤ m.count true + n) :
    Marks.widen step (iterate (Marks.widen step) n m) = iterate (Marks.widen step) n m := by
  induction n generalizing m with
  | zero =>
    obtain heq | hlt := Marks.union_eq_or_count_lt (hm.trans (hlength m hm).symm)
    · exact heq
    · have hle := List.count_le_length (a := true) (l := Marks.union m (step m))
      rw [Marks.length_union hm (hlength m hm)] at hle
      exact absurd (Nat.lt_of_lt_of_le hlt hle) (Nat.not_lt.2 hn)
  | succ n ih =>
    -- a round that adds nothing ends it, any other leaves one unmarked place less
    obtain heq | hlt := Marks.union_eq_or_count_lt (hm.trans (hlength m hm).symm)
    · have hfixed : Marks.widen step m = m := heq
      rw [iterate_of_fixed hfixed, hfixed]
    · have hcount : size ≤ (Marks.widen step m).count true + n := by
        rw [Marks.widen]
        omega
      exact ih (Marks.length_union hm (hlength m hm)) hcount

/-- **Any number of steps**, which as many rounds as there are places make up for. -/
theorem Follows.reach_size (h : Follows size step R) :
    Follows size (Regex.reach step size) (fun i j => ∃ n, Times R n i j) where
  length := (h.reach size).length
  at_iff m hm j := by
    constructor
    · intro hj
      obtain ⟨i, hi, n, -, hij⟩ := ((h.reach size).at_iff m hm j).1 hj
      exact ⟨i, hi, n, hij⟩
    · rintro ⟨i, hi, n, hij⟩
      have hstart : Marks.At (Regex.reach step size m) i :=
        ((h.reach size).at_iff m hm i).2 ⟨i, hi, 0, Nat.zero_le _, rfl⟩
      have hlength := (h.reach size).length m hm
      have hfixed := widen_iterate h.length size hm (Nat.le_add_left ..)
      rw [← reach_eq_iterate] at hfixed
      -- one more round adds nothing, so no step leads out of what is marked
      refine at_of_times (fun i j hi hij => ?_) hstart hij
      rw [← hfixed]
      exact ((Follows.id.union h).at_iff _ hlength j).2 ⟨i, hi, .inr hij⟩

/-- A number of steps and then as many as a second step takes. -/
theorem Follows.repeat {least : Nat} {P : Nat → Prop} (h : Follows size step R)
    (h' : Follows size step' (fun i j => ∃ n, P n ∧ Times R n i j)) :
    Follows size (fun m => step' (Regex.iterate step least m))
      (fun i j => ∃ n, least ≤ n ∧ P (n - least) ∧ Times R n i j) := by
  refine ((h.iterate least).comp h').congr fun i j => ?_
  constructor
  · rintro ⟨k, hik, n, hn, hkj⟩
    refine ⟨least + n, Nat.le_add_right .., by rwa [Nat.add_sub_cancel_left], ?_⟩
    rw [times_add]
    exact ⟨k, hik, hkj⟩
  · rintro ⟨n, hle, hn, hij⟩
    rw [← Nat.add_sub_cancel' hle, times_add] at hij
    obtain ⟨k, hik, hkj⟩ := hij
    exact ⟨k, hik, n - least, hn, hkj⟩

/-! ## Expressions -/

/-- There is one gap more than there are characters. -/
theorem gaps_length (before : Option Char) (cs : List Char) :
    (gaps before cs).length = cs.length + 1 := by
  induction cs generalizing before with
  | nil => rfl
  | cons c cs ih => rw [gaps, List.length_cons, ih, List.length_cons]

/-- Behind a character the gap lies between it and the next one. -/
theorem gaps_getElem?_succ (before : Option Char) (i : Nat) :
    (gaps before cs)[i + 1]? = cs[i]?.map fun c => (some c, cs[i + 1]?) := by
  induction cs generalizing before i with
  | nil => rfl
  | cons c cs ih =>
    rw [gaps, List.getElem?_cons_succ]
    cases i with
    | zero => cases cs <;> rfl
    | succ i => exact ih (some c) i

/-- The characters around a place. -/
theorem gaps_getElem? {i : Nat} (hi : i ≤ cs.length) :
    (gaps none cs)[i]? = some (charBefore cs i, cs[i]?) := by
  cases i with
  | zero => cases cs <;> rfl
  | succ i =>
    rw [gaps_getElem?_succ, charBefore, List.getElem?_eq_getElem (Nat.lt_of_succ_le hi)]
    rfl

/-- Advancing marks the places in front of a character of the set. -/
theorem at_advance (chars : CharSet) (h : m.length = cs.length + 1) (j : Nat) :
    Marks.At (advance chars cs m) j ↔ Marks.At m j ∧ inWord chars cs[j]? = true := by
  induction cs generalizing m j with
  | nil =>
    cases m with
    | nil => exact absurd h nofun
    | cons x m => exact ⟨nofun, fun h => absurd h.2 (by simp [inWord])⟩
  | cons c cs ih =>
    cases m with
    | nil => exact absurd h nofun
    | cons x m =>
      cases j with
      | zero => simp [Marks.At, advance, inWord]
      | succ j => exact ih (Nat.succ.inj h) j

/-- Advancing leaves out the last place. -/
theorem length_advance (chars : CharSet) (h : m.length = cs.length + 1) :
    (advance chars cs m).length = cs.length := by
  induction cs generalizing m with
  | nil => cases m <;> rfl
  | cons c cs ih =>
    cases m with
    | nil => exact absurd h nofun
    | cons x m => exact congrArg (· + 1) (ih (Nat.succ.inj h))

/-- A set takes a place to the next one. -/
theorem follows_set (chars : CharSet) :
    Follows (cs.length + 1) (image cs (.set chars)) (Spans cs (.set chars)) where
  length m hm := congrArg (· + 1) (length_advance chars hm)
  at_iff m hm j := by
    cases j with
    | zero => exact ⟨nofun, fun ⟨i, _, hij, _⟩ => absurd hij.symm (Nat.succ_ne_zero i)⟩
    | succ j =>
      have hnext : Marks.At (image cs (.set chars) m) (j + 1) ↔
          Marks.At (advance chars cs m) j := Iff.rfl
      rw [hnext, at_advance chars hm]
      exact ⟨fun ⟨hj, hc⟩ => ⟨j, hj, rfl, hc⟩, fun ⟨i, hi, hij, hc⟩ => Nat.succ.inj hij ▸ ⟨hi, hc⟩⟩

/-- An assertion stays where it is. -/
theorem follows_look (assertion : Look) :
    Follows (cs.length + 1) (image cs (.look assertion)) (Spans cs (.look assertion)) where
  length m hm := by
    rw [image, List.length_zipWith, hm, gaps_length, Nat.min_self]
  at_iff m hm j := by
    have hsame : Marks.At (image cs (.look assertion) m) j ↔
        Marks.At m j ∧ Spans cs (.look assertion) j j := by
      simp only [Marks.At, Spans, image, List.getElem?_zipWith]
      by_cases hj : j ≤ cs.length
      · rw [gaps_getElem? hj, List.getElem?_eq_getElem (hm ▸ Nat.lt_succ_of_le hj)]
        simp [hj]
      · rw [List.getElem?_eq_none (by omega)]
        simp
    rw [hsame]
    constructor
    · rintro ⟨hj, h⟩
      exact ⟨j, hj, h⟩
    · rintro ⟨i, hi, rfl, h⟩
      exact ⟨hi, rfl, h⟩

/-- **The matcher computes where a match may end.** -/
theorem image_follows (r : Regex) : Follows (cs.length + 1) (image cs r) (Spans cs r) := by
  induction r with
  | empty => exact .id
  | set chars => exact follows_set chars
  | look assertion => exact follows_look assertion
  | seq first second ihFirst ihSecond => exact ihFirst.comp ihSecond
  | alt first second ihFirst ihSecond => exact ihFirst.union ihSecond
  | «repeat» body least most ih =>
    cases most with
    | some bound =>
      refine (ih.repeat (ih.reach (bound - least))).congr fun i j => ?_
      refine exists_congr fun n => and_congr_right fun hle => and_congr_left fun _ => ?_
      simp only [Option.mem_some_iff, forall_eq']
      omega
    | none =>
      have hany : Follows (cs.length + 1) (reach (image cs body) (cs.length + 1))
          (fun i j => ∃ n, True ∧ Times (Spans cs body) n i j) :=
        ih.reach_size.congr fun i j => exists_congr fun n => (iff_of_eq (true_and _)).symm
      refine (ih.repeat hany).congr fun i j => ?_
      refine exists_congr fun n => and_congr_right fun _ => and_congr_left fun _ => ?_
      exact ⟨fun _ _ => nofun, fun _ => trivial⟩

/-! ## Matching -/

/-- **An expression matches in a text** when it spans something there. -/
theorem isMatch_iff (r : Regex) (text : String) :
    r.isMatch text = true ↔ ∃ i ≤ text.toList.length, ∃ j, Spans text.toList r i j := by
  have hstart (i : Nat) : Marks.At (List.replicate (text.toList.length + 1) true) i ↔
      i ≤ text.toList.length := by
    rw [Marks.At, List.getElem?_replicate, ← Nat.lt_succ_iff]
    simp
  have hfollows : Follows (text.toList.length + 1) (image text.toList r) (Spans text.toList r) :=
    image_follows r
  have hend (j : Nat) := hfollows.at_iff _ (List.length_replicate (a := true)) j
  simp only [hstart] at hend
  simp only [isMatch, List.any_eq_true, id_eq]
  constructor
  · rintro ⟨x, hx, rfl⟩
    obtain ⟨j, hj⟩ := List.mem_iff_getElem?.1 hx
    obtain ⟨i, hi, hij⟩ := (hend j).1 hj
    exact ⟨i, hi, j, hij⟩
  · rintro ⟨i, hi, j, hij⟩
    exact ⟨true, List.mem_iff_getElem?.2 ⟨j, (hend j).2 ⟨i, hi, hij⟩⟩, rfl⟩

/-- An expression between the two ends of a text. -/
def betweenEnds (r : Regex) : Regex := seq (look .textStart) (seq r (seq (look .textEnd) empty))

/-- **An expression between the two ends of a text spans all of the text**, if it does so by
itself, and nothing else. -/
theorem spans_betweenEnds_iff {r : Regex} {i j : Nat} :
    Spans cs (betweenEnds r) i j ↔ i = 0 ∧ j = cs.length ∧ Spans cs r i j := by
  constructor
  · rintro ⟨_, ⟨rfl, hi, hstart⟩, k, hr, _, ⟨rfl, hk, hend⟩, rfl⟩
    -- in front of any other place stands a character, and behind any but the last one too
    obtain rfl : i = 0 := by
      cases i with
      | zero => rfl
      | succ i =>
        rw [charBefore, List.getElem?_eq_getElem (Nat.lt_of_succ_le hi)] at hstart
        cases hstart
    have hlength : cs.length ≤ k :=
      List.getElem?_eq_none_iff.1 (Option.isNone_iff_eq_none.1 hend)
    exact ⟨rfl, Nat.le_antisymm hk hlength, hr⟩
  · rintro ⟨rfl, rfl, hr⟩
    have hend : Look.textEnd.holds (charBefore cs cs.length) cs[cs.length]? = true := by
      rw [List.getElem?_length]
      rfl
    exact ⟨0, ⟨rfl, Nat.zero_le _, rfl⟩, cs.length, hr, cs.length, ⟨rfl, Nat.le_refl _, hend⟩,
      rfl⟩

end Regex
end JsonQuery
