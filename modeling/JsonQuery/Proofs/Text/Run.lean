import Mathlib.Data.List.TakeDrop
import Mathlib.Data.List.TakeWhile

/-
Runs of characters that pass a test.

A text is split into the longest run at its start and the rest. The split depends
on the run and the character behind it alone, so an end of the rest can be taken
away, and anything can be added to a rest that is not empty.
-/

set_option autoImplicit false

namespace JsonQuery

/-- **A span takes all it can** and leaves the rest. -/
theorem span_eq_iff {p : Char → Bool} {r taken rest : List Char} :
    r.span p = (taken, rest) ↔
      r = taken ++ rest ∧ (∀ c ∈ taken, p c = true) ∧ ∀ c ∈ rest.head?, p c = false := by
  rw [List.span_eq_takeWhile_dropWhile, Prod.mk.injEq]
  constructor
  · rintro ⟨rfl, rfl⟩
    refine ⟨List.takeWhile_append_dropWhile.symm, fun c hc => List.mem_takeWhile_imp hc, ?_⟩
    intro c hc
    have hnot := List.head?_dropWhile_not p r
    rw [hc] at hnot
    simpa using hnot
  · rintro ⟨rfl, htaken, hrest⟩
    rw [List.takeWhile_append_of_pos htaken, List.dropWhile_append_of_pos htaken]
    -- the first character left fails the test, so the run stops before it
    cases rest with
    | nil => simp
    | cons c rest =>
      have hc : p c = false := hrest c rfl
      simp [hc]

variable {p : Char → Bool} {r taken u tail : List Char}

/-- A run that ends inside the front of a text ends there whatever follows. -/
theorem span_local (h : r.span p = (taken, u ++ tail)) :
    ∃ m, r = m ++ tail ∧ u.length ≤ m.length ∧ m.span p = (taken, u) := by
  obtain ⟨rfl, htaken, hhead⟩ := span_eq_iff.1 h
  refine ⟨taken ++ u, (List.append_assoc ..).symm, ?_, span_eq_iff.2 ⟨rfl, htaken, ?_⟩⟩
  · rw [List.length_append]
    exact Nat.le_add_left ..
  · cases u with
    | nil => nofun
    | cons c u => exact hhead

/-- A run that ended at a character ends there in a longer text too. -/
theorem span_append {c : Char} (h : r.span p = (taken, c :: u)) (tail : List Char) :
    (r ++ tail).span p = (taken, c :: (u ++ tail)) := by
  obtain ⟨rfl, htaken, hhead⟩ := span_eq_iff.1 h
  exact span_eq_iff.2 ⟨List.append_assoc .., htaken, hhead⟩

/-- What is dropped inside the front of a text is dropped there whatever follows. -/
theorem dropWhile_local (h : r.dropWhile p = u ++ tail) :
    ∃ m, r = m ++ tail ∧ u.length ≤ m.length ∧ m.dropWhile p = u := by
  have hspan : r.span p = (r.takeWhile p, u ++ tail) := by
    rw [List.span_eq_takeWhile_dropWhile, h]
  obtain ⟨m, hm, hle, hspan⟩ := span_local hspan
  rw [List.span_eq_takeWhile_dropWhile] at hspan
  exact ⟨m, hm, hle, (Prod.mk.inj hspan).2⟩

end JsonQuery
