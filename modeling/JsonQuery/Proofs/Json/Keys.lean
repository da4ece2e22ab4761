import JsonQuery.Json.Ordered
import Mathlib.Data.List.Nodup

/-
Values with distinct keys.

Where a selection can get in a value depends on the keys of an object being distinct, and
not on the order they come in. A value together with the proof that they are is a `Document`.
Ordered values have distinct keys, so every value that is read from a text is one.
-/

set_option autoImplicit false

namespace JsonQuery

/-- **A list with distinct keys is a partial function.** -/
theorem lookup_eq_some_iff_mem {α β : Type} [BEq α] [LawfulBEq α] {l : List (α × β)}
    (h : (l.map Prod.fst).Nodup) {a : α} {b : β} : l.lookup a = some b ↔ (a, b) ∈ l := by
  induction l with
  | nil => simp
  | cons m l ih =>
    obtain ⟨k, c⟩ := m
    rw [List.map_cons, List.nodup_cons] at h
    by_cases hk : a = k
    · subst hk
      -- the key is not among the others, so no other member is in question
      have habsent : (a, b) ∉ l := fun hmem => h.1 (List.mem_map.mpr ⟨_, hmem, rfl⟩)
      simp [habsent, eq_comm]
    · have hne : (a == k) = false := beq_eq_false_iff_ne.mpr hk
      simp [List.lookup_cons, hne, hk, ih h.2]

namespace Json

mutual

/-- **Whether the keys of every object in a value are distinct.** -/
def DistinctKeys : Json → Prop
  | array xs => DistinctKeysItems xs
  | object ms => (ms.map Prod.fst).Nodup ∧ DistinctKeysMembers ms
  | _ => True

/-- Whether all elements have distinct keys. -/
def DistinctKeysItems : List Json → Prop
  | [] => True
  | x :: xs => x.DistinctKeys ∧ DistinctKeysItems xs

/-- Whether the values of all members have distinct keys. -/
def DistinctKeysMembers : List (String × Json) → Prop
  | [] => True
  | (_, v) :: ms => v.DistinctKeys ∧ DistinctKeysMembers ms

end

/-- Keys are distinct in elements when they are in each. -/
theorem distinctKeysItems_iff (xs : List Json) :
    DistinctKeysItems xs ↔ ∀ x ∈ xs, x.DistinctKeys := by
  induction xs with
  | nil => simp [DistinctKeysItems]
  | cons x xs ih => simp [DistinctKeysItems, ih]

/-- Keys are distinct in members when they are in the value of each. -/
theorem distinctKeysMembers_iff (ms : List (String × Json)) :
    DistinctKeysMembers ms ↔ ∀ m ∈ ms, m.2.DistinctKeys := by
  induction ms with
  | nil => simp [DistinctKeysMembers]
  | cons m ms ih => simp [DistinctKeysMembers, ih]

mutual

/-- **Ordered values have distinct keys.** -/
theorem Ordered.distinctKeys : ∀ {v : Json}, v.Ordered → v.DistinctKeys
  | array xs, h => by
    rw [Ordered] at h
    rw [DistinctKeys]
    exact OrderedItems.distinctKeys h
  | object ms, h => by
    rw [Ordered] at h
    rw [DistinctKeys]
    refine ⟨h.1.imp ?_, OrderedMembers.distinctKeys h.2⟩
    rintro k l hlt rfl
    exact String.lt_irrefl k hlt
  | null, _ | bool _, _ | number _, _ | string _, _ => by
    unfold DistinctKeys
    trivial

theorem OrderedItems.distinctKeys : ∀ {xs : List Json}, OrderedItems xs → DistinctKeysItems xs
  | [], _ => trivial
  | x :: xs, h => by
    rw [OrderedItems] at h
    rw [DistinctKeysItems]
    exact ⟨Ordered.distinctKeys h.1, OrderedItems.distinctKeys h.2⟩

theorem OrderedMembers.distinctKeys : ∀ {ms : List (String × Json)}, OrderedMembers ms →
    DistinctKeysMembers ms
  | [], _ => trivial
  | (_, v) :: ms, h => by
    rw [OrderedMembers] at h
    rw [DistinctKeysMembers]
    exact ⟨Ordered.distinctKeys h.1, OrderedMembers.distinctKeys h.2⟩

end

/-- **Every value that is read from a text has distinct keys.** -/
theorem distinctKeys_of_ofText? {text : String} {v : Json} (h : ofText? text = some v) :
    v.DistinctKeys :=
  (ordered_of_ofText? h).distinctKeys

end Json

/-- **A document** is a value in which no object has a key twice. -/
structure Document where
  value : Json
  distinctKeys : value.DistinctKeys

/-- An ordered value as a document. -/
def Json.Ordered.document {v : Json} (h : v.Ordered) : Document := ⟨v, h.distinctKeys⟩

end JsonQuery
