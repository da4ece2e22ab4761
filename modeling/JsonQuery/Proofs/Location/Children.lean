import JsonQuery.Location.Basic
import JsonQuery.Proofs.Json.Keys

/-
The children of a node, and the nodes below it.

A node lists its children with the steps to them. In a document no step occurs twice, so the
list and the partial function from steps to children say the same
(`Document.mem_children_iff`). A child of a document is a document again, and so is every node
below it. Everything that walks down a document is about one level at a time, whatever is an
array there and what is an object (`Document.childInduction`).
-/

set_option autoImplicit false

namespace JsonQuery

namespace Json

/-! ## Children -/

/-- The steps to elements are the positions in order. -/
theorem map_fst_children_array (xs : List Json) :
    (array xs).children.map Prod.fst = (List.range xs.length).map Step.index := by
  rw [children, List.map_map, List.range_eq_range', ← List.zipIdx_map_snd 0 xs, List.map_map]
  rfl

/-- The steps to members are the keys in order. -/
theorem map_fst_children_object (ms : List (String × Json)) :
    (object ms).children.map Prod.fst = (ms.map Prod.fst).map Step.name := by
  rw [children, List.map_map, List.map_map]
  rfl

/-- A child is smaller than its node, so a walk down ends. -/
theorem sizeOf_child {v c : Json} {s : Step} (h : (s, c) ∈ v.children) : sizeOf c < sizeOf v := by
  cases v with
  | array xs =>
    simp only [children, List.mem_map, Prod.mk.injEq, Prod.exists,
      List.mem_zipIdx_iff_getElem?] at h
    obtain ⟨x, i, hx, -, rfl⟩ := h
    have hlt := List.sizeOf_lt_of_mem (List.mem_of_getElem? hx)
    rw [array.sizeOf_spec]
    omega
  | object ms =>
    simp only [children, List.mem_map, Prod.mk.injEq, Prod.exists] at h
    obtain ⟨key, x, hx, -, rfl⟩ := h
    have hlt := List.sizeOf_lt_of_mem hx
    rw [Prod.mk.sizeOf_spec] at hlt
    rw [object.sizeOf_spec]
    omega
  | _ => simp [children] at h

/-- **Induction on a value by its children**, for arrays and objects alike. -/
theorem childInduction {motive : Json → Prop}
    (step : ∀ v, (∀ s c, (s, c) ∈ v.children → motive c) → motive v) (v : Json) : motive v :=
  step v fun _ c _ => childInduction step c
termination_by sizeOf v
decreasing_by exact sizeOf_child ‹_›

/-- Two locations in a row are followed one after the other. -/
theorem follow?_append (v : Json) (p q : Location) :
    v.follow? (p ++ q) = (v.follow? p).bind (·.follow? q) := by
  induction p generalizing v with
  | nil => rfl
  | cons s p ih =>
    rw [List.cons_append, follow?, follow?, Option.bind_assoc]
    exact Option.bind_congr fun c _ => ih c

theorem follow?_singleton {v c : Json} {s : Step} (h : v.child? s = some c) :
    v.follow? [s] = some c := by
  rw [follow?, h]
  rfl

theorem DistinctKeys.nodup_keys {ms : List (String × Json)} (h : (object ms).DistinctKeys) :
    (ms.map Prod.fst).Nodup := by
  rw [DistinctKeys] at h
  exact h.1

theorem DistinctKeys.child {v c : Json} {s : Step} (h : v.DistinctKeys) (hc : v.child? s = some c) :
    c.DistinctKeys := by
  cases v with
  | array xs =>
    cases s with
    | index i =>
      rw [DistinctKeys, distinctKeysItems_iff] at h
      exact h c (List.mem_of_getElem? hc)
    | name key => cases hc
  | object ms =>
    cases s with
    | index i => cases hc
    | name key =>
      have hmem : (key, c) ∈ ms := (lookup_eq_some_iff_mem h.nodup_keys).mp hc
      rw [DistinctKeys, distinctKeysMembers_iff] at h
      exact h.2 _ hmem
  | _ => cases hc

theorem DistinctKeys.follow {v n : Json} {p : Location} (h : v.DistinctKeys)
    (hn : v.follow? p = some n) : n.DistinctKeys := by
  induction p generalizing v with
  | nil =>
    cases hn
    exact h
  | cons s p ih =>
    obtain ⟨c, hc, hn⟩ := Option.bind_eq_some_iff.mp hn
    exact ih (h.child hc) hn

end Json

namespace Document

/-! ## Documents -/

/-- **The children of a document are what the steps lead to.** -/
theorem mem_children_iff (d : Document) {s : Step} {c : Json} :
    (s, c) ∈ d.value.children ↔ d.value.child? s = some c := by
  obtain ⟨v, hv⟩ := d
  cases v with
  | array xs =>
    simp only [Json.children, List.mem_map, Prod.mk.injEq, Prod.exists,
      List.mem_zipIdx_iff_getElem?]
    constructor
    · rintro ⟨x, i, hx, rfl, rfl⟩
      exact hx
    · intro hs
      cases s with
      | index i => exact ⟨c, i, hs, rfl, rfl⟩
      | name key => cases hs
  | object ms =>
    simp only [Json.children, List.mem_map, Prod.mk.injEq, Prod.exists]
    constructor
    · rintro ⟨key, x, hx, rfl, rfl⟩
      exact (lookup_eq_some_iff_mem hv.nodup_keys).mpr hx
    · intro hs
      cases s with
      | index i => cases hs
      | name key => exact ⟨key, c, (lookup_eq_some_iff_mem hv.nodup_keys).mp hs, rfl, rfl⟩
  | _ => simp [Json.children, Json.child?]

/-- **No step leads to two children.** -/
theorem nodup_children (d : Document) : (d.value.children.map Prod.fst).Nodup := by
  obtain ⟨v, hv⟩ := d
  cases v with
  | array xs =>
    rw [Json.map_fst_children_array]
    exact List.nodup_range.map fun _ _ hij => Step.index.inj hij
  | object ms =>
    rw [Json.map_fst_children_object]
    exact hv.nodup_keys.map fun _ _ hkl => Step.name.inj hkl
  | _ => exact .nil

/-- The list of the children, read as a partial function, is the step down. -/
theorem lookup_children (d : Document) (s : Step) :
    d.value.children.lookup s = d.value.child? s := by
  refine Option.ext fun c => ?_
  rw [lookup_eq_some_iff_mem d.nodup_children, d.mem_children_iff]

/-- **A child of a document** is a document. -/
def child (d : Document) {s : Step} {c : Json} (h : d.value.child? s = some c) : Document :=
  ⟨c, d.distinctKeys.child h⟩

/-- **A node below a document** is a document. -/
def below (d : Document) {p : Location} {n : Json} (h : d.value.follow? p = some n) : Document :=
  ⟨n, d.distinctKeys.follow h⟩

/-- **Induction on a document by its children.** -/
theorem childInduction {motive : Document → Prop}
    (step : ∀ d : Document, (∀ s c, ∀ h : d.value.child? s = some c, motive (d.child h)) → motive d)
    (d : Document) : motive d := by
  obtain ⟨v, hv⟩ := d
  induction v using Json.childInduction with
  | step v ih =>
    refine step ⟨v, hv⟩ fun s c hc => ?_
    exact ih s c ((mem_children_iff ⟨v, hv⟩).mpr hc) (hv.child hc)

end Document

end JsonQuery
