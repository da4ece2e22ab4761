import JsonQuery.Proofs.Select.Preorder

/-
The order of locations is the order of a walk through the document.

Locations are compared step by step, which is the lexicographic order of lists, so the order of
steps carries over: it is total, and only equal locations compare as equal. In a value whose keys
are ordered, the children of a node come in the order of their steps, and a node comes before
all that is below it. The walk in preorder therefore lists the locations in increasing order
(`Json.pairwise_preorder`), and a list in increasing order has its members where their order puts
them.
-/

set_option autoImplicit false

namespace JsonQuery

/-! ## Total orders -/

instance : Std.TransCmp Step.compare where
  eq_swap {s t} := (Step.compare_swap t s).symm
  isLE_trans {r s t} hrs hst := by
    cases r with
    | index i =>
      cases t with
      | name c => rfl
      | index k =>
        cases s with
        | index j => exact Std.TransOrd.isLE_trans hrs hst
        | name b => cases hst
    | name a =>
      cases s with
      | index j => cases hrs
      | name b =>
        cases t with
        | index k => cases hst
        | name c => exact Std.TransOrd.isLE_trans hrs hst

/-- Locations are compared step by step. -/
theorem Location.compare_eq_compareLex (p q : Location) :
    Location.compare p q = List.compareLex Step.compare p q := by
  induction p generalizing q with
  | nil => cases q <;> rfl
  | cons s p ih =>
    cases q with
    | nil => rfl
    | cons t q => rw [Location.compare, List.compareLex_cons_cons, ih]

instance : Std.TransCmp Location.compare where
  eq_swap {p q} := (Location.compare_swap q p).symm
  isLE_trans {p q r} := by
    simp only [Location.compare_eq_compareLex]
    exact Std.TransCmp.isLE_trans

instance : Std.LawfulEqCmp Location.compare where
  compare_self {p} := (Location.compare_eq_iff p p).mpr rfl
  eq_of_compare {p q} := (Location.compare_eq_iff p q).mp

@[simp] theorem Location.compare_cons_self (s : Step) (p q : Location) :
    Location.compare (s :: p) (s :: q) = Location.compare p q := by
  rw [Location.compare, (Step.compare_eq_iff s s).mpr rfl, Ordering.eq_then]

theorem Location.compare_cons_of_lt {s t : Step} (h : s.compare t = .lt) (p q : Location) :
    Location.compare (s :: p) (t :: q) = .lt := by
  rw [Location.compare, h, Ordering.lt_then]

/-! ## The walk in preorder -/

namespace Json

/-- The children of an ordered value are ordered. -/
theorem Ordered.of_children {v c : Json} {s : Step} (h : v.Ordered) (hc : (s, c) ∈ v.children) :
    c.Ordered := by
  have hchild := h.document.mem_children_iff.mp hc
  cases v with
  | array xs =>
    cases s with
    | index i =>
      rw [Ordered, orderedItems_iff] at h
      exact h c (List.mem_of_getElem? hchild)
    | name key => cases hchild
  | object ms =>
    cases s with
    | index i => cases hchild
    | name key =>
      -- keys are distinct, so what is found under a key is the member with it
      have hmem := (lookup_eq_some_iff_mem h.distinctKeys.nodup_keys).mp hchild
      rw [Ordered, orderedMembers_iff] at h
      exact h.2 _ hmem
  | _ => cases hchild

/-- **Children come in the order of their steps.** -/
theorem pairwise_children {v : Json} (h : v.Ordered) :
    (v.children.map Prod.fst).Pairwise fun s t => s.compare t = .lt := by
  cases v with
  | array xs =>
    rw [map_fst_children_array, List.pairwise_map]
    refine List.pairwise_lt_range.imp fun hij => ?_
    exact Nat.compare_eq_lt.mpr hij
  | object ms =>
    rw [Ordered] at h
    rw [map_fst_children_object, List.pairwise_map]
    refine h.1.imp fun hkl => ?_
    exact compareOfLessAndEq_eq_lt.mpr hkl
  | _ => exact .nil

/-- **The walk lists locations in increasing order.** -/
theorem pairwise_preorder {v : Json} (h : v.Ordered) :
    (v.preorder.map Prod.fst).Pairwise fun p q => Location.compare p q = .lt := by
  induction v using childInduction with
  | step v ih =>
    rw [map_fst_preorder, List.pairwise_cons, List.pairwise_flatMap]
    refine ⟨fun p hp => ?_, fun m hm => ?_, ?_⟩
    · -- a node comes before all that is below it
      obtain ⟨m, -, hp⟩ := List.mem_flatMap.mp hp
      obtain ⟨q, -, rfl⟩ := List.mem_map.mp hp
      rfl
    · rw [List.pairwise_map]
      simp only [Location.compare_cons_self]
      exact ih m.1 m.2 hm (h.of_children hm)
    · -- a child with all that is below it comes before the next child
      refine (List.pairwise_map.mp (pairwise_children h)).imp fun hmn p hp q hq => ?_
      obtain ⟨p, -, rfl⟩ := List.mem_map.mp hp
      obtain ⟨q, -, rfl⟩ := List.mem_map.mp hq
      exact Location.compare_cons_of_lt hmn p q

/-- Whether a walk in preorder comes to one location before the other. -/
def VisitedBefore (v : Json) (p q : Location) : Prop :=
  (v.preorder.map Prod.fst).idxOf p < (v.preorder.map Prod.fst).idxOf q

instance (v : Json) (p q : Location) : Decidable (v.VisitedBefore p q) :=
  inferInstanceAs (Decidable (_ < _))

end Json

/-- The walk comes to the locations that lead to a node. -/
theorem Document.mem_locations_iff (d : Document) {p : Location} :
    p ∈ d.value.preorder.map Prod.fst ↔ (d.value.follow? p).isSome = true := by
  rw [List.mem_map, Option.isSome_iff_exists]
  constructor
  · rintro ⟨⟨_, n⟩, hn, rfl⟩
    exact ⟨n, d.mem_preorder_iff.mp hn⟩
  · rintro ⟨n, hn⟩
    exact ⟨(p, n), d.mem_preorder_iff.mpr hn, rfl⟩

/-- **In a list in increasing order the smaller of two members comes first.** -/
theorem idxOf_lt_idxOf_iff {α : Type} [BEq α] [LawfulBEq α] {cmp : α → α → Ordering}
    [Std.OrientedCmp cmp] {l : List α} (h : l.Pairwise fun x y => cmp x y = .lt) {x y : α}
    (hx : x ∈ l) (hy : y ∈ l) : cmp x y = .lt ↔ l.idxOf x < l.idxOf y := by
  have hforward : ∀ {x y : α}, x ∈ l → y ∈ l → l.idxOf x < l.idxOf y → cmp x y = .lt := by
    intro x y hx hy hlt
    have hpair := List.pairwise_iff_getElem.mp h _ _ (List.idxOf_lt_length_of_mem hx)
      (List.idxOf_lt_length_of_mem hy) hlt
    rwa [List.getElem_idxOf, List.getElem_idxOf] at hpair
  refine ⟨fun hcmp => ?_, hforward hx hy⟩
  -- if the smaller one were not first, the order would hold in the other direction too
  by_contra hnot
  rcases Nat.lt_or_eq_of_le (Nat.le_of_not_lt hnot) with hgt | heq
  · exact Std.OrientedCmp.not_lt_of_lt hcmp (hforward hy hx hgt)
  · obtain rfl := (List.idxOf_inj hy).mp heq
    exact Std.OrientedCmp.not_lt_of_lt hcmp hcmp

/-- **The order of locations is total, and it is the order of documents.** Only equal locations
compare as equal, the order read backwards is the opposite one, and it is transitive. In a value
with ordered keys, one location is less than another where a walk in preorder comes to it
earlier, which is the walk that descendant segments select along. -/
theorem Location.compare_preorder (p q r : Location) :
    (Location.compare p q = .eq ↔ p = q)
      ∧ (Location.compare p q).swap = Location.compare q p
      ∧ (Location.compare p q = .lt → Location.compare q r = .lt → Location.compare p r = .lt)
      ∧ ∀ v : Json, v.Ordered →
        (∀ ss root, Segment.visit (.descendant ss) v root
            = concatEach (selectedAt fun n => Segment.visit (.child ss) n root) v.preorder)
          ∧ ((v.follow? p).isSome = true → (v.follow? q).isSome = true →
            (Location.compare p q = .lt ↔ v.VisitedBefore p q)) := by
  refine ⟨compare_eq_iff p q, compare_swap p q, Std.TransCmp.lt_trans, fun v hv => ⟨?_, ?_⟩⟩
  · intro ss root
    rw [Segment.visit, descend_eq_preorder]
    simp only [Segment.visit]
  · intro hp hq
    exact idxOf_lt_idxOf_iff (Json.pairwise_preorder hv) (hv.document.mem_locations_iff.mpr hp)
      (hv.document.mem_locations_iff.mpr hq)

/-- The third element comes before what is in the eleventh one. -/
theorem compare_preorder_elements :
    let v : Json := .array (List.replicate 10 .null ++ [.array [.null]])
    v.Ordered ∧ (v.follow? [.index 2]).isSome = true
      ∧ (v.follow? [.index 10, .index 0]).isSome = true
      ∧ v.VisitedBefore [.index 2] [.index 10, .index 0] := by
  intro v
  have hv : v.Ordered := by
    simp [v, Json.Ordered, Json.OrderedItems]
  obtain ⟨-, -, -, hwalk⟩ := Location.compare_preorder [.index 2] [.index 10, .index 0] []
  exact ⟨hv, rfl, rfl, ((hwalk v hv).2 rfl rfl).mp rfl⟩

end JsonQuery
