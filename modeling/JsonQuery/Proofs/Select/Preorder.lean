import JsonQuery.Proofs.Select.Descent
import Mathlib.Data.List.Nodup

/-
The order of a descent.

`Json.preorder` lists a node and all nodes below it, each with its location: a node before
its children, and a child with all that is below it before the next child. It holds every
location once (`Document.nodup_preorder`, `Document.mem_preorder_iff`). A descendant segment goes
through that list and selects from each node what the child segment with its selectors
selects there (`Segment.visit_descendant`).

The descent mixes what it finds at a node with what it finds below, so the induction is on
the value by its children: what is found below a child is what is found from the nodes of
the child's own list, one step further from the start.
-/

set_option autoImplicit false

namespace JsonQuery

/-! ## Preorder -/

/-- **A node and all nodes below it**, with their locations from it. -/
def Json.preorder (v : Json) : List (Location × Json) :=
  ([], v) :: v.children.attach.flatMap fun ⟨(s, c), _⟩ =>
    c.preorder.map fun (p, n) => (s :: p, n)
termination_by sizeOf v
decreasing_by exact sizeOf_child ‹_›

namespace Json

/-- A node comes first, and what is below its children follows. -/
theorem preorder_eq (v : Json) :
    v.preorder = ([], v) :: v.children.flatMap fun m => stepped m.1 m.2.preorder := by
  rw [preorder, List.flatMap_subtype (fun _ _ => rfl), List.unattach_attach]
  rfl

/-- The locations of the nodes, with nothing said of the nodes. -/
theorem map_fst_preorder (v : Json) :
    v.preorder.map Prod.fst
      = [] :: v.children.flatMap fun m => (m.2.preorder.map Prod.fst).map (m.1 :: ·) := by
  rw [preorder_eq, List.map_cons, List.map_flatMap]
  simp only [stepped, List.map_map]
  rfl

end Json

namespace Document

/-- **Every location is listed once.** -/
theorem nodup_preorder (d : Document) : (d.value.preorder.map Prod.fst).Nodup := by
  induction d using childInduction with
  | step d ih =>
    rw [Json.map_fst_preorder, List.nodup_cons, List.nodup_flatMap]
    have hroot : [] ∉ d.value.children.flatMap fun m =>
        (m.2.preorder.map Prod.fst).map (m.1 :: ·) := by
      simp
    have heach : ∀ m ∈ d.value.children, ((m.2.preorder.map Prod.fst).map (m.1 :: ·)).Nodup := by
      rintro ⟨s, c⟩ hmem
      exact (ih s c (d.mem_children_iff.mp hmem)).map fun p q hpq => (List.cons.inj hpq).2
    -- the first step tells apart what is below different children
    have hapart : d.value.children.Pairwise
        (Function.onFun List.Disjoint fun m => (m.2.preorder.map Prod.fst).map (m.1 :: ·)) := by
      refine (List.pairwise_map.mp d.nodup_children).imp ?_
      intro m n hne p hp hq
      obtain ⟨q, -, rfl⟩ := List.mem_map.mp hp
      obtain ⟨r, -, hr⟩ := List.mem_map.mp hq
      exact hne (List.cons.inj hr).1.symm
    exact ⟨hroot, heach, hapart⟩

/-- **The list holds the nodes that locations lead to.** -/
theorem mem_preorder_iff (d : Document) {n : Json} {p : Location} :
    (p, n) ∈ d.value.preorder ↔ d.value.follow? p = some n := by
  induction d using childInduction generalizing p with
  | step d ih =>
    rw [Json.preorder_eq, List.mem_cons, List.mem_flatMap]
    cases p with
    | nil =>
      have hbelow : ¬ ∃ m ∈ d.value.children, ([], n) ∈ stepped m.1 m.2.preorder := by
        simp [stepped]
      simp [hbelow, Json.follow?, eq_comm]
    | cons t p =>
      rw [Json.follow?, Option.bind_eq_some_iff]
      constructor
      · rintro (hroot | ⟨⟨s, c⟩, hmem, hbelow⟩)
        · cases hroot
        · obtain ⟨⟨q, m⟩, hq, heq⟩ := List.mem_map.mp hbelow
          cases heq
          have hchild := d.mem_children_iff.mp hmem
          exact ⟨c, hchild, (ih s c hchild).mp hq⟩
      · rintro ⟨c, hchild, hn⟩
        have hmem := d.mem_children_iff.mpr hchild
        have hq := (ih t c hchild).mpr hn
        exact .inr ⟨(t, c), hmem, List.mem_map.mpr ⟨(p, n), hq, rfl⟩⟩

end Document

/-! ## Descents -/

/-- What is selected from a node that was found at a location, located from where that
location starts. -/
def selectedAt (select : Json → Except Violation (List (Location × Json))) (m : Location × Json) :
    Except Violation (List (Location × Json)) := do
  let found ← select m.2
  return found.map fun (q, c) => (m.1 ++ q, c)

section

variable {select : Json → Except Violation (List (Location × Json))}

/-- A node one step further is located one step further. -/
theorem selectedAt_step (s : Step) (m : Location × Json) :
    selectedAt select (s :: m.1, m.2)
      = List.map (fun (p, n) => (s :: p, n)) <$> selectedAt select m := by
  unfold selectedAt
  cases select m.2 with
  | error e => rfl
  | ok found =>
    refine congrArg Except.ok ?_
    rw [List.map_map]
    rfl

theorem selectedAt_start (v : Json) : selectedAt select ([], v) = select v := by
  unfold selectedAt
  cases select v with
  | error e => rfl
  | ok found => exact congrArg Except.ok (List.map_id found)

/-- **What is selected from the nodes below a child** is what is selected from the nodes of
the child's own list, one step further. -/
theorem concatEach_stepped (s : Step) (nodes : List (Location × Json)) :
    concatEach (selectedAt select) (stepped s nodes)
      = stepped s <$> concatEach (selectedAt select) nodes :=
  concatEach_map (selectedAt_step s) nodes

end

/-- **A descent selects from every node in preorder.** -/
theorem descend_eq_preorder (pick : Json → Except Violation (List (Step × Json))) (v : Json) :
    descend pick v
      = concatEach (selectedAt fun n => do
          let found ← pick n
          return oneStep found) v.preorder := by
  induction v using Json.childInduction with
  | step v ih =>
    have hbelow : concatEach (descendChild pick) v.children
        = concatEach (selectedAt fun n => do
            let found ← pick n
            return oneStep found) (v.children.flatMap fun m => stepped m.1 m.2.preorder) := by
      rw [concatEach_flatMap]
      refine concatEach_congr fun m hm => ?_
      rw [concatEach_stepped, ← ih m.1 m.2 hm, descendChild]
      cases descend pick m.2 <;> rfl
    rw [descend_eq, hbelow, Json.preorder_eq, concatEach_cons, selectedAt_start]
    cases pick v <;> rfl

/-! ## Descendant segments -/

/-- **A wildcard below a node** finds the children of every node there. -/
theorem Segment.visit_descendant_wildcard (v root : Json) :
    visit (.descendant [.wildcard]) v root
      = .ok (v.preorder.flatMap fun m => m.2.children.map fun (s, c) => (m.1 ++ [s], c)) := by
  rw [visit, descend_eq_preorder, ← concatEach_ok]
  refine concatEach_congr fun m _ => ?_
  simp only [selectedAt, Selector.pickAll, Selector.pick, ok_bind, oneStep, List.append_nil]
  refine congrArg Except.ok ?_
  rw [List.map_map]
  rfl

/-- Locations of children differ where those of the nodes or the steps do. -/
theorem Document.nodup_childLocations (d : Document) :
    ((d.value.preorder.flatMap fun m => m.2.children.map fun (s, c) => (m.1 ++ [s], c)).map
      Prod.fst).Nodup := by
  have hlocations : (d.value.preorder.flatMap fun m => m.2.children.map fun (s, c) =>
        (m.1 ++ [s], c)).map Prod.fst
      = d.value.preorder.flatMap fun m => (m.2.children.map Prod.fst).map fun s => m.1 ++ [s] := by
    rw [List.map_flatMap]
    simp only [List.map_map]
    rfl
  rw [hlocations, List.nodup_flatMap]
  constructor
  · rintro ⟨p, n⟩ hmem
    have hfollow := d.mem_preorder_iff.mp hmem
    exact (d.below hfollow).nodup_children.map fun s t hst =>
      List.singleton_inj.mp (List.append_cancel_left hst)
  · refine (List.pairwise_map.mp d.nodup_preorder).imp ?_
    intro m n hne p hp hq
    obtain ⟨s, -, rfl⟩ := List.mem_map.mp hp
    obtain ⟨t, -, ht⟩ := List.mem_map.mp hq
    exact hne (List.append_inj_left' ht rfl).symm

/-- **Below a node** is every child of a node that a location leads to. -/
theorem Document.mem_childLocations_iff (d : Document) {n : Json} {p : Location} :
    (p, n) ∈ (d.value.preorder.flatMap fun m => m.2.children.map fun (s, c) => (m.1 ++ [s], c))
      ↔ p ≠ [] ∧ d.value.follow? p = some n := by
  rw [List.mem_flatMap]
  constructor
  · rintro ⟨⟨q, m⟩, hm, hn⟩
    obtain ⟨⟨s, c⟩, hc, heq⟩ := List.mem_map.mp hn
    cases heq
    have hfollow := d.mem_preorder_iff.mp hm
    have hchild : m.child? s = some n := (d.below hfollow).mem_children_iff.mp hc
    refine ⟨by simp, ?_⟩
    rw [Json.follow?_append, hfollow, Option.bind_some, Json.follow?, hchild]
    rfl
  · rintro ⟨hne, hn⟩
    obtain ⟨q, s, rfl⟩ := (List.eq_nil_or_concat' p).resolve_left hne
    rw [Json.follow?_append, Option.bind_eq_some_iff] at hn
    obtain ⟨m, hm, hn⟩ := hn
    obtain ⟨c, hc, hn⟩ := Option.bind_eq_some_iff.mp hn
    cases hn
    have hmem := (d.below hm).mem_children_iff.mpr hc
    exact ⟨(q, m), d.mem_preorder_iff.mpr hm, List.mem_map.mpr ⟨(s, n), hmem, rfl⟩⟩

/-- **A descendant segment is a preorder traversal**: it selects from a node and from all
nodes below it, in preorder, what the child segment with its selectors selects there, and
it violates a contract where the first of these does. With a wildcard it selects every
location strictly below the node exactly once. -/
theorem Segment.visit_descendant (ss : List Selector) (v root : Json) :
    visit (.descendant ss) v root
        = concatEach (selectedAt fun n => visit (.child ss) n root) v.preorder
      ∧ (v.DistinctKeys → ∃ found, visit (.descendant [.wildcard]) v root = .ok found
        ∧ (found.map Prod.fst).Nodup
        ∧ ∀ p n, (p, n) ∈ found ↔ p ≠ [] ∧ v.follow? p = some n) := by
  constructor
  · rw [visit, descend_eq_preorder]
    simp only [visit]
  · intro h
    exact ⟨_, visit_descendant_wildcard v root, Document.nodup_childLocations ⟨v, h⟩,
      fun p n => Document.mem_childLocations_iff ⟨v, h⟩⟩

/-- The innermost of nested values comes out once. -/
theorem visit_descendant_nested :
    (Json.object [("a", .array [.array [.null], .null])]).DistinctKeys
      ∧ ∃ found, Segment.visit (.descendant [.wildcard])
          (.object [("a", .array [.array [.null], .null])]) .null = .ok found
        ∧ (found.map Prod.fst).count [.name "a", .index 0, .index 0] = 1 := by
  have hdistinct : (Json.object [("a", .array [.array [.null], .null])]).DistinctKeys := by
    simp [Json.DistinctKeys, Json.DistinctKeysMembers, Json.DistinctKeysItems]
  obtain ⟨found, hfound, hnodup, hmem⟩ :=
    (Segment.visit_descendant [] (.object [("a", .array [.array [.null], .null])]) .null).2
      hdistinct
  have hinner : ([.name "a", .index 0, .index 0], Json.null) ∈ found := by
    rw [hmem]
    exact ⟨by simp, rfl⟩
  exact ⟨hdistinct, found, hfound, List.count_eq_one_of_mem hnodup (List.mem_map_of_mem hinner)⟩

end JsonQuery
