import JsonQuery.Proofs.Location.Pointer
import JsonQuery.Proofs.Select.Picks
import JsonQuery.Select.Located

/-
Where a selection can get, and where it can fail.

Every node found lies where its location says, seen from the node that the selection
starts at, and where the pointer of that location says. A selection has no result only where a
filter of one of the segments tests a node below the start and its formula violates a contract.
-/

set_option autoImplicit false

namespace JsonQuery

/-- What is one step away is at a location of one step. -/
theorem mem_oneStep {found : List (Step × Json)} {p : Location} {n : Json} :
    (p, n) ∈ oneStep found ↔ ∃ s, p = [s] ∧ (s, n) ∈ found := by
  simp only [oneStep, List.mem_map, Prod.mk.injEq, Prod.exists]
  constructor
  · rintro ⟨s, c, hmem, rfl, rfl⟩
    exact ⟨s, rfl, hmem⟩
  · rintro ⟨s, rfl, hmem⟩
    exact ⟨s, n, hmem, rfl, rfl⟩

/-- What is found below a child is at a location through it. -/
theorem mem_stepped {s : Step} {found : List (Location × Json)} {p : Location} {n : Json} :
    (p, n) ∈ stepped s found ↔ ∃ q, p = s :: q ∧ (q, n) ∈ found := by
  simp only [stepped, List.mem_map, Prod.mk.injEq, Prod.exists]
  constructor
  · rintro ⟨q, c, hmem, rfl, rfl⟩
    exact ⟨q, rfl, hmem⟩
  · rintro ⟨q, rfl, hmem⟩
    exact ⟨q, n, hmem, rfl, rfl⟩

/-! ## Segments -/

/-- **A descent finds nodes where their locations say**, if picking finds children. -/
theorem follow_of_descend {pick : Json → Except Violation (List (Step × Json))}
    (hpick : ∀ (d : Document) found, pick d.value = .ok found →
      ∀ s c, (s, c) ∈ found → d.value.child? s = some c)
    {d : Document} {found : List (Location × Json)} (h : descend pick d.value = .ok found)
    {p : Location} {n : Json} (hmem : (p, n) ∈ found) : d.value.follow? p = some n := by
  induction d using Document.childInduction generalizing found p with
  | step d ih =>
    rw [descend_eq] at h
    obtain ⟨here, hhere, h⟩ := bind_eq_ok.mp h
    obtain ⟨below, hbelow, h⟩ := bind_eq_ok.mp h
    cases h
    rcases List.mem_append.mp hmem with hmem | hmem
    · obtain ⟨s, rfl, hs⟩ := mem_oneStep.mp hmem
      exact Json.follow?_singleton (hpick d here hhere s n hs)
    · obtain ⟨⟨s, c⟩, hc, more, hmore, hmem⟩ := mem_of_concatEach hbelow hmem
      obtain ⟨deep, hdeep, hmore⟩ := bind_eq_ok.mp hmore
      cases hmore
      obtain ⟨q, rfl, hq⟩ := mem_stepped.mp hmem
      -- found below a child, at the location there behind the step to the child
      have hchild := d.mem_children_iff.mp hc
      rw [Json.follow?, hchild]
      exact ih s c hchild hdeep hq

/-- **A segment finds nodes where their locations say.** -/
theorem Segment.follow_of_visit {s : Segment} (d : Document) {root : Json}
    {found : List (Location × Json)} (h : s.visit d.value root = .ok found) {p : Location}
    {n : Json} (hmem : (p, n) ∈ found) : d.value.follow? p = some n := by
  cases s with
  | child ts =>
    rw [visit] at h
    obtain ⟨picked, hpicked, h⟩ := bind_eq_ok.mp h
    cases h
    obtain ⟨t, rfl, ht⟩ := mem_oneStep.mp hmem
    exact Json.follow?_singleton (Selector.child_of_pickAll hpicked ht)
  | descendant ts =>
    rw [visit] at h
    refine follow_of_descend ?_ h hmem
    intro d found hfound s c hc
    exact Selector.child_of_pickAll hfound hc

/-- Whether a filter among the selectors of a segment violates a contract on a child below a
node. -/
def Segment.FailsBelow (s : Segment) (v root : Json) (e : Violation) : Prop :=
  ∃ f p c, .filter f ∈ s.selectors ∧ v.follow? p = some c ∧ Formula.holds f c root = .error e

/-- Selectors fail where a filter among them fails at a child. -/
theorem Selector.fails_of_pickAll {ts : List Selector} (d : Document) {root : Json}
    {e : Violation} (h : pickAll ts d.value root = .error e) :
    ∃ f s c, .filter f ∈ ts ∧ d.value.child? s = some c ∧ Formula.holds f c root = .error e := by
  obtain ⟨t, ht, hfails⟩ := pickAll_eq_error h
  obtain ⟨f, s, c, rfl, hc, hholds⟩ := pick_eq_error hfails
  exact ⟨f, s, c, ht, hc, hholds⟩

/-- **A segment fails only in a filter's test.** -/
theorem Segment.failsBelow_of_visit {s : Segment} (d : Document) {root : Json} {e : Violation}
    (h : s.visit d.value root = .error e) : s.FailsBelow d.value root e := by
  cases s with
  | child ts =>
    rw [visit] at h
    rcases bind_eq_error.mp h with h | ⟨picked, -, h⟩
    · obtain ⟨f, t, c, hf, hc, hholds⟩ := Selector.fails_of_pickAll d h
      exact ⟨f, [t], c, hf, Json.follow?_singleton hc, hholds⟩
    · cases h
  | descendant ts =>
    rw [visit] at h
    obtain ⟨p, n, hn, h⟩ := descend_eq_error h
    -- the node that fails is a document of its own
    obtain ⟨f, t, c, hf, hc, hholds⟩ := Selector.fails_of_pickAll (d.below hn) h
    refine ⟨f, p ++ [t], c, hf, ?_, hholds⟩
    rw [Json.follow?_append, hn]
    exact Json.follow?_singleton hc

/-! ## Located nodes -/

/-- Whether a located node is where its location leads from a node. -/
def Located.IsBelow (start : Json) (n : Located) : Prop :=
  start.follow? n.location = some n.node

/-- What a segment selects from one located node. -/
def Segment.extend (s : Segment) (root : Json) (n : Located) :
    Except Violation (List Located) := do
  let found ← s.visit n.node root
  return found.map fun (p, v) => ⟨n.location ++ p, v⟩

theorem Segment.followLocated_cons (s : Segment) (ss : List Segment) (nodes : List Located)
    (root : Json) :
    followLocated (s :: ss) nodes root
      = concatEach (s.extend root) nodes >>= fun next => followLocated ss next root := rfl

/-- **One segment leads from nodes below the start to nodes below the start.** -/
theorem Segment.isBelow_of_extend {s : Segment} (start : Document) {root : Json}
    {nodes next : List Located} (hnodes : ∀ n ∈ nodes, n.IsBelow start.value)
    (h : concatEach (s.extend root) nodes = .ok next) : ∀ n ∈ next, n.IsBelow start.value := by
  intro m hm
  obtain ⟨n, hn, here, hhere, hmem⟩ := mem_of_concatEach h hm
  obtain ⟨found, hfound, hhere⟩ := bind_eq_ok.mp hhere
  cases hhere
  obtain ⟨⟨p, v⟩, hv, rfl⟩ := List.mem_map.mp hmem
  have hnode := hnodes n hn
  rw [Located.IsBelow] at hnode ⊢
  -- first along the location of the node, then along the one that the segment found
  rw [Json.follow?_append, hnode]
  exact follow_of_visit (start.below hnode) hfound hv

/-- **Every node is found where its location says**, whatever segments lead to it. -/
theorem Segment.isBelow_of_followLocated {ss : List Segment} (start : Document) {root : Json}
    {nodes found : List Located} (hnodes : ∀ n ∈ nodes, n.IsBelow start.value)
    (h : followLocated ss nodes root = .ok found) : ∀ n ∈ found, n.IsBelow start.value := by
  induction ss generalizing nodes with
  | nil =>
    cases h
    exact hnodes
  | cons s ss ih =>
    rw [followLocated_cons] at h
    obtain ⟨next, hnext, h⟩ := bind_eq_ok.mp h
    exact ih (isBelow_of_extend start hnodes hnext) h

/-- **Following segments fails only in a filter's test** of a node below the start. -/
theorem Segment.failsBelow_of_followLocated {ss : List Segment} (start : Document)
    {root : Json} {nodes : List Located} (hnodes : ∀ n ∈ nodes, n.IsBelow start.value)
    {e : Violation} (h : followLocated ss nodes root = .error e) :
    ∃ s ∈ ss, s.FailsBelow start.value root e := by
  induction ss generalizing nodes with
  | nil => cases h
  | cons s ss ih =>
    rw [followLocated_cons] at h
    rcases bind_eq_error.mp h with h | ⟨next, hnext, h⟩
    · obtain ⟨n, hn, h⟩ := concatEach_eq_error h
      have hnode : start.value.follow? n.location = some n.node := hnodes n hn
      rcases bind_eq_error.mp h with h | ⟨found, -, h⟩
      · obtain ⟨f, p, c, hf, hc, hholds⟩ := failsBelow_of_visit (start.below hnode) h
        refine ⟨s, List.mem_cons_self, f, n.location ++ p, c, hf, ?_, hholds⟩
        rw [Json.follow?_append, hnode]
        exact hc
      · cases h
    · obtain ⟨t, ht, hfails⟩ := ih (isBelow_of_extend start hnodes hnext) h
      exact ⟨t, List.mem_cons_of_mem s ht, hfails⟩

/-! ## Queries -/

/-- The node that a query starts at lies where the empty location says. -/
theorem Located.isBelow_start (start : Json) :
    ∀ n ∈ [(⟨[], start⟩ : Located)], n.IsBelow start := by
  intro n hn
  rw [List.mem_singleton.mp hn]
  rfl

/-- **A query reports where its nodes are**: the location of every node leads to it from
the node that the query starts at, step by step and as a pointer, and no two locations that
the query reports share a pointer. -/
theorem Query.locations_of_selectLocatedFrom (q : Query) (current root : Json)
    (h : (q.anchor.start current root).DistinctKeys) {found : List Located}
    (hfound : q.selectLocatedFrom current root = .ok found) :
    (∀ n ∈ found, (q.anchor.start current root).follow? n.location = some n.node
        ∧ (q.anchor.start current root).resolvePointer? n.location.pointer = some n.node)
      ∧ ∀ m ∈ found, ∀ n ∈ found,
        m.location.pointer = n.location.pointer → m.location = n.location := by
  have hbelow : ∀ n ∈ found, n.IsBelow (q.anchor.start current root) :=
    Segment.isBelow_of_followLocated ⟨_, h⟩ (Located.isBelow_start _) hfound
  refine ⟨fun n hn => ⟨hbelow n hn, Json.resolvePointer?_pointer (hbelow n hn)⟩, ?_⟩
  intro m hm n hn hpointer
  exact Json.eq_of_pointer_eq (hbelow m hm) (hbelow n hn) hpointer

/-- The element of an array whose key has a slash and the escape of a slash in it. -/
theorem locations_of_selectLocatedFrom_escaped :
    (Json.object [("/~1", .array [.null, .bool true])]).DistinctKeys
      ∧ ∃ found,
        (Query.mk .root [.descendant [.wildcard]]).selectLocatedFrom .null
          (.object [("/~1", .array [.null, .bool true])]) = .ok found
        ∧ (Json.object [("/~1", .array [.null, .bool true])]).resolvePointer?
          (Location.pointer [.name "/~1", .index 1]) = some (.bool true) := by
  have hdistinct : (Json.object [("/~1", .array [.null, .bool true])]).DistinctKeys := by
    simp [Json.DistinctKeys, Json.DistinctKeysMembers, Json.DistinctKeysItems]
  refine ⟨hdistinct, _, rfl, ?_⟩
  exact ((Query.locations_of_selectLocatedFrom (.mk .root [.descendant [.wildcard]]) .null
    (.object [("/~1", .array [.null, .bool true])]) hdistinct rfl).1
    ⟨[.name "/~1", .index 1], .bool true⟩ (by simp [stepped, oneStep, Json.children])).2

end JsonQuery
