import JsonQuery.Proofs.Select.Reach

/-
Selecting with locations and without them.

Nodes are selected by two loops over the segments, one that carries the nodes alone and
one that carries their locations too. Forgetting the locations takes every state of the
second loop to the state that the first one is in: one segment keeps the two in step
(`Segment.concatEach_found`), and so do all of them (`Segment.followAll_nodes`). Neither
loop fails where the other does not, since the violation that ends them comes from the
same visit.
-/

set_option autoImplicit false

namespace JsonQuery

/-! ## Segments -/

/-- The nodes that a segment selects from one node. -/
def Segment.found (s : Segment) (root n : Json) : Except Violation (List Json) := do
  let found ← s.visit n root
  return found.map Prod.snd

theorem Segment.followAll_cons (s : Segment) (ss : List Segment) (nodes : List Json)
    (root : Json) :
    followAll (s :: ss) nodes root
      = concatEach (s.found root) nodes >>= fun next => followAll ss next root := by
  rw [followAll]
  rfl

/-- What a segment selects from a located node is what it selects from the node. -/
theorem Segment.found_node (s : Segment) (root : Json) (n : Located) :
    s.found root n.node = List.map Located.node <$> s.extend root n := by
  unfold found extend
  cases s.visit n.node root with
  | error e => rfl
  | ok found =>
    refine congrArg Except.ok ?_
    rw [List.map_map]
    rfl

/-- **One segment keeps the two selections in step.** -/
theorem Segment.concatEach_found (s : Segment) (root : Json) (nodes : List Located) :
    concatEach (s.found root) (nodes.map Located.node)
      = List.map Located.node <$> concatEach (s.extend root) nodes :=
  concatEach_map (s.found_node root) nodes

/-- **All segments do**: the nodes that they lead to are those of the located nodes that
they lead to. -/
theorem Segment.followAll_nodes (ss : List Segment) (nodes : List Located) (root : Json) :
    followAll ss (nodes.map Located.node) root
      = List.map Located.node <$> followLocated ss nodes root := by
  induction ss generalizing nodes with
  | nil =>
    rw [followAll]
    rfl
  | cons s ss ih =>
    rw [followAll_cons, followLocated_cons, concatEach_found]
    cases concatEach (s.extend root) nodes with
    | error e => rfl
    | ok next => exact ih next

/-! ## Queries -/

/-- **A query selects the same nodes with their locations and without them**, in the same
order and each as often, and it violates a contract in both ways or in neither. -/
theorem Query.selectFrom_eq_nodes (q : Query) (current root : Json) :
    q.selectFrom current root = List.map Located.node <$> q.selectLocatedFrom current root := by
  obtain ⟨anchor, ss⟩ := q
  rw [selectFrom]
  exact Segment.followAll_nodes ss [⟨[], anchor.start current root⟩] root

end JsonQuery
