import JsonQuery.Proofs.Select.Reach

/-
Queries in two parts.

What a query selects can be found in two parts: the first segments lead to some nodes, and a
query with the remaining segments goes on from each of these nodes by itself
(`Query.selectLocatedFrom_append`).

A selection takes all nodes found so far through one segment before it looks at the next
one, while the parts take one node through all segments before they look at the next node.
Two facts bring these orders together. Segments lead from a list of nodes to what they lead
to from each of them, one after the other (`Segment.followLocated_eq_ok_iff`), and where a
node lies only shows in front of the locations of what is found from it
(`Segment.followLocated_beyond`).

The order does show in violations. The first one met ends a selection, and a later node may
meet one in an early segment and an earlier node in a later segment. So the two orders have
the same results, and fail on the same documents, but not always with the same violation.
-/

set_option autoImplicit false

namespace JsonQuery

/-! ## Moved starts -/

/-- A node found from a node at a location, located from where that location starts. -/
def Located.beyond (p : Location) (n : Located) : Located := ⟨p ++ n.location, n.node⟩

theorem Located.beyond_start (n : Located) : Located.beyond n.location ⟨[], n.node⟩ = n := by
  rw [beyond, List.append_nil]

/-- What a segment selects from a node depends on where that lies in its locations only. -/
theorem Segment.extend_beyond (s : Segment) (root : Json) (p : Location) (n : Located) :
    s.extend root (n.beyond p) = List.map (Located.beyond p) <$> s.extend root n := by
  unfold extend
  rw [Located.beyond]
  cases s.visit n.node root with
  | error e => rfl
  | ok found =>
    refine congrArg Except.ok ?_
    rw [List.map_map]
    exact List.map_congr_left fun m _ => by simp [Located.beyond]

/-- **Segments lead from moved nodes to moved nodes.** -/
theorem Segment.followLocated_beyond (ss : List Segment) (p : Location) (nodes : List Located)
    (root : Json) :
    followLocated ss (nodes.map (Located.beyond p)) root
      = List.map (Located.beyond p) <$> followLocated ss nodes root := by
  induction ss generalizing nodes with
  | nil => rfl
  | cons s ss ih =>
    rw [followLocated_cons, followLocated_cons, concatEach_map (s.extend_beyond root p)]
    cases concatEach (s.extend root) nodes with
    | error e => rfl
    | ok next => exact ih next

/-! ## One node after the other -/

/-- **Segments lead from nodes to what they lead to from each of them**, one after the
other. -/
theorem Segment.followLocated_eq_ok_iff {ss : List Segment} {root : Json}
    {nodes found : List Located} :
    followLocated ss nodes root = .ok found
      ↔ concatEach (fun n => followLocated ss [n] root) nodes = .ok found := by
  induction ss generalizing nodes found with
  | nil =>
    simp only [followLocated, concatEach_ok, List.flatMap_singleton']
  | cons s ss ih =>
    -- the segments behind the first one may be followed node by node already
    have hrest : ∀ n : Located, ∀ here, followLocated (s :: ss) [n] root = .ok here
        ↔ (s.extend root n >>= concatEach fun m => followLocated ss [m] root) = .ok here := by
      intro n here
      have hone : concatEach (s.extend root) [n] = s.extend root n := by
        rw [concatEach_cons, concatEach_nil]
        cases s.extend root n with
        | error e => rfl
        | ok found => exact congrArg Except.ok (List.append_nil found)
      rw [followLocated_cons, hone]
      simp only [bind_eq_ok, ih]
    rw [concatEach_eq_ok_congr fun n _ => hrest n, ← concatEach_bind_eq_ok_iff,
      followLocated_cons]
    simp only [bind_eq_ok, ih]

/-! ## Two parts -/

/-- Segments are followed one list after the other. -/
theorem Segment.followLocated_append (ss ts : List Segment) (nodes : List Located) (root : Json) :
    followLocated (ss ++ ts) nodes root
      = followLocated ss nodes root >>= fun found => followLocated ts found root := by
  induction ss generalizing nodes with
  | nil => rfl
  | cons s ss ih =>
    rw [List.cons_append, followLocated_cons, followLocated_cons, bind_assoc]
    simp only [ih]

/-- What a query goes on to select from a located node, located from where that node is. -/
def Query.selectBeyond (q : Query) (root : Json) (n : Located) :
    Except Violation (List Located) := do
  let more ← q.selectLocatedFrom n.node root
  return more.map (Located.beyond n.location)

/-- A query goes on from a located node as its segments do. -/
theorem Query.selectBeyond_current (ts : List Segment) (root : Json) (n : Located) :
    (Query.mk .current ts).selectBeyond root n = Segment.followLocated ts [n] root := by
  have hmoved := Segment.followLocated_beyond ts n.location [⟨[], n.node⟩] root
  rw [List.map_singleton, n.beyond_start] at hmoved
  rw [hmoved]
  rfl

/-- **A query selects in two parts.** A query whose segments come in two parts selects what
a query with the second part selects from each node that a query with the first part selects,
one after the other and located behind that node. The parts have this result where the query
has it, and no other. -/
theorem Query.selectLocatedFrom_append (anchor : Anchor) (ss ts : List Segment)
    (current root : Json) (found : List Located) :
    (Query.mk anchor (ss ++ ts)).selectLocatedFrom current root = .ok found
      ↔ (do
          let nodes ← (Query.mk anchor ss).selectLocatedFrom current root
          concatEach ((Query.mk .current ts).selectBeyond root) nodes) = .ok found := by
  have hpart : (Query.mk .current ts).selectBeyond root
      = fun n => Segment.followLocated ts [n] root :=
    funext (Query.selectBeyond_current ts root)
  -- the second part is followed from all nodes at once, or from each of them
  have heach : ∀ nodes : List Located, Segment.followLocated ts nodes root = .ok found
      ↔ concatEach (fun n => Segment.followLocated ts [n] root) nodes = .ok found :=
    fun _ => Segment.followLocated_eq_ok_iff
  rw [selectLocatedFrom, selectLocatedFrom, segments_mk, segments_mk, anchor_mk, anchor_mk,
    Segment.followLocated_append, hpart, bind_eq_ok, bind_eq_ok]
  simp only [heach]

end JsonQuery
