import JsonQuery.Proofs.Select.Reach
import Mathlib.Algebra.BigOperators.Group.Finset.Basic

/-
How often a location is selected.

A location can be selected more than once: by two selectors of one segment, by two
overlapping slices, or because two descendant segments share the way down in different
manners. `Segment.derivations` counts the ways, by recursion on the segments and without
any order of evaluation. The located nodes of a query hold every location exactly that
often (`Query.count_selectLocatedFrom`).

The proof weighs every node found so far by the ways that the remaining segments can
continue from it to the location in question. A segment keeps that weight: what it finds
from a node weighs as much as the node did before.
-/

set_option autoImplicit false

namespace JsonQuery

/-! ## The count of ways -/

/-- In how many ways selectors pick the first step of a location from a node and `rest`
derives what follows from the child there. -/
def Selector.derivations (ts : List Selector) (rest : Json → Location → Nat) (v root : Json) :
    Location → Nat
  | [] => 0
  | s :: p => ts.countP (fun t => t.picks v root s) * (v.child? s).elim 0 fun c => rest c p

/-- The ways that `here` counts from a node or from one below it, over all splits of a
location into the way down and what follows. -/
def derivationsBelow (here : Json → Location → Nat) (v : Json) (p : Location) : Nat :=
  ∑ i ∈ Finset.range p.length, (v.follow? (p.take i)).elim 0 fun n => here n (p.drop i)

/-- In how many ways a segment and then `rest` derive a location from a node. -/
def Segment.derivationsThen (s : Segment) (rest : Json → Location → Nat) (v root : Json)
    (p : Location) : Nat :=
  match s with
  | .child ts => Selector.derivations ts rest v root p
  | .descendant ts => derivationsBelow (fun n => Selector.derivations ts rest n root) v p

/-- **In how many ways segments derive a location** from a node. -/
def Segment.derivations (root : Json) : List Segment → Json → Location → Nat
  | [], _, p => if p = [] then 1 else 0
  | s :: ss, v, p => s.derivationsThen (Segment.derivations root ss) v root p

/-! ## Weights -/

/-- In how many ways a node that was found at a location is continued to another one. -/
def continuations (rest : Json → Location → Nat) (p : Location) (m : Location × Json) : Nat :=
  (m.1.isPrefixOf? p).elim 0 (rest m.2)

/-- A child goes on towards a location through its own step only. -/
theorem continuations_cons (rest : Json → Location → Nat) (s t : Step) (p q : Location)
    (n : Json) :
    continuations rest (s :: p) (t :: q, n) = if t = s then continuations rest p (q, n) else 0 := by
  rw [continuations, List.isPrefixOf?]
  by_cases hs : t = s
  · simp [hs, continuations]
  · simp [hs]

/-- What remains behind two parts of a path remains behind the second of what the first leaves. -/
theorem isPrefixOf?_append (p q r : Location) :
    (p ++ q).isPrefixOf? r = (p.isPrefixOf? r).bind q.isPrefixOf? := by
  induction p generalizing r with
  | nil => rfl
  | cons s p ih =>
    cases r with
    | nil => rfl
    | cons t r =>
      rw [List.cons_append, List.isPrefixOf?, List.isPrefixOf?]
      split
      · exact ih r
      · rfl

/-- A node that was found in two parts is continued from the end of the first one. -/
theorem continuations_append (rest : Json → Location → Nat) (p q r : Location) (n : Json) :
    continuations rest r (p ++ q, n)
      = (p.isPrefixOf? r).elim 0 fun more => continuations rest more (q, n) := by
  rw [continuations, isPrefixOf?_append]
  cases p.isPrefixOf? r with
  | none => rfl
  | some more => rfl

/-! ## One step -/

/-- The weight of children with distinct steps is the weight of the one at the step. -/
theorem sum_lookup {found : List (Step × Json)} (h : (found.map Prod.fst).Nodup) (s : Step)
    (weight : Json → Nat) :
    (found.map fun m => if m.1 = s then weight m.2 else 0).sum
      = (found.lookup s).elim 0 weight := by
  induction found with
  | nil => rfl
  | cons m found ih =>
    obtain ⟨t, c⟩ := m
    rw [List.map_cons, List.nodup_cons] at h
    rw [List.map_cons, List.sum_cons, ih h.2, List.lookup_cons]
    by_cases hs : t = s
    · subst hs
      -- the step is that of this child, and no other child has it
      have hnone : found.lookup t = none := by
        refine List.lookup_eq_none_iff.mpr fun m hm => bne_iff_ne.mpr fun heq => ?_
        exact h.1 (List.mem_map.mpr ⟨m, hm, heq.symm⟩)
      simp [hnone]
    · have hne : (s == t) = false := beq_eq_false_iff_ne.mpr (Ne.symm hs)
      simp [hs, hne]

/-- **What selectors pick weighs as much as the selectors count.** -/
theorem Selector.sum_pickAll {ts : List Selector} {d : Document} {root : Json}
    {found : List (Step × Json)} (h : pickAll ts d.value root = .ok found) (s : Step)
    (weight : Json → Nat) :
    (found.map fun m => if m.1 = s then weight m.2 else 0).sum
      = ts.countP (fun t => t.picks d.value root s) * (d.value.child? s).elim 0 weight := by
  induction ts generalizing found with
  | nil =>
    rw [pickAll] at h
    cases h
    simp
  | cons t ts ih =>
    rw [pickAll] at h
    obtain ⟨here, hhere, h⟩ := bind_eq_ok.mp h
    obtain ⟨rest, hrest, h⟩ := bind_eq_ok.mp h
    cases h
    have hselects := pick_spec hhere
    rw [List.map_append, List.sum_append, sum_lookup hselects.1, hselects.lookup, ih hrest,
      List.countP_cons]
    by_cases hpicks : t.picks d.value root s = true
    · simp only [hpicks, if_true]
      rw [Nat.succ_mul, Nat.add_comm]
    · simp [hpicks]

/-- No child is at the node itself. -/
theorem sum_oneStep_nil (found : List (Step × Json)) (rest : Json → Location → Nat) :
    ((oneStep found).map (continuations rest [])).sum = 0 := by
  rw [oneStep, List.map_map]
  refine List.sum_eq_zero fun n hn => ?_
  obtain ⟨m, -, rfl⟩ := List.mem_map.mp hn
  rfl

theorem sum_stepped_nil (t : Step) (found : List (Location × Json))
    (rest : Json → Location → Nat) :
    ((stepped t found).map (continuations rest [])).sum = 0 := by
  rw [stepped, List.map_map]
  refine List.sum_eq_zero fun n hn => ?_
  obtain ⟨m, -, rfl⟩ := List.mem_map.mp hn
  rfl

/-- **The nodes found one step below count as the derivations of the selectors.** -/
theorem sum_oneStep {ts : List Selector} {d : Document} {root : Json}
    {found : List (Step × Json)} (h : Selector.pickAll ts d.value root = .ok found)
    (rest : Json → Location → Nat) (p : Location) :
    ((oneStep found).map (continuations rest p)).sum
      = Selector.derivations ts rest d.value root p := by
  cases p with
  | nil => rw [sum_oneStep_nil, Selector.derivations]
  | cons s p =>
    rw [oneStep, List.map_map, Selector.derivations,
      ← Selector.sum_pickAll h s fun c => rest c p]
    refine congrArg List.sum (List.map_congr_left fun m _ => ?_)
    rw [Function.comp_apply, continuations_cons]
    rfl

/-- What is found below a child counts for the locations through it. -/
theorem sum_stepped (found : List (Location × Json)) (rest : Json → Location → Nat)
    (s t : Step) (p : Location) :
    ((stepped t found).map (continuations rest (s :: p))).sum
      = if t = s then (found.map (continuations rest p)).sum else 0 := by
  rw [stepped, List.map_map]
  by_cases hs : t = s
  · rw [if_pos hs]
    refine congrArg List.sum (List.map_congr_left fun m _ => ?_)
    rw [Function.comp_apply, continuations_cons, if_pos hs]
  · rw [if_neg hs]
    refine List.sum_eq_zero fun n hn => ?_
    obtain ⟨m, -, rfl⟩ := List.mem_map.mp hn
    rw [Function.comp_apply, continuations_cons, if_neg hs]

/-! ## The descent -/

/-- **The ways below a node** are those at the node and those below the child that the
location leads through. -/
theorem derivationsBelow_cons (here : Json → Location → Nat) (v : Json) (s : Step)
    (p : Location) :
    derivationsBelow here v (s :: p)
      = here v (s :: p) + (v.child? s).elim 0 fun c => derivationsBelow here c p := by
  -- the split with nothing on the way down comes off, the others go through the first step
  rw [derivationsBelow, List.length_cons, Finset.sum_range_succ']
  rw [add_comm]
  refine congrArg₂ _ rfl ?_
  simp only [List.take_succ_cons, List.drop_succ_cons, Json.follow?]
  cases v.child? s with
  | none => simp
  | some c => rfl

/-- **A descent finds what weighs as much as the ways below its node**, if what is picked
at every node weighs as much as `here` counts there. -/
theorem sum_descend {pick : Json → Except Violation (List (Step × Json))}
    {rest here : Json → Location → Nat}
    (hpick : ∀ (d : Document) found, pick d.value = .ok found →
      ∀ p, ((oneStep found).map (continuations rest p)).sum = here d.value p)
    {d : Document} {found : List (Location × Json)} (h : descend pick d.value = .ok found)
    (p : Location) : (found.map (continuations rest p)).sum = derivationsBelow here d.value p := by
  induction d using Document.childInduction generalizing found p with
  | step d ih =>
    rw [descend_eq] at h
    obtain ⟨picked, hpicked, h⟩ := bind_eq_ok.mp h
    obtain ⟨below, hbelow, h⟩ := bind_eq_ok.mp h
    cases h
    rw [List.map_append, List.sum_append]
    cases p with
    | nil =>
      -- nothing below the node lies at the node itself
      have hchildren : ∀ m ∈ d.value.children, ∀ deep, descendChild pick m = .ok deep →
          (deep.map (continuations rest [])).sum = 0 := by
        intro m _ deep hdeep
        obtain ⟨more, -, hdeep⟩ := bind_eq_ok.mp hdeep
        cases hdeep
        exact sum_stepped_nil m.1 more rest
      rw [sum_oneStep_nil, sum_concatEach hchildren hbelow]
      simp [derivationsBelow]
    | cons s p =>
      rw [hpick d picked hpicked, derivationsBelow_cons]
      refine congrArg _ ?_
      -- of the children only the one at the first step of the location counts
      have hchildren : ∀ m ∈ d.value.children, ∀ deep, descendChild pick m = .ok deep →
          (deep.map (continuations rest (s :: p))).sum
            = if m.1 = s then derivationsBelow here m.2 p else 0 := by
        rintro ⟨t, c⟩ hc deep hdeep
        obtain ⟨more, hmore, hdeep⟩ := bind_eq_ok.mp hdeep
        cases hdeep
        have hweight : (more.map (continuations rest p)).sum = derivationsBelow here c p :=
          ih t c (d.mem_children_iff.mp hc) hmore p
        rw [sum_stepped, hweight]
      rw [sum_concatEach hchildren hbelow, ← d.lookup_children]
      exact sum_lookup d.nodup_children s fun c => derivationsBelow here c p

/-! ## Segments -/

/-- **A segment keeps the weight of a node.** -/
theorem Segment.sum_visit {s : Segment} (d : Document) {root : Json}
    {found : List (Location × Json)} (h : s.visit d.value root = .ok found)
    (rest : Json → Location → Nat) (p : Location) :
    (found.map (continuations rest p)).sum = s.derivationsThen rest d.value root p := by
  cases s with
  | child ts =>
    rw [visit] at h
    obtain ⟨picked, hpicked, h⟩ := bind_eq_ok.mp h
    cases h
    exact sum_oneStep hpicked rest p
  | descendant ts =>
    rw [visit] at h
    refine sum_descend ?_ h p
    intro d found hfound p
    exact sum_oneStep hfound rest p

/-- In how many ways a located node is continued by segments. -/
def Located.weight (ss : List Segment) (root : Json) (p : Location) (n : Located) : Nat :=
  continuations (Segment.derivations root ss) p (n.location, n.node)

/-- A segment keeps the weight of a located node below the start. -/
theorem Segment.sum_extend {s : Segment} {ss : List Segment} (start : Document) {root : Json}
    {n : Located} (hn : n.IsBelow start.value) {here : List Located}
    (h : s.extend root n = .ok here) (p : Location) :
    (here.map (Located.weight ss root p)).sum = n.weight (s :: ss) root p := by
  obtain ⟨found, hfound, h⟩ := bind_eq_ok.mp h
  cases h
  rw [List.map_map, Located.weight, continuations]
  have hweight : ∀ m : Location × Json, Located.weight ss root p ⟨n.location ++ m.1, m.2⟩
      = (n.location.isPrefixOf? p).elim 0 fun more =>
        continuations (derivations root ss) more m :=
    fun m => continuations_append _ n.location m.1 p m.2
  simp only [Function.comp_def, hweight]
  -- a node off the way to the location is continued to it by nothing
  cases n.location.isPrefixOf? p with
  | none => simp
  | some more => exact sum_visit (start.below hn) hfound _ more

/-- **Segments keep the weight of the nodes** they start from. -/
theorem Segment.sum_followLocated {ss : List Segment} (start : Document) {root : Json}
    {nodes found : List Located} (hnodes : ∀ n ∈ nodes, n.IsBelow start.value)
    (h : followLocated ss nodes root = .ok found) (p : Location) :
    (found.map (Located.weight [] root p)).sum = (nodes.map (Located.weight ss root p)).sum := by
  induction ss generalizing nodes with
  | nil =>
    cases h
    rfl
  | cons s ss ih =>
    rw [followLocated_cons] at h
    obtain ⟨next, hnext, h⟩ := bind_eq_ok.mp h
    rw [ih (isBelow_of_extend start hnodes hnext) h]
    exact sum_concatEach (fun n hn here hhere => sum_extend start (hnodes n hn) hhere p) hnext

/-! ## Queries -/

/-- A node that no segment is left for counts at its own location. -/
theorem Located.weight_nil (root : Json) (p : Location) (n : Located) :
    n.weight [] root p = if n.location = p then 1 else 0 := by
  rw [weight, continuations]
  cases hmore : n.location.isPrefixOf? p with
  | none =>
    have hne : n.location ≠ p := by
      intro heq
      have hsome : n.location.isPrefixOf? p = some [] :=
        List.isPrefixOf?_eq_some_iff_append_eq.mpr (by rw [List.append_nil, heq])
      rw [hmore] at hsome
      cases hsome
    rw [if_neg hne]
    rfl
  | some more =>
    have happend := List.isPrefixOf?_eq_some_iff_append_eq.mp hmore
    rw [← happend, Option.elim_some, Segment.derivations]
    simp

/-- The weight of nodes that no segment is left for is the count of the location. -/
theorem Located.sum_weight_nil (root : Json) (p : Location) (found : List Located) :
    (found.map (Located.weight [] root p)).sum = (found.map Located.location).count p := by
  induction found with
  | nil => rfl
  | cons n found ih =>
    rw [List.map_cons, List.map_cons, List.sum_cons, List.count_cons, ih, weight_nil, Nat.add_comm]
    simp only [beq_iff_eq]

/-- **A query selects a location as often as its segments derive it**, from the node that
the query starts at. It has no result only where a filter of one of its segments tests a
node below that one and the filter's formula violates a contract. -/
theorem Query.count_selectLocatedFrom (q : Query) (current root : Json)
    (h : (q.anchor.start current root).DistinctKeys) :
    (∀ found, q.selectLocatedFrom current root = .ok found → ∀ p : Location,
        (found.map Located.location).count p
          = Segment.derivations root q.segments (q.anchor.start current root) p)
      ∧ ∀ e, q.selectLocatedFrom current root = .error e →
        ∃ s ∈ q.segments, s.FailsBelow (q.anchor.start current root) root e := by
  have hstart := Located.isBelow_start (q.anchor.start current root)
  refine ⟨fun found hfound p => ?_,
    fun e he => Segment.failsBelow_of_followLocated ⟨_, h⟩ hstart he⟩
  rw [← Located.sum_weight_nil root, Segment.sum_followLocated ⟨_, h⟩ hstart hfound p]
  simp [Located.weight, continuations, List.isPrefixOf?]

/-- Two descendant segments share the way to the innermost of three arrays in two manners. -/
theorem count_selectLocatedFrom_twice :
    (Json.array [.array [.array [.null]]]).DistinctKeys
      ∧ ∃ found,
        (Query.mk .root [.descendant [.wildcard], .descendant [.wildcard]]).selectLocatedFrom .null
          (.array [.array [.array [.null]]]) = .ok found
        ∧ (found.map Located.location).count [.index 0, .index 0, .index 0] = 2 := by
  have hdistinct : (Json.array [.array [.array [.null]]]).DistinctKeys := by
    simp [Json.DistinctKeys, Json.DistinctKeysItems]
  refine ⟨hdistinct, _, rfl, ?_⟩
  rw [(Query.count_selectLocatedFrom (.mk .root [.descendant [.wildcard], .descendant [.wildcard]])
    .null (.array [.array [.array [.null]]]) hdistinct).1 _ rfl]
  rfl

end JsonQuery
