import JsonQuery.Select.Located

/-
Where the root matters.

A selection is given two nodes, the current one and the root of the document. The root
matters only where the query asks for it: a query without `$`, in itself and in its filters,
operands and arguments at any depth, selects the same in whatever document its current node
stands (`Query.selectLocatedFrom_root`).

`Query.anchors` lists where a query and all that is in it start. The induction follows the
evaluation. A filter makes each child the current node and hands the root on as it is, so
that the two runs part ways nowhere but at an anchor.
-/

set_option autoImplicit false

namespace JsonQuery

/-! ## Anchors -/

mutual

/-- Where the queries in the formula of a selector start. -/
def Selector.anchors : Selector → List Anchor
  | .filter f => Formula.anchors f
  | _ => []

def Selector.allAnchors : List Selector → List Anchor
  | [] => []
  | s :: ss => s.anchors ++ Selector.allAnchors ss

def Segment.anchors : Segment → List Anchor
  | .child ss | .descendant ss => Selector.allAnchors ss

def Segment.allAnchors : List Segment → List Anchor
  | [] => []
  | s :: ss => s.anchors ++ Segment.allAnchors ss

/-- **Where a query and the queries in its filters start**, singular ones among them, at any
depth. -/
def Query.anchors : Query → List Anchor
  | .mk anchor ss => anchor :: Segment.allAnchors ss

def Formula.anchors : List (List Condition) → List Anchor
  | [] => []
  | c :: cs => Condition.allAnchors c ++ Formula.anchors cs

def Condition.allAnchors : List Condition → List Anchor
  | [] => []
  | c :: cs => c.anchors ++ Condition.allAnchors cs

def Condition.anchors : Condition → List Anchor
  | .query _ q => q.anchors
  | .group _ f => Formula.anchors f
  | .compare a _ b => a.anchors ++ b.anchors
  | .call _ c => c.anchors

def Operand.anchors : Operand → List Anchor
  | .literal _ => []
  | .singular q => [q.anchor]
  | .call c => c.anchors

def Call.anchors : Call → List Anchor
  | .mk _ xs => Argument.allAnchors xs

def Argument.allAnchors : List Argument → List Anchor
  | [] => []
  | x :: xs => x.anchors ++ Argument.allAnchors xs

def Argument.anchors : Argument → List Anchor
  | .literal _ => []
  | .singular q => [q.anchor]
  | .query q => q.anchors
  | .formula f => Formula.anchors f
  | .call c => c.anchors

end

/-- A query that does not start at the root starts at the current node. -/
theorem Anchor.start_root {a : Anchor} (h : a ≠ .root) (current r t : Json) :
    a.start current r = a.start current t := by
  cases a with
  | root => exact absurd rfl h
  | current => rfl

/-- A singular query that starts at the current node finds the same in every document. -/
theorem SingularQuery.locate?_root {q : SingularQuery} (h : q.anchor ≠ .root)
    (current r t : Json) : q.locate? current r = q.locate? current t := by
  rw [locate?, locate?, Anchor.start_root h]

/-! ## Evaluation -/

section

variable {r t : Json}

mutual

/-- A selector without `$` picks the same in every document. -/
theorem Selector.pick_root : ∀ (s : Selector) (v : Json), .root ∉ s.anchors →
    s.pick v r = s.pick v t
  | .name _, _, _ | .index _, _, _ | .slice _, _, _ | .wildcard, _, _ => by
    simp only [Selector.pick]
  | .filter f, v, h => by
    rw [Selector.anchors] at h
    simp only [Selector.pick, fun c => Formula.holds_root f c h]

theorem Selector.pickAll_root : ∀ (ss : List Selector) (v : Json),
    .root ∉ Selector.allAnchors ss → Selector.pickAll ss v r = Selector.pickAll ss v t
  | [], _, _ => by rw [Selector.pickAll, Selector.pickAll]
  | s :: ss, v, h => by
    rw [Selector.allAnchors, List.mem_append, not_or] at h
    rw [Selector.pickAll, Selector.pickAll, s.pick_root v h.1, Selector.pickAll_root ss v h.2]

/-- A segment without `$` finds the same below a node. -/
theorem Segment.visit_root : ∀ (s : Segment) (v : Json), .root ∉ s.anchors →
    s.visit v r = s.visit v t
  | .child ss, v, h => by
    rw [Segment.anchors] at h
    rw [Segment.visit, Segment.visit, Selector.pickAll_root ss v h]
  | .descendant ss, v, h => by
    rw [Segment.anchors] at h
    simp only [Segment.visit, fun n => Selector.pickAll_root ss n h]

theorem Segment.followAll_root : ∀ (ss : List Segment) (nodes : List Json),
    .root ∉ Segment.allAnchors ss → Segment.followAll ss nodes r = Segment.followAll ss nodes t
  | [], _, _ => by rw [Segment.followAll, Segment.followAll]
  | s :: ss, nodes, h => by
    rw [Segment.allAnchors, List.mem_append, not_or] at h
    simp only [Segment.followAll, fun n => s.visit_root n h.1,
      fun next => Segment.followAll_root ss next h.2]

/-- A query without `$` selects the same in every document. -/
theorem Query.selectFrom_root : ∀ (q : Query) (current : Json), .root ∉ q.anchors →
    q.selectFrom current r = q.selectFrom current t
  | .mk a ss, current, h => by
    rw [Query.anchors, List.mem_cons, not_or] at h
    rw [Query.selectFrom, Query.selectFrom, Anchor.start_root (Ne.symm h.1) current r t,
      Segment.followAll_root ss _ h.2]

/-- **A formula without `$` holds in every document or in none.** -/
theorem Formula.holds_root : ∀ (f : List (List Condition)) (current : Json),
    .root ∉ Formula.anchors f → Formula.holds f current r = Formula.holds f current t
  | [], _, _ => by rw [Formula.holds, Formula.holds]
  | c :: cs, current, h => by
    rw [Formula.anchors, List.mem_append, not_or] at h
    rw [Formula.holds, Formula.holds, Condition.allHold_root c current h.1,
      Formula.holds_root cs current h.2]

/-- Conditions without `$` hold in every document or in none. -/
theorem Condition.allHold_root : ∀ (cs : List Condition) (current : Json),
    .root ∉ Condition.allAnchors cs →
    Condition.allHold cs current r = Condition.allHold cs current t
  | [], _, _ => by rw [Condition.allHold, Condition.allHold]
  | c :: cs, current, h => by
    rw [Condition.allAnchors, List.mem_append, not_or] at h
    rw [Condition.allHold, Condition.allHold, c.holds_root current h.1,
      Condition.allHold_root cs current h.2]

theorem Condition.holds_root : ∀ (c : Condition) (current : Json), .root ∉ c.anchors →
    c.holds current r = c.holds current t
  | .query _ q, current, h => by
    rw [Condition.anchors] at h
    rw [Condition.holds, Condition.holds, q.selectFrom_root current h]
  | .group _ f, current, h => by
    rw [Condition.anchors] at h
    rw [Condition.holds, Condition.holds, Formula.holds_root f current h]
  | .compare a _ b, current, h => by
    rw [Condition.anchors, List.mem_append, not_or] at h
    rw [Condition.holds, Condition.holds, a.value_root current h.1, b.value_root current h.2]
  | .call _ c, current, h => by
    rw [Condition.anchors] at h
    rw [Condition.holds, Condition.holds, c.answer_root current h]

/-- An operand without `$` has the same value in every document. -/
theorem Operand.value_root : ∀ (o : Operand) (current : Json), .root ∉ o.anchors →
    o.value current r = o.value current t
  | .literal _, _, _ => by rw [Operand.value, Operand.value]
  | .singular q, current, h => by
    rw [Operand.anchors, List.mem_singleton] at h
    rw [Operand.value, Operand.value, q.locate?_root (Ne.symm h) current r t]
  | .call c, current, h => by
    rw [Operand.anchors] at h
    rw [Operand.value, Operand.value, c.answer_root current h]

/-- A call without `$` in its arguments answers the same in every document. -/
theorem Call.answer_root : ∀ (c : Call) (current : Json), .root ∉ c.anchors →
    c.answer current r = c.answer current t
  | .mk _ xs, current, h => by
    rw [Call.anchors] at h
    rw [Call.answer, Call.answer, Argument.data_root xs current h]

/-- Arguments without `$` are the same in every document. -/
theorem Argument.data_root : ∀ (xs : List Argument) (current : Json),
    .root ∉ Argument.allAnchors xs → Argument.data xs current r = Argument.data xs current t
  | [], _, _ => by rw [Argument.data, Argument.data]
  | x :: xs, current, h => by
    rw [Argument.allAnchors, List.mem_append, not_or] at h
    rw [Argument.data, Argument.data, x.datum_root current h.1, Argument.data_root xs current h.2]

theorem Argument.datum_root : ∀ (x : Argument) (current : Json), .root ∉ x.anchors →
    x.datum current r = x.datum current t
  | .literal _, _, _ => by rw [Argument.datum, Argument.datum]
  | .singular q, current, h => by
    rw [Argument.anchors, List.mem_singleton] at h
    rw [Argument.datum, Argument.datum, q.locate?_root (Ne.symm h) current r t]
  | .query q, current, h => by
    rw [Argument.anchors] at h
    rw [Argument.datum, Argument.datum, q.selectFrom_root current h]
  | .formula f, current, h => by
    rw [Argument.anchors] at h
    rw [Argument.datum, Argument.datum, Formula.holds_root f current h]
  | .call c, current, h => by
    rw [Argument.anchors] at h
    rw [Argument.datum, Argument.datum, c.answer_root current h]

end

/-! ## Located nodes -/

/-- Segments without `$` find the same locations in every document. -/
theorem Segment.followLocated_root (ss : List Segment) (nodes : List Located)
    (h : .root ∉ Segment.allAnchors ss) :
    followLocated ss nodes r = followLocated ss nodes t := by
  induction ss generalizing nodes with
  | nil => rfl
  | cons s ss ih =>
    rw [allAnchors, List.mem_append, not_or] at h
    have hvisit : ∀ n, s.visit n r = s.visit n t := fun n => s.visit_root n h.1
    simp only [followLocated, hvisit, fun next => ih next h.2]

end

/-- **The root matters only through `$`.** A query that has no anchor at the root, in itself
and at any depth in its filters, selects the same from its current node in all documents,
with the same locations. A formula without such an anchor holds in all documents or in
none. -/
theorem Query.selectLocatedFrom_root (current r t : Json) :
    (∀ q : Query, .root ∉ q.anchors →
        q.selectLocatedFrom current r = q.selectLocatedFrom current t)
      ∧ ∀ f : Formula, .root ∉ Formula.anchors f →
        Formula.holds f current r = Formula.holds f current t := by
  refine ⟨fun q h => ?_, fun f h => Formula.holds_root f current h⟩
  obtain ⟨anchor, ss⟩ := q
  rw [Query.anchors, List.mem_cons, not_or] at h
  -- without an anchor at the root both runs start from the current node
  rw [Query.selectLocatedFrom, Query.selectLocatedFrom, anchor_mk, segments_mk,
    Anchor.start_root (Ne.symm h.1) current r t, Segment.followLocated_root ss _ h.2]

/-- Whether a node has a child that is true. -/
def trueInside : Formula :=
  [[.query false (.mk .current [.child [.filter [[.compare (.singular ⟨.current, []⟩) .eq
    (.literal (.bool true))]]]])]]

/-- A filter in a filter finds in every document what it finds where the root is null. -/
theorem selectLocatedFrom_root_nested :
    .root ∉ (Query.mk .current [.descendant [.filter trueInside]]).anchors
      ∧ .root ∉ Formula.anchors trueInside
      ∧ (Query.mk .current [.descendant [.filter trueInside]]).selectLocatedFrom
          (.array [.array [.bool true], .array []]) (.bool true)
        = .ok [⟨[.index 0], .array [.bool true]⟩]
      ∧ Formula.holds trueInside (.array [.bool true]) (.bool true) = .ok true := by
  have hquery : .root ∉ (Query.mk .current [.descendant [.filter trueInside]]).anchors := by
    decide
  have hformula : .root ∉ Formula.anchors trueInside := by decide
  refine ⟨hquery, hformula, ?_, ?_⟩
  · rw [(Query.selectLocatedFrom_root _ (.bool true) .null).1 _ hquery]
    rfl
  · rw [(Query.selectLocatedFrom_root _ (.bool true) .null).2 _ hformula]
    rfl

end JsonQuery
