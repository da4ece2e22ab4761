import JsonQuery.Query.Basic

/-
How deep a query nests.

A filter selector, a group and a call are one level each, and what stands inside
them is one level deeper. The depth of a tree is the number of levels on its
longest way down; siblings do not add up.
-/

set_option autoImplicit false

namespace JsonQuery

mutual

/-- The nesting of a selector: a filter is one level. -/
def Selector.nesting : Selector → Nat
  | .filter f => Formula.nesting f + 1
  | _ => 0

/-- The deepest nesting of selectors. -/
def Selector.nestingAll : List Selector → Nat
  | [] => 0
  | s :: ss => max s.nesting (Selector.nestingAll ss)

/-- The nesting of a segment. -/
def Segment.nesting : Segment → Nat
  | .child ss | .descendant ss => Selector.nestingAll ss

/-- The deepest nesting of segments. -/
def Segment.nestingAll : List Segment → Nat
  | [] => 0
  | s :: ss => max s.nesting (Segment.nestingAll ss)

/-- **The nesting of a query.** -/
def Query.nesting : Query → Nat
  | .mk _ ss => Segment.nestingAll ss

/-- The deepest nesting of the branches of a formula. -/
def Formula.nesting : List (List Condition) → Nat
  | [] => 0
  | c :: cs => max (Condition.nestingAll c) (Formula.nesting cs)

/-- The deepest nesting of conditions. -/
def Condition.nestingAll : List Condition → Nat
  | [] => 0
  | c :: cs => max c.nesting (Condition.nestingAll cs)

/-- The nesting of a condition: a group is one level. -/
def Condition.nesting : Condition → Nat
  | .query _ q => q.nesting
  | .group _ f => Formula.nesting f + 1
  | .compare a _ b => max a.nesting b.nesting
  | .call _ c => c.nesting

/-- The nesting of an operand. -/
def Operand.nesting : Operand → Nat
  | .call c => c.nesting
  | _ => 0

/-- The nesting of a call, which is one level itself. -/
def Call.nesting : Call → Nat
  | .mk _ as => Argument.nestingAll as + 1

/-- The deepest nesting of arguments. -/
def Argument.nestingAll : List Argument → Nat
  | [] => 0
  | a :: as => max a.nesting (Argument.nestingAll as)

/-- The nesting of an argument. -/
def Argument.nesting : Argument → Nat
  | .query q => q.nesting
  | .formula f => Formula.nesting f
  | .call c => c.nesting
  | _ => 0

end

/-! ## Singular queries -/

/-- A singular segment holds no filter. -/
theorem Segment.nesting_of_singular? {s : Segment} {t : SingularSelector}
    (h : s.singular? = some t) : s.nesting = 0 := by
  unfold Segment.singular? at h
  split at h
  · simp [Segment.nesting, Selector.nestingAll, Selector.nesting]
  · simp [Segment.nesting, Selector.nestingAll, Selector.nesting]
  · cases h

theorem Segment.nestingAll_of_allSingular? {ss : List Segment} {ts : List SingularSelector}
    (h : Segment.allSingular? ss = some ts) : Segment.nestingAll ss = 0 := by
  induction ss generalizing ts with
  | nil => simp [Segment.nestingAll]
  | cons s ss ih =>
    obtain ⟨t, rest, ht, hrest, -⟩ := Segment.allSingular?_cons_eq_some.mp h
    simp [Segment.nestingAll, Segment.nesting_of_singular? ht, ih hrest]

/-- **A singular query does not nest.** -/
theorem Query.nesting_of_singular? {q : Query} {s : SingularQuery}
    (h : q.singular? = some s) : q.nesting = 0 := by
  obtain ⟨anchor, ss⟩ := q
  obtain ⟨ts, hts, -⟩ := Option.map_eq_some_iff.mp h
  exact Segment.nestingAll_of_allSingular? hts

end JsonQuery
