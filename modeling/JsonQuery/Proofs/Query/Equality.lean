import JsonQuery.Query.Equality

/-
Equality of queries is reflexive.

The equality of queries compares functions by their names and numbers by their values,
so this is not a matter of identity; it goes down the tree along with the comparison.
-/

set_option autoImplicit false

namespace JsonQuery

/-- A number equals itself. -/
theorem Number.equal_refl (n : Number) : n.equal n = true := by
  cases n <;>
  simp [Number.equal]

namespace Json

mutual

/-- **A value equals itself.** -/
theorem equal_refl : ∀ v : Json, v.equal v = true
  | null => by simp [equal]
  | bool _ => by simp [equal]
  | number n => by simp [equal, n.equal_refl]
  | string _ => by simp [equal]
  | array xs => by simp [equal, equalItems_refl xs]
  | object ms => by simp [equal, equalMembers_refl ms]

theorem equalItems_refl : ∀ xs : List Json, equalItems xs xs = true
  | [] => by simp [equalItems]
  | x :: xs => by simp [equalItems, equal_refl x, equalItems_refl xs]

theorem equalMembers_refl : ∀ ms : List (String × Json), equalMembers ms ms = true
  | [] => by simp [equalMembers]
  | (_, v) :: ms => by simp [equalMembers, equal_refl v, equalMembers_refl ms]

end

end Json

mutual

/-- A selector equals itself; only a filter has more in it than data. -/
theorem Selector.equal_refl : ∀ s : Selector, s.equal s = true
  | .name _ => by simp [Selector.equal]
  | .index _ => by simp [Selector.equal]
  | .slice _ => by simp [Selector.equal]
  | .wildcard => by simp [Selector.equal]
  | .filter f => by simp [Selector.equal, Formula.equal_refl f]

theorem Selector.equalAll_refl : ∀ ss : List Selector, Selector.equalAll ss ss = true
  | [] => by simp [Selector.equalAll]
  | s :: ss => by simp [Selector.equalAll, s.equal_refl, Selector.equalAll_refl ss]

/-- A segment equals itself. -/
theorem Segment.equal_refl : ∀ s : Segment, s.equal s = true
  | .child ss => by simp [Segment.equal, Selector.equalAll_refl ss]
  | .descendant ss => by simp [Segment.equal, Selector.equalAll_refl ss]

theorem Segment.equalAll_refl : ∀ ss : List Segment, Segment.equalAll ss ss = true
  | [] => by simp [Segment.equalAll]
  | s :: ss => by simp [Segment.equalAll, s.equal_refl, Segment.equalAll_refl ss]

/-- **A query equals itself.** -/
theorem Query.equal_refl : ∀ q : Query, q.equal q = true
  | .mk _ ss => by simp [Query.equal, Segment.equalAll_refl ss]

/-- A formula equals itself, branch by branch. -/
theorem Formula.equal_refl : ∀ f : List (List Condition), Formula.equal f f = true
  | [] => by simp [Formula.equal]
  | c :: f => by simp [Formula.equal, Condition.equalAll_refl c, Formula.equal_refl f]

theorem Condition.equalAll_refl : ∀ cs : List Condition, Condition.equalAll cs cs = true
  | [] => by simp [Condition.equalAll]
  | c :: cs => by simp [Condition.equalAll, c.equal_refl, Condition.equalAll_refl cs]

/-- A condition equals itself. -/
theorem Condition.equal_refl : ∀ c : Condition, c.equal c = true
  | .query _ q => by simp [Condition.equal, q.equal_refl]
  | .group _ f => by simp [Condition.equal, Formula.equal_refl f]
  | .compare a _ b => by simp [Condition.equal, a.equal_refl, b.equal_refl]
  | .call _ c => by simp [Condition.equal, c.equal_refl]

/-- A side of a comparison equals itself. -/
theorem Operand.equal_refl : ∀ o : Operand, o.equal o = true
  | .literal v => by simp [Operand.equal, v.equal_refl]
  | .singular _ => by simp [Operand.equal]
  | .call c => by simp [Operand.equal, c.equal_refl]

/-- A call equals itself: its function has one name. -/
theorem Call.equal_refl : ∀ c : Call, c.equal c = true
  | .mk _ as => by simp [Call.equal, Argument.equalAll_refl as]

theorem Argument.equalAll_refl : ∀ as : List Argument, Argument.equalAll as as = true
  | [] => by simp [Argument.equalAll]
  | a :: as => by simp [Argument.equalAll, a.equal_refl, Argument.equalAll_refl as]

/-- An argument equals itself. -/
theorem Argument.equal_refl : ∀ a : Argument, a.equal a = true
  | .literal v => by simp [Argument.equal, v.equal_refl]
  | .singular _ => by simp [Argument.equal]
  | .query q => by simp [Argument.equal, q.equal_refl]
  | .formula f => by simp [Argument.equal, Formula.equal_refl f]
  | .call c => by simp [Argument.equal, c.equal_refl]

end

end JsonQuery
