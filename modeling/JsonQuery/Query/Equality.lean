import JsonQuery.Query.Basic

/-
Equality of queries.

Two queries are equal when they have the same shape, with literals compared as
values and called functions compared by name. It is coarser than identity: the
two zeros of binary64 are the same literal.
-/

set_option autoImplicit false

namespace JsonQuery

mutual

/-- Equality of selectors. -/
def Selector.equal : Selector → Selector → Bool
  | .name a, .name b => a == b
  | .index i, .index j => i == j
  | .slice s, .slice t => s == t
  | .wildcard, .wildcard => true
  | .filter f, .filter g => Formula.equal f g
  | _, _ => false

/-- Equality of lists of selectors. -/
def Selector.equalAll : List Selector → List Selector → Bool
  | [], [] => true
  | s :: ss, t :: ts => s.equal t && Selector.equalAll ss ts
  | _, _ => false

/-- Equality of segments. -/
def Segment.equal : Segment → Segment → Bool
  | .child ss, .child ts => Selector.equalAll ss ts
  | .descendant ss, .descendant ts => Selector.equalAll ss ts
  | _, _ => false

/-- Equality of lists of segments. -/
def Segment.equalAll : List Segment → List Segment → Bool
  | [], [] => true
  | s :: ss, t :: ts => s.equal t && Segment.equalAll ss ts
  | _, _ => false

/-- **Equality of queries.** -/
def Query.equal : Query → Query → Bool
  | .mk a ss, .mk b ts => a == b && Segment.equalAll ss ts

/-- Equality of formulas, branch by branch. -/
def Formula.equal : List (List Condition) → List (List Condition) → Bool
  | [], [] => true
  | c :: cs, d :: ds => Condition.equalAll c d && Formula.equal cs ds
  | _, _ => false

/-- Equality of conjunctions, condition by condition. -/
def Condition.equalAll : List Condition → List Condition → Bool
  | [], [] => true
  | c :: cs, d :: ds => c.equal d && Condition.equalAll cs ds
  | _, _ => false

/-- Equality of conditions. -/
def Condition.equal : Condition → Condition → Bool
  | .query m p, .query n q => m == n && p.equal q
  | .group m f, .group n g => m == n && Formula.equal f g
  | .compare a o b, .compare c p d => a.equal c && o == p && b.equal d
  | .call m c, .call n d => m == n && c.equal d
  | _, _ => false

/-- Equality of operands. -/
def Operand.equal : Operand → Operand → Bool
  | .literal v, .literal w => v.equal w
  | .singular p, .singular q => p == q
  | .call c, .call d => c.equal d
  | _, _ => false

/-- **Equality of calls**: the same name and equal arguments. -/
def Call.equal : Call → Call → Bool
  | .mk f as, .mk g bs => f.name == g.name && Argument.equalAll as bs

/-- Equality of argument lists. -/
def Argument.equalAll : List Argument → List Argument → Bool
  | [], [] => true
  | a :: as, b :: bs => a.equal b && Argument.equalAll as bs
  | _, _ => false

/-- Equality of arguments. -/
def Argument.equal : Argument → Argument → Bool
  | .literal v, .literal w => v.equal w
  | .singular p, .singular q => p == q
  | .query p, .query q => p.equal q
  | .formula f, .formula g => Formula.equal f g
  | .call c, .call d => c.equal d
  | _, _ => false

end

instance : BEq Query := ⟨Query.equal⟩

end JsonQuery
