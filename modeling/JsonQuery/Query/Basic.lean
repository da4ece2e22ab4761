import JsonQuery.Function.Kind

/-
Queries.

A query is an anchor, the document's root or the current node, and segments that
each replace the nodes found so far. A segment applies its selectors to a node,
or to a node and everything below it. A filter selector holds a formula, a
disjunction of conjunctions of conditions, and conditions hold queries and calls
again, so all of these are one family of types.
-/

set_option autoImplicit false

namespace JsonQuery

/-! ## Leaves -/

/-- Where a query starts. -/
inductive Anchor
  /-- `$`, the document. -/
  | root
  /-- `@`, the node under test. -/
  | current
deriving DecidableEq, Repr, Inhabited

/-- A slice of an array: first index, the index to stop before, and the
distance. Negative indexes count from the end. -/
structure Slice where
  start : Option Int64
  stop : Option Int64
  step : Option Int64
deriving DecidableEq, Repr, Inhabited

/-- A selector that picks at most one child. -/
inductive SingularSelector
  | name (name : String)
  | index (index : Int64)
deriving DecidableEq, Repr, Inhabited

/-- A query that selects at most one node. -/
structure SingularQuery where
  anchor : Anchor
  selectors : List SingularSelector
deriving DecidableEq, Repr, Inhabited

/-- A comparison operator. -/
inductive Comparator
  | eq
  | ne
  | lt
  | gt
  | le
  | ge
deriving DecidableEq, Repr, Inhabited

/-! ## Queries -/

mutual

/-- A way to pick children of a node. -/
inductive Selector
  /-- The member with a name. -/
  | name (name : String)
  /-- The element at an index; negative ones count from the end. -/
  | index (index : Int64)
  /-- The elements of a slice. -/
  | slice (slice : Slice)
  /-- Every child. -/
  | wildcard
  /-- The children for which a formula holds. -/
  | filter (formula : List (List Condition))

/-- One step of a query. -/
inductive Segment
  /-- Selects among the children of a node. -/
  | child (selectors : List Selector)
  /-- Selects among the children of a node and of all nodes below it. -/
  | descendant (selectors : List Selector)

/-- An anchor and the segments to follow from it. -/
inductive Query
  | mk (anchor : Anchor) (segments : List Segment)

/-- A condition of a formula; `negated` says whether `!` stands before it. -/
inductive Condition
  /-- The query selects a node. -/
  | query (negated : Bool) (query : Query)
  /-- A formula in parentheses holds. -/
  | group (negated : Bool) (formula : List (List Condition))
  /-- Two operands compare. -/
  | compare (left : Operand) (op : Comparator) (right : Operand)
  /-- A call answers true, or a node. -/
  | call (negated : Bool) (call : Call)

/-- A side of a comparison: one value, or nothing. -/
inductive Operand
  | literal (value : Json)
  | singular (query : SingularQuery)
  | call (call : Call)

/-- A call of a function. -/
inductive Call
  | mk (callee : Callee) (arguments : List Argument)

/-- An argument of a call. -/
inductive Argument
  | literal (value : Json)
  | singular (query : SingularQuery)
  /-- A query that may select any number of nodes. -/
  | query (query : Query)
  | formula (formula : List (List Condition))
  | call (call : Call)

end

/-- A disjunction of conjunctions of conditions. -/
abbrev Formula := List (List Condition)

instance : Inhabited Query := ⟨.mk .root []⟩

/-! ## Parts -/

namespace Query

/-- Where the query starts. -/
def anchor : Query → Anchor
  | mk anchor _ => anchor

/-- The steps of the query. -/
def segments : Query → List Segment
  | mk _ segments => segments

@[simp] theorem anchor_mk (a : Anchor) (ss : List Segment) : (mk a ss).anchor = a := rfl

@[simp] theorem segments_mk (a : Anchor) (ss : List Segment) : (mk a ss).segments = ss := rfl

end Query

namespace Segment

/-- The selectors of a segment. -/
def selectors : Segment → List Selector
  | child selectors | descendant selectors => selectors

/-- Whether the segment reaches below the children. -/
def isDescendant : Segment → Bool
  | child _ => false
  | descendant _ => true

end Segment

namespace Call

/-- The function that is called. -/
def callee : Call → Callee
  | mk callee _ => callee

/-- The arguments of the call. -/
def arguments : Call → List Argument
  | mk _ arguments => arguments

/-- The kind of the call's result. -/
def result (c : Call) : Kind := c.callee.result

end Call

namespace Argument

/-- The kind of an argument. -/
def kind : Argument → ArgumentKind
  | literal _ => .literal
  | singular _ => .singularQuery
  | query _ => .nodes
  | formula _ => .logical
  | call c => .ofKind c.result

end Argument

/-! ## Singular queries -/

/-- Whether a selector picks at most one child by its name or index. -/
def Selector.isSingular : Selector → Bool
  | name _ | index _ => true
  | _ => false

/-- Whether a segment is one name or one index. -/
def Segment.isSingular : Segment → Bool
  | child [s] => s.isSingular
  | _ => false

/-- **Whether a query is singular**: every segment is one name or one index. -/
def Query.isSingular (q : Query) : Bool := q.segments.all Segment.isSingular

/-- The single selector of a singular segment. -/
def Segment.singular? : Segment → Option SingularSelector
  | child [.name name] => some (.name name)
  | child [.index index] => some (.index index)
  | _ => none

/-- The single selectors of a list of singular segments. -/
def Segment.allSingular? : List Segment → Option (List SingularSelector)
  | [] => some []
  | s :: ss => do return (← s.singular?) :: (← allSingular? ss)

theorem Segment.allSingular?_cons_eq_some {s : Segment} {ss : List Segment}
    {ts : List SingularSelector} :
    allSingular? (s :: ss) = some ts ↔
      ∃ t us, s.singular? = some t ∧ allSingular? ss = some us ∧ ts = t :: us := by
  simp only [allSingular?, bind, Option.bind_eq_some_iff, pure, Option.some.injEq]
  constructor
  · rintro ⟨t, ht, us, hus, rfl⟩
    exact ⟨t, us, ht, hus, rfl⟩
  · rintro ⟨t, us, ht, hus, rfl⟩
    exact ⟨t, ht, us, hus, rfl⟩

/-- **The singular form of a query**, if it has one. -/
def Query.singular? (q : Query) : Option SingularQuery :=
  (Segment.allSingular? q.segments).map (⟨q.anchor, ·⟩)

/-! ## Bounds -/

/-- The greatest integer that indexes and integer literals may have, `2 ^ 53 - 1`.
All integers up to it are exact in binary64. -/
def greatestIndex : Int := 0x1fffffffffffff

end JsonQuery
