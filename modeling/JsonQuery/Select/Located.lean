import JsonQuery.Select.Nodes

/-
Nodes with their locations.

A located result lists nodes in the order of selection, a node as often as it is
selected. It can be brought into the order of locations, and reduced to one entry
for each location.
-/

set_option autoImplicit false

namespace JsonQuery

/-- A node and where it was found. -/
structure Located where
  location : Location
  node : Json
deriving Inhabited

/-! ## Selection -/

/-- The nodes that segments lead to, located from where the first ones are. -/
def Segment.followLocated : List Segment → List Located → Json →
    Except Violation (List Located)
  | [], nodes, _ => .ok nodes
  | s :: ss, nodes, root => do
    let next ← concatEach (fun (n : Located) => do
      let found ← s.visit n.node root
      return found.map fun (p, v) => ⟨n.location ++ p, v⟩) nodes
    Segment.followLocated ss next root

/-- **The nodes that a query selects, with their locations** from where the query
starts. -/
def Query.selectLocatedFrom (q : Query) (current root : Json) :
    Except Violation (List Located) :=
  Segment.followLocated q.segments [⟨[], q.anchor.start current root⟩] root

/-- The located nodes that a query selects from a document. -/
def Query.selectLocated (q : Query) (root : Json) : Except Violation (List Located) :=
  q.selectLocatedFrom root root

/-! ## Lists of located nodes -/

namespace Located

/-- Equality of located nodes, with nodes compared as literals. -/
def equal (a b : Located) : Bool := a.location == b.location && a.node.equal b.node

/-- Equality of lists of located nodes. -/
def equalAll : List Located → List Located → Bool
  | [], [] => true
  | a :: as, b :: bs => a.equal b && equalAll as bs
  | _, _ => false

/-- **The first entry of each location**, in the order of the list. -/
def deduplicate : List Located → List Located
  | [] => []
  | a :: as => a :: (deduplicate as).filter fun b => b.location != a.location

/-- **The entries in the order of their locations**; entries of one location keep
their order. -/
def sort (as : List Located) : List Located :=
  as.mergeSort fun a b => (a.location.compare b.location).isLE

end Located

/-! ## Lists of nodes -/

/-- The node of a list that has just one. -/
def exactlyOne? {α : Type} : List α → Option α
  | [x] => some x
  | _ => none

end JsonQuery
