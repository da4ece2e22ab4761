import JsonQuery.Location.Basic
import JsonQuery.Select.Comparison
import JsonQuery.Select.Slice

/-
Evaluating queries.

A query starts with one node and replaces the nodes found so far, segment by
segment, with what the segment selects from each of them in turn. A filter
evaluates its formula for every child; the formula's queries start at that child
or at the document. Functions may break their contracts, and the first violation
met ends the evaluation.
-/

set_option autoImplicit false

namespace JsonQuery

/-! ## Sequences of results -/

/-- The results of a list, one after the other; the first violation ends it. -/
def concatEach {α β : Type} (f : α → Except Violation (List β)) :
    List α → Except Violation (List β)
  | [] => .ok []
  | x :: xs => do
    let here ← f x
    let rest ← concatEach f xs
    return here ++ rest

@[simp] theorem concatEach_nil {α β : Type} (f : α → Except Violation (List β)) :
    concatEach f [] = .ok [] := rfl

theorem concatEach_cons {α β : Type} (f : α → Except Violation (List β)) (x : α) (xs : List α) :
    concatEach f (x :: xs)
      = (f x).bind fun here => (concatEach f xs).bind fun rest => .ok (here ++ rest) := rfl

/-- **Two lists after each other give their results after each other**, and a
violation in the first one hides those in the second. -/
theorem concatEach_append {α β : Type} (f : α → Except Violation (List β)) (xs ys : List α) :
    concatEach f (xs ++ ys)
      = (concatEach f xs).bind fun a => (concatEach f ys).bind fun b => .ok (a ++ b) := by
  induction xs with
  | nil =>
    rw [List.nil_append, concatEach_nil]
    cases concatEach f ys <;> rfl
  | cons x xs ih =>
    rw [List.cons_append, concatEach_cons, concatEach_cons, ih]
    cases f x with
    | error v => rfl
    | ok here =>
      cases concatEach f xs with
      | error v => rfl
      | ok a =>
        cases concatEach f ys with
        | error v => rfl
        | ok b => simp [Except.bind, List.append_assoc]

/-- The members of a list that pass a test. -/
def keepIf {α : Type} (test : α → Except Violation Bool) : List α → Except Violation (List α)
  | [] => .ok []
  | x :: xs => do
    let kept ← test x
    let rest ← keepIf test xs
    return if kept then x :: rest else rest

/-! ## Descent -/

/-- A location one step further from its start. -/
def stepped (s : Step) (found : List (Location × Json)) : List (Location × Json) :=
  found.map fun (p, v) => (s :: p, v)

/-- What a way to pick children finds, with locations of one step. -/
def oneStep (found : List (Step × Json)) : List (Location × Json) :=
  found.map fun (s, v) => ([s], v)

mutual

/-- **What is picked from a node and from all nodes below it**: a node comes
before its children, and a child with all that is below it before the next. -/
def descend (pick : Json → Except Violation (List (Step × Json))) :
    Json → Except Violation (List (Location × Json))
  | .array xs => do
    let here ← pick (.array xs)
    let below ← descendItems pick 0 xs
    return oneStep here ++ below
  | .object ms => do
    let here ← pick (.object ms)
    let below ← descendMembers pick ms
    return oneStep here ++ below
  | v => do
    let here ← pick v
    return oneStep here

/-- What is picked from elements and below them; the first one has a given
number. -/
def descendItems (pick : Json → Except Violation (List (Step × Json))) :
    Nat → List Json → Except Violation (List (Location × Json))
  | _, [] => .ok []
  | i, x :: xs => do
    let here ← descend pick x
    let rest ← descendItems pick (i + 1) xs
    return stepped (.index i) here ++ rest

/-- What is picked from members and below them. -/
def descendMembers (pick : Json → Except Violation (List (Step × Json))) :
    List (String × Json) → Except Violation (List (Location × Json))
  | [] => .ok []
  | (key, x) :: ms => do
    let here ← descend pick x
    let rest ← descendMembers pick ms
    return stepped (.name key) here ++ rest

end

/-! ## Singular queries -/

/-- Where a query starts. -/
def Anchor.start (a : Anchor) (current root : Json) : Json :=
  match a with
  | .root => root
  | .current => current

/-- The child that a singular selector picks. -/
def SingularSelector.locate? : SingularSelector → Json → Option Json
  | name n, .object ms => ms.lookup n
  | index i, .array xs => (resolveIndex i xs.length).bind (xs[·]?)
  | _, _ => none

/-- The node that singular selectors lead to. -/
def locateAll? : List SingularSelector → Json → Option Json
  | [], v => some v
  | s :: ss, v => (s.locate? v).bind (locateAll? ss)

/-- **The node that a singular query selects**, if there is one. -/
def SingularQuery.locate? (q : SingularQuery) (current root : Json) : Option Json :=
  locateAll? q.selectors (q.anchor.start current root)

/-! ## Selectors -/

/-- The member with a name. -/
def pickName (n : String) : Json → List (Step × Json)
  | .object ms =>
    match ms.lookup n with
    | some v => [(.name n, v)]
    | none => []
  | _ => []

/-- The element at a position. -/
def pickPosition (xs : List Json) (i : Nat) : List (Step × Json) :=
  match xs[i]? with
  | some v => [(.index i, v)]
  | none => []

/-- The element at an index. -/
def pickIndex (i : Int64) : Json → List (Step × Json)
  | .array xs =>
    match resolveIndex i xs.length with
    | some p => pickPosition xs p
    | none => []
  | _ => []

/-- The elements of a slice. -/
def pickSlice (s : Slice) : Json → List (Step × Json)
  | .array xs => (s.positions xs.length).flatMap (pickPosition xs)
  | _ => []

/-! ## Evaluation -/

mutual

/-- **The children that a selector picks**, in the order of selection. -/
def Selector.pick : Selector → Json → Json → Except Violation (List (Step × Json))
  | .name n, v, _ => .ok (pickName n v)
  | .index i, v, _ => .ok (pickIndex i v)
  | .slice s, v, _ => .ok (pickSlice s v)
  | .wildcard, v, _ => .ok v.children
  | .filter f, v, root => keepIf (fun c => Formula.holds f c.2 root) v.children

/-- What selectors pick, one selector after the other. -/
def Selector.pickAll : List Selector → Json → Json → Except Violation (List (Step × Json))
  | [], _, _ => .ok []
  | s :: ss, v, root => do
    let here ← s.pick v root
    let rest ← Selector.pickAll ss v root
    return here ++ rest

/-- **What a segment selects from a node**, with locations from that node. -/
def Segment.visit : Segment → Json → Json → Except Violation (List (Location × Json))
  | .child ss, v, root => do
    let found ← Selector.pickAll ss v root
    return oneStep found
  | .descendant ss, v, root => descend (fun n => Selector.pickAll ss n root) v

/-- The nodes that segments lead to from a list of nodes. -/
def Segment.followAll : List Segment → List Json → Json → Except Violation (List Json)
  | [], nodes, _ => .ok nodes
  | s :: ss, nodes, root => do
    let next ← concatEach (fun n => do
      let found ← s.visit n root
      return found.map Prod.snd) nodes
    Segment.followAll ss next root

/-- **The nodes that a query selects.** -/
def Query.selectFrom : Query → Json → Json → Except Violation (List Json)
  | .mk anchor ss, current, root => Segment.followAll ss [anchor.start current root] root

/-- Whether a branch of a formula holds; branches behind it are not looked
at. -/
def Formula.holds : List (List Condition) → Json → Json → Except Violation Bool
  | [], _, _ => .ok false
  | c :: cs, current, root => do
    let b ← Condition.allHold c current root
    if b then return true else Formula.holds cs current root

/-- Whether all conditions hold; conditions behind one that fails are not looked
at. -/
def Condition.allHold : List Condition → Json → Json → Except Violation Bool
  | [], _, _ => .ok true
  | c :: cs, current, root => do
    let b ← c.holds current root
    if b then Condition.allHold cs current root else return false

/-- **Whether a condition holds.** -/
def Condition.holds : Condition → Json → Json → Except Violation Bool
  | .query negated q, current, root => do
    let found ← q.selectFrom current root
    return (!found.isEmpty) != negated
  | .group negated f, current, root => do
    let b ← Formula.holds f current root
    return b != negated
  | .compare left op right, current, root => do
    let a ← left.value current root
    let b ← right.value current root
    return op.holds a b
  | .call negated c, current, root => do
    let d ← c.answer current root
    let b ← d.toLogical
    return b != negated

/-- The value of an operand, if there is one. -/
def Operand.value : Operand → Json → Json → Except Violation (Option Json)
  | .literal v, _, _ => .ok (some v)
  | .singular q, current, root => .ok (q.locate? current root)
  | .call c, current, root => do
    let d ← c.answer current root
    d.toValue

/-- **What a call answers.** Arguments are passed in their own kinds. -/
def Call.answer : Call → Json → Json → Except Violation Datum
  | .mk f as, current, root => do
    let ds ← Argument.data as current root
    f.apply ds

/-- What arguments are, one after the other. -/
def Argument.data : List Argument → Json → Json → Except Violation (List Datum)
  | [], _, _ => .ok []
  | a :: as, current, root => do
    let d ← a.datum current root
    let ds ← Argument.data as current root
    return d :: ds

/-- What an argument is, in its own kind. -/
def Argument.datum : Argument → Json → Json → Except Violation Datum
  | .literal v, _, _ => .ok (.value (some v))
  | .singular q, current, root => .ok (.nodes (q.locate? current root).toList)
  | .query q, current, root => do
    let found ← q.selectFrom current root
    return .nodes found
  | .formula f, current, root => do
    let b ← Formula.holds f current root
    return .logical b
  | .call c, current, root => c.answer current root

end

/-- **Segments can be followed in two parts**: the second part starts from the
nodes that the first one leads to. -/
theorem Segment.followAll_append (ss ts : List Segment) (nodes : List Json) (root : Json) :
    Segment.followAll (ss ++ ts) nodes root
      = (Segment.followAll ss nodes root).bind fun found =>
          Segment.followAll ts found root := by
  induction ss generalizing nodes with
  | nil => simp [Segment.followAll, Except.bind]
  | cons s ss ih =>
    simp only [List.cons_append, Segment.followAll, bind, Except.bind]
    split
    · rfl
    · rename_i next h
      exact ih next

/-- The nodes that a query selects from a document. A query that starts at the
current node starts at the document too. -/
def Query.select (q : Query) (root : Json) : Except Violation (List Json) :=
  q.selectFrom root root

end JsonQuery
