import JsonQuery.Json.Basic

/-
The kinds of values that flow into and out of functions.

A function is declared with a kind for each parameter and for its result. At run
time an argument arrives in the kind of the expression it comes from, and the
function converts it to the kind it was declared with. Parsing admits only
arguments that can be converted, so a conversion that has no answer means that a
function broke its contract: it is a `Violation`, and the evaluation ends with it
instead of an answer.
-/

set_option autoImplicit false

namespace JsonQuery

/-! ## Declared kinds -/

/-- The kind of a parameter or of a result. -/
inductive Kind
  /-- One JSON value, or nothing. -/
  | value
  /-- A list of nodes. -/
  | nodes
  /-- A truth value. -/
  | logical
deriving DecidableEq, Repr, Inhabited

/-- The name of a kind in messages. -/
def Kind.name : Kind → String
  | value => "ValueType"
  | nodes => "NodesType"
  | logical => "LogicalType"

/-- The kind of an expression in argument position. Literals and singular queries
have kinds of their own, since a literal is always present and a singular query
can be passed as any kind. -/
inductive ArgumentKind
  | literal
  | singularQuery
  | value
  | nodes
  | logical
deriving DecidableEq, Repr, Inhabited

namespace ArgumentKind

/-- The kind of a call in argument position. -/
def ofKind : Kind → ArgumentKind
  | .value => value
  | .nodes => nodes
  | .logical => logical

/-- **Which arguments a parameter takes.** -/
def convertsTo : ArgumentKind → Kind → Bool
  | literal, k | value, k => k == .value
  | singularQuery, _ => true
  | nodes, k => k == .nodes || k == .logical
  | logical, k => k == .logical

end ArgumentKind

/-! ## Values at run time -/

/-- What an argument or a result is at run time. -/
inductive Datum
  /-- A value, or nothing. -/
  | value (v : Option Json)
  | nodes (ns : List Json)
  | logical (b : Bool)
deriving Inhabited

/-- How a function can break its contract. -/
inductive Violation
  /-- An argument was converted to a kind it has no conversion to. -/
  | conversion (found wanted : Kind)
  /-- A function returned another kind than it was declared with. -/
  | result (name : String) (declared returned : Kind)
deriving DecidableEq, Repr, Inhabited

/-- The wording of a violation. -/
def Violation.message : Violation → String
  | conversion found wanted =>
    "jsonpath: cannot convert " ++ found.name ++ " to " ++ wanted.name
      ++ "; function validator accepted an incompatible argument"
  | result name declared returned =>
    "jsonpath: function " ++ name ++ "() declared " ++ declared.name
      ++ " result but returned " ++ returned.name

namespace Datum

/-- The kind of a datum. -/
def kind : Datum → Kind
  | value _ => .value
  | nodes _ => .nodes
  | logical _ => .logical

/-- The absent value. -/
def nothing : Datum := value none

/-- **As a value**: a list of nodes is one only when it holds exactly one
node. -/
def toValue : Datum → Except Violation (Option Json)
  | value v => .ok v
  | nodes [n] => .ok (some n)
  | nodes _ => .ok none
  | logical _ => .error (.conversion .logical .value)

/-- As a list of nodes. -/
def toNodes : Datum → Except Violation (List Json)
  | nodes ns => .ok ns
  | d => .error (.conversion d.kind .nodes)

/-- **As a truth value**: a list of nodes is true when it holds a node. -/
def toLogical : Datum → Except Violation Bool
  | logical b => .ok b
  | nodes ns => .ok !ns.isEmpty
  | value _ => .error (.conversion .value .logical)

end Datum

/-! ## What is called -/

/-- A function as a call sees it. Functions are told apart by their names. -/
structure Callee where
  name : String
  /-- The declared kind of the result. -/
  result : Kind
  /-- The answer for arguments in their own kinds. -/
  evaluate : List Datum → Except Violation Datum

instance : Inhabited Callee := ⟨⟨"", .value, fun _ => .ok .nothing⟩⟩

/-- **Calls a function**, and holds it to the kind of its result. -/
def Callee.apply (f : Callee) (arguments : List Datum) : Except Violation Datum := do
  let d ← f.evaluate arguments
  if d.kind = f.result then return d else throw (.result f.name f.result d.kind)

end JsonQuery
