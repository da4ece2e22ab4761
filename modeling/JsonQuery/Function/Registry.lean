import JsonQuery.Function.Signature
import JsonQuery.Text.Visible

/-
Functions and the registry that names them.

A function joins what a call needs with the check of a call's arguments. A
registry holds functions under distinct names; it only ever grows, so what a
name stands for never changes, and once it is read-only it does not grow either.
Requests come one after the other, and one that is refused leaves the registry as
it was.
-/

set_option autoImplicit false

namespace JsonQuery

/-- A function that queries can call. -/
structure Function where
  callee : Callee
  /-- Checks the arguments of a call, with a message when they do not fit. -/
  validate : List Argument → Except String Unit

namespace Function

/-- The name of a function. -/
def name (f : Function) : String := f.callee.name

/-- The declared kind of the result. -/
def result (f : Function) : Kind := f.callee.result

/-- **A function that takes what its signature says.** -/
def ofSignature (s : Signature) (evaluate : List Datum → Except Violation Datum) : Function :=
  { callee := ⟨s.name, s.result, evaluate⟩
    validate := fun arguments => (s.check arguments).mapError Mismatch.message }

end Function

/-! ## Summaries -/

/-- The short name of a kind in summaries. -/
def Kind.shortName : Kind → String
  | .value => "Value"
  | .nodes => "Nodes"
  | .logical => "Logical"

/-- A record in summaries: its name, and its fields between braces. -/
def recordText (name : String) (fields : List String) : String :=
  name ++ " \x7b " ++ ", ".intercalate fields ++ " \x7d"

/-- The summary of a function: its name and the kind of its result. -/
def Function.summary (f : Function) : String :=
  recordText "Function" ["name: " ++ visibleText f.name, "result: " ++ f.result.shortName, ".."]

/-- The summary of a call without arguments. -/
def Call.bareSummary (c : Call) : String :=
  recordText "FunctionExpr"
    ["name: " ++ visibleText c.callee.name, "result: " ++ c.result.shortName, "args: []"]

/-! ## Registering -/

/-- Why a function was not registered. -/
inductive RegistryError
  | duplicate (name : String)
  | invalidName (name : String)
  | readOnly (name : String)
deriving DecidableEq, Repr, Inhabited

/-- The wording of a registry error. -/
def RegistryError.message : RegistryError → String
  | duplicate name => "jsonpath: function " ++ name ++ "() is already registered"
  | invalidName name => "jsonpath: invalid function name " ++ visibleText name
  | readOnly name => "jsonpath: cannot register " ++ name ++ "() in a read-only registry"

/-- **The names that functions can have**: a lowercase ASCII letter, and then
lowercase ASCII letters, digits and underscores. -/
def isFunctionName (name : String) : Bool :=
  match name.toList with
  | [] => false
  | c :: cs => c.isLower && cs.all fun c => c.isLower || c.isDigit || c == '_'

/-- A table of functions, in the order of their registration. -/
structure Registry where
  functions : List Function
  /-- Whether no more functions are taken. -/
  readOnly : Bool
  /-- Every name is one that functions can have. -/
  names_valid : ∀ f ∈ functions, isFunctionName f.name = true
  /-- No name stands for two functions. -/
  names_distinct : (functions.map Function.name).Nodup

namespace Registry

/-- The registry without functions. -/
def empty : Registry := ⟨[], false, by simp, by simp⟩

instance : Inhabited Registry := ⟨empty⟩

/-- The function with a name. -/
def lookup (r : Registry) (name : String) : Option Function :=
  r.functions.find? (·.name == name)

/-- Whether a name is taken. -/
def contains (r : Registry) (name : String) : Bool := (r.lookup name).isSome

theorem contains_iff (r : Registry) (name : String) :
    r.contains name = true ↔ name ∈ r.functions.map Function.name := by
  simp [contains, lookup, List.find?_isSome]

/-- A registry with one more function, whose name is free. -/
def insert (r : Registry) (f : Function) (valid : isFunctionName f.name = true)
    (free : ¬ r.contains f.name = true) : Registry where
  functions := r.functions ++ [f]
  readOnly := r.readOnly
  names_valid := by
    intro g hg
    rcases List.mem_append.mp hg with hg | hg
    · exact r.names_valid g hg
    · rw [List.mem_singleton.mp hg]
      exact valid
  names_distinct := by
    rw [contains_iff] at free
    rw [List.map_append, List.map_singleton, List.nodup_append]
    refine ⟨r.names_distinct, by simp, fun a ha b hb => ?_⟩
    rw [List.mem_singleton.mp hb]
    exact fun e => free (e ▸ ha)

/-- **Adds a function.** A read-only registry takes none, then the name has to be
one that functions can have, and then it has to be free. -/
def register (r : Registry) (f : Function) : Except RegistryError Registry :=
  if r.readOnly then .error (.readOnly f.name)
  else if valid : isFunctionName f.name = true then
    if free : r.contains f.name = true then .error (.duplicate f.name)
    else .ok (r.insert f valid free)
  else .error (.invalidName f.name)

/-- Seals a registry. -/
def toReadOnly (r : Registry) : Registry := { r with readOnly := true }

/-- The registered names in increasing order. -/
def names (r : Registry) : List String :=
  (r.functions.map Function.name).mergeSort fun a b => decide (a ≤ b)

/-- The number of functions. -/
def size (r : Registry) : Nat := r.functions.length

/-- Whether there are no functions. -/
def isEmpty (r : Registry) : Bool := r.size == 0

/-- The summary of a registry: its names, and whether it is sealed. -/
def summary (r : Registry) : String :=
  recordText "FunctionRegistry"
    ["functions: [" ++ ", ".intercalate (r.names.map visibleText) ++ "]",
      "read_only: " ++ (if r.readOnly then "true" else "false")]

/-! ## Requests -/

/-- What can be asked of a registry. -/
inductive Request
  | register (f : Function)
  | toReadOnly
  | lookup (name : String)

/-- What a registry answers. -/
inductive Answer
  | registered
  | refused (e : RegistryError)
  | sealed
  | found (f : Option Function)

/-- **Serves a request**: the answer, and the registry afterwards. -/
def serve (r : Registry) : Request → Answer × Registry
  | .register f =>
    match r.register f with
    | .ok s => (.registered, s)
    | .error e => (.refused e, r)
  | .toReadOnly => (.sealed, r.toReadOnly)
  | .lookup name => (.found (r.lookup name), r)

/-- The registry after requests, one after the other. -/
def after (r : Registry) (requests : List Request) : Registry :=
  requests.foldl (fun r q => (r.serve q).2) r

end Registry

end JsonQuery
