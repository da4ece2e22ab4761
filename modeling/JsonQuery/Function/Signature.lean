import JsonQuery.Query.Basic

/-
Signatures: what a function demands of its arguments.

A signature fixes the number of arguments and the kind of each parameter. A call
is checked against it when the query is compiled, the number first and then each
argument from the left.
-/

set_option autoImplicit false

namespace JsonQuery

/-- A way in which arguments do not fit. Arguments are counted from zero. -/
inductive Mismatch
  | arity (function : String) (expected found : Nat)
  | conversion (function : String) (index : Nat) (wanted : Kind)
  | missing (function : String) (index : Nat)
deriving DecidableEq, Repr, Inhabited

/-- The wording of a mismatch; messages count arguments from one. -/
def Mismatch.message : Mismatch → String
  | arity f expected found =>
    "function " ++ f ++ "() expected " ++ toString expected
      ++ (if expected = 1 then " argument" else " arguments")
      ++ " but found " ++ toString found
  | conversion f index wanted =>
    "function " ++ f ++ "() argument " ++ toString (index + 1)
      ++ " cannot be converted to " ++ wanted.name
  | missing f index =>
    "function " ++ f ++ "() missing argument " ++ toString (index + 1)

/-- Whether a call has the expected number of arguments. -/
def checkArity (function : String) (arguments : List Argument) (expected : Nat) :
    Except Mismatch Unit :=
  if arguments.length = expected then .ok ()
  else .error (.arity function expected arguments.length)

/-- Whether the argument at an index can be passed for a parameter. -/
def checkArgument (function : String) (arguments : List Argument) (index : Nat)
    (wanted : Kind) : Except Mismatch Unit :=
  match arguments[index]? with
  | some a =>
    if a.kind.convertsTo wanted then .ok () else .error (.conversion function index wanted)
  | none => .error (.missing function index)

/-- A function's name, the kinds of its parameters and the kind of its result. -/
structure Signature where
  name : String
  parameters : List Kind
  result : Kind
deriving DecidableEq, Repr, Inhabited

namespace Signature

/-- Checks the parameters from `index` on. -/
def checkFrom (function : String) (arguments : List Argument) :
    (index : Nat) → List Kind → Except Mismatch Unit
  | _, [] => .ok ()
  | index, k :: ks => do
    checkArgument function arguments index k
    checkFrom function arguments (index + 1) ks

/-- **Checks arguments against a signature.** -/
def check (s : Signature) (arguments : List Argument) : Except Mismatch Unit := do
  checkArity s.name arguments s.parameters.length
  checkFrom s.name arguments 0 s.parameters

end Signature

end JsonQuery
