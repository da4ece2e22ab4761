import JsonQuery.Function.Standard
import JsonQuery.Grammar.Compiler
import JsonQuery.Query.Printer

/-
Queries over the standard functions, and queries as JSON values.

A query is written into a document as its canonical text, and read back by
compiling that text. A value that is no string is refused by naming what it is.
-/

set_option autoImplicit false

namespace JsonQuery

/-- **The compiler over the standard functions**, whose registry is sealed. -/
def Compiler.standard (engine : Engine) : Compiler :=
  .ofRegistry (Registry.standard engine).toReadOnly

/-- Compiles a query that calls standard functions only. -/
def Query.ofText (engine : Engine) (text : String) : Except ParseError Query :=
  (Compiler.standard engine).compile text

/-- A query as a JSON value. -/
def Query.toJson [FloatPrinter] (q : Query) : Json := .string q.text

/-- Why a JSON value is no query. -/
inductive MarshalError
  | notAString (found : Json)
  | invalid (e : ParseError)

/-- What a value is, in an error message. Numbers are written out in full. -/
def Json.description : Json → String
  | .null => "null"
  | .bool b => "boolean `" ++ (if b then "true" else "false") ++ "`"
  | .number (.integer i) => "integer `" ++ String.ofList (Numeral.ofInt i).text ++ "`"
  | .number (.float x) =>
    "floating point `" ++ String.ofList x.shortest.positional.text ++ "`"
  | .string s => "string " ++ visibleText s
  | .array _ => "sequence"
  | .object _ => "map"

/-- The wording of a marshaling error. -/
def MarshalError.message : MarshalError → String
  | notAString found => "invalid type: " ++ found.description ++ ", expected a string"
  | invalid e => e.message

/-- **The query of a JSON value.** -/
def Query.ofJson (engine : Engine) : Json → Except MarshalError Query
  | .string s => (Query.ofText engine s).mapError .invalid
  | v => .error (.notAString v)

end JsonQuery
