import JsonQuery.Function.Standard
import JsonQuery.Proofs.Function.Registration
import JsonQuery.Proofs.Grammar.Rendering
import JsonQuery.Regex.Reference.Compile

/-
Which registered functions can be called.

The names that a registry takes are read as names by a compiler, with three exceptions:
`true`, `false` and `null` are taken as names of functions, but a compiler reads them as
literals. A function of another name can be called as soon as it is registered; one of
these three cannot, and the call is refused at its parenthesis, where a literal should be
compared.
-/

set_option autoImplicit false

namespace JsonQuery

/-- A function that takes any arguments and answers true or false. -/
def Function.test (name : String) (evaluate : List Datum → Except Violation Datum) : Function where
  callee := ⟨name, .logical, evaluate⟩
  validate := fun _ => .ok ()

@[simp] theorem Function.name_test (name : String)
    (evaluate : List Datum → Except Violation Datum) : (test name evaluate).name = name := rfl

/-- The query for the children of the document that pass a function's test. -/
def Function.testQuery (f : Function) : Query :=
  .mk .root [.child [.filter [[.call false (.mk f.callee [])]]]]

/-! ## Keywords -/

/-- **A keyword is not called**: it is read as a literal, and a parenthesis does not compare
it with anything. -/
theorem Compiler.compile_keyword (c : Compiler) (k : Keyword) :
    c.compile ("$[?" ++ k.text ++ "()]")
      = .error ⟨.unexpected (.punctuation '('), 3 + k.text.length⟩ := by
  obtain ⟨r, limit, positive⟩ := c
  -- the filter needs one level, and there is one
  obtain ⟨limit, rfl⟩ := Nat.exists_eq_add_one.mpr positive
  cases k <;> rfl

/-! ## Other names -/

/-- The lexemes of a call without arguments in a filter. -/
def callLexemes (name : String) : List Lexeme :=
  ['$', '[', '?'].map .punctuation
    ++ nameLexeme name.toList :: ['(', ')', ']'].map .punctuation

/-- The lexemes of a call spell its text. -/
theorem spell_callLexemes (name : String) :
    Lexeme.spell (callLexemes name) = "$[?" ++ name ++ "()]" := by
  have hsplit : Lexeme.spell (callLexemes name)
      = String.ofList ("$[?".toList ++ ((nameLexeme name.toList).spelling ++ "()]".toList)) := rfl
  rw [hsplit, spelling_nameLexeme, String.ofList_append, String.ofList_append,
    String.ofList_toList, String.ofList_toList, String.ofList_toList, String.append_assoc]

/-- A bare call of a name is cut into the lexemes of it. -/
theorem tokenize_call {name : String} (h : isFunctionName name = true) :
    lexemes (tokenize ("$[?" ++ name ++ "()]")) = callLexemes name ++ [.endOfInput] := by
  have hclose : Legible (['(', ')', ']'].map .punctuation ++ []) :=
    legible_signs _ rfl trivial
  have hname : Legible (nameLexeme name.toList :: ['(', ')', ']'].map .punctuation) :=
    ⟨functionName_readsBack h _, hclose⟩
  rw [← spell_callLexemes]
  exact tokenize_spell (legible_signs ['$', '[', '?'] rfl hname)

/-- **A registered function is called by its name**, if that is no keyword. -/
theorem Compiler.compile_call {c : Compiler} {f : Function}
    (found : c.registry.lookup f.name = some f) (result : f.result ≠ .value)
    (valid : f.validate [] = .ok ()) (limit : 2 ≤ c.limit)
    (name : Keyword.ofText? f.name.toList = none) :
    c.compile ("$[?" ++ f.name ++ "()]") = .ok f.testQuery := by
  have hvalid := c.registry.names_valid f (List.mem_of_find?_eq_some found)
  refine compile_of_derives ?_ limit
  rw [tokenize_call hvalid, callLexemes, nameLexeme_eq_identifier name]
  have hcall : Derives c.registry .call
      [.identifier f.name, .punctuation '(', .punctuation ')', .punctuation ']', .endOfInput]
      (.mk f.callee []) [.punctuation ']', .endOfInput] :=
    .bareCall found (.absent _) valid
  have hformula := Derives.lastBranch (.lastCondition (.testCall hcall result))
  have hselectors := Derives.lastSelector (.absent _) (.filter (.absent _) hformula) (.absent _)
  exact .path (.nextSegment (.absent _) (.brackets hselectors) (.noSegment _))

/-- **A registered function can be called if and only if it is not called like a keyword.** -/
theorem Compiler.compile_registered {r s : Registry} {name : String}
    {evaluate : List Datum → Except Violation Datum}
    (h : r.register (.test name evaluate) = .ok s) {c : Compiler} (registry : c.registry = s)
    (limit : 2 ≤ c.limit) :
    c.compile ("$[?" ++ name ++ "()]") = .ok (Function.test name evaluate).testQuery
      ↔ Keyword.ofText? name.toList = none := by
  constructor
  · intro hcompiled
    by_contra hkeyword
    obtain ⟨k, hk⟩ := Option.ne_none_iff_exists'.mp hkeyword
    have hname : name = k.text := String.toList_inj.mp (Keyword.eq_of_ofText? hk)
    rw [hname, compile_keyword] at hcompiled
    cases hcompiled
  · intro hname
    let f := Function.test name evaluate
    have hfound : c.registry.lookup f.name = some f := by
      rw [registry, Registry.lookup_of_register h, if_pos rfl]
    have hresult : f.result ≠ .value := by
      rw [show f.result = .logical from rfl]
      decide
    have hcompiled := compile_call hfound hresult rfl limit hname
    rwa [Function.name_test] at hcompiled

/-- A function called `not`, in a registry that holds the standard functions. -/
theorem compile_registered_not :
    let r := Registry.standard .reference
    let f := Function.test "not" fun _ => .ok (.logical true)
    ∃ s, r.register f = .ok s ∧ 2 ≤ (Compiler.ofRegistry s).limit
      ∧ (Compiler.ofRegistry s).compile "$[?not()]" = .ok f.testQuery := by
  intro r f
  have hvalid : isFunctionName f.name = true := by decide +kernel
  have hfree : ¬ r.contains f.name = true := by decide +kernel
  have hregister : r.register f = .ok (r.insert f hvalid hfree) :=
    Registry.register_eq_ok_iff.mpr ⟨rfl, hvalid, hfree, rfl⟩
  have hlimit : 2 ≤ Compiler.defaultLimit := by decide
  exact ⟨_, hregister, hlimit,
    (Compiler.compile_registered hregister rfl hlimit).mpr (by decide)⟩

/-- A function called `true` is registered, and cannot be called. -/
theorem not_compile_registered_true :
    let r := Registry.standard .reference
    let f := Function.test "true" fun _ => .ok (.logical true)
    ∃ s, r.register f = .ok s
      ∧ (Compiler.ofRegistry s).compile "$[?true()]" ≠ .ok f.testQuery := by
  intro r f
  have hvalid : isFunctionName f.name = true := by decide +kernel
  have hfree : ¬ r.contains f.name = true := by decide +kernel
  have hregister : r.register f = .ok (r.insert f hvalid hfree) :=
    Registry.register_eq_ok_iff.mpr ⟨rfl, hvalid, hfree, rfl⟩
  refine ⟨_, hregister, ?_⟩
  rw [show "$[?true()]" = "$[?" ++ Keyword.yes.text ++ "()]" from rfl, Compiler.compile_keyword]
  nofun

end JsonQuery
