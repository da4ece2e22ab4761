import JsonQuery.Json.Reader
import JsonQuery.Marshal
import JsonQuery.Proofs.Grammar.Rendering
import JsonQuery.Proofs.Grammar.Widening
import JsonQuery.Proofs.Query.Equality
import JsonQuery.Regex.Reference.Compile

/-
A query survives being written down.

The canonical text of a compiled query compiles to that query again (`compile_canonical`). So does
the JSON text of it, as long as the query is one over the standard functions that nests within the
default limit, since that is how a JSON text is compiled. Nothing depends on how binary64 numbers
are printed, except that they read back.
-/

set_option autoImplicit false

namespace JsonQuery

/-- A text that starts with a double quote is read as a string. -/
theorem Json.readValue_quote (fuel : Nat) (cs : List Char) :
    readValue (fuel + 1) ('"' :: cs)
      = (readString ('"' :: cs)).map fun (s, rest) => (.string s, rest) := by
  rw [readValue]
  rfl

/-- **The JSON text of a string is read back.** -/
theorem Json.ofText?_string (s : String) :
    Json.ofText? (Json.string s).text = some (.string s) := by
  have hspelling : (Json.string s).text.toList = quotedText '"' s.toList ++ [] := by
    simp [Json.text, Json.lexemes, Lexeme.spell, Lexeme.spelling]
  have hquoted := Cursor.quoted_quotedText (.inr rfl) s.toList
    (.start (quotedText '"' s.toList ++ [])) rfl
  rw [quotedText, List.cons_append] at hspelling hquoted
  have hread : readString ('"' :: (s.toList.flatMap (escaped '"') ++ ['"'] ++ []))
      = some (s, []) := by
    simp only [readString, hquoted, Cursor.after, String.ofList_toList]
  rw [List.append_nil] at hspelling hread
  rw [ofText?, hspelling]
  dsimp only
  rw [readValue_quote, hread]
  rfl

/-- **A query survives its text.** Where no function is called like a keyword, the canonical text
of a compiled query compiles, under the same registry and limit, to an equal query of the same
text. The JSON text of a query is read back. That compiles over the standard functions and with the
default limit, so it gives an equal query again if the query calls standard functions only and
nests within that limit; and it does for all that is compiled over the standard functions, with no
higher limit. -/
theorem Compiler.compile_text [FloatPrinter] [LawfulFloatPrinter] {c : Compiler}
    (names : c.registry.NamesLegible) {text : String} {q : Query} (h : c.compile text = .ok q) :
    (∃ p, c.compile q.text = .ok p ∧ (p == q) = true ∧ p.text = q.text)
      ∧ Json.ofText? q.toJson.text = some q.toJson
      ∧ (∀ engine, q.WellFormed (standard engine).registry → q.nesting ≤ defaultLimit →
        ∃ p, Query.ofJson engine q.toJson = .ok p ∧ (p == q) = true)
      ∧ ∀ engine, c.registry.functions = Standard.functions engine → c.limit ≤ defaultLimit →
        ∃ p, Query.ofJson engine q.toJson = .ok p ∧ (p == q) = true := by
  have hcanonical := c.compile_canonical names h
  have hread (engine : Engine) (hq : q.WellFormed (standard engine).registry)
      (hnest : q.nesting ≤ defaultLimit) :
      ∃ p, Query.ofJson engine q.toJson = .ok p ∧ (p == q) = true := by
    have hlegible : (standard engine).registry.NamesLegible :=
      Registry.namesLegible_standard engine
    have hderives := Query.derives_text hlegible (compile_wellFormed h).1 hq
    have hstandard : (standard engine).compile q.text = .ok q := compile_of_derives hderives hnest
    refine ⟨q, ?_, q.equal_refl⟩
    rw [Query.toJson, Query.ofJson, Query.ofText, hstandard]
    rfl
  refine ⟨⟨q, hcanonical, q.equal_refl, rfl⟩, Json.ofText?_string q.text, hread, ?_⟩
  intro engine hfunctions hlimit
  -- names stand for the same functions, and a higher limit only lets more texts through
  have hlookup (name : String) :
      c.registry.lookup name = (standard engine).registry.lookup name := by
    rw [Registry.lookup, hfunctions]
    rfl
  have hwidened : SameUnless (fun e => ∃ position, e = ⟨.nestingTooDeep c.limit, position⟩)
      (c.compile text) ((standard engine).compile text) :=
    compile_widened (fun name => .inl (hlookup name))
      (.inr ⟨hlimit, fun position => ⟨position, rfl⟩⟩) text
  obtain ⟨-, hq, hnest⟩ := compile_wellFormed (hwidened.eq_ok h)
  exact hread engine hq hnest

/-- A text with a filter, a floating-point number, two calls and names that need escapes. -/
theorem compile_text_standard :
    let c := Compiler.standard .reference
    let text := "$[?@.a<=-1.5e3||match(@['it\\'s'],'[a-c]+')&&count($..*)>1]['\\u00e9\\n']"
    LawfulFloatPrinter ∧ c.registry.NamesLegible
      ∧ c.registry.functions = Standard.functions .reference ∧ c.limit ≤ Compiler.defaultLimit
      ∧ ∃ q, c.compile text = .ok q
        ∧ (∃ p, c.compile q.text = .ok p ∧ (p == q) = true ∧ p.text = q.text)
        ∧ Json.ofText? q.toJson.text = some q.toJson
        ∧ ∃ p, Query.ofJson .reference q.toJson = .ok p ∧ (p == q) = true := by
  intro c text
  have names : c.registry.NamesLegible := Registry.namesLegible_standard .reference
  obtain ⟨q, h⟩ : ∃ q, c.compile text = .ok q := by
    have hok : (c.compile text).isOk = true := by decide +kernel
    cases hq : c.compile text with
    | ok q => exact ⟨q, rfl⟩
    | error e =>
      rw [hq] at hok
      cases hok
  obtain ⟨hcompiled, hjson, -, hread⟩ := Compiler.compile_text names h
  exact ⟨.shortest, names, rfl, Nat.le_refl _, q, h, hcompiled, hjson,
    hread .reference rfl (Nat.le_refl _)⟩

/-- A function that answers the first of some nodes. -/
def firstNode : Function :=
  .ofSignature ⟨"first", [.nodes], .value⟩ fun
    | [.nodes (n :: _)] => .ok (.value (some n))
    | _ => .ok .nothing

/-- **A query that calls another function need not survive as JSON**: it is read back over the
standard functions. -/
theorem not_ofJson_toJson :
    ¬ ∀ (c : Compiler) (text : String) (q : Query), c.registry.NamesLegible →
      c.compile text = .ok q → ∃ p, Query.ofJson .reference q.toJson = .ok p ∧ (p == q) = true := by
  intro hall
  let r := Registry.standard .reference
  have hvalid : isFunctionName firstNode.name = true := by decide +kernel
  have hfree : ¬ r.contains firstNode.name = true := by decide +kernel
  let c := Compiler.ofRegistry (r.insert firstNode hvalid hfree)
  have names : c.registry.NamesLegible := by
    intro f hf
    rcases List.mem_append.mp hf with hf | hf
    · exact Registry.namesLegible_standard .reference f hf
    · rw [List.mem_singleton.mp hf]
      decide
  let q : Query := .mk .root [.child [.filter [[.compare
    (.call (.mk firstNode.callee [.query (.mk .current [.child [.wildcard]])])) .eq
    (.literal (.number (.integer 1)))]]]]
  have h : c.compile "$[?first(@[*]) == 1]" = .ok q := rfl
  obtain ⟨p, hp, -⟩ := hall c _ q names h
  -- the function is unknown where the text is read back
  have htext : q.text = "$[?first(@[*]) == 1]" := by decide +kernel
  have hunknown : Query.ofText .reference "$[?first(@[*]) == 1]"
      = .error ⟨.unknownFunction "first", 3⟩ := rfl
  rw [Query.toJson, Query.ofJson, htext, hunknown] at hp
  cases hp

end JsonQuery
