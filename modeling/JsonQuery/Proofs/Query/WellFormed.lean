import JsonQuery.Function.Standard
import JsonQuery.Proofs.Grammar.Acceptance
import JsonQuery.Regex.Reference.Compile

/-
Well-formed queries.

The type of queries admits more trees than texts compile to: empty lists of selectors and
of conditions, indexes of any size, calls of functions that no registry holds. Here is what
a tree has to be, part by part, for a registry (`Query.WellFormed`). Nothing of it refers to
texts or tokens. A grammar rule establishes it for what it builds from well-formed parts
(`Derives.wellFormed`), so every compiled query has it.
-/

set_option autoImplicit false

namespace JsonQuery

/-! ## Leaves -/

/-- Whether an integer and its negative are exact in binary64, as all up to the greatest
index are. -/
def InIndexRange (n : Int) : Prop := -greatestIndex ≤ n ∧ n ≤ greatestIndex

/-- The bounds and the step of a slice are in the range of indexes. -/
def Slice.WellFormed (s : Slice) : Prop :=
  ∀ o ∈ [s.start, s.stop, s.step], ∀ i ∈ o, InIndexRange i.toInt

/-- The indexes of a singular query are in their range. -/
def SingularQuery.WellFormed (q : SingularQuery) : Prop :=
  ∀ i, .index i ∈ q.selectors → InIndexRange i.toInt

/-- **The values that literals can have**: null, truth values, strings, integers in the range
of indexes, and numbers with a magnitude that binary64 has, which is finite. -/
def Json.IsLiteral : Json → Prop
  | .null | .bool _ | .string _ => True
  | .number (.integer n) => InIndexRange n
  | .number (.float x) => Binary64.Representable x.units
  | .array _ | .object _ => False

/-! ## Trees -/

mutual

/-- A filter has a branch, and none of its branches is empty. -/
def Selector.WellFormed (r : Registry) : Selector → Prop
  | .name _ | .wildcard => True
  | .index i => InIndexRange i.toInt
  | .slice s => s.WellFormed
  | .filter f => f ≠ [] ∧ Formula.AllWellFormed r f

def Selector.AllWellFormed (r : Registry) : List Selector → Prop
  | [] => True
  | s :: ss => s.WellFormed r ∧ Selector.AllWellFormed r ss

/-- A segment has a selector. -/
def Segment.WellFormed (r : Registry) : Segment → Prop
  | .child ss | .descendant ss => ss ≠ [] ∧ Selector.AllWellFormed r ss

def Segment.AllWellFormed (r : Registry) : List Segment → Prop
  | [] => True
  | s :: ss => s.WellFormed r ∧ Segment.AllWellFormed r ss

/-- **Well-formed queries**, for the functions of a registry. -/
def Query.WellFormed (r : Registry) : Query → Prop
  | .mk _ ss => Segment.AllWellFormed r ss

/-- The branches of a formula have a condition each. -/
def Formula.AllWellFormed (r : Registry) : List (List Condition) → Prop
  | [] => True
  | c :: cs => (c ≠ [] ∧ Condition.AllWellFormed r c) ∧ Formula.AllWellFormed r cs

def Condition.AllWellFormed (r : Registry) : List Condition → Prop
  | [] => True
  | c :: cs => c.WellFormed r ∧ Condition.AllWellFormed r cs

/-- A call is a condition, negated or not, when it answers true or false or nodes. -/
def Condition.WellFormed (r : Registry) : Condition → Prop
  | .query _ q => q.WellFormed r
  | .group _ f => f ≠ [] ∧ Formula.AllWellFormed r f
  | .compare a _ b => a.WellFormed r ∧ b.WellFormed r
  | .call _ c => c.WellFormed r ∧ (c.result = .logical ∨ c.result = .nodes)

/-- A call is compared when it answers a value. -/
def Operand.WellFormed (r : Registry) : Operand → Prop
  | .literal v => v.IsLiteral
  | .singular q => q.WellFormed
  | .call c => c.WellFormed r ∧ c.result = .value

/-- A call is one of the function that the registry has under the name, which lets its
arguments through. -/
def Call.WellFormed (r : Registry) : Call → Prop
  | .mk callee as => (∃ f, r.lookup callee.name = some f ∧ f.callee = callee
      ∧ f.validate as = .ok ()) ∧ Argument.AllWellFormed r as

def Argument.AllWellFormed (r : Registry) : List Argument → Prop
  | [] => True
  | a :: as => a.WellFormed r ∧ Argument.AllWellFormed r as

/-- A singular query is an argument in its singular form only, and a query or call that
stands alone is one as such and not as a formula. -/
def Argument.WellFormed (r : Registry) : Argument → Prop
  | .literal v => v.IsLiteral
  | .singular q => q.WellFormed
  | .query q => q.WellFormed r ∧ q.isSingular = false
  | .formula f => (f ≠ [] ∧ Formula.AllWellFormed r f) ∧ Formula.isBare f = false
  | .call c => c.WellFormed r

end

/-! ## Singular queries -/

/-- A segment has a singular form exactly when it is singular. -/
theorem Segment.isSome_singular? : ∀ s : Segment, s.singular?.isSome = s.isSingular
  | .child [] | .descendant _ => rfl
  | .child [t] | .child (t :: _ :: _) => by cases t <;> rfl

/-- Segments are singular when each of them is. -/
theorem Segment.isSome_allSingular? (ss : List Segment) :
    (Segment.allSingular? ss).isSome = ss.all Segment.isSingular := by
  induction ss with
  | nil => rfl
  | cons s ss ih =>
    rw [List.all_cons, ← ih, ← s.isSome_singular?, Segment.allSingular?]
    cases s.singular? with
    | none => rfl
    | some t => cases Segment.allSingular? ss <;> rfl

/-- **A query has a singular form exactly when it is singular.** -/
theorem Query.isSome_singular? (q : Query) : q.singular?.isSome = q.isSingular := by
  rw [Query.singular?, Option.isSome_map, Segment.isSome_allSingular?, Query.isSingular]

section

variable {r : Registry}

/-- The index of a singular segment is in range. -/
theorem Segment.inIndexRange_of_singular? {s : Segment} {i : Int64}
    (h : s.singular? = some (.index i)) (hs : s.WellFormed r) : InIndexRange i.toInt := by
  unfold Segment.singular? at h
  split at h
  · cases h
  · cases h
    simp only [Segment.WellFormed, Selector.AllWellFormed, Selector.WellFormed] at hs
    exact hs.2.1
  · cases h

theorem Segment.inIndexRange_of_allSingular? {ss : List Segment} {ts : List SingularSelector}
    {i : Int64} (h : Segment.allSingular? ss = some ts) (hss : Segment.AllWellFormed r ss)
    (hi : .index i ∈ ts) : InIndexRange i.toInt := by
  induction ss generalizing ts with
  | nil =>
    cases h
    exact absurd hi List.not_mem_nil
  | cons s ss ih =>
    obtain ⟨t, us, ht, hus, rfl⟩ := Segment.allSingular?_cons_eq_some.mp h
    rw [Segment.AllWellFormed] at hss
    rcases List.mem_cons.mp hi with rfl | hi
    · exact Segment.inIndexRange_of_singular? ht hss.1
    · exact ih hus hss.2 hi

/-- **The singular form of a well-formed query is well formed.** -/
theorem SingularQuery.wellFormed_of_singular? {q : Query} {s : SingularQuery}
    (h : q.singular? = some s) (hq : q.WellFormed r) : s.WellFormed := by
  obtain ⟨anchor, ss⟩ := q
  obtain ⟨ts, hts, rfl⟩ := Option.map_eq_some_iff.mp h
  rw [Query.WellFormed] at hq
  intro i hi
  exact Segment.inIndexRange_of_allSingular? hts hq hi

end

/-! ## Tokens -/

/-- The range of indexes lies well within 64 bits. -/
theorem toInt_ofInt_index {i : Int} (h : InIndexRange i) : (Int64.ofInt i).toInt = i := by
  obtain ⟨least, greatest⟩ := h
  unfold greatestIndex at least greatest
  exact Int64.toInt_ofInt_of_le (by omega) (by omega)

/-- An integer of the grammar is in range. -/
theorem IntegerLexeme.inIndexRange {l : Lexeme} {i : Int64} (h : IntegerLexeme l i) :
    InIndexRange i.toInt := by
  cases h with
  | intro _ _ least greatest =>
    rw [toInt_ofInt_index ⟨least, greatest⟩]
    exact ⟨least, greatest⟩

theorem BoundLexemes.inIndexRange {a b : List Lexeme} {o : Option Int64}
    (h : BoundLexemes a o b) : ∀ i ∈ o, InIndexRange i.toInt := by
  cases h with
  | absent => nofun
  | present integer =>
    rintro _ ⟨⟩
    exact integer.inIndexRange

theorem StepLexemes.inIndexRange {a b : List Lexeme} {o : Option Int64}
    (h : StepLexemes a o b) : ∀ i ∈ o, InIndexRange i.toInt := by
  cases h with
  | absent | empty => nofun
  | present _ integer =>
    rintro _ ⟨⟩
    exact integer.inIndexRange

/-- A literal of the grammar has a value that literals can have. -/
theorem LiteralLexeme.isLiteral {l : Lexeme} {v : Json} (h : LiteralLexeme l v) :
    v.IsLiteral := by
  cases h with
  | string | yes | no | null => trivial
  | integer integer => exact integer.inIndexRange
  | negativeZero | float => exact Binary64.representable _

/-! ## Phrases -/

/-- What it means for a phrase's tree to be well formed: a list is so when it is not empty
and all that is in it is well formed, but segments and arguments may be absent. -/
def Phrase.WellFormed (r : Registry) : (p : Phrase) → p.Tree → Prop
  | path, q | query, q => Query.WellFormed r q
  | segments, ss => Segment.AllWellFormed r ss
  | segment, s => Segment.WellFormed r s
  | selectors, ss => ss ≠ [] ∧ Selector.AllWellFormed r ss
  | selector, s => Selector.WellFormed r s
  | formula, f | group, f => f ≠ [] ∧ Formula.AllWellFormed r f
  | conjunction, cs => cs ≠ [] ∧ Condition.AllWellFormed r cs
  | condition, c => Condition.WellFormed r c
  | call, c => Call.WellFormed r c
  | arguments, xs => Argument.AllWellFormed r xs
  | operand, o => Operand.WellFormed r o
  | argument, x => Argument.WellFormed r x

/-- A kind other than that of values is one of the other two. -/
theorem Kind.logical_or_nodes {k : Kind} (h : k ≠ .value) : k = .logical ∨ k = .nodes := by
  cases k with
  | value => exact absurd rfl h
  | logical => exact .inl rfl
  | nodes => exact .inr rfl

/-- A function is found under its name. -/
theorem Registry.lookup_callee {r : Registry} {name : String} {f : Function}
    (h : r.lookup name = some f) : r.lookup f.callee.name = some f := by
  have hname := List.find?_some h
  rw [show f.callee.name = name from eq_of_beq hname, h]

/-- A call that was read is one of the function under its own name. -/
theorem Registry.called {r : Registry} {name : String} {f : Function} {xs : List Argument}
    (found : r.lookup name = some f) (valid : f.validate xs = .ok ()) :
    ∃ g, r.lookup f.callee.name = some g ∧ g.callee = f.callee ∧ g.validate xs = .ok () :=
  ⟨f, Registry.lookup_callee found, rfl, valid⟩

/-- **What the grammar derives is well formed**, for the registry it is derived with. -/
theorem Derives.wellFormed {r : Registry} {p : Phrase} {a b : List Lexeme} {x : p.Tree}
    (h : Derives r p a x b) : p.WellFormed r x := by
  -- one case for a production; its parts are well formed by induction
  induction h with
  | path _ ih | query _ _ ih => simpa only [Phrase.WellFormed, Query.WellFormed] using ih
  | noSegment => simp only [Phrase.WellFormed, Segment.AllWellFormed]
  | nextSegment _ _ _ ihFirst ihRest =>
    simp only [Phrase.WellFormed, Segment.AllWellFormed] at *
    exact ⟨ihFirst, ihRest⟩
  | dotName | dotWildcard | dotsName | dotsWildcard =>
    simp only [Phrase.WellFormed, Segment.WellFormed, Selector.AllWellFormed,
      Selector.WellFormed, and_self, and_true]
    exact List.cons_ne_nil _ _
  | dotsBrackets _ ih | brackets _ ih =>
    simpa only [Phrase.WellFormed, Segment.WellFormed] using ih
  | lastSelector _ _ _ ih =>
    simp only [Phrase.WellFormed, Selector.AllWellFormed] at *
    exact ⟨List.cons_ne_nil _ _, ih, trivial⟩
  | nextSelector _ _ _ _ ihFirst ihRest =>
    simp only [Phrase.WellFormed, Selector.AllWellFormed] at *
    exact ⟨List.cons_ne_nil _ _, ihFirst, ihRest.2⟩
  | name | wildcard => simp only [Phrase.WellFormed, Selector.WellFormed]
  | index integer =>
    simp only [Phrase.WellFormed, Selector.WellFormed]
    exact integer.inIndexRange
  | slice first _ last distance =>
    simp only [Phrase.WellFormed, Selector.WellFormed, Slice.WellFormed, List.forall_mem_cons]
    exact ⟨first.inIndexRange, last.inIndexRange, distance.inIndexRange, nofun⟩
  | filter _ _ ih => simpa only [Phrase.WellFormed, Selector.WellFormed] using ih
  | lastBranch _ ih =>
    simp only [Phrase.WellFormed, Formula.AllWellFormed] at *
    exact ⟨List.cons_ne_nil _ _, ih, trivial⟩
  | nextBranch _ _ _ _ ihFirst ihRest =>
    simp only [Phrase.WellFormed, Formula.AllWellFormed] at *
    exact ⟨List.cons_ne_nil _ _, ihFirst, ihRest.2⟩
  | lastCondition _ ih =>
    simp only [Phrase.WellFormed, Condition.AllWellFormed] at *
    exact ⟨List.cons_ne_nil _ _, ih, trivial⟩
  | nextCondition _ _ _ _ ihFirst ihRest =>
    simp only [Phrase.WellFormed, Condition.AllWellFormed] at *
    exact ⟨List.cons_ne_nil _ _, ihFirst, ihRest.2⟩
  | testQuery _ ih | testGroup _ ih | notQuery _ _ ih | notGroup _ _ ih =>
    simpa only [Phrase.WellFormed, Condition.WellFormed] using ih
  | testCall _ result ih | notCall _ _ result ih =>
    simp only [Phrase.WellFormed, Condition.WellFormed] at *
    exact ⟨ih, Kind.logical_or_nodes result⟩
  | compare _ _ _ _ ihLeft ihRight =>
    simp only [Phrase.WellFormed, Condition.WellFormed] at *
    exact ⟨ihLeft, ihRight⟩
  | group _ _ _ ih => exact ih
  | bareCall found _ valid =>
    simp only [Phrase.WellFormed, Call.WellFormed, Argument.AllWellFormed, and_true]
    exact Registry.called found valid
  | call found _ valid ih =>
    simp only [Phrase.WellFormed, Call.WellFormed] at *
    exact ⟨Registry.called found valid, ih⟩
  | lastArgument _ _ _ ih =>
    simp only [Phrase.WellFormed, Argument.AllWellFormed] at *
    exact ⟨ih, trivial⟩
  | nextArgument _ _ _ _ ihFirst ihRest =>
    simp only [Phrase.WellFormed, Argument.AllWellFormed] at *
    exact ⟨ihFirst, ihRest⟩
  | literalOperand literal =>
    simp only [Phrase.WellFormed, Operand.WellFormed]
    exact literal.isLiteral
  | queryOperand _ singular ih =>
    simp only [Phrase.WellFormed, Operand.WellFormed] at *
    exact SingularQuery.wellFormed_of_singular? singular ih
  | callOperand _ result ih =>
    simp only [Phrase.WellFormed, Operand.WellFormed] at *
    exact ⟨ih, result⟩
  | literalArgument literal =>
    simp only [Phrase.WellFormed, Argument.WellFormed]
    exact literal.isLiteral
  | singularArgument _ singular ih =>
    simp only [Phrase.WellFormed, Argument.WellFormed] at *
    exact SingularQuery.wellFormed_of_singular? singular ih
  | queryArgument _ plural ih =>
    simp only [Phrase.WellFormed, Argument.WellFormed] at *
    rw [← Query.isSome_singular?, plural]
    exact ⟨ih, rfl⟩
  | callArgument _ ih => simpa only [Phrase.WellFormed, Argument.WellFormed] using ih
  | formulaArgument _ compound ih =>
    simp only [Phrase.WellFormed, Argument.WellFormed] at *
    exact ⟨ih, compound⟩

/-! ## Compiled queries -/

/-- A path starts at the root. -/
theorem Derives.path_anchor {r : Registry} {a b : List Lexeme} {q : Query}
    (h : Derives r .path a q b) : q.anchor = .root := by
  cases h with
  | path => rfl

/-- **A compiled query is well formed**: it starts at the root, and all through it no list
that needs an element is empty, integers are in range, literals are finite, calls are of
registered functions that accept their arguments and stand where the kind of their result
allows it, arguments are in their simplest form, and nothing nests deeper than the limit. -/
theorem Compiler.compile_wellFormed {c : Compiler} {text : String} {q : Query}
    (h : c.compile text = .ok q) :
    q.anchor = .root ∧ q.WellFormed c.registry ∧ q.nesting ≤ c.limit := by
  obtain ⟨hpath, hnest⟩ := derives_of_compile h
  exact ⟨hpath.path_anchor, hpath.wellFormed, hnest⟩

/-- A filter with a negated call and a comparison, beside a slice. -/
theorem compile_wellFormed_filter :
    let c := Compiler.ofRegistry (.standard .reference)
    ∃ q, c.compile "$[?!match(@.a,'b')&&count(@.*)>=1,-1:2]" = .ok q
      ∧ q.anchor = .root ∧ q.WellFormed c.registry ∧ q.nesting ≤ c.limit := by
  intro c
  obtain ⟨q, hq⟩ : ∃ q, (Compiler.ofRegistry (.standard .reference)).compile
      "$[?!match(@.a,'b')&&count(@.*)>=1,-1:2]" = .ok q := ⟨_, rfl⟩
  exact ⟨q, hq, Compiler.compile_wellFormed hq⟩

end JsonQuery
