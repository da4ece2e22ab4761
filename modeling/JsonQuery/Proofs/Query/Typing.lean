import JsonQuery.Proofs.Function.Contract
import JsonQuery.Proofs.Grammar.Acceptance

/-
Well-typed queries.

A query is well typed when every call has arguments that its function admits, every
call among the operands answers a value and every call among the conditions answers no
value. The grammar checks all of this where it reads a call; here it becomes a property
of the tree, which its evaluation needs.
-/

set_option autoImplicit false

namespace JsonQuery

/-- **Whether a function may be called with arguments**: it keeps a contract for
parameters that the arguments fit. -/
def Callee.Admits (f : Callee) (arguments : List Argument) : Prop :=
  ∃ parameters, Obeys parameters f.result f.evaluate ∧ Fits arguments parameters

/-! ## Trees -/

mutual

/-- A selector is well typed when its formula is. -/
def Selector.WellTyped : Selector → Prop
  | .filter f => Formula.WellTyped f
  | _ => True

def Selector.AllWellTyped : List Selector → Prop
  | [] => True
  | s :: ss => s.WellTyped ∧ Selector.AllWellTyped ss

def Segment.WellTyped : Segment → Prop
  | .child ss | .descendant ss => Selector.AllWellTyped ss

def Segment.AllWellTyped : List Segment → Prop
  | [] => True
  | s :: ss => s.WellTyped ∧ Segment.AllWellTyped ss

/-- **Well-typed queries.** -/
def Query.WellTyped : Query → Prop
  | .mk _ ss => Segment.AllWellTyped ss

def Formula.WellTyped : List (List Condition) → Prop
  | [] => True
  | c :: cs => Condition.AllWellTyped c ∧ Formula.WellTyped cs

def Condition.AllWellTyped : List Condition → Prop
  | [] => True
  | c :: cs => c.WellTyped ∧ Condition.AllWellTyped cs

/-- A call is a condition when it answers no value. -/
def Condition.WellTyped : Condition → Prop
  | .query _ q => q.WellTyped
  | .group _ f => Formula.WellTyped f
  | .compare a _ b => a.WellTyped ∧ b.WellTyped
  | .call _ c => c.WellTyped ∧ c.result ≠ .value

/-- A call is an operand when it answers a value. -/
def Operand.WellTyped : Operand → Prop
  | .call c => c.WellTyped ∧ c.result = .value
  | _ => True

/-- A call is well typed when its function admits its arguments. -/
def Call.WellTyped : Call → Prop
  | .mk f as => Argument.AllWellTyped as ∧ f.Admits as

def Argument.AllWellTyped : List Argument → Prop
  | [] => True
  | a :: as => a.WellTyped ∧ Argument.AllWellTyped as

def Argument.WellTyped : Argument → Prop
  | .query q => q.WellTyped
  | .formula f => Formula.WellTyped f
  | .call c => c.WellTyped
  | _ => True

end

/-! ## Embedded queries -/

mutual

/-- The queries in the formula of a selector. -/
def Selector.embedded : Selector → List Query
  | .filter f => Formula.embedded f
  | _ => []

def Selector.allEmbedded : List Selector → List Query
  | [] => []
  | s :: ss => s.embedded ++ Selector.allEmbedded ss

def Segment.embedded : Segment → List Query
  | .child ss | .descendant ss => Selector.allEmbedded ss

def Segment.allEmbedded : List Segment → List Query
  | [] => []
  | s :: ss => s.embedded ++ Segment.allEmbedded ss

/-- **A query and the queries in its filters**, at any depth. -/
def Query.embedded : Query → List Query
  | .mk anchor ss => .mk anchor ss :: Segment.allEmbedded ss

def Formula.embedded : List (List Condition) → List Query
  | [] => []
  | c :: cs => Condition.allEmbedded c ++ Formula.embedded cs

def Condition.allEmbedded : List Condition → List Query
  | [] => []
  | c :: cs => c.embedded ++ Condition.allEmbedded cs

def Condition.embedded : Condition → List Query
  | .query _ q => q.embedded
  | .group _ f => Formula.embedded f
  | .compare a _ b => a.embedded ++ b.embedded
  | .call _ c => c.embedded

def Operand.embedded : Operand → List Query
  | .call c => c.embedded
  | _ => []

def Call.embedded : Call → List Query
  | .mk _ as => Argument.allEmbedded as

def Argument.allEmbedded : List Argument → List Query
  | [] => []
  | a :: as => a.embedded ++ Argument.allEmbedded as

def Argument.embedded : Argument → List Query
  | .query q => q.embedded
  | .formula f => Formula.embedded f
  | .call c => c.embedded
  | _ => []

end

mutual

/-- The queries in a well-typed selector are well typed. -/
theorem Selector.wellTyped_of_embedded {p : Query} :
    ∀ s : Selector, s.WellTyped → p ∈ s.embedded → p.WellTyped
  | .filter f, h, hp => by
    simp only [Selector.WellTyped, Selector.embedded] at h hp
    exact Formula.wellTyped_of_embedded f h hp
  | .name _, _, hp | .index _, _, hp | .slice _, _, hp | .wildcard, _, hp => by
    simp only [Selector.embedded, List.not_mem_nil] at hp

theorem Selector.wellTyped_of_allEmbedded {p : Query} :
    ∀ ss : List Selector, Selector.AllWellTyped ss → p ∈ Selector.allEmbedded ss → p.WellTyped
  | [], _, hp => by simp only [Selector.allEmbedded, List.not_mem_nil] at hp
  | s :: ss, h, hp => by
    simp only [Selector.AllWellTyped, Selector.allEmbedded, List.mem_append] at h hp
    rcases hp with hp | hp
    · exact s.wellTyped_of_embedded h.1 hp
    · exact Selector.wellTyped_of_allEmbedded ss h.2 hp

/-- The queries in a well-typed segment are well typed. -/
theorem Segment.wellTyped_of_embedded {p : Query} :
    ∀ s : Segment, s.WellTyped → p ∈ s.embedded → p.WellTyped
  | .child ss, h, hp | .descendant ss, h, hp => by
    simp only [Segment.WellTyped, Segment.embedded] at h hp
    exact Selector.wellTyped_of_allEmbedded ss h hp

theorem Segment.wellTyped_of_allEmbedded {p : Query} :
    ∀ ss : List Segment, Segment.AllWellTyped ss → p ∈ Segment.allEmbedded ss → p.WellTyped
  | [], _, hp => by simp only [Segment.allEmbedded, List.not_mem_nil] at hp
  | s :: ss, h, hp => by
    simp only [Segment.AllWellTyped, Segment.allEmbedded, List.mem_append] at h hp
    rcases hp with hp | hp
    · exact s.wellTyped_of_embedded h.1 hp
    · exact Segment.wellTyped_of_allEmbedded ss h.2 hp

/-- **The queries in a well-typed query are well typed.** -/
theorem Query.wellTyped_of_embedded {p : Query} :
    ∀ q : Query, q.WellTyped → p ∈ q.embedded → p.WellTyped
  | .mk anchor ss, h, hp => by
    simp only [Query.embedded, List.mem_cons] at hp
    rcases hp with rfl | hp
    · exact h
    · rw [Query.WellTyped] at h
      exact Segment.wellTyped_of_allEmbedded ss h hp

/-- The queries in a well-typed formula are well typed. -/
theorem Formula.wellTyped_of_embedded {p : Query} :
    ∀ f : List (List Condition), Formula.WellTyped f → p ∈ Formula.embedded f → p.WellTyped
  | [], _, hp => by simp only [Formula.embedded, List.not_mem_nil] at hp
  | c :: cs, h, hp => by
    simp only [Formula.WellTyped, Formula.embedded, List.mem_append] at h hp
    rcases hp with hp | hp
    · exact Condition.wellTyped_of_allEmbedded c h.1 hp
    · exact Formula.wellTyped_of_embedded cs h.2 hp

theorem Condition.wellTyped_of_allEmbedded {p : Query} :
    ∀ cs : List Condition, Condition.AllWellTyped cs → p ∈ Condition.allEmbedded cs →
      p.WellTyped
  | [], _, hp => by simp only [Condition.allEmbedded, List.not_mem_nil] at hp
  | c :: cs, h, hp => by
    simp only [Condition.AllWellTyped, Condition.allEmbedded, List.mem_append] at h hp
    rcases hp with hp | hp
    · exact c.wellTyped_of_embedded h.1 hp
    · exact Condition.wellTyped_of_allEmbedded cs h.2 hp

/-- The queries in a well-typed condition are well typed, those on both sides of a comparison among
them. -/
theorem Condition.wellTyped_of_embedded {p : Query} :
    ∀ c : Condition, c.WellTyped → p ∈ c.embedded → p.WellTyped
  | .query _ q, h, hp => by
    simp only [Condition.WellTyped, Condition.embedded] at h hp
    exact Query.wellTyped_of_embedded q h hp
  | .group _ f, h, hp => by
    simp only [Condition.WellTyped, Condition.embedded] at h hp
    exact Formula.wellTyped_of_embedded f h hp
  | .compare a _ b, h, hp => by
    simp only [Condition.WellTyped, Condition.embedded, List.mem_append] at h hp
    rcases hp with hp | hp
    · exact a.wellTyped_of_embedded h.1 hp
    · exact b.wellTyped_of_embedded h.2 hp
  | .call _ c, h, hp => by
    simp only [Condition.WellTyped, Condition.embedded] at h hp
    exact c.wellTyped_of_embedded h.1 hp

/-- The queries in a well-typed operand are well typed. A singular one is not embedded. -/
theorem Operand.wellTyped_of_embedded {p : Query} :
    ∀ o : Operand, o.WellTyped → p ∈ o.embedded → p.WellTyped
  | .call c, h, hp => by
    simp only [Operand.WellTyped, Operand.embedded] at h hp
    exact c.wellTyped_of_embedded h.1 hp
  | .literal _, _, hp | .singular _, _, hp => by
    simp only [Operand.embedded, List.not_mem_nil] at hp

/-- The queries in the arguments of a well-typed call are well typed. -/
theorem Call.wellTyped_of_embedded {p : Query} :
    ∀ c : Call, c.WellTyped → p ∈ c.embedded → p.WellTyped
  | .mk _ as, h, hp => by
    simp only [Call.WellTyped, Call.embedded] at h hp
    exact Argument.wellTyped_of_allEmbedded as h.1 hp

theorem Argument.wellTyped_of_allEmbedded {p : Query} :
    ∀ as : List Argument, Argument.AllWellTyped as → p ∈ Argument.allEmbedded as → p.WellTyped
  | [], _, hp => by simp only [Argument.allEmbedded, List.not_mem_nil] at hp
  | a :: as, h, hp => by
    simp only [Argument.AllWellTyped, Argument.allEmbedded, List.mem_append] at h hp
    rcases hp with hp | hp
    · exact a.wellTyped_of_embedded h.1 hp
    · exact Argument.wellTyped_of_allEmbedded as h.2 hp

/-- The queries in a well-typed argument are well typed. -/
theorem Argument.wellTyped_of_embedded {p : Query} :
    ∀ a : Argument, a.WellTyped → p ∈ a.embedded → p.WellTyped
  | .query q, h, hp => by
    simp only [Argument.WellTyped, Argument.embedded] at h hp
    exact Query.wellTyped_of_embedded q h hp
  | .formula f, h, hp => by
    simp only [Argument.WellTyped, Argument.embedded] at h hp
    exact Formula.wellTyped_of_embedded f h hp
  | .call c, h, hp => by
    simp only [Argument.WellTyped, Argument.embedded] at h hp
    exact c.wellTyped_of_embedded h hp
  | .literal _, _, hp | .singular _, _, hp => by
    simp only [Argument.embedded, List.not_mem_nil] at hp

end

/-! ## Compiled queries -/

/-- What it means for a phrase's tree to be well typed. -/
def Phrase.WellTyped : (p : Phrase) → p.Tree → Prop
  | path, q | query, q => Query.WellTyped q
  | segments, ss => Segment.AllWellTyped ss
  | segment, s => Segment.WellTyped s
  | selectors, ss => Selector.AllWellTyped ss
  | selector, s => Selector.WellTyped s
  | formula, f | group, f => Formula.WellTyped f
  | conjunction, cs => Condition.AllWellTyped cs
  | condition, c => Condition.WellTyped c
  | call, c => Call.WellTyped c
  | arguments, xs => Argument.AllWellTyped xs
  | operand, o => Operand.WellTyped o
  | argument, x => Argument.WellTyped x

/-- A function admits the arguments that its own check lets through. -/
theorem Function.KeepsContract.admits {f : Function} (h : f.KeepsContract) {xs : List Argument}
    (valid : f.validate xs = .ok ()) : f.callee.Admits xs := by
  obtain ⟨s, evaluate, rfl, hobeys⟩ := h
  exact ⟨s.parameters, hobeys, Function.validate_ofSignature_eq_ok_iff.mp valid⟩

/-- **What the grammar derives is well typed** where functions keep their contracts. -/
theorem Derives.wellTyped {r : Registry} (hr : r.KeepsContracts) {p : Phrase}
    {a b : List Lexeme} {x : p.Tree} (h : Derives r p a x b) : p.WellTyped x := by
  -- one case for a production; its parts are well typed by induction
  induction h with
  | path _ ih | query _ _ ih => simpa only [Phrase.WellTyped, Query.WellTyped] using ih
  | noSegment => simp only [Phrase.WellTyped, Segment.AllWellTyped]
  | nextSegment _ _ _ ihFirst ihRest =>
    simp only [Phrase.WellTyped, Segment.AllWellTyped] at *
    exact ⟨ihFirst, ihRest⟩
  | dotName | dotWildcard | dotsName | dotsWildcard =>
    simp only [Phrase.WellTyped, Segment.WellTyped, Selector.AllWellTyped, Selector.WellTyped,
      and_self]
  | dotsBrackets _ ih | brackets _ ih => simpa only [Phrase.WellTyped, Segment.WellTyped] using ih
  | lastSelector _ _ _ ih =>
    simp only [Phrase.WellTyped, Selector.AllWellTyped] at *
    exact ⟨ih, trivial⟩
  | nextSelector _ _ _ _ ihFirst ihRest =>
    simp only [Phrase.WellTyped, Selector.AllWellTyped] at *
    exact ⟨ihFirst, ihRest⟩
  | name | wildcard | index | slice => simp only [Phrase.WellTyped, Selector.WellTyped]
  | filter _ _ ih => simpa only [Phrase.WellTyped, Selector.WellTyped] using ih
  | lastBranch _ ih =>
    simp only [Phrase.WellTyped, Formula.WellTyped] at *
    exact ⟨ih, trivial⟩
  | nextBranch _ _ _ _ ihFirst ihRest =>
    simp only [Phrase.WellTyped, Formula.WellTyped] at *
    exact ⟨ihFirst, ihRest⟩
  | lastCondition _ ih =>
    simp only [Phrase.WellTyped, Condition.AllWellTyped] at *
    exact ⟨ih, trivial⟩
  | nextCondition _ _ _ _ ihFirst ihRest =>
    simp only [Phrase.WellTyped, Condition.AllWellTyped] at *
    exact ⟨ihFirst, ihRest⟩
  | testQuery _ ih | testGroup _ ih | notQuery _ _ ih | notGroup _ _ ih =>
    simpa only [Phrase.WellTyped, Condition.WellTyped] using ih
  | testCall _ result ih | notCall _ _ result ih =>
    simp only [Phrase.WellTyped, Condition.WellTyped] at *
    exact ⟨ih, result⟩
  | compare _ _ _ _ ihLeft ihRight =>
    simp only [Phrase.WellTyped, Condition.WellTyped] at *
    exact ⟨ihLeft, ihRight⟩
  | group _ _ _ ih => exact ih
  | bareCall found _ valid =>
    simp only [Phrase.WellTyped, Call.WellTyped, Argument.AllWellTyped, true_and]
    exact (hr.of_lookup found).admits valid
  | call found _ valid ih =>
    simp only [Phrase.WellTyped, Call.WellTyped] at *
    exact ⟨ih, (hr.of_lookup found).admits valid⟩
  | lastArgument _ _ _ ih =>
    simp only [Phrase.WellTyped, Argument.AllWellTyped] at *
    exact ⟨ih, trivial⟩
  | nextArgument _ _ _ _ ihFirst ihRest =>
    simp only [Phrase.WellTyped, Argument.AllWellTyped] at *
    exact ⟨ihFirst, ihRest⟩
  | literalOperand | queryOperand => simp only [Phrase.WellTyped, Operand.WellTyped]
  | callOperand _ result ih =>
    simp only [Phrase.WellTyped, Operand.WellTyped] at *
    exact ⟨ih, result⟩
  | literalArgument | singularArgument => simp only [Phrase.WellTyped, Argument.WellTyped]
  | queryArgument _ _ ih | callArgument _ ih | formulaArgument _ _ ih =>
    simpa only [Phrase.WellTyped, Argument.WellTyped] using ih

/-- **A compiled query is well typed.** -/
theorem Compiler.compile_wellTyped {c : Compiler} (h : c.registry.KeepsContracts)
    {text : String} {q : Query} (hq : c.compile text = .ok q) : q.WellTyped :=
  (derives_of_compile hq).1.wellTyped h

end JsonQuery
