import JsonQuery.Marshal
import JsonQuery.Proofs.Query.Typing
import JsonQuery.Proofs.Select.Reach
import JsonQuery.Regex.Reference.Compile

/-
Well-typed queries answer.

No conversion in the evaluation of a well-typed query fails, and no function in it answers
in another kind than its own, whatever the document and the current node. The induction
goes down the tree along with the evaluation. What it carries for a call is the kind of
the answer, since that is what the conversions around the call depend on.
-/

set_option autoImplicit false

namespace JsonQuery

/-! ## Sequences -/

section Sequences

variable {α β : Type}

/-- A sequence of answers is an answer. -/
theorem concatEach_answers {f : α → Except Violation (List β)} {xs : List α}
    (hf : ∀ x ∈ xs, Answers (f x) fun _ => True) : Answers (concatEach f xs) fun _ => True := by
  induction xs with
  | nil => exact .of_ok trivial
  | cons x xs ih =>
    exact (hf x List.mem_cons_self).bind fun here _ =>
      (ih fun z hz => hf z (List.mem_cons_of_mem x hz)).bind fun rest _ => .of_ok trivial

/-- A list is filtered when the test answers of every element. -/
theorem keepIf_answers {test : α → Except Violation Bool}
    (htest : ∀ x, Answers (test x) fun _ => True) (xs : List α) :
    Answers (keepIf test xs) fun _ => True := by
  induction xs with
  | nil => exact .of_ok trivial
  | cons x xs ih => exact (htest x).bind fun kept _ => ih.bind fun rest _ => .of_ok trivial

end Sequences

/-- A walk down answers when the selection at each node does. -/
theorem descend_answers {pick : Json → Except Violation (List (Step × Json))}
    (hpick : ∀ v, Answers (pick v) fun _ => True) (v : Json) :
    Answers (descend pick v) fun _ => True := by
  induction v using Json.childInduction with
  | step v ih =>
    have hchild : ∀ m ∈ v.children, Answers (descendChild pick m) fun _ => True := fun m hm =>
      (ih m.1 m.2 hm).bind fun found _ => .of_ok trivial
    rw [descend_eq]
    exact (hpick v).bind fun here _ =>
      (concatEach_answers hchild).bind fun below _ => .of_ok trivial

/-! ## Calls -/

/-- **A call answers in the kind of its result** when the arguments arrive in the kinds
that they have at compile time. -/
theorem Callee.Admits.apply_answers {f : Callee} {arguments : List Argument}
    (h : f.Admits arguments) {ds : List Datum}
    (hds : List.Forall₂ (fun a d => d.kind = a.kind.carried) arguments ds) :
    Answers (f.apply ds) fun d => d.kind = f.result := by
  obtain ⟨parameters, hobeys, hfits⟩ := h
  -- what arrived in the kinds of the arguments converts to the parameters
  have hconvert : List.Forall₂ (fun d k => d.convert k = .ok ()) ds parameters := by
    rw [List.forall₂_iff_get]
    refine ⟨hds.length_eq.symm.trans hfits.length_eq, fun i hi hk => ?_⟩
    have ha : i < arguments.length := hds.length_eq ▸ hi
    exact Datum.convert_of_convertsTo (hds.get ha hi) (hfits.get ha hk)
  refine (hobeys.answers hconvert).bind fun d hd => ?_
  -- the answer is of the declared kind, so the assertion on it holds
  rw [if_pos hd]
  exact .of_ok hd

/-! ## Evaluation -/

mutual

/-- A selector answers. Only a filter runs anything that could fail. -/
theorem Selector.pick_answers : ∀ (s : Selector) (v root : Json), s.WellTyped →
    Answers (s.pick v root) fun _ => True
  | .name _, _, _, _ | .index _, _, _, _ | .slice _, _, _, _ | .wildcard, _, _, _ => by
    rw [Selector.pick]
    exact .of_ok trivial
  | .filter f, v, root, h => by
    rw [Selector.WellTyped] at h
    rw [Selector.pick]
    exact keepIf_answers (fun c => Formula.holds_answers f c.2 root h) v.children

theorem Selector.pickAll_answers : ∀ (ss : List Selector) (v root : Json),
    Selector.AllWellTyped ss → Answers (Selector.pickAll ss v root) fun _ => True
  | [], _, _, _ => by
    rw [Selector.pickAll]
    exact .of_ok trivial
  | s :: ss, v, root, h => by
    rw [Selector.AllWellTyped] at h
    rw [Selector.pickAll]
    exact (s.pick_answers v root h.1).bind fun here _ =>
      (Selector.pickAll_answers ss v root h.2).bind fun rest _ => .of_ok trivial

/-- A segment answers at every node. -/
theorem Segment.visit_answers : ∀ (s : Segment) (v root : Json), s.WellTyped →
    Answers (s.visit v root) fun _ => True
  | .child ss, v, root, h => by
    rw [Segment.WellTyped] at h
    rw [Segment.visit]
    exact (Selector.pickAll_answers ss v root h).bind fun found _ => .of_ok trivial
  | .descendant ss, v, root, h => by
    rw [Segment.WellTyped] at h
    rw [Segment.visit]
    exact descend_answers (fun n => Selector.pickAll_answers ss n root h) v

theorem Segment.followAll_answers : ∀ (ss : List Segment) (nodes : List Json) (root : Json),
    Segment.AllWellTyped ss → Answers (Segment.followAll ss nodes root) fun _ => True
  | [], _, _, _ => by
    rw [Segment.followAll]
    exact .of_ok trivial
  | s :: ss, nodes, root, h => by
    rw [Segment.AllWellTyped] at h
    rw [Segment.followAll]
    have hvisit : ∀ n ∈ nodes, Answers
        (do let found ← s.visit n root; return found.map Prod.snd) fun _ => True := fun n _ =>
      (s.visit_answers n root h.1).bind fun found _ => .of_ok trivial
    exact (concatEach_answers hvisit).bind fun next _ =>
      Segment.followAll_answers ss next root h.2

/-- **A well-typed query answers**, from any current node and in any document. -/
theorem Query.selectFrom_answers : ∀ (q : Query) (current root : Json), q.WellTyped →
    Answers (q.selectFrom current root) fun _ => True
  | .mk anchor ss, current, root, h => by
    rw [Query.WellTyped] at h
    rw [Query.selectFrom]
    exact Segment.followAll_answers ss _ root h

/-- A formula is decided at every node. -/
theorem Formula.holds_answers : ∀ (f : List (List Condition)) (current root : Json),
    Formula.WellTyped f → Answers (Formula.holds f current root) fun _ => True
  | [], _, _, _ => by
    rw [Formula.holds]
    exact .of_ok trivial
  | c :: cs, current, root, h => by
    rw [Formula.WellTyped] at h
    rw [Formula.holds]
    refine (Condition.allHold_answers c current root h.1).bind fun b _ => ?_
    cases b with
    | true => exact .of_ok trivial
    | false => exact Formula.holds_answers cs current root h.2

theorem Condition.allHold_answers : ∀ (cs : List Condition) (current root : Json),
    Condition.AllWellTyped cs → Answers (Condition.allHold cs current root) fun _ => True
  | [], _, _, _ => by
    rw [Condition.allHold]
    exact .of_ok trivial
  | c :: cs, current, root, h => by
    rw [Condition.AllWellTyped] at h
    rw [Condition.allHold]
    refine (c.holds_answers current root h.1).bind fun b _ => ?_
    cases b with
    | true => exact Condition.allHold_answers cs current root h.2
    | false => exact .of_ok trivial

/-- A condition is decided, a call among them because it has a truth value. -/
theorem Condition.holds_answers : ∀ (c : Condition) (current root : Json), c.WellTyped →
    Answers (c.holds current root) fun _ => True
  | .query _ q, current, root, h => by
    rw [Condition.WellTyped] at h
    rw [Condition.holds]
    exact (q.selectFrom_answers current root h).bind fun found _ => .of_ok trivial
  | .group _ f, current, root, h => by
    rw [Condition.WellTyped] at h
    rw [Condition.holds]
    exact (Formula.holds_answers f current root h).bind fun b _ => .of_ok trivial
  | .compare a _ b, current, root, h => by
    rw [Condition.WellTyped] at h
    rw [Condition.holds]
    exact (a.value_answers current root h.1).bind fun v _ =>
      (b.value_answers current root h.2).bind fun w _ => .of_ok trivial
  | .call _ c, current, root, h => by
    rw [Condition.WellTyped] at h
    rw [Condition.holds]
    refine (c.answer_answers current root h.1).bind fun d hd => ?_
    -- an answer that is no value has a truth value
    have hlogical : Answers d.toLogical fun _ => True := by
      cases d with
      | value v => exact absurd hd.symm h.2
      | nodes ns => exact .of_ok trivial
      | logical b => exact .of_ok trivial
    exact hlogical.bind fun b _ => .of_ok trivial

/-- An operand has a value, or none where its query finds nothing. -/
theorem Operand.value_answers : ∀ (o : Operand) (current root : Json), o.WellTyped →
    Answers (o.value current root) fun _ => True
  | .literal _, _, _, _ | .singular _, _, _, _ => by
    rw [Operand.value]
    exact .of_ok trivial
  | .call c, current, root, h => by
    rw [Operand.WellTyped] at h
    rw [Operand.value]
    refine (c.answer_answers current root h.1).bind fun d hd => ?_
    -- the answer of a call among the operands is a value
    rw [h.2] at hd
    cases d with
    | value v => exact .of_ok trivial
    | nodes ns => cases hd
    | logical b => cases hd

/-- **A call answers in the kind of its result.** -/
theorem Call.answer_answers : ∀ (c : Call) (current root : Json), c.WellTyped →
    Answers (c.answer current root) fun d => d.kind = c.result
  | .mk f as, current, root, h => by
    rw [Call.WellTyped] at h
    rw [Call.answer]
    exact (Argument.data_answers as current root h.1).bind fun ds hds => h.2.apply_answers hds

/-- Arguments arrive in the kinds that they have at compile time. -/
theorem Argument.data_answers : ∀ (as : List Argument) (current root : Json),
    Argument.AllWellTyped as → Answers (Argument.data as current root) fun ds =>
      List.Forall₂ (fun a d => d.kind = a.kind.carried) as ds
  | [], _, _, _ => by
    rw [Argument.data]
    exact .of_ok .nil
  | a :: as, current, root, h => by
    rw [Argument.AllWellTyped] at h
    rw [Argument.data]
    exact (a.datum_answers current root h.1).bind fun d hd =>
      (Argument.data_answers as current root h.2).bind fun ds hds => .of_ok (.cons hd hds)

theorem Argument.datum_answers : ∀ (a : Argument) (current root : Json), a.WellTyped →
    Answers (a.datum current root) fun d => d.kind = a.kind.carried
  | .literal _, _, _, _ | .singular _, _, _, _ => by
    rw [Argument.datum]
    exact .of_ok rfl
  | .query q, current, root, h => by
    rw [Argument.WellTyped] at h
    rw [Argument.datum]
    exact (q.selectFrom_answers current root h).bind fun found _ => .of_ok rfl
  | .formula f, current, root, h => by
    rw [Argument.WellTyped] at h
    rw [Argument.datum]
    exact (Formula.holds_answers f current root h).bind fun b _ => .of_ok rfl
  | .call c, current, root, h => by
    rw [Argument.WellTyped] at h
    rw [Argument.datum]
    refine (c.answer_answers current root h).mono fun d hd => ?_
    rw [hd]
    exact (ArgumentKind.carried_ofKind c.result).symm

end

/-! ## Located nodes -/

/-- Segments answer with locations as they do without. -/
theorem Segment.followLocated_answers (ss : List Segment) (nodes : List Located) (root : Json)
    (h : Segment.AllWellTyped ss) :
    Answers (Segment.followLocated ss nodes root) fun _ => True := by
  induction ss generalizing nodes with
  | nil => exact .of_ok trivial
  | cons s ss ih =>
    rw [Segment.AllWellTyped] at h
    rw [followLocated_cons]
    have hextend : ∀ n ∈ nodes, Answers (s.extend root n) fun _ => True := fun n _ =>
      (s.visit_answers n.node root h.1).bind fun found _ => .of_ok trivial
    exact (concatEach_answers hextend).bind fun next _ => ih next h.2

/-- A well-typed query answers with locations too. -/
theorem Query.selectLocatedFrom_answers (q : Query) (current root : Json) (h : q.WellTyped) :
    Answers (q.selectLocatedFrom current root) fun _ => True := by
  obtain ⟨anchor, ss⟩ := q
  rw [WellTyped] at h
  exact Segment.followLocated_answers ss _ root h

/-! ## Compiled queries -/

/-- **A compiled query never violates a contract.** Where functions keep the contracts of
their signatures, a query that compiles answers from every current node and in every
document, and so does every query in its filters, at any depth. -/
theorem Compiler.compile_answers {c : Compiler} (h : c.registry.KeepsContracts) {text : String}
    {q : Query} (hq : c.compile text = .ok q) :
    ∀ p ∈ q.embedded, ∀ current root : Json,
      (∃ found, p.selectFrom current root = .ok found)
        ∧ ∃ found, p.selectLocatedFrom current root = .ok found := by
  intro p hp current root
  have htyped : p.WellTyped := Query.wellTyped_of_embedded q (compile_wellTyped h hq) hp
  obtain ⟨nodes, hnodes, -⟩ := p.selectFrom_answers current root htyped
  obtain ⟨located, hlocated, -⟩ := p.selectLocatedFrom_answers current root htyped
  exact ⟨⟨nodes, hnodes⟩, ⟨located, hlocated⟩⟩

/-- The query in the filter of `$[?count(@.*)>0]` answers everywhere, standing where a function
takes it. -/
theorem compile_answers_standard :
    (Compiler.standard .reference).registry.KeepsContracts
      ∧ ∃ q, (Compiler.standard .reference).compile (String.ofList "$[?count(@.*)>0]".toList)
          = .ok q
        ∧ .mk .current [.child [.wildcard]] ∈ q.embedded
        ∧ ∀ current root : Json, ∃ found,
          (Query.mk .current [.child [.wildcard]]).selectFrom current root = .ok found := by
  have hstandard : (Compiler.standard .reference).registry.KeepsContracts :=
    Registry.keepsContracts_standard .reference
  have h : (Compiler.standard .reference).compile (String.ofList "$[?count(@.*)>0]".toList)
      = .ok (.mk .root [.child [.filter [[.compare
        (.call (.mk ⟨"count", .value, Standard.count⟩ [.query (.mk .current [.child [.wildcard]])]))
        .gt (.literal (.number (.integer 0)))]]]]) := by
    -- the characters are given as a list, which unfolds
    rw [Compiler.compile, tokenize, String.toList_ofList]
    rfl
  have hmem : Query.mk .current [.child [.wildcard]] ∈ Query.embedded
      (.mk .root [.child [.filter [[.compare
        (.call (.mk ⟨"count", .value, Standard.count⟩ [.query (.mk .current [.child [.wildcard]])]))
        .gt (.literal (.number (.integer 0)))]]]]) := by
    simp [Query.embedded, Segment.allEmbedded, Segment.embedded, Selector.allEmbedded,
      Selector.embedded, Formula.embedded, Condition.allEmbedded, Condition.embedded,
      Operand.embedded, Call.embedded, Argument.allEmbedded, Argument.embedded]
  exact ⟨hstandard, _, h, hmem, fun current root =>
    (Compiler.compile_answers hstandard h _ hmem current root).1⟩

end JsonQuery
