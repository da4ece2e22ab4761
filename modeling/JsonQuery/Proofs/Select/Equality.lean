import JsonQuery.Proofs.Query.ZeroSign
import JsonQuery.Proofs.Select.Progress
import JsonQuery.Regex.Reference.Compile

/-
Equal queries select equally.

Equal queries over one registry are the same query but for the signs of their zeros, so it
is enough that a query selects what it selects with its zeros unsigned
(`Query.selectFrom_unsignZeros`). A literal comes into an evaluation as an operand or as an
argument. Comparisons go by the value of a number, which a zero has without its sign
(`Comparator.holds_congr`), and the standard functions look into texts, arrays, objects and
lists of nodes but not into numbers (`Standard.ignoresZeroSigns`).

The induction follows the evaluation. For an operand or an argument it says that the two
evaluations agree up to the sign of a zero, and for everything around these that they agree.
-/

set_option autoImplicit false

namespace JsonQuery

/-! ## Values -/

/-- A sign is lost once. -/
theorem Binary64.unsignZero_unsignZero (x : Binary64) : x.unsignZero.unsignZero = x.unsignZero := by
  by_cases hx : x.units = 0
  · simp [unsignZero, hx, zero]
  · simp [unsignZero, hx]

theorem Number.unsignZero_unsignZero (n : Number) : n.unsignZero.unsignZero = n.unsignZero := by
  cases n with
  | integer i => rfl
  | float x => rw [unsignZero, unsignZero, x.unsignZero_unsignZero]

theorem Json.unsignZero_unsignZero (v : Json) : v.unsignZero.unsignZero = v.unsignZero := by
  cases v with
  | number n => rw [unsignZero, unsignZero, n.unsignZero_unsignZero]
  | _ => rfl

/-- **A number has its value without the sign of a zero.** -/
theorem Number.value_unsignZero (n : Number) : n.unsignZero.value = n.value := by
  cases n with
  | integer i => rfl
  | float x => exact Binary64.value_eq_iff.mpr x.unsignZero_unsignZero

/-- Only numbers have signs. -/
theorem Json.eq_or_numbers {a b : Option Json} (h : a.map unsignZero = b.map unsignZero) :
    a = b ∨ ∃ m n, a = some (.number m) ∧ b = some (.number n) := by
  cases a with
  | none => exact .inl (Option.map_eq_none_iff.mp h.symm).symm
  | some v =>
    cases b with
    | none => cases h
    | some w =>
      cases v with
      | number m =>
        cases w with
        | number n => exact .inr ⟨m, n, rfl, rfl⟩
        | _ => cases h
      | _ =>
        cases w with
        | number n => cases h
        | _ => exact .inl h

/-! ## Comparisons -/

/-- Values are the same whatever the signs of zeros. -/
theorem Json.same_unsignZero (v w : Json) : v.unsignZero.same w.unsignZero = v.same w := by
  cases v with
  | number m => cases w <;> simp [unsignZero, same, m.value_unsignZero, Number.value_unsignZero]
  | _ => cases w <;> simp [unsignZero, same]

/-- One value comes before the other whatever the signs of zeros. -/
theorem Json.precedes_unsignZero (v w : Json) :
    v.unsignZero.precedes w.unsignZero = v.precedes w := by
  cases v with
  | number m => cases w <;> simp [unsignZero, precedes, Number.value_unsignZero]
  | _ => cases w <;> simp [unsignZero, precedes]

/-- Operands are equal whatever the signs of zeros. -/
theorem equalTo_unsignZero (a b : Option Json) :
    equalTo (a.map Json.unsignZero) (b.map Json.unsignZero) = equalTo a b := by
  cases a with
  | none => cases b <;> rfl
  | some v =>
    cases b with
    | none => rfl
    | some w => exact v.same_unsignZero w

/-- One operand is less than the other whatever the signs of zeros. -/
theorem lessThan_unsignZero (a b : Option Json) :
    lessThan (a.map Json.unsignZero) (b.map Json.unsignZero) = lessThan a b := by
  cases a with
  | none => cases b <;> rfl
  | some v =>
    cases b with
    | none => rfl
    | some w => exact v.precedes_unsignZero w

/-- Every comparison holds whatever the signs of zeros. -/
theorem Comparator.holds_unsignZero (op : Comparator) (a b : Option Json) :
    op.holds (a.map Json.unsignZero) (b.map Json.unsignZero) = op.holds a b := by
  cases op <;> simp only [holds, equalTo_unsignZero, lessThan_unsignZero]

/-- **Comparisons do not tell operands apart by the sign of a zero.** -/
theorem Comparator.holds_congr (op : Comparator) {a a' b b' : Option Json}
    (ha : a.map Json.unsignZero = a'.map Json.unsignZero)
    (hb : b.map Json.unsignZero = b'.map Json.unsignZero) : op.holds a b = op.holds a' b' := by
  rw [← op.holds_unsignZero a, ha, hb, op.holds_unsignZero]

/-! ## Functions -/

/-- The datum itself, or a zero of binary64 without a sign. -/
def Datum.unsignZero : Datum → Datum
  | .value v => .value (v.map Json.unsignZero)
  | d => d

/-- What a datum is as a value depends on the sign of a zero in that sign only. -/
theorem Datum.toValue_unsignZero (d : Datum) :
    Option.map Json.unsignZero <$> d.unsignZero.toValue
      = Option.map Json.unsignZero <$> d.toValue := by
  cases d with
  | value v =>
    cases v with
    | none => rfl
    | some w => exact congrArg (fun x => Except.ok (some x)) w.unsignZero_unsignZero
  | nodes ns => rfl
  | logical b => rfl

/-- **Whether a function answers alike** whatever the signs of zeros among its arguments. -/
def Callee.IgnoresZeroSigns (f : Callee) : Prop :=
  ∀ ds, f.evaluate (ds.map Datum.unsignZero) = f.evaluate ds

/-- Such a function answers alike to arguments that differ in the signs of zeros. -/
theorem Callee.IgnoresZeroSigns.apply_congr {f : Callee} (h : f.IgnoresZeroSigns)
    {ds es : List Datum} (hds : ds.map Datum.unsignZero = es.map Datum.unsignZero) :
    f.apply ds = f.apply es := by
  rw [apply, apply, ← h ds, hds, h es]

/-- No function of the registry tells zeros apart by their signs. -/
def Registry.IgnoresZeroSigns (r : Registry) : Prop :=
  ∀ f ∈ r.functions, f.callee.IgnoresZeroSigns

namespace Standard

/-- A number has no length, with either sign. -/
theorem bind_lengthOf_unsignZero (v : Option Json) :
    (v.map Json.unsignZero).bind lengthOf = v.bind lengthOf := by
  rcases v with _ | w
  · rfl
  · cases w <;> rfl

/-- The length of a value does not depend on the signs of zeros. -/
theorem length_unsignZero (ds : List Datum) : length (ds.map Datum.unsignZero) = length ds := by
  cases ds with
  | nil => rfl
  | cons d ds =>
    rw [List.map_cons, length, length]
    -- the argument is looked at as a value only, and there the sign is gone
    refine bind_congr_view d.toValue_unsignZero fun a b hab => ?_
    rw [← bind_lengthOf_unsignZero a, hab, bind_lengthOf_unsignZero]

/-- The count of nodes does not depend on the signs of zeros. -/
theorem count_unsignZero (ds : List Datum) : count (ds.map Datum.unsignZero) = count ds := by
  cases ds with
  | nil => rfl
  | cons d ds => cases d <;> rfl

/-- The value of a node does not depend on the signs of zeros. -/
theorem value_unsignZero (ds : List Datum) : value (ds.map Datum.unsignZero) = value ds := by
  cases ds with
  | nil => rfl
  | cons d ds => cases d <;> rfl

/-- A test of texts does not see the signs of zeros. -/
theorem textTest_unsignZero (test : String → String → Bool) (ds : List Datum) :
    textTest test (ds.map Datum.unsignZero) = textTest test ds := by
  match ds with
  | [] => rfl
  | [d] => exact bind_congr_view d.toValue_unsignZero fun _ _ _ => rfl
  | d :: e :: ds =>
    rw [List.map_cons, List.map_cons, textTest, textTest]
    refine bind_congr_view d.toValue_unsignZero fun a a' ha => ?_
    refine bind_congr_view e.toValue_unsignZero fun b b' hb => ?_
    -- a number is no text, with either sign
    rcases Json.eq_or_numbers ha with rfl | ⟨m, n, rfl, rfl⟩
    · rcases Json.eq_or_numbers hb with rfl | ⟨m, n, rfl, rfl⟩
      · rfl
      · cases a with
        | none => rfl
        | some v => cases v <;> rfl
    · rfl

/-- **The standard functions do not see the sign of a zero.** -/
theorem ignoresZeroSigns {engine : Engine} {f : Function} (hf : f ∈ functions engine) :
    f.callee.IgnoresZeroSigns := by
  simp only [functions, List.mem_cons, List.not_mem_nil, or_false] at hf
  rcases hf with rfl | rfl | rfl | rfl | rfl
  · exact length_unsignZero
  · exact count_unsignZero
  · exact value_unsignZero
  · exact textTest_unsignZero _
  · exact textTest_unsignZero _

end Standard

/-! ## Evaluation -/

section

variable {r : Registry} {root : Json}

mutual

/-- A selector picks the same children. Only a filter has literals. -/
theorem Selector.pick_unsignZeros (hr : r.IgnoresZeroSigns) : ∀ (s : Selector) (v : Json),
    s.WellFormed r → s.unsignZeros.pick v root = s.pick v root
  | .filter f, v, h => by
    rw [Selector.WellFormed] at h
    simp only [Selector.unsignZeros, Selector.pick,
      fun c => Formula.holds_unsignZeros hr f c h.2]
  | .name _, _, _ | .index _, _, _ | .slice _, _, _ | .wildcard, _, _ => by
    simp only [Selector.unsignZeros]

theorem Selector.pickAll_unsignAll (hr : r.IgnoresZeroSigns) : ∀ (ss : List Selector) (v : Json),
    Selector.AllWellFormed r ss →
    Selector.pickAll (Selector.unsignAll ss) v root = Selector.pickAll ss v root
  | [], _, _ => by rw [Selector.unsignAll]
  | s :: ss, v, h => by
    rw [Selector.AllWellFormed] at h
    rw [Selector.unsignAll, Selector.pickAll, Selector.pickAll, s.pick_unsignZeros hr v h.1,
      Selector.pickAll_unsignAll hr ss v h.2]

/-- A segment finds the same nodes. -/
theorem Segment.visit_unsignZeros (hr : r.IgnoresZeroSigns) : ∀ (s : Segment) (v : Json),
    s.WellFormed r → s.unsignZeros.visit v root = s.visit v root
  | .child ss, v, h => by
    rw [Segment.WellFormed] at h
    rw [Segment.unsignZeros, Segment.visit, Segment.visit,
      Selector.pickAll_unsignAll hr ss v h.2]
  | .descendant ss, v, h => by
    rw [Segment.WellFormed] at h
    simp only [Segment.unsignZeros, Segment.visit,
      fun n => Selector.pickAll_unsignAll hr ss n h.2]

theorem Segment.followAll_unsignAll (hr : r.IgnoresZeroSigns) :
    ∀ (ss : List Segment) (nodes : List Json), Segment.AllWellFormed r ss →
    Segment.followAll (Segment.unsignAll ss) nodes root = Segment.followAll ss nodes root
  | [], _, _ => by rw [Segment.unsignAll]
  | s :: ss, nodes, h => by
    rw [Segment.AllWellFormed] at h
    simp only [Segment.unsignAll, Segment.followAll, fun n => s.visit_unsignZeros hr n h.1,
      fun next => Segment.followAll_unsignAll hr ss next h.2]

/-- **A query selects the same nodes when its zeros lose their signs.** -/
theorem Query.selectFrom_unsignZeros (hr : r.IgnoresZeroSigns) : ∀ (q : Query) (current : Json),
    q.WellFormed r → q.unsignZeros.selectFrom current root = q.selectFrom current root
  | .mk anchor ss, current, h => by
    rw [Query.WellFormed] at h
    rw [Query.unsignZeros, Query.selectFrom, Query.selectFrom,
      Segment.followAll_unsignAll hr ss _ h]

/-- A formula holds at the same nodes. -/
theorem Formula.holds_unsignZeros (hr : r.IgnoresZeroSigns) :
    ∀ (f : List (List Condition)) (current : Json), Formula.AllWellFormed r f →
    Formula.holds (Formula.unsignZeros f) current root = Formula.holds f current root
  | [], _, _ => by rw [Formula.unsignZeros]
  | c :: cs, current, h => by
    rw [Formula.AllWellFormed] at h
    rw [Formula.unsignZeros, Formula.holds, Formula.holds,
      Condition.allHold_unsignAll hr c current h.1.2,
      Formula.holds_unsignZeros hr cs current h.2]

theorem Condition.allHold_unsignAll (hr : r.IgnoresZeroSigns) :
    ∀ (cs : List Condition) (current : Json), Condition.AllWellFormed r cs →
    Condition.allHold (Condition.unsignAll cs) current root = Condition.allHold cs current root
  | [], _, _ => by rw [Condition.unsignAll]
  | c :: cs, current, h => by
    rw [Condition.AllWellFormed] at h
    rw [Condition.unsignAll, Condition.allHold, Condition.allHold,
      c.holds_unsignZeros hr current h.1, Condition.allHold_unsignAll hr cs current h.2]

/-- A condition holds at the same nodes. A comparison has operands that agree up to the sign of a
zero, which is as far as it looks. -/
theorem Condition.holds_unsignZeros (hr : r.IgnoresZeroSigns) : ∀ (c : Condition) (current : Json),
    c.WellFormed r → c.unsignZeros.holds current root = c.holds current root
  | .query _ q, current, h => by
    rw [Condition.WellFormed] at h
    rw [Condition.unsignZeros, Condition.holds, Condition.holds,
      q.selectFrom_unsignZeros hr current h]
  | .group _ f, current, h => by
    rw [Condition.WellFormed] at h
    rw [Condition.unsignZeros, Condition.holds, Condition.holds,
      Formula.holds_unsignZeros hr f current h.2]
  | .compare a op b, current, h => by
    rw [Condition.WellFormed] at h
    rw [Condition.unsignZeros, Condition.holds, Condition.holds]
    refine bind_congr_view (a.value_unsignZeros hr current h.1) fun v v' hv => ?_
    refine bind_congr_view (b.value_unsignZeros hr current h.2) fun w w' hw => ?_
    rw [op.holds_congr hv hw]
  | .call _ c, current, h => by
    rw [Condition.WellFormed] at h
    rw [Condition.unsignZeros, Condition.holds, Condition.holds,
      c.answer_unsignZeros hr current h.1]

/-- An operand has its value up to the sign of a zero. -/
theorem Operand.value_unsignZeros (hr : r.IgnoresZeroSigns) : ∀ (o : Operand) (current : Json),
    o.WellFormed r →
    Option.map Json.unsignZero <$> o.unsignZeros.value current root
      = Option.map Json.unsignZero <$> o.value current root
  | .literal v, current, _ => by
    rw [Operand.unsignZeros, Operand.value, Operand.value, map_ok, map_ok, Option.map_some,
      Option.map_some, v.unsignZero_unsignZero]
  | .singular q, _, _ => by rw [Operand.unsignZeros]
  | .call c, current, h => by
    rw [Operand.WellFormed] at h
    rw [Operand.unsignZeros, Operand.value, Operand.value,
      c.answer_unsignZeros hr current h.1]

/-- **A call answers the same**, because its function does not see the signs. -/
theorem Call.answer_unsignZeros (hr : r.IgnoresZeroSigns) : ∀ (c : Call) (current : Json),
    c.WellFormed r → c.unsignZeros.answer current root = c.answer current root
  | .mk callee xs, current, h => by
    rw [Call.WellFormed] at h
    obtain ⟨⟨f, hlookup, rfl, -⟩, hxs⟩ := h
    -- the function that the call names is one of the registry
    have hf := hr f (List.mem_of_find?_eq_some hlookup)
    rw [Call.unsignZeros, Call.answer, Call.answer]
    exact bind_congr_view (Argument.data_unsignAll hr xs current hxs) fun ds es hds =>
      hf.apply_congr hds

/-- Arguments are the same data up to the signs of zeros. -/
theorem Argument.data_unsignAll (hr : r.IgnoresZeroSigns) : ∀ (xs : List Argument) (current : Json),
    Argument.AllWellFormed r xs →
    List.map Datum.unsignZero <$> Argument.data (Argument.unsignAll xs) current root
      = List.map Datum.unsignZero <$> Argument.data xs current root
  | [], _, _ => by rw [Argument.unsignAll]
  | x :: xs, current, h => by
    rw [Argument.AllWellFormed] at h
    rw [Argument.unsignAll, Argument.data, Argument.data, map_bind, map_bind]
    refine bind_congr_view (x.datum_unsignZeros hr current h.1) fun d e hde => ?_
    rw [map_bind, map_bind]
    refine bind_congr_view (Argument.data_unsignAll hr xs current h.2) fun ds es hdes => ?_
    rw [map_pure, map_pure, List.map_cons, List.map_cons, hde, hdes]

/-- An argument is the same datum up to the sign of a zero. -/
theorem Argument.datum_unsignZeros (hr : r.IgnoresZeroSigns) : ∀ (x : Argument) (current : Json),
    x.WellFormed r →
    Datum.unsignZero <$> x.unsignZeros.datum current root
      = Datum.unsignZero <$> x.datum current root
  | .literal v, current, _ => by
    rw [Argument.unsignZeros, Argument.datum, Argument.datum, map_ok, map_ok, Datum.unsignZero,
      Datum.unsignZero, Option.map_some, Option.map_some, v.unsignZero_unsignZero]
  | .singular q, _, _ => by rw [Argument.unsignZeros]
  | .query q, current, h => by
    rw [Argument.WellFormed] at h
    rw [Argument.unsignZeros, Argument.datum, Argument.datum,
      q.selectFrom_unsignZeros hr current h.1]
  | .formula f, current, h => by
    rw [Argument.WellFormed] at h
    rw [Argument.unsignZeros, Argument.datum, Argument.datum,
      Formula.holds_unsignZeros hr f current h.1.2]
  | .call c, current, h => by
    rw [Argument.WellFormed] at h
    rw [Argument.unsignZeros, Argument.datum, Argument.datum,
      c.answer_unsignZeros hr current h]

end

/-! ## Located nodes -/

/-- Segments find the same nodes at the same locations. -/
theorem Segment.followLocated_unsignAll (hr : r.IgnoresZeroSigns) {ss : List Segment}
    (h : Segment.AllWellFormed r ss) (nodes : List Located) :
    followLocated (unsignAll ss) nodes root = followLocated ss nodes root := by
  induction ss generalizing nodes with
  | nil => rw [unsignAll]
  | cons s ss ih =>
    rw [AllWellFormed] at h
    have hvisit : ∀ n, s.unsignZeros.visit n root = s.visit n root := fun n =>
      s.visit_unsignZeros hr n h.1
    simp only [unsignAll, followLocated, hvisit, ih h.2]

/-- A query selects the same nodes at the same locations. -/
theorem Query.selectLocatedFrom_unsignZeros (hr : r.IgnoresZeroSigns) {q : Query}
    (h : q.WellFormed r) (current : Json) :
    q.unsignZeros.selectLocatedFrom current root = q.selectLocatedFrom current root := by
  obtain ⟨anchor, ss⟩ := q
  rw [WellFormed] at h
  exact Segment.followLocated_unsignAll hr h _

/-- **Equal queries over one registry select equally** where its functions do not see the
signs of zeros. -/
theorem Query.select_of_equal (hr : r.IgnoresZeroSigns) {p q : Query} (hp : p.WellFormed r)
    (hq : q.WellFormed r) (h : p.equal q = true) (current : Json) :
    p.selectLocatedFrom current root = q.selectLocatedFrom current root
      ∧ p.selectFrom current root = q.selectFrom current root := by
  -- without signs the two are one query
  have hsame : p.unsignZeros = q.unsignZeros := (p.equal_iff q hp hq).mp h
  constructor
  · rw [← selectLocatedFrom_unsignZeros hr hp, hsame, selectLocatedFrom_unsignZeros hr hq]
  · rw [← p.selectFrom_unsignZeros hr current hp, hsame,
      q.selectFrom_unsignZeros hr current hq]

end

/-! ## Compiled queries -/

/-- **Equal queries that were compiled over the standard functions select equally** from
every document: the same nodes at the same locations in the same order, and the same nodes
without locations. -/
theorem Compiler.compiled_equal_select {engine : Engine} {s t : String} {p q : Query}
    (hp : (standard engine).compile s = .ok p) (hq : (standard engine).compile t = .ok q)
    (h : (p == q) = true) (root : Json) :
    (∃ found, p.selectLocated root = .ok found ∧ q.selectLocated root = .ok found)
      ∧ ∃ nodes, p.select root = .ok nodes ∧ q.select root = .ok nodes := by
  have hstandard : (standard engine).registry.IgnoresZeroSigns :=
    fun f hf => Standard.ignoresZeroSigns hf
  have hwellFormed : p.WellFormed (standard engine).registry := (derives_of_compile hp).1.wellFormed
  have hwellFormed' : q.WellFormed (standard engine).registry :=
    (derives_of_compile hq).1.wellFormed
  obtain ⟨hlocated, hnodes⟩ := Query.select_of_equal hstandard hwellFormed hwellFormed' h root
  -- what compiled is well typed, so both evaluations have results
  have htyped : p.WellTyped := compile_wellTyped (Registry.keepsContracts_standard engine) hp
  obtain ⟨found, hfound, -⟩ := p.selectLocatedFrom_answers root root htyped
  obtain ⟨nodes, hselected, -⟩ := p.selectFrom_answers root root htyped
  exact ⟨⟨found, hfound, hlocated.symm.trans hfound⟩,
    ⟨nodes, hselected, hnodes.symm.trans hselected⟩⟩

/-- The comparisons with the two zeros both select the negative zero of a document. -/
theorem compiled_equal_select_zeros :
    (Compiler.standard .reference).compile "$[?@==0.0]" = .ok (againstZero false)
      ∧ (Compiler.standard .reference).compile "$[?@==-0.0]" = .ok (againstZero true)
      ∧ (againstZero false == againstZero true) = true
      ∧ (againstZero true).selectLocated (.array [.null, .number (.float (.zero true))])
        = .ok [⟨[.index 1], .number (.float (.zero true))⟩] := by
  obtain ⟨hp, hq⟩ := compile_againstZero
  have hequal := equal_againstZero
  refine ⟨hp, hq, hequal, ?_⟩
  obtain ⟨⟨found, hfound, hfound'⟩, -⟩ := Compiler.compiled_equal_select hp hq hequal
    (.array [.null, .number (.float (.zero true))])
  have hzero : (againstZero false).selectLocated
      (.array [.null, .number (.float (.zero true))])
        = .ok [⟨[.index 1], .number (.float (.zero true))⟩] := rfl
  rw [hfound', ← hfound, hzero]

end JsonQuery
