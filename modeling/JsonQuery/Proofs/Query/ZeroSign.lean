import JsonQuery.Marshal
import JsonQuery.Proofs.Function.Contract
import JsonQuery.Proofs.Grammar.Rendering
import JsonQuery.Query.Equality
import JsonQuery.Regex.Reference.Compile

/-
Queries up to the signs of their zeros.

Equality of queries is coarser than identity in two ways: functions are compared by their
names, and the two zeros of binary64 are one literal. A registry has one function under a
name, so among well-formed queries the zeros alone are left: two of them are equal exactly
when they are the same query once every zero has lost its sign (`Query.equal_iff`).

Such a query is well formed again, so its canonical text tells it from all others. That
makes equality a matter of canonical texts, as far as these write zeros without a sign.
-/

set_option autoImplicit false

namespace JsonQuery

/-! ## Numbers -/

/-- The number itself, or zero without a sign. -/
def Binary64.unsignZero (x : Binary64) : Binary64 := if x.units = 0 then zero false else x

/-- Both zeros have the value zero, and nothing else does. -/
theorem Binary64.value_eq_zero_iff {x : Binary64} : x.value = 0 ↔ x.units = 0 := by
  rw [value]
  split <;>
  omega

/-- **Numbers have the same value when they differ in the sign of a zero at most.** -/
theorem Binary64.value_eq_iff {x y : Binary64} :
    x.value = y.value ↔ x.unsignZero = y.unsignZero := by
  -- a zero is equal to zeros only, and unsigned it is the one zero there is
  by_cases hx : x.units = 0
  · rw [value_eq_zero_iff.mpr hx, eq_comm, value_eq_zero_iff, unsignZero, if_pos hx, unsignZero]
    by_cases hy : y.units = 0
    · rw [if_pos hy]
      exact iff_of_true hy rfl
    · rw [if_neg hy]
      exact ⟨fun h => absurd h hy, fun h => absurd (congrArg units h).symm hy⟩
  · by_cases hy : y.units = 0
    · rw [value_eq_zero_iff.mpr hy, value_eq_zero_iff, unsignZero, if_neg hx, unsignZero, if_pos hy]
      exact ⟨fun h => absurd h hx, fun h => absurd (congrArg units h) hx⟩
    · -- neither is a zero, so the value shows sign and magnitude
      obtain ⟨m, a, ha⟩ := x
      obtain ⟨n, b, hb⟩ := y
      rw [unsignZero, if_neg hx, unsignZero, if_neg hy, mk.injEq, value, value]
      dsimp only at hx hy
      cases m <;> cases n <;> simp only [Bool.false_eq_true, if_false, if_true, reduceCtorEq,
        true_and, false_and, iff_false] <;> omega

/-- The number itself, or the zero of binary64 without a sign. -/
def Number.unsignZero : Number → Number
  | .integer i => .integer i
  | .float x => .float x.unsignZero

/-- Numbers are equal when they differ in the sign of a zero at most. -/
theorem Number.equal_iff (m n : Number) : m.equal n = true ↔ m.unsignZero = n.unsignZero := by
  cases m with
  | integer i => cases n <;> simp [equal, unsignZero]
  | float x =>
    cases n with
    | integer j => simp [equal, unsignZero]
    | float y => rw [equal, beq_iff_eq, Binary64.value_eq_iff, unsignZero, unsignZero, float.injEq]

/-- The literal itself, or the zero of binary64 without a sign. -/
def Json.unsignZero : Json → Json
  | .number n => .number n.unsignZero
  | v => v

/-- **Literals are equal when they differ in the sign of a zero at most.** -/
theorem Json.equal_iff {v w : Json} (hv : v.IsLiteral) (hw : w.IsLiteral) :
    v.equal w = true ↔ v.unsignZero = w.unsignZero := by
  cases v with
  | number m =>
    cases w with
    | number n => rw [equal, m.equal_iff, unsignZero, unsignZero, number.injEq]
    | _ => simp [equal, unsignZero]
  | array _ | object _ => exact hv.elim
  | null | bool _ | string _ =>
    cases w with
    | array _ | object _ => exact hw.elim
    | _ => simp [equal, unsignZero]

/-- A literal without the sign of its zero is a literal. -/
theorem Json.IsLiteral.unsignZero {v : Json} (h : v.IsLiteral) : v.unsignZero.IsLiteral := by
  cases v with
  | number n =>
    cases n with
    | integer i => exact h
    | float x => exact Binary64.representable _
  | _ => exact h

/-! ## Trees -/

mutual

/-- The selector with its zeros unsigned. -/
def Selector.unsignZeros : Selector → Selector
  | .filter f => .filter (Formula.unsignZeros f)
  | s => s

/-- The selectors with their zeros unsigned. -/
def Selector.unsignAll : List Selector → List Selector
  | [] => []
  | s :: ss => s.unsignZeros :: Selector.unsignAll ss

/-- The segment with its zeros unsigned. -/
def Segment.unsignZeros : Segment → Segment
  | .child ss => .child (Selector.unsignAll ss)
  | .descendant ss => .descendant (Selector.unsignAll ss)

/-- The segments with their zeros unsigned. -/
def Segment.unsignAll : List Segment → List Segment
  | [] => []
  | s :: ss => s.unsignZeros :: Segment.unsignAll ss

/-- **The query with its zeros unsigned**: every literal `-0.0` becomes `0.0`. -/
def Query.unsignZeros : Query → Query
  | .mk anchor ss => .mk anchor (Segment.unsignAll ss)

/-- The formula with its zeros unsigned. -/
def Formula.unsignZeros : List (List Condition) → List (List Condition)
  | [] => []
  | c :: f => Condition.unsignAll c :: Formula.unsignZeros f

/-- The conditions with their zeros unsigned. -/
def Condition.unsignAll : List Condition → List Condition
  | [] => []
  | c :: cs => c.unsignZeros :: Condition.unsignAll cs

/-- The condition with its zeros unsigned. -/
def Condition.unsignZeros : Condition → Condition
  | .query negated q => .query negated q.unsignZeros
  | .group negated f => .group negated (Formula.unsignZeros f)
  | .compare a op b => .compare a.unsignZeros op b.unsignZeros
  | .call negated c => .call negated c.unsignZeros

/-- The operand with its zeros unsigned. -/
def Operand.unsignZeros : Operand → Operand
  | .literal v => .literal v.unsignZero
  | .singular s => .singular s
  | .call c => .call c.unsignZeros

/-- The call with the zeros of its arguments unsigned. -/
def Call.unsignZeros : Call → Call
  | .mk callee xs => .mk callee (Argument.unsignAll xs)

/-- The arguments with their zeros unsigned. -/
def Argument.unsignAll : List Argument → List Argument
  | [] => []
  | x :: xs => x.unsignZeros :: Argument.unsignAll xs

/-- The argument with its zeros unsigned. -/
def Argument.unsignZeros : Argument → Argument
  | .literal v => .literal v.unsignZero
  | .singular s => .singular s
  | .query q => .query q.unsignZeros
  | .formula f => .formula (Formula.unsignZeros f)
  | .call c => .call c.unsignZeros

end

/-! ## Equality -/

/-- Functions of one registry are the same when their names are. -/
theorem Callee.eq_of_name_eq {r : Registry} {f g : Callee} {xs ys : List Argument}
    (hf : Call.WellFormed r (.mk f xs)) (hg : Call.WellFormed r (.mk g ys))
    (hname : f.name = g.name) : f = g := by
  rw [Call.WellFormed] at hf hg
  obtain ⟨⟨f', hlookup, hcallee, -⟩, -⟩ := hf
  obtain ⟨⟨g', hlookup', hcallee', -⟩, -⟩ := hg
  -- both functions are found under the one name
  rw [hname, hlookup', Option.some.injEq] at hlookup
  rw [← hcallee, ← hcallee', hlookup]

section Equality

variable {r : Registry}

mutual

/-- Selectors are equal when they differ in the signs of zeros at most. -/
theorem Selector.equal_iff : ∀ s t : Selector, s.WellFormed r → t.WellFormed r →
    (s.equal t = true ↔ s.unsignZeros = t.unsignZeros)
  | .filter f, t, hs, ht => by
    -- a filter is equal to filters only
    cases t with
    | filter g =>
      rw [Selector.WellFormed] at hs ht
      rw [Selector.equal, Formula.equal_iff f g hs.2 ht.2, Selector.unsignZeros,
        Selector.unsignZeros, Selector.filter.injEq]
    | _ => simp [Selector.equal, Selector.unsignZeros]
  | .name _, t, _, _ | .index _, t, _, _ | .slice _, t, _, _ | .wildcard, t, _, _ => by
    cases t <;> simp [Selector.equal, Selector.unsignZeros]

/-- Lists of selectors are equal when they differ in the signs of zeros at most. -/
theorem Selector.equalAll_iff : ∀ ss ts : List Selector, Selector.AllWellFormed r ss →
    Selector.AllWellFormed r ts →
    (Selector.equalAll ss ts = true ↔ Selector.unsignAll ss = Selector.unsignAll ts)
  | [], ts, _, _ => by cases ts <;> simp [Selector.equalAll, Selector.unsignAll]
  | s :: ss, [], _, _ => by simp [Selector.equalAll, Selector.unsignAll]
  | s :: ss, t :: ts, hs, ht => by
    rw [Selector.AllWellFormed] at hs ht
    rw [Selector.equalAll, Bool.and_eq_true, s.equal_iff t hs.1 ht.1,
      Selector.equalAll_iff ss ts hs.2 ht.2, Selector.unsignAll, Selector.unsignAll,
      List.cons.injEq]

/-- Segments are equal when they differ in the signs of zeros at most. -/
theorem Segment.equal_iff : ∀ s t : Segment, s.WellFormed r → t.WellFormed r →
    (s.equal t = true ↔ s.unsignZeros = t.unsignZeros)
  | .child ss, t, hs, ht => by
    cases t with
    | child ts =>
      rw [Segment.WellFormed] at hs ht
      rw [Segment.equal, Selector.equalAll_iff ss ts hs.2 ht.2, Segment.unsignZeros,
        Segment.unsignZeros, Segment.child.injEq]
    | descendant ts => simp [Segment.equal, Segment.unsignZeros]
  | .descendant ss, t, hs, ht => by
    cases t with
    | child ts => simp [Segment.equal, Segment.unsignZeros]
    | descendant ts =>
      rw [Segment.WellFormed] at hs ht
      rw [Segment.equal, Selector.equalAll_iff ss ts hs.2 ht.2, Segment.unsignZeros,
        Segment.unsignZeros, Segment.descendant.injEq]

/-- Lists of segments are equal when they differ in the signs of zeros at most. -/
theorem Segment.equalAll_iff : ∀ ss ts : List Segment, Segment.AllWellFormed r ss →
    Segment.AllWellFormed r ts →
    (Segment.equalAll ss ts = true ↔ Segment.unsignAll ss = Segment.unsignAll ts)
  | [], ts, _, _ => by cases ts <;> simp [Segment.equalAll, Segment.unsignAll]
  | s :: ss, [], _, _ => by simp [Segment.equalAll, Segment.unsignAll]
  | s :: ss, t :: ts, hs, ht => by
    rw [Segment.AllWellFormed] at hs ht
    rw [Segment.equalAll, Bool.and_eq_true, s.equal_iff t hs.1 ht.1,
      Segment.equalAll_iff ss ts hs.2 ht.2, Segment.unsignAll, Segment.unsignAll, List.cons.injEq]

/-- **Well-formed queries are equal when they are the same but for the signs of zeros.** -/
theorem Query.equal_iff : ∀ p q : Query, p.WellFormed r → q.WellFormed r →
    (p.equal q = true ↔ p.unsignZeros = q.unsignZeros)
  | .mk a ss, .mk b ts, hp, hq => by
    rw [Query.WellFormed] at hp hq
    rw [Query.equal, Bool.and_eq_true, beq_iff_eq, Segment.equalAll_iff ss ts hp hq,
      Query.unsignZeros, Query.unsignZeros, Query.mk.injEq]

/-- Formulas are equal when they differ in the signs of zeros at most. -/
theorem Formula.equal_iff : ∀ f g : List (List Condition), Formula.AllWellFormed r f →
    Formula.AllWellFormed r g →
    (Formula.equal f g = true ↔ Formula.unsignZeros f = Formula.unsignZeros g)
  | [], g, _, _ => by cases g <;> simp [Formula.equal, Formula.unsignZeros]
  | c :: f, [], _, _ => by simp [Formula.equal, Formula.unsignZeros]
  | c :: f, d :: g, hf, hg => by
    rw [Formula.AllWellFormed] at hf hg
    rw [Formula.equal, Bool.and_eq_true, Condition.equalAll_iff c d hf.1.2 hg.1.2,
      Formula.equal_iff f g hf.2 hg.2, Formula.unsignZeros, Formula.unsignZeros, List.cons.injEq]

/-- Lists of conditions are equal when they differ in the signs of zeros at most. -/
theorem Condition.equalAll_iff : ∀ cs ds : List Condition, Condition.AllWellFormed r cs →
    Condition.AllWellFormed r ds →
    (Condition.equalAll cs ds = true ↔ Condition.unsignAll cs = Condition.unsignAll ds)
  | [], ds, _, _ => by cases ds <;> simp [Condition.equalAll, Condition.unsignAll]
  | c :: cs, [], _, _ => by simp [Condition.equalAll, Condition.unsignAll]
  | c :: cs, d :: ds, hc, hd => by
    rw [Condition.AllWellFormed] at hc hd
    rw [Condition.equalAll, Bool.and_eq_true, c.equal_iff d hc.1 hd.1,
      Condition.equalAll_iff cs ds hc.2 hd.2, Condition.unsignAll, Condition.unsignAll,
      List.cons.injEq]

/-- Conditions are equal when they differ in the signs of zeros at most. -/
theorem Condition.equal_iff : ∀ c d : Condition, c.WellFormed r → d.WellFormed r →
    (c.equal d = true ↔ c.unsignZeros = d.unsignZeros)
  | .query m p, d, hc, hd => by
    cases d with
    | query n q =>
      rw [Condition.WellFormed] at hc hd
      rw [Condition.equal, Bool.and_eq_true, beq_iff_eq, p.equal_iff q hc hd,
        Condition.unsignZeros, Condition.unsignZeros, Condition.query.injEq]
    | _ => simp [Condition.equal, Condition.unsignZeros]
  | .group m f, d, hc, hd => by
    cases d with
    | group n g =>
      rw [Condition.WellFormed] at hc hd
      rw [Condition.equal, Bool.and_eq_true, beq_iff_eq, Formula.equal_iff f g hc.2 hd.2,
        Condition.unsignZeros, Condition.unsignZeros, Condition.group.injEq]
    | _ => simp [Condition.equal, Condition.unsignZeros]
  | .compare a o b, d, hc, hd => by
    cases d with
    | compare a' o' b' =>
      rw [Condition.WellFormed] at hc hd
      rw [Condition.equal, Bool.and_eq_true, Bool.and_eq_true, beq_iff_eq,
        a.equal_iff a' hc.1 hd.1, b.equal_iff b' hc.2 hd.2, Condition.unsignZeros,
        Condition.unsignZeros, Condition.compare.injEq, and_assoc]
    | _ => simp [Condition.equal, Condition.unsignZeros]
  | .call m c, d, hc, hd => by
    cases d with
    | call n k =>
      rw [Condition.WellFormed] at hc hd
      rw [Condition.equal, Bool.and_eq_true, beq_iff_eq, c.equal_iff k hc.1 hd.1,
        Condition.unsignZeros, Condition.unsignZeros, Condition.call.injEq]
    | _ => simp [Condition.equal, Condition.unsignZeros]

/-- Operands are equal when they differ in the signs of zeros at most. -/
theorem Operand.equal_iff : ∀ a b : Operand, a.WellFormed r → b.WellFormed r →
    (a.equal b = true ↔ a.unsignZeros = b.unsignZeros)
  | .literal v, b, ha, hb => by
    cases b with
    | literal w =>
      rw [Operand.WellFormed] at ha hb
      rw [Operand.equal, Json.equal_iff ha hb, Operand.unsignZeros, Operand.unsignZeros,
        Operand.literal.injEq]
    | _ => simp [Operand.equal, Operand.unsignZeros]
  | .singular s, b, _, _ => by
    cases b <;> simp [Operand.equal, Operand.unsignZeros]
  | .call c, b, ha, hb => by
    cases b with
    | call k =>
      rw [Operand.WellFormed] at ha hb
      rw [Operand.equal, c.equal_iff k ha.1 hb.1, Operand.unsignZeros, Operand.unsignZeros,
        Operand.call.injEq]
    | _ => simp [Operand.equal, Operand.unsignZeros]

/-- Calls are equal when they differ in the signs of zeros at most. Here the names decide, and in
one registry a name decides the function. -/
theorem Call.equal_iff : ∀ c d : Call, c.WellFormed r → d.WellFormed r →
    (c.equal d = true ↔ c.unsignZeros = d.unsignZeros)
  | .mk f xs, .mk g ys, hc, hd => by
    -- both calls are well formed over one registry, so equal names are equal functions
    have hcallee : f.name = g.name ↔ f = g :=
      ⟨Callee.eq_of_name_eq hc hd, fun h => congrArg Callee.name h⟩
    rw [Call.WellFormed] at hc hd
    rw [Call.equal, Bool.and_eq_true, beq_iff_eq, hcallee, Argument.equalAll_iff xs ys hc.2 hd.2,
      Call.unsignZeros, Call.unsignZeros, Call.mk.injEq]

/-- Lists of arguments are equal when they differ in the signs of zeros at most. -/
theorem Argument.equalAll_iff : ∀ xs ys : List Argument, Argument.AllWellFormed r xs →
    Argument.AllWellFormed r ys →
    (Argument.equalAll xs ys = true ↔ Argument.unsignAll xs = Argument.unsignAll ys)
  | [], ys, _, _ => by cases ys <;> simp [Argument.equalAll, Argument.unsignAll]
  | x :: xs, [], _, _ => by simp [Argument.equalAll, Argument.unsignAll]
  | x :: xs, y :: ys, hx, hy => by
    rw [Argument.AllWellFormed] at hx hy
    rw [Argument.equalAll, Bool.and_eq_true, x.equal_iff y hx.1 hy.1,
      Argument.equalAll_iff xs ys hx.2 hy.2, Argument.unsignAll, Argument.unsignAll,
      List.cons.injEq]

/-- Arguments are equal when they differ in the signs of zeros at most. -/
theorem Argument.equal_iff : ∀ x y : Argument, x.WellFormed r → y.WellFormed r →
    (x.equal y = true ↔ x.unsignZeros = y.unsignZeros)
  | .literal v, y, hx, hy => by
    cases y with
    | literal w =>
      rw [Argument.WellFormed] at hx hy
      rw [Argument.equal, Json.equal_iff hx hy, Argument.unsignZeros, Argument.unsignZeros,
        Argument.literal.injEq]
    | _ => simp [Argument.equal, Argument.unsignZeros]
  | .singular s, y, _, _ => by
    cases y <;> simp [Argument.equal, Argument.unsignZeros]
  | .query p, y, hx, hy => by
    cases y with
    | query q =>
      rw [Argument.WellFormed] at hx hy
      rw [Argument.equal, p.equal_iff q hx.1 hy.1, Argument.unsignZeros, Argument.unsignZeros,
        Argument.query.injEq]
    | _ => simp [Argument.equal, Argument.unsignZeros]
  | .formula f, y, hx, hy => by
    cases y with
    | formula g =>
      rw [Argument.WellFormed] at hx hy
      rw [Argument.equal, Formula.equal_iff f g hx.1.2 hy.1.2, Argument.unsignZeros,
        Argument.unsignZeros, Argument.formula.injEq]
    | _ => simp [Argument.equal, Argument.unsignZeros]
  | .call c, y, hx, hy => by
    cases y with
    | call k =>
      rw [Argument.WellFormed] at hx hy
      rw [Argument.equal, c.equal_iff k hx hy, Argument.unsignZeros, Argument.unsignZeros,
        Argument.call.injEq]
    | _ => simp [Argument.equal, Argument.unsignZeros]

end

end Equality

/-! ## Well-formedness -/

theorem Selector.unsignAll_ne_nil {ss : List Selector} (h : ss ≠ []) : unsignAll ss ≠ [] := by
  cases ss with
  | nil => exact absurd rfl h
  | cons s ss =>
    rw [unsignAll]
    exact List.cons_ne_nil _ _

theorem Formula.unsignZeros_ne_nil {f : Formula} (h : f ≠ []) : unsignZeros f ≠ [] := by
  cases f with
  | nil => exact absurd rfl h
  | cons c f =>
    rw [unsignZeros]
    exact List.cons_ne_nil _ _

theorem Condition.unsignAll_ne_nil {cs : List Condition} (h : cs ≠ []) : unsignAll cs ≠ [] := by
  cases cs with
  | nil => exact absurd rfl h
  | cons c cs =>
    rw [unsignAll]
    exact List.cons_ne_nil _ _

/-- Whether a segment is singular does not depend on its literals. -/
theorem Segment.isSingular_unsignZeros (s : Segment) :
    s.unsignZeros.isSingular = s.isSingular := by
  cases s with
  | child ss =>
    -- a child segment is singular when it has one selector and that one is a name or an index
    obtain _ | ⟨s, _ | ⟨t, ss⟩⟩ := ss
    · rw [unsignZeros, Selector.unsignAll]
    · cases s <;> simp [unsignZeros, Selector.unsignAll, Selector.unsignZeros, isSingular,
        Selector.isSingular]
    · simp [unsignZeros, Selector.unsignAll, isSingular]
  | descendant ss =>
    rw [unsignZeros]
    rfl

/-- Whether a query is singular does not depend on its literals. -/
theorem Query.isSingular_unsignZeros (q : Query) : q.unsignZeros.isSingular = q.isSingular := by
  obtain ⟨anchor, ss⟩ := q
  rw [unsignZeros, isSingular, isSingular, segments_mk, segments_mk]
  induction ss with
  | nil => rw [Segment.unsignAll]
  | cons s ss ih =>
    rw [Segment.unsignAll, List.all_cons, List.all_cons, ih, s.isSingular_unsignZeros]

/-- Whether a formula is one query or call does not depend on its literals. -/
theorem Formula.isBare_unsignZeros : ∀ f : Formula, isBare (unsignZeros f) = isBare f
  | [] => by rw [unsignZeros]
  | [[c]] => by
    cases c with
    | query negated q => cases negated <;>
      simp [unsignZeros, Condition.unsignAll, Condition.unsignZeros, isBare]
    | call negated c => cases negated <;>
      simp [unsignZeros, Condition.unsignAll, Condition.unsignZeros, isBare]
    | _ => simp [unsignZeros, Condition.unsignAll, Condition.unsignZeros, isBare]
  -- more than one condition is no bare formula
  | [] :: f | (c :: d :: cs) :: f | [c] :: e :: f => by
    simp [unsignZeros, Condition.unsignAll, isBare]

/-- A call has the result of its function, whatever its arguments are. -/
theorem Call.result_unsignZeros (c : Call) : c.unsignZeros.result = c.result := by
  cases c with
  | mk callee xs =>
    rw [unsignZeros]
    rfl

/-- **The kind of an argument does not depend on its literals.** -/
theorem Argument.kind_unsignZeros (x : Argument) : x.unsignZeros.kind = x.kind := by
  cases x with
  | call c => rw [unsignZeros, kind, kind, c.result_unsignZeros]
  | _ => simp only [unsignZeros, kind]

/-- The kinds of arguments do not depend on their literals. -/
theorem Argument.map_kind_unsignAll (xs : List Argument) :
    (unsignAll xs).map kind = xs.map kind := by
  induction xs with
  | nil => rw [unsignAll]
  | cons x xs ih => rw [unsignAll, List.map_cons, List.map_cons, ih, x.kind_unsignZeros]

/-- A function that keeps a contract checks no more than the kinds of its arguments. -/
theorem Function.KeepsContract.validate_unsignAll {f : Function} (h : f.KeepsContract)
    {xs : List Argument} (valid : f.validate xs = .ok ()) :
    f.validate (Argument.unsignAll xs) = .ok () := by
  obtain ⟨s, evaluate, rfl, -⟩ := h
  -- a signature is checked by the kinds of the arguments, which stay
  rw [Function.validate_ofSignature_eq_ok_iff] at valid ⊢
  exact valid.of_kinds (Argument.map_kind_unsignAll xs).symm

section WellFormed

variable {r : Registry}

mutual

theorem Selector.wellFormed_unsignZeros (hr : r.KeepsContracts) : ∀ s : Selector,
    s.WellFormed r → s.unsignZeros.WellFormed r
  | .filter f, h => by
    rw [Selector.WellFormed] at h
    rw [Selector.unsignZeros, Selector.WellFormed]
    exact ⟨Formula.unsignZeros_ne_nil h.1, Formula.wellFormed_unsignZeros hr f h.2⟩
  | .name _, h | .index _, h | .slice _, h | .wildcard, h => by
    rw [Selector.unsignZeros]
    · exact h
    · exact nofun

theorem Selector.allWellFormed_unsignAll (hr : r.KeepsContracts) : ∀ ss : List Selector,
    Selector.AllWellFormed r ss → Selector.AllWellFormed r (Selector.unsignAll ss)
  | [], h => by
    rw [Selector.unsignAll]
    exact h
  | s :: ss, h => by
    rw [Selector.AllWellFormed] at h
    rw [Selector.unsignAll, Selector.AllWellFormed]
    exact ⟨s.wellFormed_unsignZeros hr h.1, Selector.allWellFormed_unsignAll hr ss h.2⟩

theorem Segment.wellFormed_unsignZeros (hr : r.KeepsContracts) : ∀ s : Segment,
    s.WellFormed r → s.unsignZeros.WellFormed r
  | .child ss, h | .descendant ss, h => by
    rw [Segment.WellFormed] at h
    rw [Segment.unsignZeros, Segment.WellFormed]
    exact ⟨Selector.unsignAll_ne_nil h.1, Selector.allWellFormed_unsignAll hr ss h.2⟩

theorem Segment.allWellFormed_unsignAll (hr : r.KeepsContracts) : ∀ ss : List Segment,
    Segment.AllWellFormed r ss → Segment.AllWellFormed r (Segment.unsignAll ss)
  | [], h => by
    rw [Segment.unsignAll]
    exact h
  | s :: ss, h => by
    rw [Segment.AllWellFormed] at h
    rw [Segment.unsignAll, Segment.AllWellFormed]
    exact ⟨s.wellFormed_unsignZeros hr h.1, Segment.allWellFormed_unsignAll hr ss h.2⟩

/-- **A well-formed query stays so without the signs of its zeros**, where functions keep
their contracts. -/
theorem Query.wellFormed_unsignZeros (hr : r.KeepsContracts) : ∀ q : Query,
    q.WellFormed r → q.unsignZeros.WellFormed r
  | .mk anchor ss, h => by
    rw [Query.WellFormed] at h
    rw [Query.unsignZeros, Query.WellFormed]
    exact Segment.allWellFormed_unsignAll hr ss h

theorem Formula.wellFormed_unsignZeros (hr : r.KeepsContracts) : ∀ f : List (List Condition),
    Formula.AllWellFormed r f → Formula.AllWellFormed r (Formula.unsignZeros f)
  | [], h => by
    rw [Formula.unsignZeros]
    exact h
  | c :: f, h => by
    rw [Formula.AllWellFormed] at h
    rw [Formula.unsignZeros, Formula.AllWellFormed]
    exact ⟨⟨Condition.unsignAll_ne_nil h.1.1, Condition.allWellFormed_unsignAll hr c h.1.2⟩,
      Formula.wellFormed_unsignZeros hr f h.2⟩

theorem Condition.allWellFormed_unsignAll (hr : r.KeepsContracts) : ∀ cs : List Condition,
    Condition.AllWellFormed r cs → Condition.AllWellFormed r (Condition.unsignAll cs)
  | [], h => by
    rw [Condition.unsignAll]
    exact h
  | c :: cs, h => by
    rw [Condition.AllWellFormed] at h
    rw [Condition.unsignAll, Condition.AllWellFormed]
    exact ⟨c.wellFormed_unsignZeros hr h.1, Condition.allWellFormed_unsignAll hr cs h.2⟩

/-- A condition stays well formed. What a call answers decides whether it is a condition, and that
stays the same. -/
theorem Condition.wellFormed_unsignZeros (hr : r.KeepsContracts) : ∀ c : Condition,
    c.WellFormed r → c.unsignZeros.WellFormed r
  | .query negated q, h => by
    rw [Condition.WellFormed] at h
    rw [Condition.unsignZeros, Condition.WellFormed]
    exact q.wellFormed_unsignZeros hr h
  | .group negated f, h => by
    rw [Condition.WellFormed] at h
    rw [Condition.unsignZeros, Condition.WellFormed]
    exact ⟨Formula.unsignZeros_ne_nil h.1, Formula.wellFormed_unsignZeros hr f h.2⟩
  | .compare a op b, h => by
    rw [Condition.WellFormed] at h
    rw [Condition.unsignZeros, Condition.WellFormed]
    exact ⟨a.wellFormed_unsignZeros hr h.1, b.wellFormed_unsignZeros hr h.2⟩
  | .call negated c, h => by
    rw [Condition.WellFormed] at h
    rw [Condition.unsignZeros, Condition.WellFormed, c.result_unsignZeros]
    exact ⟨c.wellFormed_unsignZeros hr h.1, h.2⟩

theorem Operand.wellFormed_unsignZeros (hr : r.KeepsContracts) : ∀ o : Operand,
    o.WellFormed r → o.unsignZeros.WellFormed r
  | .literal v, h => by
    rw [Operand.WellFormed] at h
    rw [Operand.unsignZeros, Operand.WellFormed]
    exact h.unsignZero
  | .singular s, h => by
    rw [Operand.unsignZeros]
    exact h
  | .call c, h => by
    rw [Operand.WellFormed] at h
    rw [Operand.unsignZeros, Operand.WellFormed, c.result_unsignZeros]
    exact ⟨c.wellFormed_unsignZeros hr h.1, h.2⟩

/-- **A call stays well formed**: its function accepts the same kinds of arguments. -/
theorem Call.wellFormed_unsignZeros (hr : r.KeepsContracts) : ∀ c : Call,
    c.WellFormed r → c.unsignZeros.WellFormed r
  | .mk callee xs, h => by
    rw [Call.WellFormed] at h
    obtain ⟨⟨f, found, hcallee, valid⟩, hxs⟩ := h
    have hkeeps := hr.of_lookup found
    -- the function is found as before, and it accepts the arguments as before
    rw [Call.unsignZeros, Call.WellFormed]
    exact ⟨⟨f, found, hcallee, hkeeps.validate_unsignAll valid⟩,
      Argument.allWellFormed_unsignAll hr xs hxs⟩

theorem Argument.allWellFormed_unsignAll (hr : r.KeepsContracts) : ∀ xs : List Argument,
    Argument.AllWellFormed r xs → Argument.AllWellFormed r (Argument.unsignAll xs)
  | [], h => by
    rw [Argument.unsignAll]
    exact h
  | x :: xs, h => by
    rw [Argument.AllWellFormed] at h
    rw [Argument.unsignAll, Argument.AllWellFormed]
    exact ⟨x.wellFormed_unsignZeros hr h.1, Argument.allWellFormed_unsignAll hr xs h.2⟩

/-- An argument stays well formed, as one of the same kind. -/
theorem Argument.wellFormed_unsignZeros (hr : r.KeepsContracts) : ∀ x : Argument,
    x.WellFormed r → x.unsignZeros.WellFormed r
  | .literal v, h => by
    rw [Argument.WellFormed] at h
    rw [Argument.unsignZeros, Argument.WellFormed]
    exact h.unsignZero
  | .singular s, h => by
    rw [Argument.unsignZeros]
    exact h
  | .query q, h => by
    rw [Argument.WellFormed] at h
    rw [Argument.unsignZeros, Argument.WellFormed, q.isSingular_unsignZeros]
    exact ⟨q.wellFormed_unsignZeros hr h.1, h.2⟩
  | .formula f, h => by
    rw [Argument.WellFormed] at h
    rw [Argument.unsignZeros, Argument.WellFormed, Formula.isBare_unsignZeros]
    exact ⟨⟨Formula.unsignZeros_ne_nil h.1.1, Formula.wellFormed_unsignZeros hr f h.1.2⟩, h.2⟩
  | .call c, h => by
    rw [Argument.WellFormed] at h
    rw [Argument.unsignZeros, Argument.WellFormed]
    exact c.wellFormed_unsignZeros hr h

end

end WellFormed

/-! ## Texts -/

/-- A query starts where it did. -/
@[simp] theorem Query.anchor_unsignZeros (q : Query) : q.unsignZeros.anchor = q.anchor := by
  cases q with
  | mk anchor ss => rw [unsignZeros, anchor_mk, anchor_mk]

/-- **Well-formed queries are equal when their texts are the same** once their zeros are
unsigned. -/
theorem Query.equal_iff_text [FloatPrinter] [LawfulFloatPrinter] {r : Registry}
    (names : r.NamesLegible) (hr : r.KeepsContracts) {p q : Query} (hproot : p.anchor = .root)
    (hp : p.WellFormed r) (hqroot : q.anchor = .root) (hq : q.WellFormed r) :
    p.equal q = true ↔ p.unsignZeros.text = q.unsignZeros.text := by
  rw [p.equal_iff q hp hq]
  constructor
  · intro h
    rw [h]
  · intro h
    -- without signs the queries are still well formed, so that their texts tell them apart
    have hp' := p.wellFormed_unsignZeros hr hp
    have hq' := q.wellFormed_unsignZeros hr hq
    exact eq_of_text_eq names (by simp [hproot]) hp' (by simp [hqroot]) hq' h

/-- **The canonical text decides equality, up to the signs of zeros.** Two queries that were
compiled over the standard functions are equal exactly when their canonical texts are the same
once every literal `-0.0` is written `0.0`. With the same canonical text as it stands they are
one and the same query. -/
theorem Compiler.compiled_equal_iff [FloatPrinter] [LawfulFloatPrinter] {engine : Engine}
    {s t : String} {p q : Query} (hp : (standard engine).compile s = .ok p)
    (hq : (standard engine).compile t = .ok q) :
    ((p == q) = true ↔ p.unsignZeros.text = q.unsignZeros.text)
      ∧ (p.text = q.text → p = q) := by
  have hpath := (derives_of_compile hp).1
  have hpath' := (derives_of_compile hq).1
  have names : (standard engine).registry.NamesLegible := Registry.namesLegible_standard engine
  constructor
  · exact Query.equal_iff_text names (Registry.keepsContracts_standard engine) hpath.path_anchor
      hpath.wellFormed hpath'.path_anchor hpath'.wellFormed
  · exact Query.eq_of_text_eq names hpath.path_anchor hpath.wellFormed hpath'.path_anchor
      hpath'.wellFormed

/-- The query that compares each child of the root with a zero. -/
def againstZero (negative : Bool) : Query :=
  .mk .root [.child [.filter [[.compare (.singular ⟨.current, []⟩) .eq
    (.literal (.number (.float (.zero negative))))]]]]

/-- Both comparisons are read from their texts. -/
theorem compile_againstZero :
    (Compiler.standard .reference).compile "$[?@==0.0]" = .ok (againstZero false)
      ∧ (Compiler.standard .reference).compile "$[?@==-0.0]" = .ok (againstZero true) :=
  ⟨rfl, rfl⟩

/-- Without its sign the zero is the same in both comparisons. -/
theorem unsignZeros_againstZero (negative : Bool) :
    (againstZero negative).unsignZeros = againstZero false := by
  simp [againstZero, Query.unsignZeros, Segment.unsignAll, Segment.unsignZeros,
    Selector.unsignAll, Selector.unsignZeros, Formula.unsignZeros, Condition.unsignAll,
    Condition.unsignZeros, Operand.unsignZeros, Json.unsignZero, Number.unsignZero,
    Binary64.unsignZero, Binary64.zero]

/-- The two comparisons are equal queries. -/
theorem equal_againstZero : (againstZero false).equal (againstZero true) = true := by
  obtain ⟨hp, hq⟩ := compile_againstZero
  have hp' := (Compiler.derives_of_compile hp).1.wellFormed
  have hq' := (Compiler.derives_of_compile hq).1.wellFormed
  rw [Query.equal_iff _ _ hp' hq', unsignZeros_againstZero, unsignZeros_againstZero]

/-- The comparisons with the two zeros are equal, by their texts without signs. -/
theorem compiled_equal_iff_zeros :
    (Compiler.standard .reference).compile "$[?@==0.0]" = .ok (againstZero false)
      ∧ (Compiler.standard .reference).compile "$[?@==-0.0]" = .ok (againstZero true)
      ∧ (againstZero false == againstZero true) = true := by
  obtain ⟨hp, hq⟩ := compile_againstZero
  refine ⟨hp, hq, (Compiler.compiled_equal_iff hp hq).1.mpr ?_⟩
  rw [unsignZeros_againstZero, unsignZeros_againstZero]

/-- With their signs, the texts of the two zeros tell equal queries apart. -/
theorem not_compiled_equal_iff :
    ¬ ∀ (s t : String) (p q : Query), (Compiler.standard .reference).compile s = .ok p →
      (Compiler.standard .reference).compile t = .ok q → ((p == q) = true ↔ p.text = q.text) := by
  intro h
  obtain ⟨hp, hq⟩ := compile_againstZero
  -- the two are equal, but their texts differ in a sign
  have htext := (h _ _ _ _ hp hq).mp equal_againstZero
  revert htext
  decide

end JsonQuery
