import JsonQuery.Proofs.Location.Children
import JsonQuery.Select.Comparison
import Mathlib.Data.List.Perm.Subperm

/-
Comparisons are consistent.

Equality of values is an equivalence and the order is strict, with nothing between two numbers
or two strings left open, so the six operators fit together (`Comparator.holds_consistent`).

The definition of equality goes through the members of the first object and looks them up in
the second one, which is not symmetric on its face. With distinct keys it is: objects with as
many keys, where each key of one is a key of the other, have the same keys. Equality then says
the same of arrays and of objects: the values are alike at the top, and each step leads to equal
children or to none in both (`Json.same_iff`). The laws follow by induction on the children. The
order looks at the top only.
-/

set_option autoImplicit false

namespace JsonQuery

/-! ## Equality of values -/

namespace Json

/-- **Values that are alike at the top**: of one kind, and equal as far as no child is
concerned. -/
inductive Alike : Json → Json → Prop
  | null : Alike .null .null
  | bool (b : Bool) : Alike (.bool b) (.bool b)
  | number {a b : Number} (h : a.value = b.value) : Alike (.number a) (.number b)
  | string (s : String) : Alike (.string s) (.string s)
  | array (xs ys : List Json) : Alike (.array xs) (.array ys)
  | object (ms ns : List (String × Json)) : Alike (.object ms) (.object ns)

/-- Equal values are alike at the top. -/
theorem alike_of_same {v w : Json} (h : v.same w = true) : Alike v w := by
  rw [same.eq_def] at h
  split at h
  · exact .null
  · rw [beq_iff_eq.mp h]
    exact .bool _
  · exact .number (beq_iff_eq.mp h)
  · rw [beq_iff_eq.mp h]
    exact .string _
  · exact .array _ _
  · exact .object _ _
  · cases h

/-- Whether two places hold equal values, or nothing both. -/
abbrev SameAt (a b : Option Json) : Prop := Option.Rel (fun v w => v.same w = true) a b

namespace SameAt

variable {a b c : Option Json}

/-- Of two equal places both hold something or none does. -/
theorem eq_none_iff (h : SameAt a b) : a = none ↔ b = none := by
  cases h with
  | some => exact iff_of_false nofun nofun
  | none => exact Iff.rfl

/-- What one place holds is equal to what the other one holds. -/
theorem of_some (h : SameAt a b) {v : Json} (hv : a = some v) :
    ∃ w, b = some w ∧ v.same w = true := by
  subst hv
  cases h with
  | some h => exact ⟨_, rfl, h⟩

/-- Equality of places is symmetric as far as that of what they hold is. -/
theorem swap (h : SameAt a b) (hswap : ∀ v ∈ a, ∀ w ∈ b, v.same w = true → w.same v = true) :
    SameAt b a := by
  cases h with
  | some h => exact .some (hswap _ rfl _ rfl h)
  | none => exact .none

/-- Equality of places is transitive as far as that of what they hold is. -/
theorem comp (hab : SameAt a b) (hbc : SameAt b c)
    (hcomp : ∀ u ∈ a, ∀ v ∈ b, ∀ w ∈ c,
      u.same v = true → v.same w = true → u.same w = true) : SameAt a c := by
  cases hab with
  | some huv =>
    cases hbc with
    | some hvw => exact .some (hcomp _ rfl _ rfl _ rfl huv hvw)
  | none => exact hbc

end SameAt

/-- Arrays are equal when they are so at every position. -/
theorem sameItems_iff (xs ys : List Json) :
    sameItems xs ys = true ↔ ∀ i : Nat, SameAt xs[i]? ys[i]? := by
  induction xs generalizing ys with
  | nil =>
    cases ys with
    | nil => simp [sameItems]
    | cons y ys =>
      refine iff_of_false nofun fun h => ?_
      exact absurd (h 0) Option.not_rel_none_some
  | cons x xs ih =>
    cases ys with
    | nil =>
      refine iff_of_false nofun fun h => ?_
      exact absurd (h 0) Option.not_rel_some_none
    | cons y ys =>
      have hfirst : SameAt (some x) (some y) ↔ x.same y = true := Option.rel_some_some
      rw [sameItems, Bool.and_eq_true, ih, ← hfirst]
      -- the first position and all behind it are all positions
      exact Nat.and_forall_add_one (p := fun i => SameAt (x :: xs)[i]? (y :: ys)[i]?)

/-- Members are equal when each key of the first object has an equal value in the second one. -/
theorem sameMembers_iff (ms ns : List (String × Json)) :
    sameMembers ms ns = true ↔ ∀ m ∈ ms, ∃ w, ns.lookup m.1 = some w ∧ m.2.same w = true := by
  induction ms with
  | nil => simp [sameMembers]
  | cons m ms ih =>
    rw [sameMembers, Bool.and_eq_true, ih, List.forall_mem_cons]
    refine and_congr_left fun _ => ?_
    cases ns.lookup m.1 with
    | none => simp
    | some w => simp

/-- What is not found under a key is not there. -/
theorem lookup_eq_none_iff_notMem (ms : List (String × Json)) (key : String) :
    ms.lookup key = none ↔ key ∉ ms.map Prod.fst := by
  rw [List.lookup_eq_none_iff]
  simp only [List.mem_map, not_exists, not_and, bne_iff_ne, ne_comm (a := key)]

/-- **Equality of objects is symmetric in form**: every key has equal values in both, or is
missing in both. -/
theorem same_object_iff {ms ns : List (String × Json)} (hms : (ms.map Prod.fst).Nodup)
    (hns : (ns.map Prod.fst).Nodup) :
    (object ms).same (object ns) = true ↔ ∀ key, SameAt (ms.lookup key) (ns.lookup key) := by
  rw [same, Bool.and_eq_true, beq_iff_eq, sameMembers_iff]
  constructor
  · rintro ⟨hlength, hmembers⟩ key
    cases hkey : ms.lookup key with
    | some v =>
      obtain ⟨w, hw, hvw⟩ := hmembers (key, v) ((lookup_eq_some_iff_mem hms).mp hkey)
      rw [hw]
      exact .some hvw
    | none =>
      -- as many keys, and all of the first among the second, so no others among the second
      have hsubset : ms.map Prod.fst ⊆ ns.map Prod.fst := by
        intro k hk
        obtain ⟨m, hm, rfl⟩ := List.mem_map.mp hk
        obtain ⟨w, hw, -⟩ := hmembers m hm
        by_contra hmissing
        rw [← lookup_eq_none_iff_notMem, hw] at hmissing
        cases hmissing
      have hle : (ns.map Prod.fst).length ≤ (ms.map Prod.fst).length := by
        rw [List.length_map, List.length_map]
        exact Nat.le_of_eq hlength.symm
      have hperm := (List.subperm_of_subset hms hsubset).perm_of_length_le hle
      rw [lookup_eq_none_iff_notMem, hperm.mem_iff, ← lookup_eq_none_iff_notMem] at hkey
      rw [hkey]
      exact .none
  · intro h
    -- each key of one is a key of the other, so there are as many
    have hkeys : (ms.map Prod.fst).Perm (ns.map Prod.fst) := by
      refine (List.perm_ext_iff_of_nodup hms hns).mpr fun key => ?_
      rw [← not_iff_not, ← lookup_eq_none_iff_notMem, ← lookup_eq_none_iff_notMem]
      exact (h key).eq_none_iff
    constructor
    · rw [← List.length_map Prod.fst, hkeys.length_eq, List.length_map]
    · rintro ⟨key, v⟩ hm
      exact (h key).of_some ((lookup_eq_some_iff_mem hms).mpr hm)

/-- **Equal values are alike at the top and have equal children at every step.** -/
theorem same_iff (d e : Document) : d.value.same e.value = true
    ↔ Alike d.value e.value ∧ ∀ s, SameAt (d.value.child? s) (e.value.child? s) := by
  obtain ⟨v, hv⟩ := d
  obtain ⟨w, hw⟩ := e
  -- what is alike has the same kind of steps, so one equality of lists says it for all of them
  have hchildren : Alike v w → (v.same w = true ↔ ∀ s, SameAt (v.child? s) (w.child? s)) := by
    intro h
    cases h with
    | null => exact iff_of_true rfl fun s => .none
    | bool b => exact iff_of_true (beq_iff_eq.mpr rfl) fun s => .none
    | number h => exact iff_of_true (beq_iff_eq.mpr h) fun s => .none
    | string s => exact iff_of_true (beq_iff_eq.mpr rfl) fun s => .none
    | array xs ys =>
      rw [same, sameItems_iff]
      constructor
      · intro h s
        cases s with
        | index i => exact h i
        | name key => exact .none
      · intro h i
        exact h (.index i)
    | object ms ns =>
      rw [same_object_iff hv.nodup_keys hw.nodup_keys]
      constructor
      · intro h s
        cases s with
        | index i => exact .none
        | name key => exact h key
      · intro h key
        exact h (.name key)
  constructor
  · intro h
    exact ⟨alike_of_same h, (hchildren (alike_of_same h)).mp h⟩
  · rintro ⟨halike, h⟩
    exact (hchildren halike).mpr h

/-! ## Equality is an equivalence -/

namespace Alike

variable {u v w : Json}

/-- A value is alike to itself. -/
theorem refl (v : Json) : Alike v v := by
  cases v with
  | null => exact .null
  | bool b => exact .bool b
  | number n => exact .number rfl
  | string s => exact .string s
  | array xs => exact .array xs xs
  | object ms => exact .object ms ms

theorem symm (h : Alike v w) : Alike w v := by
  cases h with
  | null => exact .null
  | bool b => exact .bool b
  | number h => exact .number h.symm
  | string s => exact .string s
  | array xs ys => exact .array ys xs
  | object ms ns => exact .object ns ms

theorem trans (huv : Alike u v) (hvw : Alike v w) : Alike u w := by
  cases huv with
  | null => exact hvw
  | bool b => exact hvw
  | number h =>
    cases hvw with
    | number h' => exact .number (h.trans h')
  | string s => exact hvw
  | array xs ys =>
    cases hvw with
    | array _ zs => exact .array xs zs
  | object ms ns =>
    cases hvw with
    | object _ ks => exact .object ms ks

end Alike

/-- **Equality is reflexive**, by induction on the document by its children. -/
theorem same_refl (d : Document) : d.value.same d.value = true := by
  induction d using Document.childInduction with
  | step d ih =>
    -- at the top and at every step
    rw [same_iff]
    refine ⟨Alike.refl d.value, fun s => ?_⟩
    cases hc : d.value.child? s with
    | none => exact .none
    | some c => exact .some (ih s c hc)

/-- **Equality is symmetric.** -/
theorem same_symm {d e : Document} (h : d.value.same e.value = true) :
    e.value.same d.value = true := by
  induction d using Document.childInduction generalizing e with
  | step d ih =>
    rw [same_iff] at h ⊢
    refine ⟨h.1.symm, fun s => (h.2 s).swap ?_⟩
    -- a child is equal to the child at the same step, so the induction turns that around
    intro c hc c' hc' hsame
    exact ih s c hc (e := e.child hc') hsame

/-- **Equality is transitive.** -/
theorem same_trans {d e f : Document} (hde : d.value.same e.value = true)
    (hef : e.value.same f.value = true) : d.value.same f.value = true := by
  induction d using Document.childInduction generalizing e f with
  | step d ih =>
    rw [same_iff] at hde hef ⊢
    refine ⟨hde.1.trans hef.1, fun s => (hde.2 s).comp (hef.2 s) ?_⟩
    intro u hu v hv w hw huv hvw
    exact ih s u hu (e := e.child hv) (f := f.child hw) huv hvw

/-! ## The order of values -/

/-- **The order looks at the top of a value only**, on both of its sides. -/
theorem precedes_congr {v w : Json} (h : Alike v w) (u : Json) :
    v.precedes u = w.precedes u ∧ u.precedes v = u.precedes w := by
  cases h with
  | null => exact ⟨rfl, rfl⟩
  | bool b => exact ⟨rfl, rfl⟩
  | number h =>
    cases u with
    | number n =>
      rw [precedes, precedes, precedes, precedes, h]
      exact ⟨rfl, rfl⟩
    | _ => exact ⟨rfl, rfl⟩
  | string s => exact ⟨rfl, rfl⟩
  | array xs ys => cases u <;> exact ⟨rfl, rfl⟩
  | object ms ns => cases u <;> exact ⟨rfl, rfl⟩

end Json

/-! ## Operands -/

/-- **Operands that have an order**: two numbers or two strings. -/
inductive Comparable : Option Json → Option Json → Prop
  | numbers (m n : Number) : Comparable (some (.number m)) (some (.number n))
  | strings (s t : String) : Comparable (some (.string s)) (some (.string t))

section

variable {a b c : Option Json}

/-- The order of operands does not matter for whether they have an order. -/
theorem Comparable.symm (h : Comparable a b) : Comparable b a := by
  cases h with
  | numbers m n => exact .numbers n m
  | strings s t => exact .strings t s

/-- What comes first is comparable. -/
theorem comparable_of_lessThan (h : lessThan a b = true) : Comparable a b := by
  rw [lessThan.eq_def] at h
  split at h
  · rw [Json.precedes.eq_def] at h
    split at h
    · exact .numbers _ _
    · exact .strings _ _
    · cases h
  · cases h

/-- In a linear order one of two comes first or they are equal, and never two of these. -/
theorem count_trichotomy {α : Type} [LT α] [DecidableLT α] [BEq α] [LawfulBEq α]
    [Std.Trichotomous (α := α) (· < ·)] [Std.Asymm (α := α) (· < ·)] (x y : α) :
    [decide (x < y), x == y, decide (y < x)].count true = 1 := by
  -- each of the three excludes the other two
  rcases Std.lt_trichotomy x y with h | h | h
  · have hgt : ¬ y < x := Std.Asymm.asymm x y h
    have hne : (x == y) = false := beq_eq_false_iff_ne.mpr fun heq => hgt (heq ▸ heq ▸ h)
    simp [h, hgt, hne]
  · subst h
    have hirrefl : ¬ x < x := fun h => Std.Asymm.asymm x x h h
    simp [hirrefl]
  · have hlt : ¬ x < y := Std.Asymm.asymm y x h
    have hne : (x == y) = false := beq_eq_false_iff_ne.mpr fun heq => hlt (heq ▸ heq ▸ h)
    simp [h, hlt, hne]

/-- **Of two numbers or two strings one comes first or they are equal**, and never two of
these. -/
theorem Comparable.trichotomy (h : Comparable a b) :
    [lessThan a b, equalTo a b, lessThan b a].count true = 1 := by
  cases h with
  | numbers m n => exact count_trichotomy m.value n.value
  | strings s t => exact count_trichotomy s t

/-- No operand comes before itself. -/
theorem lessThan_irrefl (a : Option Json) : lessThan a a = false := by
  by_contra h
  rw [Bool.not_eq_false] at h
  -- an operand that came before itself would do so on both sides of the count
  have hcount := (comparable_of_lessThan h).trichotomy
  cases he : equalTo a a <;> simp [h, he] at hcount

/-- What comes first is not equal. -/
theorem not_lessThan_and_equalTo (a b : Option Json) :
    ¬ (lessThan a b = true ∧ equalTo a b = true) := by
  rintro ⟨hlt, heq⟩
  have hcount := (comparable_of_lessThan hlt).trichotomy
  cases hgt : lessThan b a <;> simp [hlt, heq, hgt] at hcount

/-- What comes before what comes before comes before. -/
theorem lessThan_trans (hab : lessThan a b = true) (hbc : lessThan b c = true) :
    lessThan a c = true := by
  have hkind := comparable_of_lessThan hab
  have hkind' := comparable_of_lessThan hbc
  cases hkind with
  | numbers m n =>
    cases hkind' with
    | numbers _ k =>
      simp only [lessThan, Json.precedes, decide_eq_true_eq] at hab hbc ⊢
      exact Int.lt_trans hab hbc
  | strings s t =>
    cases hkind' with
    | strings _ u =>
      simp only [lessThan, Json.precedes, decide_eq_true_eq] at hab hbc ⊢
      exact String.lt_trans hab hbc

/-- **Equal operands come before and after the same operands.** -/
theorem lessThan_congr (h : equalTo a b = true) (c : Option Json) :
    lessThan a c = lessThan b c ∧ lessThan c a = lessThan c b := by
  rw [equalTo.eq_def] at h
  split at h
  · exact ⟨rfl, rfl⟩
  · cases c with
    | none => exact ⟨rfl, rfl⟩
    | some u => exact Json.precedes_congr (Json.alike_of_same h) u
  · cases h

end

/-! ## Operators -/

/-- Whether an operand, if it is there, has distinct keys. -/
def OperandKeysDistinct (a : Option Json) : Prop := ∀ v ∈ a, v.DistinctKeys

/-- **An operand that a document gives**, or none. -/
def Document.operand (d : Option Document) : Option Json := d.map Document.value

/-- An operand with distinct keys is given by a document. -/
theorem OperandKeysDistinct.exists_operand {a : Option Json} (h : OperandKeysDistinct a) :
    ∃ d, Document.operand d = a := by
  cases a with
  | none => exact ⟨none, rfl⟩
  | some v => exact ⟨some ⟨v, h v rfl⟩, rfl⟩

namespace Document

variable {d e f : Option Document}

/-- Equality of operands is reflexive, absent ones included. -/
theorem equalTo_refl (d : Option Document) : equalTo (operand d) (operand d) = true := by
  cases d with
  | none => rfl
  | some d => exact Json.same_refl d

/-- Equality of operands is symmetric. -/
theorem equalTo_symm (h : equalTo (operand d) (operand e) = true) :
    equalTo (operand e) (operand d) = true := by
  cases d with
  | none =>
    cases e with
    | none => rfl
    | some e => cases h
  | some d =>
    cases e with
    | none => cases h
    | some e => exact Json.same_symm h

/-- So it does not matter which operand stands on which side. -/
theorem equalTo_comm (d e : Option Document) :
    equalTo (operand d) (operand e) = equalTo (operand e) (operand d) :=
  Bool.eq_iff_iff.mpr ⟨equalTo_symm, equalTo_symm⟩

/-- Equality of operands is transitive: an absent one is equal to an absent one only. -/
theorem equalTo_trans (hde : equalTo (operand d) (operand e) = true)
    (hef : equalTo (operand e) (operand f) = true) :
    equalTo (operand d) (operand f) = true := by
  cases e with
  | none =>
    cases d with
    | none => exact hef
    | some d => cases hde
  | some e =>
    cases d with
    | none => cases hde
    | some d =>
      cases f with
      | none => cases hef
      | some f => exact Json.same_trans hde hef

end Document

/-- To be less or equal is to be one of the two. -/
theorem Comparator.holds_le_iff {a b : Option Json} :
    Comparator.le.holds a b = true ↔ lessThan a b = true ∨ equalTo a b = true :=
  Bool.or_eq_true_iff ..

namespace Document

variable {d e f : Option Document}

/-- **To be less or equal is transitive.** An equal operand can take the place of the one it is
equal to, so the order carries over when only one of the two comparisons is strict. -/
theorem holds_le_trans (hde : Comparator.le.holds (operand d) (operand e) = true)
    (hef : Comparator.le.holds (operand e) (operand f) = true) :
    Comparator.le.holds (operand d) (operand f) = true := by
  rw [Comparator.holds_le_iff] at hde hef ⊢
  rcases hde with hde | hde
  · rcases hef with hef | hef
    · exact .inl (lessThan_trans hde hef)
    · rw [← (lessThan_congr hef (operand d)).2]
      exact .inl hde
  · rw [(lessThan_congr hde (operand f)).1]
    exact hef.imp_right (equalTo_trans hde)

/-- **Operands that are less or equal both ways are equal**, because the order has no loops. -/
theorem holds_le_antisymm (hde : Comparator.le.holds (operand d) (operand e) = true)
    (hed : Comparator.le.holds (operand e) (operand d) = true) :
    equalTo (operand d) (operand e) = true := by
  rw [Comparator.holds_le_iff] at hde hed
  rcases hde with hde | hde
  · rcases hed with hed | hed
    · have hloop := lessThan_trans hde hed
      rw [lessThan_irrefl] at hloop
      cases hloop
    · exact equalTo_symm hed
  · exact hde

end Document

/-- **Comparisons are consistent.** Over operands with distinct keys, absent ones included:
equality is an equivalence; the order is strict, apart from equality and the same for equal
operands; of two numbers or two strings exactly one comes first or they are equal, and no other
operands have an order. So `<=` is transitive, operands that are `<=` both ways are equal, and
`>` and `>=` are `<` and `<=` read backwards. -/
theorem Comparator.holds_consistent {a b c : Option Json} (ha : OperandKeysDistinct a)
    (hb : OperandKeysDistinct b) (hc : OperandKeysDistinct c) :
    (equalTo a a = true ∧ equalTo a b = equalTo b a
        ∧ (equalTo a b = true → equalTo b c = true → equalTo a c = true))
      ∧ (lessThan a a = false ∧ (lessThan a b = true → lessThan b c = true → lessThan a c = true)
        ∧ ¬ (lessThan a b = true ∧ equalTo a b = true))
      ∧ (equalTo a b = true → lessThan a c = lessThan b c ∧ lessThan c a = lessThan c b)
      ∧ (Comparable a b → [lessThan a b, equalTo a b, lessThan b a].count true = 1)
      ∧ (¬ Comparable a b → lessThan a b = false ∧ lessThan b a = false)
      ∧ (le.holds a b = true → le.holds b c = true → le.holds a c = true)
      ∧ (le.holds a b = true → le.holds b a = true → eq.holds a b = true)
      ∧ gt.holds a b = lt.holds b a ∧ ge.holds a b = le.holds b a := by
  -- operands are documents from here on
  obtain ⟨d, rfl⟩ := ha.exists_operand
  obtain ⟨e, rfl⟩ := hb.exists_operand
  obtain ⟨f, rfl⟩ := hc.exists_operand
  have hunordered : ¬ Comparable (Document.operand d) (Document.operand e) →
      lessThan (Document.operand d) (Document.operand e) = false
        ∧ lessThan (Document.operand e) (Document.operand d) = false := by
    intro h
    constructor
    · exact Bool.eq_false_iff.mpr fun hlt => h (comparable_of_lessThan hlt)
    · exact Bool.eq_false_iff.mpr fun hlt => h (comparable_of_lessThan hlt).symm
  have hge : ge.holds (Document.operand d) (Document.operand e)
      = le.holds (Document.operand e) (Document.operand d) := by
    rw [holds, holds, Document.equalTo_comm]
  exact ⟨⟨Document.equalTo_refl d, Document.equalTo_comm d e, Document.equalTo_trans⟩,
    ⟨lessThan_irrefl _, lessThan_trans, not_lessThan_and_equalTo _ _⟩,
    fun h => lessThan_congr h _, Comparable.trichotomy, hunordered,
    Document.holds_le_trans, Document.holds_le_antisymm, rfl, hge⟩

/-- One as a floating-point number. -/
def floatOne : Number := .float ⟨false, Nat.pow 2 1074, by decide +kernel⟩

/-- Objects with members in another order and numbers of another sort are equal. -/
theorem holds_consistent_reordered :
    let a : Option Json := some (.object
      [("a", .number (.integer 1)), ("b", .array [.object [("c", .null), ("d", .string "x")]])])
    let b : Option Json := some (.object
      [("b", .array [.object [("d", .string "x"), ("c", .null)]]), ("a", .number floatOne)])
    OperandKeysDistinct a ∧ OperandKeysDistinct b ∧ OperandKeysDistinct none
      ∧ equalTo a b = true ∧ equalTo b a = true ∧ lessThan a none = lessThan b none := by
  intro a b
  have ha : OperandKeysDistinct a := by
    intro v hv
    obtain rfl := Option.some.inj hv
    simp [Json.DistinctKeys, Json.DistinctKeysMembers, Json.DistinctKeysItems]
  have hb : OperandKeysDistinct b := by
    intro v hv
    obtain rfl := Option.some.inj hv
    simp [Json.DistinctKeys, Json.DistinctKeysMembers, Json.DistinctKeysItems]
  have hnone : OperandKeysDistinct none := nofun
  have hab : equalTo a b = true := by decide +kernel
  obtain ⟨⟨-, hcomm, -⟩, -, hcongr, -⟩ := Comparator.holds_consistent ha hb hnone
  exact ⟨ha, hb, hnone, hab, hcomm ▸ hab, (hcongr hab).1⟩

end JsonQuery
