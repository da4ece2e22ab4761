import JsonQuery.Proofs.Select.Descent
import JsonQuery.Proofs.Select.Slice

/-
Which children a selector picks.

`Selector.picks` says it for a single step, without an order: what a name, an index, a
slice, a wildcard or a filter asks of the child that the step leads to. Every selector
picks exactly those children and each of them once (`Selector.pick_spec`), whatever order
it goes through them in.
-/

set_option autoImplicit false

namespace JsonQuery

/-- **Whether a selector picks the child of a node** that a step leads to. -/
def Selector.picks : Selector → Json → Json → Step → Bool
  | .name n, .object ms, _, .name key => key == n && (ms.lookup n).isSome
  | .index i, .array xs, _, .index p => resolveIndex i xs.length == some p
  | .slice s, .array xs, _, .index p => (s.positions xs.length).contains p
  | .wildcard, v, _, s => (v.child? s).isSome
  | .filter f, v, root, s => (v.child? s).any fun c => passes (Formula.holds f c root)
  | _, _, _, _ => false

/-- **Selected children** are the children of a node that pass a test, each of them once
and with the step to it. -/
def Selects (test : Step → Bool) (v : Json) (found : List (Step × Json)) : Prop :=
  (found.map Prod.fst).Nodup
    ∧ ∀ s c, (s, c) ∈ found ↔ test s = true ∧ v.child? s = some c

/-- What is found under a step is the child there, if it passes. -/
theorem Selects.lookup {test : Step → Bool} {v : Json} {found : List (Step × Json)}
    (h : Selects test v found) (s : Step) :
    found.lookup s = if test s then v.child? s else none := by
  refine Option.ext fun c => ?_
  rw [lookup_eq_some_iff_mem h.1, h.2]
  by_cases hs : test s = true
  · simp [hs]
  · simp [hs]

/-! ## Selectors -/

/-- A name selects the one child of that name. -/
theorem pickName_selects (n : String) (v root : Json) :
    Selects (Selector.picks (.name n) v root) v (pickName n v) := by
  cases v with
  | object ms =>
    rw [pickName]
    cases hlookup : ms.lookup n with
    | none =>
      refine ⟨.nil, fun s c => ?_⟩
      cases s with
      | index i => simp [Selector.picks]
      | name key => simp [Selector.picks, hlookup]
    | some x =>
      refine ⟨by simp, fun s c => ?_⟩
      rw [List.mem_singleton, Prod.mk.injEq]
      cases s with
      | index i => simp [Selector.picks]
      | name key =>
        simp only [Selector.picks, hlookup, Option.isSome_some, Bool.and_true, beq_iff_eq,
          Step.name.injEq, Json.child?]
        constructor
        · rintro ⟨rfl, rfl⟩
          exact ⟨rfl, hlookup⟩
        · rintro ⟨rfl, hc⟩
          exact ⟨rfl, Option.some.inj (hc.symm.trans hlookup)⟩
  | _ => exact ⟨.nil, fun s c => by simp [pickName, Selector.picks]⟩

/-- A position picks the element there. -/
theorem mem_pickPosition {xs : List Json} {i : Nat} {s : Step} {c : Json} :
    (s, c) ∈ pickPosition xs i ↔ s = .index i ∧ xs[i]? = some c := by
  rw [pickPosition]
  cases xs[i]? with
  | none => simp
  | some x => simp [eq_comm]

/-- Distinct positions pick distinct elements. -/
theorem nodup_pickPositions (xs : List Json) {positions : List Nat} (h : positions.Nodup) :
    ((positions.flatMap (pickPosition xs)).map Prod.fst).Nodup := by
  -- positions that the array lacks pick nothing, so the steps are some of the positions
  have hsteps : ((positions.flatMap (pickPosition xs)).map Prod.fst).Sublist
      (positions.map Step.index) := by
    clear h
    induction positions with
    | nil => exact .slnil
    | cons i positions ih =>
      rw [List.flatMap_cons, List.map_append, List.map_cons, pickPosition]
      cases xs[i]? with
      | none => exact ih.cons _
      | some x => exact ih.cons_cons _
  exact (h.map fun _ _ hij => Step.index.inj hij).sublist hsteps

/-- An index selects the one child at its position. -/
theorem pickIndex_selects (i : Int64) (v root : Json) :
    Selects (Selector.picks (.index i) v root) v (pickIndex i v) := by
  cases v with
  | array xs =>
    rw [pickIndex]
    cases hresolved : resolveIndex i xs.length with
    | none => exact ⟨.nil, fun s c => by cases s <;> simp [Selector.picks, hresolved]⟩
    | some p =>
      refine ⟨?_, fun s c => ?_⟩
      · have hnodup := nodup_pickPositions xs (List.nodup_singleton p)
        rwa [List.flatMap_singleton] at hnodup
      · rw [mem_pickPosition]
        cases s with
        | name key => simp [Selector.picks]
        | index q =>
          simp only [Selector.picks, hresolved, Step.index.injEq, Json.child?, beq_iff_eq,
            Option.some.injEq]
          constructor
          · rintro ⟨rfl, hc⟩
            exact ⟨rfl, hc⟩
          · rintro ⟨rfl, hc⟩
            exact ⟨rfl, hc⟩
  | _ => exact ⟨.nil, fun s c => by simp [pickIndex, Selector.picks]⟩

/-- A slice selects the children at its positions. -/
theorem pickSlice_selects (sl : Slice) (v root : Json) :
    Selects (Selector.picks (.slice sl) v root) v (pickSlice sl v) := by
  cases v with
  | array xs =>
    rw [pickSlice]
    refine ⟨nodup_pickPositions xs (sl.positions_spec xs.length).1, fun s c => ?_⟩
    simp only [List.mem_flatMap, mem_pickPosition]
    cases s with
    | name key => simp [Selector.picks]
    | index q =>
      simp only [Selector.picks, Step.index.injEq, Json.child?, List.contains_iff_mem]
      constructor
      · rintro ⟨p, hp, rfl, hc⟩
        exact ⟨hp, hc⟩
      · rintro ⟨hq, hc⟩
        exact ⟨q, hq, rfl, hc⟩
  | _ => exact ⟨.nil, fun s c => by simp [pickSlice, Selector.picks]⟩

/-- **A selector picks the right children of a document, and none of them twice.** -/
theorem Selector.pick_spec {t : Selector} {d : Document} {root : Json}
    {found : List (Step × Json)} (h : t.pick d.value root = .ok found) :
    Selects (t.picks d.value root) d.value found := by
  cases t with
  | name n =>
    rw [pick] at h
    cases h
    exact pickName_selects n d.value root
  | index i =>
    rw [pick] at h
    cases h
    exact pickIndex_selects i d.value root
  | slice sl =>
    rw [pick] at h
    cases h
    exact pickSlice_selects sl d.value root
  | wildcard =>
    rw [pick] at h
    cases h
    refine ⟨d.nodup_children, fun s c => ?_⟩
    rw [d.mem_children_iff, picks]
    exact ⟨fun hc => ⟨by rw [hc, Option.isSome_some], hc⟩, fun hc => hc.2⟩
  | filter f =>
    rw [pick] at h
    rw [keepIf_eq_ok h]
    refine ⟨d.nodup_children.sublist (List.filter_sublist.map Prod.fst), fun s c => ?_⟩
    -- the test is asked of the child that the step leads to
    rw [List.mem_filter, d.mem_children_iff, picks, and_comm]
    refine and_congr_left fun hc => ?_
    rw [hc, Option.any_some]

/-- **A selector fails only in a filter's test of a child.** -/
theorem Selector.pick_eq_error {t : Selector} {d : Document} {root : Json} {e : Violation}
    (h : t.pick d.value root = .error e) :
    ∃ f s c, t = .filter f ∧ d.value.child? s = some c ∧ Formula.holds f c root = .error e := by
  cases t with
  | filter f =>
    rw [pick] at h
    obtain ⟨⟨s, c⟩, hmem, hc⟩ := keepIf_eq_error h
    exact ⟨f, s, c, rfl, d.mem_children_iff.mp hmem, hc⟩
  | _ =>
    rw [pick] at h
    cases h

/-! ## Lists of selectors -/

/-- A bracket fails with one of its selectors. -/
theorem Selector.pickAll_eq_error {ts : List Selector} {v root : Json} {e : Violation}
    (h : pickAll ts v root = .error e) : ∃ t ∈ ts, t.pick v root = .error e := by
  induction ts with
  | nil =>
    rw [pickAll] at h
    cases h
  | cons t ts ih =>
    rw [pickAll] at h
    rcases bind_eq_error.mp h with ht | ⟨here, -, h⟩
    · exact ⟨t, List.mem_cons_self, ht⟩
    · rcases bind_eq_error.mp h with hts | ⟨rest, -, h⟩
      · obtain ⟨u, hu, hfails⟩ := ih hts
        exact ⟨u, List.mem_cons_of_mem t hu, hfails⟩
      · cases h

/-- What selectors pick are children of the document. -/
theorem Selector.child_of_pickAll {ts : List Selector} {d : Document} {root : Json}
    {found : List (Step × Json)} (h : pickAll ts d.value root = .ok found) {s : Step} {c : Json}
    (hmem : (s, c) ∈ found) : d.value.child? s = some c := by
  induction ts generalizing found with
  | nil =>
    rw [pickAll] at h
    cases h
    cases hmem
  | cons t ts ih =>
    rw [pickAll] at h
    obtain ⟨here, hhere, h⟩ := bind_eq_ok.mp h
    obtain ⟨rest, hrest, h⟩ := bind_eq_ok.mp h
    cases h
    rcases List.mem_append.mp hmem with hmem | hmem
    · exact (((pick_spec hhere).2 s c).mp hmem).2
    · exact ih hrest hmem

end JsonQuery
