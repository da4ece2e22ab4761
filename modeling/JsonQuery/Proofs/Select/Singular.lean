import JsonQuery.Function.Standard
import JsonQuery.Proofs.Query.WellFormed
import JsonQuery.Proofs.Select.Agreement
import JsonQuery.Regex.Reference.Compile

/-
Singular queries.

A singular query has a form of its own, a list of names and indexes, and a walk that goes
down by them one child at a time. The walk finds the nodes that the query selects
(`Query.selectFrom_singular`): every singular segment picks the child that its selector
leads to or nothing (`Segment.found_of_singular?`), so the nodes found so far are never more
than one, and the walk has stopped where there is none.
-/

set_option autoImplicit false

namespace JsonQuery

/-! ## Segments -/

/-- A name picks the child that it leads to. -/
theorem pickName_eq_locate? (n : String) (v : Json) :
    (pickName n v).map Prod.snd = (SingularSelector.locate? (.name n) v).toList := by
  cases v with
  | object ms =>
    rw [pickName, SingularSelector.locate?]
    cases ms.lookup n <;> rfl
  | _ => rfl

/-- An index picks the child that it leads to. -/
theorem pickIndex_eq_locate? (i : Int64) (v : Json) :
    (pickIndex i v).map Prod.snd = (SingularSelector.locate? (.index i) v).toList := by
  cases v with
  | array xs =>
    rw [pickIndex, SingularSelector.locate?]
    cases resolveIndex i xs.length with
    | none => rfl
    | some p =>
      simp only [Option.bind_some, pickPosition]
      cases xs[p]? <;> rfl
  | _ => rfl

/-- A segment of one selector selects what that selector picks. -/
theorem Segment.found_single {t : Selector} {v root : Json} {picked : List (Step × Json)}
    (h : t.pick v root = .ok picked) :
    found (.child [t]) root v = .ok (picked.map Prod.snd) := by
  simp only [found, visit, Selector.pickAll, h, ok_bind, oneStep, List.append_nil]
  refine congrArg Except.ok ?_
  rw [List.map_map]
  rfl

/-- **A singular segment selects the child that its selector leads to**, or nothing. -/
theorem Segment.found_of_singular? {s : Segment} {t : SingularSelector}
    (h : s.singular? = some t) (v root : Json) : s.found root v = .ok (t.locate? v).toList := by
  unfold singular? at h
  split at h
  · rename_i n
    cases h
    rw [found_single (by rw [Selector.pick]), pickName_eq_locate?]
  · rename_i i
    cases h
    rw [found_single (by rw [Selector.pick]), pickIndex_eq_locate?]
  · cases h

/-- From no node segments lead nowhere. -/
theorem Segment.followAll_nil (ss : List Segment) (root : Json) :
    followAll ss [] root = .ok [] := by
  induction ss with
  | nil => rw [followAll]
  | cons s ss ih => rw [followAll_cons, concatEach_nil, ok_bind, ih]

/-- **Singular segments lead from a node to at most one**, the one that their selectors lead
to. -/
theorem Segment.followAll_of_allSingular? {ss : List Segment} {ts : List SingularSelector}
    (h : allSingular? ss = some ts) (v root : Json) :
    followAll ss [v] root = .ok (locateAll? ts v).toList := by
  induction ss generalizing ts v with
  | nil =>
    cases h
    rw [followAll]
    rfl
  | cons s ss ih =>
    obtain ⟨t, us, ht, hus, rfl⟩ := allSingular?_cons_eq_some.mp h
    have hfirst : concatEach (s.found root) [v] = .ok (t.locate? v).toList := by
      rw [concatEach_cons, found_of_singular? ht, concatEach_nil]
      exact congrArg Except.ok (List.append_nil _)
    rw [followAll_cons, hfirst, ok_bind, locateAll?]
    -- the segments behind have one node to go on from, or none
    cases t.locate? v with
    | none => exact followAll_nil ss root
    | some c => exact ih hus c

/-! ## Queries -/

/-- A query selects what its singular form locates. -/
theorem Query.selectFrom_of_singular? {q : Query} {s : SingularQuery} (h : q.singular? = some s)
    (current root : Json) : q.selectFrom current root = .ok (s.locate? current root).toList := by
  obtain ⟨anchor, ss⟩ := q
  obtain ⟨ts, hts, rfl⟩ := Option.map_eq_some_iff.mp h
  rw [Query.segments_mk] at hts
  rw [selectFrom, Segment.followAll_of_allSingular? hts]
  rfl

/-! ## Values -/

/-- The standard function `value`, as the registry holds it. -/
theorem Registry.lookup_value (engine : Engine) :
    (standard engine).lookup "value"
      = some (.ofSignature ⟨"value", [.nodes], .value⟩ Standard.value) := by
  rfl

/-- **At most one node has a value** that is that node. -/
theorem Standard.apply_value (found : Option Json) :
    (do
      let d ← (Function.ofSignature ⟨"value", [.nodes], .value⟩ value).callee.apply
        [.nodes found.toList]
      d.toValue) = .ok found := by
  cases found <;> rfl

/-- **The walk of a singular query agrees with its selection.** A query has a singular form
exactly when it is singular. The query then selects the node that its singular form leads to,
or no node where that leads nowhere; and the value of the singular form as an operand is that
of the standard function `value` for the query, passed in either form. -/
theorem Query.selectFrom_singular (engine : Engine) (q : Query) :
    (q.isSingular = true ↔ ∃ s, q.singular? = some s)
      ∧ ∀ s, q.singular? = some s → ∀ current root,
        q.selectFrom current root = .ok (s.locate? current root).toList
          ∧ ∃ f, (Registry.standard engine).lookup "value" = some f
            ∧ ∀ x ∈ [Argument.query q, .singular s],
              (Operand.call (.mk f.callee [x])).value current root
                = (Operand.singular s).value current root := by
  refine ⟨?_, fun s h current root => ?_⟩
  · rw [← isSome_singular?, Option.isSome_iff_exists]
  · have hselect := selectFrom_of_singular? h current root
    refine ⟨hselect, _, Registry.lookup_value engine, ?_⟩
    intro x hx
    -- either form arrives at the function as the same nodes
    have hdatum : x.datum current root = .ok (.nodes (s.locate? current root).toList) := by
      simp only [List.mem_cons, List.not_mem_nil, or_false] at hx
      rcases hx with rfl | rfl
      · rw [Argument.datum, hselect]
        rfl
      · rw [Argument.datum]
    rw [Operand.value, Operand.value, Call.answer, Argument.data, Argument.data, hdatum]
    exact Standard.apply_value (s.locate? current root)

/-- From the back of an array to a member of its last element. -/
theorem selectFrom_singular_last :
    (Query.mk .current [.child [.index (-1)], .child [.name "a"]]).singular?
        = some ⟨.current, [.index (-1), .name "a"]⟩
      ∧ (Query.mk .current [.child [.index (-1)], .child [.name "a"]]).selectFrom
          (.array [.null, .object [("a", .bool true)]]) .null = .ok [.bool true] := by
  refine ⟨rfl, ?_⟩
  rw [((Query.selectFrom_singular .reference
    (.mk .current [.child [.index (-1)], .child [.name "a"]])).2
    ⟨.current, [.index (-1), .name "a"]⟩ rfl _ _).1]
  rfl

end JsonQuery
