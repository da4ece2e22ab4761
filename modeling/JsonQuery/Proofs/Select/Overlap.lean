import JsonQuery.Proofs.Select.Counting
import JsonQuery.Proofs.Select.Passes

/-
Queries without overlap.

Where every segment has one selector and at most one segment is a descendant segment, no
location is selected twice (`Query.nodup_selectLocatedFrom`). The argument counts the ways
in which segments derive a location: there is at most one (`Segment.derivations_le_one`).

A child segment goes down by one step, so behind the descendant segment a location is as
long as the number of segments there. That fixes where the way down of the descendant
segment ends, although a location can be split at every step. A second descendant segment
leaves that open, and then the locations do come out more than once.
-/

set_option autoImplicit false

namespace JsonQuery

/-! ## Ways of one segment -/

/-- What is derived through selectors is derived from a child. -/
theorem Selector.derivations_ne_zero {ts : List Selector} {rest : Json → Location → Nat}
    {v root : Json} {p : Location} (h : derivations ts rest v root p ≠ 0) :
    ∃ s q c, p = s :: q ∧ rest c q ≠ 0 := by
  cases p with
  | nil => exact absurd rfl h
  | cons s q =>
    rw [derivations] at h
    have hchild := Nat.ne_zero_of_mul_ne_zero_right h
    cases hc : v.child? s with
    | none =>
      rw [hc] at hchild
      exact absurd rfl hchild
    | some c =>
      rw [hc] at hchild
      exact ⟨s, q, c, rfl, hchild⟩

/-- One selector picks a step in one way at most. -/
theorem Selector.derivations_le_one {ts : List Selector} (hts : ts.length = 1)
    {rest : Json → Location → Nat} (hrest : ∀ c q, rest c q ≤ 1) (v root : Json) (p : Location) :
    derivations ts rest v root p ≤ 1 := by
  cases p with
  | nil => exact Nat.zero_le 1
  | cons s q =>
    have hpicks : ts.countP (fun t => t.picks v root s) ≤ 1 := hts ▸ List.countP_le_length
    have hchild : ((v.child? s).elim 0 fun c => rest c q) ≤ 1 := by
      cases v.child? s with
      | none => exact Nat.zero_le 1
      | some c => exact hrest c q
    exact Nat.mul_le_mul hpicks hchild

/-- **A way down ends at one place** if what follows it has one length. -/
theorem derivationsBelow_le_one {here : Json → Location → Nat} {k : Nat}
    (hhere : ∀ n p, here n p ≤ 1) (hlength : ∀ n p, here n p ≠ 0 → p.length = k + 1)
    (v : Json) (p : Location) : derivationsBelow here v p ≤ 1 := by
  have hsplit : ∀ i, ((v.follow? (p.take i)).elim 0 fun n => here n (p.drop i)) ≠ 0 →
      p.length - i = k + 1 := by
    intro i hi
    cases hn : v.follow? (p.take i) with
    | none => exact absurd (by rw [hn]; rfl) hi
    | some n =>
      rw [hn] at hi
      rw [← List.length_drop]
      exact hlength n _ hi
  -- of all splits only the one that leaves `k + 1` steps counts
  have hsum : derivationsBelow here v p
      = (v.follow? (p.take (p.length - (k + 1)))).elim 0 fun n =>
        here n (p.drop (p.length - (k + 1))) := by
    refine Finset.sum_eq_single (p.length - (k + 1)) ?_ ?_
    · intro i _ hne
      by_contra hi
      have := hsplit i hi
      omega
    · intro hout
      by_contra hi
      have := hsplit _ hi
      rw [Finset.mem_range] at hout
      omega
  rw [hsum]
  cases v.follow? (p.take (p.length - (k + 1))) with
  | none => exact Nat.zero_le 1
  | some n => exact hhere n _

/-! ## Ways of all segments -/

/-- **Child segments go down by as many steps as there are segments.** -/
theorem Segment.length_of_derivations {ss : List Segment}
    (hchild : ∀ s ∈ ss, s.isDescendant = false) {v root : Json} {p : Location}
    (h : derivations root ss v p ≠ 0) : p.length = ss.length := by
  induction ss generalizing v p with
  | nil =>
    rw [derivations] at h
    by_cases hp : p = []
    · rw [hp]
      rfl
    · exact absurd (if_neg hp) h
  | cons s ss ih =>
    rw [List.forall_mem_cons] at hchild
    cases s with
    | child ts =>
      obtain ⟨t, q, c, rfl, hq⟩ := Selector.derivations_ne_zero h
      rw [List.length_cons, List.length_cons, ih hchild.2 hq]
    | descendant ts => cases hchild.1

/-- **Segments without overlap derive a location in one way at most.** -/
theorem Segment.derivations_le_one {ss : List Segment}
    (hsingle : ∀ s ∈ ss, s.selectors.length = 1) (hbelow : ss.countP isDescendant ≤ 1)
    (v root : Json) (p : Location) : derivations root ss v p ≤ 1 := by
  induction ss generalizing v p with
  | nil =>
    rw [derivations]
    split <;>
    omega
  | cons s ss ih =>
    rw [List.forall_mem_cons] at hsingle
    rw [List.countP_cons] at hbelow
    have hrest : ∀ c q, derivations root ss c q ≤ 1 := ih hsingle.2 (by omega)
    cases s with
    | child ts => exact Selector.derivations_le_one hsingle.1 hrest v root p
    | descendant ts =>
      -- this is the one descendant segment, so behind it are child segments only
      have hchild : ∀ s ∈ ss, s.isDescendant = false := by
        have hnone : ss.countP isDescendant = 0 := by
          simp only [isDescendant, if_true] at hbelow
          omega
        simpa [List.countP_eq_zero] using hnone
      have hlength : ∀ n q, Selector.derivations ts (derivations root ss) n root q ≠ 0 →
          q.length = ss.length + 1 := by
        intro n q hq
        obtain ⟨t, r, c, rfl, hr⟩ := Selector.derivations_ne_zero hq
        rw [List.length_cons, length_of_derivations hchild hr]
      exact derivationsBelow_le_one
        (fun n q => Selector.derivations_le_one hsingle.1 hrest n root q) hlength v p

/-! ## Located nodes -/

/-- **A query without overlap selects no location twice.** Where every segment has one
selector and at most one of them is a descendant segment, the locations of the result are
pairwise distinct, so that there is nothing to deduplicate. The query has no result only
where a filter of one of its segments violates a contract. -/
theorem Query.nodup_selectLocatedFrom (q : Query) (current root : Json)
    (h : (q.anchor.start current root).DistinctKeys)
    (hsingle : ∀ s ∈ q.segments, s.selectors.length = 1)
    (hbelow : q.segments.countP Segment.isDescendant ≤ 1) :
    (∀ found, q.selectLocatedFrom current root = .ok found →
        (found.map Located.location).Nodup ∧ Located.deduplicate found = found)
      ∧ ∀ e, q.selectLocatedFrom current root = .error e →
        ∃ s ∈ q.segments, s.FailsBelow (q.anchor.start current root) root e := by
  have hstart := Located.isBelow_start (q.anchor.start current root)
  refine ⟨fun found hfound => ?_,
    fun e he => Segment.failsBelow_of_followLocated ⟨_, h⟩ hstart he⟩
  have hnodup : (found.map Located.location).Nodup := by
    rw [List.nodup_iff_count_le_one]
    intro p
    -- the count of a location is the number of ways to derive it
    rw [← Located.sum_weight_nil root, Segment.sum_followLocated ⟨_, h⟩ hstart hfound p,
      List.map_singleton, List.sum_singleton]
    exact Segment.derivations_le_one hsingle hbelow _ root p
  exact ⟨hnodup, Located.deduplicate_eq_self hnodup⟩

/-- The last elements at any depth of three arrays in each other. -/
theorem nodup_selectLocatedFrom_last :
    (Json.array [.array [.array [.null]]]).DistinctKeys
      ∧ (∀ s ∈ [Segment.descendant [.wildcard], .child [.index (-1)]], s.selectors.length = 1)
      ∧ [Segment.descendant [.wildcard], .child [.index (-1)]].countP Segment.isDescendant ≤ 1
      ∧ ∃ found,
        (Query.mk .root [.descendant [.wildcard], .child [.index (-1)]]).selectLocatedFrom .null
          (.array [.array [.array [.null]]]) = .ok found
        ∧ found.length = 2 ∧ Located.deduplicate found = found := by
  have hdistinct : (Json.array [.array [.array [.null]]]).DistinctKeys := by
    simp [Json.DistinctKeys, Json.DistinctKeysItems]
  have hsingle : ∀ s ∈ [Segment.descendant [.wildcard], .child [.index (-1)]],
      s.selectors.length = 1 := by
    simp [Segment.selectors]
  have hbelow : [Segment.descendant [.wildcard], .child [.index (-1)]].countP
      Segment.isDescendant ≤ 1 := by decide
  refine ⟨hdistinct, hsingle, hbelow, _, rfl, rfl, ?_⟩
  exact ((Query.nodup_selectLocatedFrom
    (.mk .root [.descendant [.wildcard], .child [.index (-1)]]) .null
    (.array [.array [.array [.null]]]) hdistinct hsingle hbelow).1 _ rfl).2

end JsonQuery
