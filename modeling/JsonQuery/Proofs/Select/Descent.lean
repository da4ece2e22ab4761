import JsonQuery.Proofs.Location.Children
import JsonQuery.Proofs.Outcome
import JsonQuery.Select.Nodes
import Mathlib.Algebra.Ring.Nat

/-
Sequences of results, and the descent through a value.

What a sequence of results holds, and where it fails, is said here once. The descent is
defined by recursion on arrays and objects apart; `descend_eq` says it over the children
of a node, which is the form that an induction on values can use.
-/

set_option autoImplicit false

namespace JsonQuery

/-! ## Sequences -/

section Sequences

variable {α β : Type} {f : α → Except Violation (List β)}

/-- A sequence answers when its first step and the others do. -/
theorem concatEach_cons_eq_ok {x : α} {xs : List α} {ys : List β} :
    concatEach f (x :: xs) = .ok ys
      ↔ ∃ here rest, f x = .ok here ∧ concatEach f xs = .ok rest ∧ ys = here ++ rest := by
  constructor
  · intro h
    obtain ⟨here, hhere, h⟩ := bind_eq_ok.mp h
    obtain ⟨rest, hrest, h⟩ := bind_eq_ok.mp h
    cases h
    exact ⟨here, rest, hhere, hrest, rfl⟩
  · rintro ⟨here, rest, hhere, hrest, rfl⟩
    rw [concatEach_cons, hhere, hrest]
    rfl

/-- A sequence holds what its parts hold. -/
theorem mem_of_concatEach {xs : List α} {ys : List β} (h : concatEach f xs = .ok ys) {y : β}
    (hy : y ∈ ys) : ∃ x ∈ xs, ∃ here, f x = .ok here ∧ y ∈ here := by
  induction xs generalizing ys with
  | nil =>
    cases h
    cases hy
  | cons x xs ih =>
    obtain ⟨here, rest, hhere, hrest, rfl⟩ := concatEach_cons_eq_ok.mp h
    rcases List.mem_append.mp hy with hy | hy
    · exact ⟨x, List.mem_cons_self, here, hhere, hy⟩
    · obtain ⟨z, hz, more, hmore, hmem⟩ := ih hrest hy
      exact ⟨z, List.mem_cons_of_mem x hz, more, hmore, hmem⟩

/-- **A sequence fails where one of its parts does.** -/
theorem concatEach_eq_error {xs : List α} {e : Violation} (h : concatEach f xs = .error e) :
    ∃ x ∈ xs, f x = .error e := by
  induction xs with
  | nil => cases h
  | cons x xs ih =>
    rcases bind_eq_error.mp h with hx | ⟨here, -, h⟩
    · exact ⟨x, List.mem_cons_self, hx⟩
    · rcases bind_eq_error.mp h with hxs | ⟨rest, -, h⟩
      · obtain ⟨z, hz, hfails⟩ := ih hxs
        exact ⟨z, List.mem_cons_of_mem x hz, hfails⟩
      · cases h

/-- **The weight of a sequence** is the weight of its parts together. -/
theorem sum_concatEach {weight : β → Nat} {total : α → Nat} {xs : List α} {ys : List β}
    (hf : ∀ x ∈ xs, ∀ here, f x = .ok here → (here.map weight).sum = total x)
    (h : concatEach f xs = .ok ys) : (ys.map weight).sum = (xs.map total).sum := by
  induction xs generalizing ys with
  | nil =>
    cases h
    rfl
  | cons x xs ih =>
    obtain ⟨here, rest, hhere, hrest, rfl⟩ := concatEach_cons_eq_ok.mp h
    have hfirst := hf x List.mem_cons_self here hhere
    have hmore := ih (fun z hz => hf z (List.mem_cons_of_mem x hz)) hrest
    rw [List.map_append, List.sum_append, List.map_cons, List.sum_cons, hfirst, hmore]

/-- **Sequences in step**: if what `g` answers for the image of a member is the image of
what `f` answers for it, then the same holds of all members together. -/
theorem concatEach_map {α β γ δ : Type} {f : α → Except Violation (List β)}
    {g : γ → Except Violation (List δ)} {φ : α → γ} {ψ : β → δ}
    (h : ∀ x, g (φ x) = List.map ψ <$> f x) (xs : List α) :
    concatEach g (xs.map φ) = List.map ψ <$> concatEach f xs := by
  induction xs with
  | nil => rfl
  | cons x xs ih =>
    rw [List.map_cons, concatEach_cons, concatEach_cons, h, ih]
    cases f x with
    | error e => rfl
    | ok here =>
      cases concatEach f xs with
      | error e => rfl
      | ok rest => exact congrArg Except.ok List.map_append.symm

/-- Sequences agree where all of their parts do. -/
theorem concatEach_congr {g : α → Except Violation (List β)} {xs : List α}
    (h : ∀ x ∈ xs, f x = g x) : concatEach f xs = concatEach g xs := by
  induction xs with
  | nil => rfl
  | cons x xs ih =>
    have hfirst := h x List.mem_cons_self
    have hrest := ih fun y hy => h y (List.mem_cons_of_mem x hy)
    rw [concatEach_cons, concatEach_cons, hfirst, hrest]

/-- **A sequence of sequences** is the sequence of all that is in them. -/
theorem concatEach_flatMap {γ : Type} (g : γ → List α) (xs : List γ) :
    concatEach f (xs.flatMap g) = concatEach (fun x => concatEach f (g x)) xs := by
  induction xs with
  | nil => rfl
  | cons x xs ih => rw [List.flatMap_cons, concatEach_append, concatEach_cons, ih]

/-- Sequences have the same results where all of their parts do. -/
theorem concatEach_eq_ok_congr {g : α → Except Violation (List β)} {xs : List α} {ys : List β}
    (h : ∀ x ∈ xs, ∀ here, f x = .ok here ↔ g x = .ok here) :
    concatEach f xs = .ok ys ↔ concatEach g xs = .ok ys := by
  induction xs generalizing ys with
  | nil => exact Iff.rfl
  | cons x xs ih =>
    have hfirst := h x List.mem_cons_self
    have hrest := @ih (h := fun y hy => h y (List.mem_cons_of_mem x hy))
    simp only [concatEach_cons_eq_ok, hfirst, hrest]

/-- **Two stages can be taken together**: all parts of the first stage and then all parts of
the second one have the results of the parts of the first stage, each followed by the second
stage. A violation may come up in another place, so this is about results only. -/
theorem concatEach_bind_eq_ok_iff {γ : Type} {g : β → Except Violation (List γ)} {xs : List α}
    {zs : List γ} :
    (concatEach f xs >>= concatEach g) = .ok zs
      ↔ concatEach (fun x => f x >>= concatEach g) xs = .ok zs := by
  induction xs generalizing zs with
  | nil => exact Iff.rfl
  | cons x xs ih =>
    simp only [concatEach_cons_eq_ok, ← ih, bind_eq_ok]
    constructor
    · rintro ⟨_, ⟨here, rest, hhere, hrest, rfl⟩, hzs⟩
      rw [concatEach_append] at hzs
      obtain ⟨first, hfirst, hzs⟩ := bind_eq_ok.mp hzs
      obtain ⟨more, hmore, hzs⟩ := bind_eq_ok.mp hzs
      cases hzs
      exact ⟨first, more, ⟨here, hhere, hfirst⟩, ⟨rest, hrest, hmore⟩, rfl⟩
    · rintro ⟨first, more, ⟨here, hhere, hfirst⟩, ⟨rest, hrest, hmore⟩, rfl⟩
      refine ⟨here ++ rest, ⟨here, rest, hhere, hrest, rfl⟩, ?_⟩
      rw [concatEach_append, hfirst, hmore]
      rfl

/-- Parts that all answer make a sequence that does. -/
theorem concatEach_ok (g : α → List β) (xs : List α) :
    concatEach (fun x => .ok (g x)) xs = .ok (xs.flatMap g) := by
  induction xs with
  | nil => rfl
  | cons x xs ih =>
    rw [concatEach_cons, ih, List.flatMap_cons]
    rfl

/-- Whether a test was passed; one that fails is not. -/
def passes (outcome : Except Violation Bool) : Bool := outcome.toOption == some true

/-- What is kept are the elements that pass. -/
theorem keepIf_eq_ok {test : α → Except Violation Bool} {xs ys : List α}
    (h : keepIf test xs = .ok ys) : ys = xs.filter fun x => passes (test x) := by
  induction xs generalizing ys with
  | nil =>
    cases h
    rfl
  | cons x xs ih =>
    obtain ⟨kept, hkept, h⟩ := bind_eq_ok.mp h
    obtain ⟨rest, hrest, h⟩ := bind_eq_ok.mp h
    cases h
    rw [List.filter_cons, ih hrest, hkept]
    cases kept <;>
    rfl

/-- A list is not sifted only where one of the tests fails. -/
theorem keepIf_eq_error {test : α → Except Violation Bool} {xs : List α} {e : Violation}
    (h : keepIf test xs = .error e) : ∃ x ∈ xs, test x = .error e := by
  induction xs with
  | nil => cases h
  | cons x xs ih =>
    rcases bind_eq_error.mp h with hx | ⟨kept, -, h⟩
    · exact ⟨x, List.mem_cons_self, hx⟩
    · rcases bind_eq_error.mp h with hxs | ⟨rest, -, h⟩
      · obtain ⟨z, hz, hfails⟩ := ih hxs
        exact ⟨z, List.mem_cons_of_mem x hz, hfails⟩
      · cases h

end Sequences

/-! ## The descent -/

section Descent

variable {pick : Json → Except Violation (List (Step × Json))}

/-- What is picked from a child and below it. -/
def descendChild (pick : Json → Except Violation (List (Step × Json))) (m : Step × Json) :
    Except Violation (List (Location × Json)) := do
  let found ← descend pick m.2
  return stepped m.1 found

/-- The elements of an array are descended into as its children. -/
theorem descendItems_eq (i : Nat) (xs : List Json) :
    descendItems pick i xs
      = concatEach (descendChild pick) ((xs.zipIdx i).map fun (x, j) => (.index j, x)) := by
  induction xs generalizing i with
  | nil => rfl
  | cons x xs ih =>
    rw [descendItems, List.zipIdx_cons, List.map_cons, concatEach_cons, ← ih, descendChild]
    cases descend pick x with
    | error e => rfl
    | ok here => rfl

/-- The members of an object are descended into as its children. -/
theorem descendMembers_eq (ms : List (String × Json)) :
    descendMembers pick ms
      = concatEach (descendChild pick) (ms.map fun (key, v) => (.name key, v)) := by
  induction ms with
  | nil => rfl
  | cons m ms ih =>
    obtain ⟨key, x⟩ := m
    rw [descendMembers, List.map_cons, concatEach_cons, ← ih, descendChild]
    cases descend pick x with
    | error e => rfl
    | ok here => rfl

/-- **The descent over children**: what is picked from the node itself comes before what
is found in the children, one after the other. -/
theorem descend_eq (v : Json) :
    descend pick v = do
      let here ← pick v
      let below ← concatEach (descendChild pick) v.children
      return oneStep here ++ below := by
  cases v with
  | array xs => rw [descend, descendItems_eq, Json.children]
  | object ms => rw [descend, descendMembers_eq, Json.children]
  | _ => simp only [descend, Json.children, concatEach_nil, ok_bind, List.append_nil]

/-- **The descent fails where picking fails**, at the document itself or at a node below it. -/
theorem descend_eq_error {d : Document} {e : Violation} (h : descend pick d.value = .error e) :
    ∃ p n, d.value.follow? p = some n ∧ pick n = .error e := by
  induction d using Document.childInduction with
  | step d ih =>
    rw [descend_eq] at h
    rcases bind_eq_error.mp h with hhere | ⟨here, -, h⟩
    · exact ⟨[], d.value, rfl, hhere⟩
    · rcases bind_eq_error.mp h with hbelow | ⟨below, -, h⟩
      · obtain ⟨⟨s, c⟩, hmem, hc⟩ := concatEach_eq_error hbelow
        -- the child fails, so the way to the failure goes through it
        have hchild := d.mem_children_iff.mp hmem
        rcases bind_eq_error.mp hc with hc | ⟨found, -, hc⟩
        · obtain ⟨p, n, hn, hpick⟩ := ih s c hchild hc
          refine ⟨s :: p, n, ?_, hpick⟩
          rw [Json.follow?, hchild]
          exact hn
        · cases hc
      · cases h

end Descent

end JsonQuery
