import JsonQuery.Json.Reader

/-
Values with ordered keys.

An object is meant to list its members in the order of their keys, and the type
does not say so. `Json.Ordered` does, for a value and all that is in it. Objects
that are made from members are ordered (`ordered_ofMembers`), and so is every value
that is read from a text (`ordered_of_ofText?`).
-/

set_option autoImplicit false

namespace JsonQuery
namespace Json

/-! ## The order of keys -/

mutual

/-- **Whether the keys of every object in a value increase.** -/
def Ordered : Json → Prop
  | array xs => OrderedItems xs
  | object ms => (ms.map Prod.fst).Pairwise (· < ·) ∧ OrderedMembers ms
  | _ => True

/-- Whether all elements are ordered. -/
def OrderedItems : List Json → Prop
  | [] => True
  | x :: xs => x.Ordered ∧ OrderedItems xs

/-- Whether the values of all members are ordered. -/
def OrderedMembers : List (String × Json) → Prop
  | [] => True
  | (_, v) :: ms => v.Ordered ∧ OrderedMembers ms

end

/-! ## Members -/

theorem orderedItems_iff (xs : List Json) : OrderedItems xs ↔ ∀ x ∈ xs, x.Ordered := by
  induction xs with
  | nil => simp [OrderedItems]
  | cons x xs ih => simp [OrderedItems, ih]

theorem orderedMembers_iff (ms : List (String × Json)) :
    OrderedMembers ms ↔ ∀ m ∈ ms, m.2.Ordered := by
  induction ms with
  | nil => simp [OrderedMembers]
  | cons m ms ih => simp [OrderedMembers, ih]

theorem mem_insertMember {key : String} {v : Json} {ms : List (String × Json)}
    {m : String × Json} (h : m ∈ insertMember key v ms) : m = (key, v) ∨ m ∈ ms := by
  induction ms with
  | nil => simpa [insertMember] using h
  | cons n ms ih =>
    unfold insertMember at h
    split at h
    · exact List.mem_cons.mp h
    · split at h
      · rcases List.mem_cons.mp h with h | h
        · exact .inl h
        · exact .inr (List.mem_cons_of_mem _ h)
      · rcases List.mem_cons.mp h with h | h
        · exact .inr (h ▸ List.mem_cons_self)
        · rcases ih h with h | h
          · exact .inl h
          · exact .inr (List.mem_cons_of_mem _ h)

/-- Putting a member in keeps the keys increasing. -/
theorem pairwise_insertMember (key : String) (v : Json) {ms : List (String × Json)}
    (h : (ms.map Prod.fst).Pairwise (· < ·)) :
    ((insertMember key v ms).map Prod.fst).Pairwise (· < ·) := by
  induction ms with
  | nil => simp [insertMember]
  | cons m ms ih =>
    obtain ⟨k, w⟩ := m
    simp only [List.map_cons, List.pairwise_cons] at h
    unfold insertMember
    split
    · rename_i hlt
      simp only [List.map_cons, List.pairwise_cons]
      refine ⟨fun l hl => ?_, h⟩
      rcases List.mem_cons.mp hl with rfl | hl
      · exact hlt
      · exact String.lt_trans hlt (h.1 l hl)
    · split
      · rename_i hkey
        subst hkey
        simpa only [List.map_cons, List.pairwise_cons] using h
      · rename_i hnot hne
        simp only [List.map_cons, List.pairwise_cons]
        refine ⟨fun l hl => ?_, ih h.2⟩
        obtain ⟨m, hm, rfl⟩ := List.mem_map.mp hl
        rcases mem_insertMember hm with rfl | hm
        · exact Std.lt_of_le_of_ne (String.not_lt.mp hnot) fun e => hne e.symm
        · exact h.1 m.1 (List.mem_map_of_mem hm)

/-- **The object of members is ordered**, whatever order they come in, once their
values are. -/
theorem ordered_ofMembers {members : List (String × Json)}
    (h : ∀ m ∈ members, m.2.Ordered) : (ofMembers members).Ordered := by
  have key : ∀ (ms : List (String × Json)),
      (ms.map Prod.fst).Pairwise (· < ·) → OrderedMembers ms →
      (object (members.foldl (fun ms m => insertMember m.1 m.2 ms) ms)).Ordered := by
    induction members with
    | nil => exact fun ms hms hvalues => ⟨hms, hvalues⟩
    | cons m members ih =>
      intro ms hms hvalues
      refine ih (fun n hn => h n (List.mem_cons_of_mem _ hn)) _
        (pairwise_insertMember m.1 m.2 hms) ?_
      rw [orderedMembers_iff] at hvalues ⊢
      intro n hn
      rcases mem_insertMember hn with rfl | hn
      · exact h m List.mem_cons_self
      · exact hvalues n hn
  exact key [] List.Pairwise.nil trivial

/-! ## Reading -/

/-- What a reader with some fuel answers is ordered, for values, elements and
members at once. -/
theorem ordered_read (fuel : Nat) :
    (∀ cs v rest, readValue fuel cs = some (v, rest) → v.Ordered)
      ∧ (∀ cs xs rest, readItems fuel cs = some (xs, rest) → OrderedItems xs)
      ∧ ∀ cs ms rest, readMembers fuel cs = some (ms, rest) → OrderedMembers ms := by
  induction fuel with
  | zero => simp [readValue, readItems, readMembers]
  | succ fuel ih =>
    obtain ⟨ihValue, ihItems, ihMembers⟩ := ih
    refine ⟨fun cs v rest h => ?_, fun cs xs rest h => ?_, fun cs ms rest h => ?_⟩
    · unfold readValue at h
      split at h
      · cases h; trivial
      · cases h; trivial
      · cases h; trivial
      · split at h
        · cases h; trivial
        · obtain ⟨⟨xs, behind⟩, hread, heq⟩ := Option.map_eq_some_iff.mp h
          cases heq
          exact ihItems _ xs _ hread
      · split at h
        · cases h; exact ⟨List.Pairwise.nil, trivial⟩
        · obtain ⟨⟨ms, behind⟩, hread, heq⟩ := Option.map_eq_some_iff.mp h
          cases heq
          exact ordered_ofMembers ((orderedMembers_iff ms).mp (ihMembers _ ms _ hread))
      · obtain ⟨⟨s, behind⟩, hread, heq⟩ := Option.map_eq_some_iff.mp h
        cases heq
        trivial
      · simp only [bind, Option.bind_eq_some_iff] at h
        obtain ⟨⟨n, behind⟩, hscan, x, hnumber, heq⟩ := h
        cases heq
        trivial
    · unfold readItems at h
      simp only [bind, Option.bind_eq_some_iff] at h
      obtain ⟨⟨x, behind⟩, hread, h⟩ := h
      have hx := ihValue _ _ _ hread
      split at h
      · obtain ⟨⟨more, last⟩, hmore, heq⟩ := Option.bind_eq_some_iff.mp h
        cases heq
        exact ⟨hx, ihItems _ _ _ hmore⟩
      · cases h
        exact ⟨hx, trivial⟩
      · cases h
    · unfold readMembers at h
      simp only [bind, Option.bind_eq_some_iff] at h
      obtain ⟨⟨key, behind⟩, hkey, h⟩ := h
      split at h
      · obtain ⟨⟨v, next⟩, hread, h⟩ := Option.bind_eq_some_iff.mp h
        have hv := ihValue _ _ _ hread
        split at h
        · obtain ⟨⟨more, last⟩, hmore, heq⟩ := Option.bind_eq_some_iff.mp h
          cases heq
          exact ⟨hv, ihMembers _ _ _ hmore⟩
        · cases h
          exact ⟨hv, trivial⟩
        · cases h
      · cases h

/-- **Every value that is read from a text is ordered.** -/
theorem ordered_of_ofText? {text : String} {v : Json} (h : ofText? text = some v) :
    v.Ordered := by
  simp only [ofText?, bind, Option.bind_eq_some_iff] at h
  obtain ⟨⟨w, rest⟩, hread, h⟩ := h
  split at h
  · cases h
    exact (ordered_read _).1 _ _ _ hread
  · cases h

end Json
end JsonQuery
