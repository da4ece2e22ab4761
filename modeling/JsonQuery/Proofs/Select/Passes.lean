import JsonQuery.Proofs.Location.Order
import JsonQuery.Select.Located
import Mathlib.Data.List.Induction

/-
Deduplicating and sorting located nodes.

Both passes are described by what they do to the entries of one location: sorting leaves their
list as it is, and deduplicating leaves its first member (`Located.entriesAt_sort`,
`Located.entriesAt_deduplicate`). A list in the order of locations is determined by the entries of
each location (`Located.eq_of_sorted`), so the two passes commute. Each of them is idempotent, so
what any number of passes makes of a list depends on which of the two are among them only
(`Located.runAll_eq_settled`).
-/

set_option autoImplicit false

namespace JsonQuery
namespace Located

/-- The entries of one location, in the order of the list. -/
def entriesAt (p : Location) (as : List Located) : List Located :=
  as.filter fun a => a.location == p

theorem entriesAt_cons (p : Location) (a : Located) (as : List Located) :
    entriesAt p (a :: as) = if a.location = p then a :: entriesAt p as else entriesAt p as := by
  simp only [entriesAt, List.filter_cons, beq_iff_eq]

/-- The entries at a location are those of the list that stand there. -/
theorem mem_entriesAt {p : Location} {a : Located} {as : List Located} :
    a ∈ entriesAt p as ↔ a ∈ as ∧ a.location = p := by
  rw [entriesAt, List.mem_filter, beq_iff_eq]

/-- The order of entries by their locations, in which entries of one location are equal. -/
def before (a b : Located) : Bool := (Location.compare a.location b.location).isLE

theorem before_trans (a b c : Located) (hab : a.before b = true) (hbc : b.before c = true) :
    a.before c = true :=
  Std.TransCmp.isLE_trans hab hbc

theorem before_total (a b : Located) : (a.before b || b.before a) = true := by
  rw [before, before, ← Location.compare_swap a.location b.location]
  cases Location.compare a.location b.location <;> rfl

/-- Entries that come before each other are at one location. -/
theorem location_eq_of_before {a b : Located} (hab : a.before b = true) (hba : b.before a = true) :
    a.location = b.location :=
  Std.LawfulEqCmp.eq_of_compare (Std.OrientedCmp.isLE_antisymm hab hba)

/-! ## Deduplicating -/

/-- Entries are left out and nothing else happens. -/
theorem deduplicate_sublist (as : List Located) : (deduplicate as).Sublist as := by
  induction as with
  | nil => exact .slnil
  | cons a as ih => exact (List.filter_sublist.trans ih).cons_cons a

/-- **The last entry stays if it is the first of its location.** -/
theorem deduplicate_concat (as : List Located) (a : Located) :
    deduplicate (as ++ [a])
      = deduplicate as ++ if a.location ∈ as.map location then [] else [a] := by
  induction as with
  | nil => rfl
  | cons b as ih =>
    rw [List.cons_append, deduplicate, ih, List.filter_append, deduplicate, List.cons_append,
      List.map_cons]
    congr 2
    by_cases hearlier : a.location ∈ as.map location
    · rw [if_pos hearlier, if_pos (List.mem_cons_of_mem _ hearlier), List.filter_nil]
    · by_cases hfirst : a.location = b.location
      · simp [hfirst]
      · simp [hearlier, hfirst]

/-- **Deduplicating keeps exactly the entries that are the first of their location.** -/
theorem deduplicate_eq_firsts (as : List Located) :
    deduplicate as
      = (as.zipIdx.filter fun m => m.1.location ∉ (as.take m.2).map location).map Prod.fst := by
  induction as using List.reverseRecOn with
  | nil => rfl
  | append_singleton as a ih =>
    have hbefore : (as.zipIdx.filter fun m => m.1.location ∉ ((as ++ [a]).take m.2).map location)
        = as.zipIdx.filter fun m => m.1.location ∉ (as.take m.2).map location := by
      refine List.filter_congr fun m hm => ?_
      have hle : m.2 ≤ as.length := Nat.le_of_lt (List.snd_lt_of_mem_zipIdx hm)
      rw [List.take_append_of_le_length hle]
    rw [deduplicate_concat, ih, List.zipIdx_append, List.filter_append, hbefore, List.map_append]
    refine congrArg _ ?_
    by_cases hearlier : a.location ∈ as.map location
    · simp [hearlier]
    · simp [hearlier]

/-- **Deduplicating leaves the first entry of each location.** -/
theorem entriesAt_deduplicate (p : Location) (as : List Located) :
    entriesAt p (deduplicate as) = (entriesAt p as).take 1 := by
  induction as with
  | nil => rfl
  | cons a as ih =>
    rw [deduplicate, entriesAt_cons, entriesAt_cons, entriesAt, List.filter_filter]
    by_cases ha : a.location = p
    · subst ha
      simp
    · -- entries of `p` are none of the location of `a`
      have hothers : ∀ b ∈ deduplicate as,
          (b.location == p && b.location != a.location) = (b.location == p) := by
        intro b _
        by_cases hb : b.location = p
        · simp [hb, Ne.symm ha]
        · simp [hb]
      rw [List.filter_congr hothers, if_neg ha, if_neg ha]
      exact ih

/-- No location is left twice. -/
theorem nodup_deduplicate (as : List Located) : ((deduplicate as).map location).Nodup := by
  induction as with
  | nil => exact .nil
  | cons a as ih =>
    rw [deduplicate, List.map_cons, List.nodup_cons]
    refine ⟨?_, (List.filter_sublist.map _).nodup ih⟩
    simp

/-- A list without repeated locations is its own deduplication. -/
theorem deduplicate_eq_self {ns : List Located} (h : (ns.map location).Nodup) :
    deduplicate ns = ns := by
  induction ns with
  | nil => rfl
  | cons n ns ih =>
    rw [List.map_cons, List.nodup_cons] at h
    have hothers : ∀ m ∈ ns, (m.location != n.location) = true := fun m hm =>
      bne_iff_ne.mpr fun heq => h.1 (heq ▸ List.mem_map_of_mem hm)
    rw [deduplicate, ih h.2, List.filter_eq_self.mpr hothers]

/-- Leaving out duplicates twice is doing it once. -/
theorem deduplicate_deduplicate (as : List Located) :
    deduplicate (deduplicate as) = deduplicate as :=
  deduplicate_eq_self (nodup_deduplicate as)

/-! ## Sorting -/

theorem pairwise_sort (as : List Located) : (sort as).Pairwise fun a b => a.before b = true :=
  List.pairwise_mergeSort before_trans before_total as

theorem sort_sort (as : List Located) : sort (sort as) = sort as :=
  List.mergeSort_of_pairwise (pairwise_sort as)

theorem sort_perm (as : List Located) : (sort as).Perm as :=
  List.mergeSort_perm as _

/-- **Sorting keeps the order of the entries of one location.** -/
theorem entriesAt_sort (p : Location) (as : List Located) :
    entriesAt p (sort as) = entriesAt p as := by
  have hequal : (entriesAt p as).Pairwise fun a b => a.before b = true := by
    refine List.pairwise_of_forall_mem_list fun a ha b hb => ?_
    rw [before, (mem_entriesAt.mp ha).2, (mem_entriesAt.mp hb).2,
      (Location.compare_eq_iff p p).mpr rfl]
    rfl
  -- entries that are equal in the order stay in their order, and there are as many of them
  have hkept : (entriesAt p as).Sublist (sort as) :=
    List.sublist_mergeSort before_trans before_total hequal List.filter_sublist
  have hsublist : (entriesAt p as).Sublist (entriesAt p (sort as)) := by
    have hfilter := hkept.filter fun a => a.location == p
    rwa [List.filter_eq_self.mpr fun a ha => beq_iff_eq.mpr (mem_entriesAt.mp ha).2] at hfilter
  exact (hsublist.eq_of_length ((sort_perm as).filter _).length_eq.symm).symm

/-- Lists with the same entries at each location have the same entries. -/
theorem mem_iff_of_entriesAt {as bs : List Located}
    (h : ∀ p, entriesAt p as = entriesAt p bs) (a : Located) : a ∈ as ↔ a ∈ bs := by
  have hmem (cs : List Located) : a ∈ cs ↔ a ∈ entriesAt a.location cs := by
    simp [mem_entriesAt]
  rw [hmem as, h, ← hmem bs]

/-- **A list in the order of locations is determined by the entries of each location.** -/
theorem eq_of_sorted {as bs : List Located} (has : as.Pairwise fun a b => a.before b = true)
    (hbs : bs.Pairwise fun a b => a.before b = true)
    (h : ∀ p, entriesAt p as = entriesAt p bs) : as = bs := by
  induction as generalizing bs with
  | nil =>
    refine (List.eq_nil_iff_forall_not_mem.mpr fun b hb => ?_).symm
    exact List.not_mem_nil ((mem_iff_of_entriesAt h b).mpr hb)
  | cons a as ih =>
    have hfirst := (mem_iff_of_entriesAt h a).mp List.mem_cons_self
    cases bs with
    | nil => exact absurd hfirst List.not_mem_nil
    | cons b bs =>
      have hother := (mem_iff_of_entriesAt h b).mpr List.mem_cons_self
      rw [List.pairwise_cons] at has hbs
      -- both lists start with an entry of the least location
      have hlocation : b.location = a.location := by
        rcases List.mem_cons.mp hfirst with rfl | ha
        · rfl
        · rcases List.mem_cons.mp hother with rfl | hb
          · rfl
          · exact location_eq_of_before (hbs.1 a ha) (has.1 b hb)
      have hsame := h a.location
      rw [entriesAt_cons, entriesAt_cons, if_pos rfl, if_pos hlocation] at hsame
      obtain rfl := (List.cons.inj hsame).1
      refine congrArg (a :: ·) (ih has.2 hbs.2 fun p => ?_)
      have hp := h p
      rw [entriesAt_cons, entriesAt_cons] at hp
      split at hp
      · exact (List.cons.inj hp).2
      · exact hp

/-- **The two passes commute.** -/
theorem sort_deduplicate (as : List Located) : deduplicate (sort as) = sort (deduplicate as) := by
  have hsorted := (pairwise_sort as).sublist (deduplicate_sublist (sort as))
  refine eq_of_sorted hsorted (pairwise_sort _) fun p => ?_
  rw [entriesAt_deduplicate, entriesAt_sort, entriesAt_sort, entriesAt_deduplicate]

/-! ## Passes -/

/-- One of the two passes over a list. -/
inductive Pass
  | deduplicate
  | sort
deriving DecidableEq, Repr

/-- What a pass makes of a list. -/
def Pass.run : Pass → List Located → List Located
  | .deduplicate, as => Located.deduplicate as
  | .sort, as => Located.sort as

/-- What passes make of a list, one after the other. -/
def runAll (passes : List Pass) (as : List Located) : List Located :=
  passes.foldl (fun as pass => pass.run as) as

/-- What passes make of a list, by which of the two are among them. -/
def settled (passes : List Pass) (as : List Located) : List Located :=
  let kept := if .deduplicate ∈ passes then deduplicate as else as
  if .sort ∈ passes then sort kept else kept

/-- **One more pass in front** changes what is among the passes, and nothing else. -/
theorem settled_run (pass : Pass) (passes : List Pass) (as : List Located) :
    settled passes (pass.run as) = settled (pass :: passes) as := by
  cases pass with
  | deduplicate =>
    by_cases hdeduplicate : Pass.deduplicate ∈ passes
    · simp [settled, Pass.run, hdeduplicate, deduplicate_deduplicate]
    · simp [settled, Pass.run, hdeduplicate]
  | sort =>
    by_cases hdeduplicate : Pass.deduplicate ∈ passes
    · simp [settled, Pass.run, hdeduplicate, sort_deduplicate, sort_sort]
    · simp [settled, Pass.run, hdeduplicate, sort_sort]

/-- **Passes can be made in any order and any number of times.** -/
theorem runAll_eq_settled (passes : List Pass) (as : List Located) :
    runAll passes as = settled passes as := by
  induction passes generalizing as with
  | nil => rfl
  | cons pass passes ih =>
    rw [← settled_run, ← ih]
    rfl

/-- **Deduplicating and sorting.** Deduplicating keeps exactly the entries that have no earlier
one of their location, in their order. Sorting permutes the entries, puts them into the order of
locations and keeps the order of entries of one location. Doing either twice does what doing it
once does, and any sequence with both of them makes of a list what sorting its deduplication
does, nodes included. -/
theorem passes_settle (as : List Located) (passes : List Pass) :
    deduplicate as
        = (as.zipIdx.filter fun m => m.1.location ∉ (as.take m.2).map location).map Prod.fst
      ∧ (sort as).Perm as
      ∧ (sort as).Pairwise (fun a b => (Location.compare a.location b.location).isLE = true)
      ∧ (∀ p, (sort as).filter (·.location == p) = as.filter (·.location == p))
      ∧ deduplicate (deduplicate as) = deduplicate as ∧ sort (sort as) = sort as
      ∧ (.deduplicate ∈ passes → .sort ∈ passes → runAll passes as = sort (deduplicate as)) := by
  have hboth : .deduplicate ∈ passes → .sort ∈ passes →
      runAll passes as = sort (deduplicate as) := by
    intro hdeduplicate hsort
    rw [runAll_eq_settled, settled, if_pos hdeduplicate, if_pos hsort]
  exact ⟨deduplicate_eq_firsts as, sort_perm as, pairwise_sort as,
    fun p => entriesAt_sort p as, deduplicate_deduplicate as, sort_sort as, hboth⟩

/-- Of two nodes at one location the first is kept, whether it is sorted before or after. -/
theorem passes_settle_first :
    let as : List Located :=
      [⟨[.name "b"], .null⟩, ⟨[.index 0], .bool true⟩, ⟨[.name "b"], .bool false⟩]
    Pass.deduplicate ∈ [Pass.sort, .deduplicate, .sort]
      ∧ Pass.sort ∈ [Pass.sort, .deduplicate, .sort]
      ∧ runAll [.sort, .deduplicate, .sort] as
        = [⟨[.index 0], .bool true⟩, ⟨[.name "b"], .null⟩] := by
  intro as
  have hdeduplicate : Pass.deduplicate ∈ [Pass.sort, .deduplicate, .sort] := by decide
  have hsort : Pass.sort ∈ [Pass.sort, .deduplicate, .sort] := by decide
  obtain ⟨-, -, -, -, -, -, hboth⟩ := passes_settle as [.sort, .deduplicate, .sort]
  refine ⟨hdeduplicate, hsort, (hboth hdeduplicate hsort).trans ?_⟩
  have hkept : deduplicate as = [⟨[.name "b"], .null⟩, ⟨[.index 0], .bool true⟩] := rfl
  rw [hkept]
  simp [sort, List.mergeSort, Location.compare, Step.compare]

end Located
end JsonQuery
