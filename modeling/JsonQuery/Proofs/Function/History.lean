import Mathlib.Data.List.Sort
import Mathlib.Data.String.Basic
import JsonQuery.Function.Standard
import JsonQuery.Proofs.Function.Registration
import JsonQuery.Regex.Reference.Compile

/-
What a registry is after any number of requests.

A registry changes in two ways only: a function is added under a new name, or the registry
is sealed. Neither takes a name away or makes it stand for something else, so what a name
stands for at one time it stands for ever after (`lookup_after`), and a registry is sealed
when it was asked to be (`readOnly_after`). What it answers to a further function is
decided by three questions, in this order: whether it is sealed, whether the name has the
form of a name, and whether the name is taken (`register_answer`).
-/

set_option autoImplicit false

namespace JsonQuery

/-! ## Names of functions -/

/-- **The form of the names of functions**: `[a-z][a-z0-9_]*`. -/
def IsFunctionName (name : String) : Prop :=
  ∃ c cs, name.toList = c :: cs ∧ ('a' ≤ c ∧ c ≤ 'z')
    ∧ ∀ d ∈ cs, ('a' ≤ d ∧ d ≤ 'z') ∨ ('0' ≤ d ∧ d ≤ '9') ∨ d = '_'

theorem isLower_iff (c : Char) : c.isLower = true ↔ 'a' ≤ c ∧ c ≤ 'z' := by
  rw [show c.isLower = (decide ('a' ≤ c) && decide (c ≤ 'z')) from rfl, Bool.and_eq_true,
    decide_eq_true_eq, decide_eq_true_eq]

theorem isDigit_iff (c : Char) : c.isDigit = true ↔ '0' ≤ c ∧ c ≤ '9' := by
  simp [Char.isDigit, Char.le_def]

/-- The check of a name is what a name has to be. -/
theorem isFunctionName_iff (name : String) :
    isFunctionName name = true ↔ IsFunctionName name := by
  unfold isFunctionName IsFunctionName
  cases name.toList with
  | nil => simp
  | cons c cs => simp [isLower_iff, isDigit_iff, or_assoc]

namespace Registry

variable {r s : Registry} {f : Function}

/-! ## What is registered -/

/-- The names are those under which something is found. -/
theorem mem_names_iff {name : String} : name ∈ r.names ↔ (r.lookup name).isSome = true := by
  rw [names, List.mem_mergeSort, ← contains_iff, contains]

/-- Every registered name has the form of one. -/
theorem isFunctionName_of_mem_names {name : String} (h : name ∈ r.names) :
    IsFunctionName name := by
  rw [names, List.mem_mergeSort] at h
  obtain ⟨f, hf, rfl⟩ := List.mem_map.mp h
  exact (isFunctionName_iff f.name).mp (r.names_valid f hf)

theorem length_names (r : Registry) : r.names.length = r.size := by
  rw [names, List.length_mergeSort, List.length_map, size]

/-- **The names stand in increasing order**, and none of them twice. -/
theorem names_increasing (r : Registry) : r.names.Pairwise (· < ·) := by
  have hsorted : r.names.Pairwise fun a b => decide (a ≤ b) = true := by
    refine List.pairwise_mergeSort (fun a b c hab hbc => ?_) (fun a b => ?_) _
    · simp only [decide_eq_true_eq] at hab hbc ⊢
      exact hab.trans hbc
    · simpa using le_total a b
  have hdistinct : r.names.Nodup := (List.mergeSort_perm _ _).nodup_iff.mpr r.names_distinct
  exact (hsorted.and hdistinct).imp fun h => lt_of_le_of_ne (of_decide_eq_true h.1) h.2

/-! ## One more function -/

/-- A function that registers is added. -/
theorem serve_of_ok (h : r.register f = .ok s) : r.serve (.register f) = (.registered, s) := by
  rw [serve, h]

/-- A function that is refused leaves the registry as it is. -/
theorem serve_of_error {e : RegistryError} (h : r.register f = .error e) :
    r.serve (.register f) = (.refused e, r) := by
  rw [serve, h]

/-- **What a registry answers to one more function.** -/
theorem register_answer (r : Registry) (f : Function) :
    (r.readOnly = true ∧ r.serve (.register f) = (.refused (.readOnly f.name), r))
      ∨ (r.readOnly = false ∧ ¬ IsFunctionName f.name
        ∧ r.serve (.register f) = (.refused (.invalidName f.name), r))
      ∨ (r.readOnly = false ∧ IsFunctionName f.name ∧ f.name ∈ r.names
        ∧ r.serve (.register f) = (.refused (.duplicate f.name), r))
      ∨ (r.readOnly = false ∧ IsFunctionName f.name ∧ f.name ∉ r.names
        ∧ ∃ s, r.register f = .ok s ∧ r.serve (.register f) = (.registered, s)) := by
  by_cases hsealed : r.readOnly = true
  · have hregister : r.register f = .error (.readOnly f.name) := by
      rw [register, if_pos hsealed]
    exact .inl ⟨hsealed, serve_of_error hregister⟩
  rw [Bool.not_eq_true] at hsealed
  by_cases hname : isFunctionName f.name = true
  · have hform := (isFunctionName_iff f.name).mp hname
    by_cases htaken : r.contains f.name = true
    · have hregister : r.register f = .error (.duplicate f.name) := by
        rw [register, if_neg (by simp [hsealed]), dif_pos hname, dif_pos htaken]
      exact .inr (.inr (.inl ⟨hsealed, hform, mem_names_iff.mpr htaken, serve_of_error hregister⟩))
    · have hregister : r.register f = .ok (r.insert f hname htaken) :=
        register_eq_ok_iff.mpr ⟨hsealed, hname, htaken, rfl⟩
      exact .inr (.inr (.inr ⟨hsealed, hform, fun hmem => htaken (mem_names_iff.mp hmem), _,
        hregister, serve_of_ok hregister⟩))
  · have hregister : r.register f = .error (.invalidName f.name) := by
      rw [register, if_neg (by simp [hsealed]), dif_neg hname]
    exact .inr (.inl ⟨hsealed, fun hform => hname ((isFunctionName_iff f.name).mpr hform),
      serve_of_error hregister⟩)

/-- What a registry becomes when it takes a function: it has one name more, which stands for
the function. -/
structure Gains (r : Registry) (f : Function) (s : Registry) : Prop where
  lookup : ∀ name, s.lookup name = if name = f.name then some f else r.lookup name
  names : ∀ name, name ∈ s.names ↔ name = f.name ∨ name ∈ r.names
  size : s.size = r.size + 1
  readOnly : s.readOnly = r.readOnly

/-- A registration gains the function and keeps all others. -/
theorem gains_of_register (h : r.register f = .ok s) : r.Gains f s where
  lookup := lookup_of_register h
  names name := by
    rw [mem_names_iff, lookup_of_register h, mem_names_iff]
    split <;> simp [*]
  size := by
    obtain ⟨-, hvalid, hfree, rfl⟩ := register_eq_ok_iff.mp h
    simp [size, insert]
  readOnly := by
    obtain ⟨-, hvalid, hfree, rfl⟩ := register_eq_ok_iff.mp h
    rfl

/-- **How a registry takes a function, or refuses it.** The three reasons for refusing are
tried in order, a registry that refuses stays as it was, and one that does not gains the
function. -/
structure Admits (r : Registry) (f : Function) : Prop where
  readOnly_iff : (r.serve (.register f)).1 = .refused (.readOnly f.name) ↔ r.readOnly = true
  invalidName_iff : (r.serve (.register f)).1 = .refused (.invalidName f.name)
    ↔ r.readOnly = false ∧ ¬ IsFunctionName f.name
  duplicate_iff : (r.serve (.register f)).1 = .refused (.duplicate f.name)
    ↔ r.readOnly = false ∧ IsFunctionName f.name ∧ f.name ∈ r.names
  registered_iff : (r.serve (.register f)).1 = .registered
    ↔ r.readOnly = false ∧ IsFunctionName f.name ∧ f.name ∉ r.names
  unchanged : (r.serve (.register f)).1 ≠ .registered → (r.serve (.register f)).2 = r
  gains : (r.serve (.register f)).1 = .registered → r.Gains f (r.serve (.register f)).2

/-- A registration goes by the checks in their order. -/
theorem admits (r : Registry) (f : Function) : r.Admits f := by
  rcases r.register_answer f with ⟨hsealed, hserve⟩ | ⟨hopen, hform, hserve⟩
      | ⟨hopen, hform, htaken, hserve⟩ | ⟨hopen, hform, hfree, s, hregister, hserve⟩
  · constructor <;> simp [hserve, hsealed]
  · constructor <;> simp [hserve, hopen, hform]
  · constructor <;> simp [hserve, hopen, hform, htaken]
  · have hgains := gains_of_register hregister
    constructor <;> simp [hserve, hopen, hform, hfree, hgains]

/-! ## Requests one after the other -/

variable {requests more : List Request}

/-- Requests are served one after the other. -/
theorem after_append (r : Registry) (requests more : List Request) :
    r.after (requests ++ more) = (r.after requests).after more :=
  List.foldl_append

/-- A request leaves what a name stands for. -/
theorem lookup_serve {name : String} (h : r.lookup name = some f) (q : Request) :
    (r.serve q).2.lookup name = some f := by
  cases q with
  | register g =>
    rcases r.register_answer g with ⟨-, hserve⟩ | ⟨-, -, hserve⟩ | ⟨-, -, -, hserve⟩
        | ⟨-, -, hfree, s, hregister, hserve⟩
    · rwa [hserve]
    · rwa [hserve]
    · rwa [hserve]
    · -- the name of the new function was free, so it is another one
      have hother : name ≠ g.name := by
        rintro rfl
        exact hfree (mem_names_iff.mpr (by rw [h]; rfl))
      rw [hserve, lookup_of_register hregister, if_neg hother, h]
  | toReadOnly => exact h
  | lookup _ => exact h

/-- **What a name stands for it stands for ever after.** -/
theorem lookup_after {name : String} (h : r.lookup name = some f) (requests : List Request) :
    (r.after requests).lookup name = some f := by
  induction requests generalizing r with
  | nil => exact h
  | cons q qs ih => exact ih (lookup_serve h q)

/-- A request seals a registry, or leaves it as open as it was. -/
theorem readOnly_serve (r : Registry) (q : Request) :
    (r.serve q).2.readOnly = true ↔ r.readOnly = true ∨ q = .toReadOnly := by
  cases q with
  | register g =>
    rcases r.register_answer g with ⟨-, hserve⟩ | ⟨-, -, hserve⟩ | ⟨-, -, -, hserve⟩
        | ⟨-, -, -, s, hregister, hserve⟩
    · simp [hserve]
    · simp [hserve]
    · simp [hserve]
    · simp [hserve, (gains_of_register hregister).readOnly]
  | toReadOnly => simp [serve, Registry.toReadOnly]
  | lookup _ => simp [serve]

/-- **A registry is sealed when it was asked to be.** -/
theorem readOnly_after (r : Registry) (requests : List Request) :
    (r.after requests).readOnly = true ↔ r.readOnly = true ∨ .toReadOnly ∈ requests := by
  induction requests generalizing r with
  | nil => simp [after]
  | cons q qs ih =>
    have hstep : r.after (q :: qs) = (r.serve q).2.after qs := rfl
    rw [hstep, ih, readOnly_serve, List.mem_cons, or_assoc]
    exact or_congr_right (or_congr_left eq_comm)

/-- **A registry through any history.** After any requests to an empty registry or to that of
the standard functions the names have the form of names, stand in increasing order and are
as many as the functions; the registry is sealed if and only if that was asked for; it takes
or refuses one more function as `Admits` says; and what a name stands for then it stands for
after any further requests. -/
theorem history_consistent {engine : Engine} {start : Registry}
    (hstart : start = .empty ∨ start = .standard engine) (requests : List Request) :
    let r := start.after requests
    (∀ name ∈ r.names, IsFunctionName name) ∧ r.names.Pairwise (· < ·)
      ∧ r.names.length = r.size ∧ (∀ name, name ∈ r.names ↔ (r.lookup name).isSome = true)
      ∧ (r.readOnly = true ↔ .toReadOnly ∈ requests) ∧ (∀ f, r.Admits f)
      ∧ ∀ name f, r.lookup name = some f → ∀ more,
        (start.after (requests ++ more)).lookup name = some f := by
  intro r
  have hopen : start.readOnly = false := by
    rcases hstart with rfl | rfl <;>
    rfl
  refine ⟨fun name h => isFunctionName_of_mem_names h, r.names_increasing, r.length_names,
    fun name => mem_names_iff, ?_, r.admits, fun name f h more => ?_⟩
  · rw [readOnly_after, hopen]
    simp
  · rw [after_append]
    exact lookup_after h more

/-- The registry of the standard functions is asked for a second `length`, for a name that is
none and for a new function, and is sealed: the new function is there from then on, and no
other one is taken. -/
theorem history_consistent_sealed :
    let function (name : String) :=
      Function.ofSignature ⟨name, [.logical], .logical⟩ fun _ => .ok (.logical true)
    let requests : List Request :=
      [.register (function "length"), .register (function "Not"), .register (function "not")]
    let start := standard .reference
    (start = .empty ∨ start = .standard .reference)
      ∧ (start.after requests).lookup "not" = some (function "not")
      ∧ (start.after (requests ++ [.toReadOnly])).lookup "not" = some (function "not")
      ∧ (start.after (requests ++ [.toReadOnly])).names.Pairwise (· < ·)
      ∧ ((start.after (requests ++ [.toReadOnly])).serve (.register (function "nor"))).1
        = .refused (.readOnly "nor") := by
  intro function requests start
  have hstart : start = .empty ∨ start = .standard .reference := .inr rfl
  -- the first two functions are refused, so the third one finds its name free
  have hfound : (start.after requests).lookup "not" = some (function "not") := by
    let refused : List Request := [.register (function "length"), .register (function "Not")]
    obtain ⟨-, -, -, -, -, hadmits, -⟩ := history_consistent hstart refused
    have hopen : (start.after refused).readOnly = false := by decide +kernel
    have hform : IsFunctionName "not" := (isFunctionName_iff "not").mp (by decide +kernel)
    have hfree : ¬ (start.after refused).contains "not" = true := by decide +kernel
    have hregistered := (hadmits (function "not")).registered_iff.mpr
      ⟨hopen, hform, fun hmem => hfree (mem_names_iff.mp hmem)⟩
    exact ((hadmits (function "not")).gains hregistered).lookup "not"
  obtain ⟨-, -, -, -, -, -, hlookup⟩ := history_consistent hstart requests
  obtain ⟨-, hnames, -, -, hsealed, hadmits, -⟩ :=
    history_consistent hstart (requests ++ [.toReadOnly])
  refine ⟨hstart, hfound, hlookup _ _ hfound _, hnames, ?_⟩
  exact (hadmits (function "nor")).readOnly_iff.mpr (hsealed.mpr (by simp))
end Registry

end JsonQuery
