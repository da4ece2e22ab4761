import JsonQuery.Function.Standard
import JsonQuery.Proofs.Outcome
import Mathlib.Data.List.Forall2

/-
The contract between a signature and the function behind it.

A signature promises a function arguments that convert to the kinds of its parameters.
The function promises in turn to ask for no other conversion, and to answer in the kind
of its result. When both keep their promise no conversion fails (`Obeys.answers`).
-/

set_option autoImplicit false

namespace JsonQuery

/-! ## Computations that answer -/

/-- A computation answers, and the answer has a property. -/
def Answers {α : Type} (x : Except Violation α) (post : α → Prop) : Prop :=
  ∃ a, x = .ok a ∧ post a

namespace Answers

variable {α β : Type}

theorem of_ok {post : α → Prop} {a : α} (h : post a) : Answers (.ok a) post := ⟨a, rfl, h⟩

/-- An answer has what follows from what it has. -/
theorem mono {x : Except Violation α} {post weaker : α → Prop} (h : Answers x post)
    (hpost : ∀ a, post a → weaker a) : Answers x weaker := by
  obtain ⟨a, rfl, ha⟩ := h
  exact of_ok (hpost a ha)

/-- **A sequence answers** when its first step does, and the rest for every such answer. -/
theorem bind {x : Except Violation α} {f : α → Except Violation β} {post : α → Prop}
    {final : β → Prop} (h : Answers x post) (hf : ∀ a, post a → Answers (f a) final) :
    Answers (x >>= f) final := by
  obtain ⟨a, rfl, ha⟩ := h
  exact hf a ha

end Answers

/-! ## Conversions -/

/-- Whether a datum can be had in a kind, or else the violation that says so. -/
def Datum.convert (d : Datum) : Kind → Except Violation Unit
  | .value => d.toValue.map fun _ => ()
  | .nodes => d.toNodes.map fun _ => ()
  | .logical => d.toLogical.map fun _ => ()

/-- The kind at run time of an argument that is of some kind at compile time. -/
def ArgumentKind.carried : ArgumentKind → Kind
  | literal | value => .value
  | singularQuery | nodes => .nodes
  | logical => .logical

@[simp] theorem ArgumentKind.carried_ofKind (k : Kind) : (ofKind k).carried = k := by
  cases k <;> rfl

/-- **What the table of conversions admits can be converted** at run time. -/
theorem Datum.convert_of_convertsTo {k : ArgumentKind} {wanted : Kind} {d : Datum}
    (hd : d.kind = k.carried) (h : k.convertsTo wanted = true) : d.convert wanted = .ok () := by
  cases d with
  | value v =>
    cases k <;> cases wanted <;> simp_all [ArgumentKind.carried, ArgumentKind.convertsTo, kind]
    all_goals rfl
  | nodes ns =>
    -- a list of nodes converts to every kind, to a value by what it holds
    cases wanted with
    | value => obtain _ | ⟨n, _ | ⟨m, ns⟩⟩ := ns <;> rfl
    | nodes => rfl
    | logical => rfl
  | logical b =>
    cases k <;> cases wanted <;> simp_all [ArgumentKind.carried, ArgumentKind.convertsTo, kind]
    rfl

/-- What is no value does not convert to one, with the same violation. -/
theorem Datum.toValue_eq_error {d : Datum} {v : Violation} (h : d.toValue = .error v) :
    d.convert .value = .error v := by
  rw [convert, h]
  rfl

theorem Datum.toNodes_eq_error {d : Datum} {v : Violation} (h : d.toNodes = .error v) :
    d.convert .nodes = .error v := by
  rw [convert, h]
  rfl

/-! ## Signatures -/

/-- Whether arguments convert to the kinds of parameters, one to one. -/
def Fits (arguments : List Argument) (parameters : List Kind) : Prop :=
  List.Forall₂ (fun a k => a.kind.convertsTo k = true) arguments parameters

/-- An argument passes when it is there and its kind converts. -/
theorem checkArgument_eq_ok_iff {f : String} {arguments : List Argument} {i : Nat} {k : Kind} :
    checkArgument f arguments i k = .ok ()
      ↔ ∃ a, arguments[i]? = some a ∧ a.kind.convertsTo k = true := by
  unfold checkArgument
  cases arguments[i]? with
  | none => simp
  | some a =>
    by_cases hk : a.kind.convertsTo k = true
    · simp [hk]
    · simp [hk]

/-- The parameters are checked one by one, each against the argument of its place. -/
theorem Signature.checkFrom_eq_ok_iff {f : String} {arguments : List Argument} {i : Nat}
    {parameters : List Kind} (hlen : arguments.length = i + parameters.length) :
    checkFrom f arguments i parameters = .ok () ↔ Fits (arguments.drop i) parameters := by
  induction parameters generalizing i with
  | nil =>
    rw [List.drop_of_length_le (by simp_all)]
    exact ⟨fun _ => .nil, fun _ => rfl⟩
  | cons k ks ih =>
    rw [List.length_cons] at hlen
    have hi : i < arguments.length := by omega
    have hfirst : checkArgument f arguments i k = .ok ()
        ↔ arguments[i].kind.convertsTo k = true := by
      simp [checkArgument_eq_ok_iff, List.getElem?_eq_getElem hi]
    rw [checkFrom, bind_eq_ok, List.drop_eq_getElem_cons hi, Fits, List.forall₂_cons, ← hfirst]
    constructor
    · rintro ⟨⟨⟩, hk, hrest⟩
      exact ⟨hk, (ih (by omega)).mp hrest⟩
    · rintro ⟨hk, hrest⟩
      exact ⟨(), hk, (ih (by omega)).mpr hrest⟩

/-- **A signature admits exactly the arguments that fit its parameters.** -/
theorem Signature.check_eq_ok_iff {s : Signature} {arguments : List Argument} :
    s.check arguments = .ok () ↔ Fits arguments s.parameters := by
  rw [check, bind_eq_ok]
  by_cases hlen : arguments.length = s.parameters.length
  · have hcheck := checkFrom_eq_ok_iff (f := s.name) (i := 0)
      (hlen.trans (Nat.zero_add _).symm)
    rw [List.drop_zero] at hcheck
    simp [checkArity, hlen, hcheck]
  · simp only [checkArity, hlen, if_false, reduceCtorEq, false_and, exists_false, false_iff]
    exact fun h => hlen h.length_eq

/-- What fits parameters is a matter of the kinds of the arguments. -/
theorem Fits.of_kinds {xs ys : List Argument} {parameters : List Kind} (h : Fits xs parameters)
    (hkinds : xs.map Argument.kind = ys.map Argument.kind) : Fits ys parameters := by
  have hiff (zs : List Argument) : Fits zs parameters
      ↔ List.Forall₂ (fun k wanted => k.convertsTo wanted = true) (zs.map Argument.kind)
          parameters := by
    rw [List.forall₂_map_left_iff, Fits]
  rw [hiff, ← hkinds, ← hiff]
  exact h

/-! ## Functions -/

/-- A function with a signature lets the arguments through that fit its parameters. -/
theorem Function.validate_ofSignature_eq_ok_iff {s : Signature}
    {evaluate : List Datum → Except Violation Datum} {arguments : List Argument} :
    (ofSignature s evaluate).validate arguments = .ok () ↔ Fits arguments s.parameters := by
  rw [← Signature.check_eq_ok_iff]
  change (s.check arguments).mapError Mismatch.message = .ok () ↔ _
  cases s.check arguments <;> simp [Except.mapError]

/-- **The contract of a function.** Given one argument for each parameter, it violates
nothing but the conversion of an argument to the kind of its parameter, and what it
answers is of the kind of its result. -/
def Obeys (parameters : List Kind) (result : Kind)
    (evaluate : List Datum → Except Violation Datum) : Prop :=
  ∀ ds, ds.length = parameters.length →
    (∀ d, evaluate ds = .ok d → d.kind = result)
      ∧ ∀ v, evaluate ds = .error v → ∃ d k, (d, k) ∈ ds.zip parameters ∧ d.convert k = .error v

/-- **A function that keeps its contract answers** arguments that can be converted. -/
theorem Obeys.answers {parameters : List Kind} {result : Kind}
    {evaluate : List Datum → Except Violation Datum} (h : Obeys parameters result evaluate)
    {ds : List Datum} (hds : List.Forall₂ (fun d k => d.convert k = .ok ()) ds parameters) :
    Answers (evaluate ds) fun d => d.kind = result := by
  obtain ⟨hkind, herror⟩ := h ds hds.length_eq
  cases hanswer : evaluate ds with
  | ok d => exact .of_ok (hkind d hanswer)
  | error v =>
    obtain ⟨d, k, hmem, hconvert⟩ := herror v hanswer
    rw [List.forall₂_iff_zip] at hds
    have hok := hds.2 hmem
    rw [hconvert] at hok
    cases hok

namespace Standard

/-- The length keeps its contract: nothing but its argument can be at fault. -/
theorem length_obeys : Obeys [.value] .value length := by
  intro ds hlen
  obtain ⟨d, rfl⟩ := List.length_eq_one_iff.mp hlen
  refine ⟨?_, fun v hv => ⟨d, .value, by simp, ?_⟩⟩
  · intro e he
    obtain ⟨v, -, hv⟩ := bind_eq_ok.mp he
    cases hv
    rfl
  · rcases bind_eq_error.mp hv with h | ⟨w, -, h⟩
    · exact Datum.toValue_eq_error h
    · cases h

/-- The count keeps its contract. -/
theorem count_obeys : Obeys [.nodes] .value count := by
  intro ds hlen
  obtain ⟨d, rfl⟩ := List.length_eq_one_iff.mp hlen
  refine ⟨?_, fun v hv => ⟨d, .nodes, by simp, ?_⟩⟩
  · intro e he
    obtain ⟨ns, -, hns⟩ := bind_eq_ok.mp he
    cases hns
    rfl
  · rcases bind_eq_error.mp hv with h | ⟨ns, -, h⟩
    · exact Datum.toNodes_eq_error h
    · cases h

/-- The value of a node keeps its contract, for any number of nodes. -/
theorem value_obeys : Obeys [.nodes] .value value := by
  intro ds hlen
  obtain ⟨d, rfl⟩ := List.length_eq_one_iff.mp hlen
  refine ⟨?_, fun v hv => ⟨d, .nodes, by simp, ?_⟩⟩
  · intro e he
    obtain ⟨ns, -, hns⟩ := bind_eq_ok.mp he
    rcases ns with _ | ⟨n, _ | ⟨m, ns⟩⟩ <;> cases hns <;> rfl
  · rcases bind_eq_error.mp hv with h | ⟨ns, -, h⟩
    · exact Datum.toNodes_eq_error h
    · rcases ns with _ | ⟨n, _ | ⟨m, ns⟩⟩ <;> cases h

/-- A test of texts keeps its contract, whatever it tests. -/
theorem textTest_obeys (test : String → String → Bool) :
    Obeys [.value, .value] .logical (textTest test) := by
  intro ds hlen
  obtain ⟨d, e, rfl⟩ := List.length_eq_two.mp hlen
  refine ⟨?_, ?_⟩
  · intro b hb
    obtain ⟨text, -, hb⟩ := bind_eq_ok.mp hb
    obtain ⟨pattern, -, hb⟩ := bind_eq_ok.mp hb
    split at hb <;> cases hb <;> rfl
  · intro v hv
    rcases bind_eq_error.mp hv with h | ⟨text, -, hv⟩
    · exact ⟨d, .value, by simp, Datum.toValue_eq_error h⟩
    · rcases bind_eq_error.mp hv with h | ⟨pattern, -, hv⟩
      · exact ⟨e, .value, by simp, Datum.toValue_eq_error h⟩
      · split at hv <;> cases hv

end Standard

/-! ## Registries -/

/-- A function with a signature that keeps the contract of it. -/
def Function.KeepsContract (f : Function) : Prop :=
  ∃ s evaluate, f = .ofSignature s evaluate ∧ Obeys s.parameters s.result evaluate

/-- The standard functions keep their contracts, whatever the engine. -/
theorem Standard.keepsContract {engine : Engine} {f : Function} (hf : f ∈ functions engine) :
    f.KeepsContract := by
  simp only [functions, List.mem_cons, List.not_mem_nil, or_false] at hf
  rcases hf with rfl | rfl | rfl | rfl | rfl
  · exact ⟨_, _, rfl, length_obeys⟩
  · exact ⟨_, _, rfl, count_obeys⟩
  · exact ⟨_, _, rfl, value_obeys⟩
  · exact ⟨_, _, rfl, textTest_obeys _⟩
  · exact ⟨_, _, rfl, textTest_obeys _⟩

/-- **A registry of standard functions and functions that keep their contracts.** -/
def Registry.KeepsContracts (r : Registry) : Prop :=
  ∀ f ∈ r.functions, (∃ engine, f ∈ Standard.functions engine) ∨ f.KeepsContract

/-- The standard registry keeps contracts. -/
theorem Registry.keepsContracts_standard (engine : Engine) : (standard engine).KeepsContracts :=
  fun _ hf => .inl ⟨engine, hf⟩

/-- What is found in such a registry keeps its contract. -/
theorem Registry.KeepsContracts.of_lookup {r : Registry} (h : r.KeepsContracts) {name : String}
    {f : Function} (hf : r.lookup name = some f) : f.KeepsContract := by
  rcases h f (List.mem_of_find?_eq_some hf) with ⟨engine, hstandard⟩ | hkeeps
  · exact Standard.keepsContract hstandard
  · exact hkeeps

end JsonQuery
