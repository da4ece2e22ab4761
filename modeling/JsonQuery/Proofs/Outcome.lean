/-
Computations that can fail.

The grammar and the evaluation of queries both end with the first thing that goes
wrong. What a sequence of such steps answers is taken apart here, one step at a
time, so that no later proof has to open the monad.
-/

set_option autoImplicit false

namespace JsonQuery

variable {ε α β : Type}

/-- **A sequence answers when its first step does and the rest does with that.** -/
theorem bind_eq_ok {x : Except ε α} {f : α → Except ε β} {b : β} :
    (x >>= f) = .ok b ↔ ∃ a, x = .ok a ∧ f a = .ok b := by
  cases x with
  | error e => exact ⟨nofun, nofun⟩
  | ok a => exact ⟨fun h => ⟨a, rfl, h⟩, fun ⟨_, ha, h⟩ => Except.ok.inj ha ▸ h⟩

/-- **A sequence fails in its first step, or in the rest with what that answers.** -/
theorem bind_eq_error {x : Except ε α} {f : α → Except ε β} {e : ε} :
    (x >>= f) = .error e ↔ x = .error e ∨ ∃ a, x = .ok a ∧ f a = .error e := by
  cases x with
  | error d => exact ⟨fun h => .inl (congrArg Except.error (Except.error.inj h)),
      fun h => h.elim (fun hd => congrArg Except.error (Except.error.inj hd)) nofun⟩
  | ok a => exact ⟨fun h => .inr ⟨a, rfl, h⟩,
      fun h => h.elim nofun fun ⟨_, ha, h⟩ => Except.ok.inj ha ▸ h⟩

/-- **A sequence answers alike** when its first step does up to some view of its answer, and the
rest looks no further than that view. -/
theorem bind_congr_view {γ : Type} {x y : Except ε α} {view : α → γ}
    (h : view <$> x = view <$> y) {f g : α → Except ε β}
    (hfg : ∀ a b, view a = view b → f a = g b) : (x >>= f) = (y >>= g) := by
  cases x with
  | error d =>
    cases y with
    | error e => exact congrArg Except.error (Except.error.inj h)
    | ok b => cases h
  | ok a =>
    cases y with
    | error e => cases h
    | ok b => exact hfg a b (Except.ok.inj h)

@[simp] theorem ok_bind (a : α) (f : α → Except ε β) : (Except.ok a >>= f) = f a := rfl

@[simp] theorem map_ok (f : α → β) (a : α) :
    f <$> (Except.ok a : Except ε α) = .ok (f a) := rfl

@[simp] theorem pure_eq_ok (a b : α) : (pure a : Except ε α) = .ok b ↔ a = b :=
  ⟨fun h => Except.ok.inj h, fun h => h ▸ rfl⟩

end JsonQuery
