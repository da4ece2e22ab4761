import JsonQuery.Function.Registry

/-
What a registry holds after a function was registered.

A registry takes a function only under a name that functions can have and that is free.
After that the name stands for the function, and every other name for what it stood for
before (`Registry.lookup_of_register`).
-/

set_option autoImplicit false

namespace JsonQuery
namespace Registry

variable {r s : Registry} {f : Function}

theorem lookup_eq_none_iff {name : String} :
    r.lookup name = none ↔ ¬ r.contains name = true := by
  rw [contains, Option.not_isSome_iff_eq_none]

/-- **When a function is registered**: the registry is not sealed, the name is one that
functions can have, and it is free. -/
theorem register_eq_ok_iff :
    r.register f = .ok s ↔ r.readOnly = false
      ∧ ∃ (valid : isFunctionName f.name = true) (free : ¬ r.contains f.name = true),
        s = r.insert f valid free := by
  unfold register
  constructor
  · intro h
    split at h
    · cases h
    · rename_i hopen
      split at h
      · rename_i hvalid
        split at h
        · cases h
        · rename_i hfree
          cases h
          exact ⟨by simpa using hopen, hvalid, hfree, rfl⟩
      · cases h
  · rintro ⟨hopen, hvalid, hfree, rfl⟩
    rw [if_neg (by simp [hopen]), dif_pos hvalid, dif_neg hfree]

/-- The name of a function that is registered was free. -/
theorem lookup_before_register (h : r.register f = .ok s) : r.lookup f.name = none := by
  obtain ⟨-, -, hfree, -⟩ := register_eq_ok_iff.mp h
  exact lookup_eq_none_iff.mpr hfree

/-- **What a name stands for after a function was registered.** -/
theorem lookup_of_register (h : r.register f = .ok s) (name : String) :
    s.lookup name = if name = f.name then some f else r.lookup name := by
  have hbefore := lookup_before_register h
  obtain ⟨-, hvalid, hfree, rfl⟩ := register_eq_ok_iff.mp h
  have hsplit : (r.insert f hvalid hfree).lookup name
      = (r.lookup name).or (if (f.name == name) = true then some f else none) := by
    rw [lookup, insert, List.find?_append, List.find?_singleton]
    rfl
  rw [hsplit]
  by_cases hname : name = f.name
  · rw [hname, hbefore, Option.none_or, if_pos (beq_self_eq_true _), if_pos rfl]
  · have hother : ¬ (f.name == name) = true := fun h => hname (beq_iff_eq.mp h).symm
    rw [if_neg hother, Option.or_none, if_neg hname]

end Registry
end JsonQuery
