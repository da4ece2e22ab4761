import JsonQuery.Proofs.Outcome
import JsonQuery.Proofs.Text.Run
import JsonQuery.Regex.Reference.Reader

/-
What is left unread has not been looked at: blank space and escapes.

Every reader of a pattern answers what it read and the text behind it. When that
text ends in some `tail`, the text in front of the reader ended in it too, and
without the tail the reader answers the same. All lemmas of this kind have one
form: from `read r = (a, u ++ tail)` they give the `m` with `r = m ++ tail` and
`read m = (a, u)`, and compare the lengths of `u` and `m`. They compose from
the last step of a reader to its first, since each says how the text in front of
its step ends.

With `u` empty they say that a reader leaves an end of its text.

One escape looks further: `\b` with an opening brace behind it, which may start
the name of a boundary or a repetition, so it matters whether the brace is the
last thing in the text (`Dangles`).
-/

set_option autoImplicit false

namespace JsonQuery
namespace Pattern

variable {v : Bool} {p : Char → Bool} {r u tail : List Char}

/-! ## Blank space -/

/-- Blank space and comments are skipped up to where they end. -/
theorem skipVerbose_local {comment : Bool} (h : skipVerbose comment r = u ++ tail) :
    ∃ m, r = m ++ tail ∧ u.length ≤ m.length ∧ skipVerbose comment m = u := by
  fun_induction skipVerbose comment r with
  | case1 comment =>
    obtain ⟨rfl, rfl⟩ := List.append_eq_nil_iff.1 h.symm
    exact ⟨[], rfl, Nat.le_refl _, rfl⟩
  | case2 c r ih =>
    obtain ⟨m, rfl, hle, hm⟩ := ih h
    exact ⟨c :: m, rfl, Nat.le_succ_of_le hle, hm⟩
  | case3 c r hblank ih =>
    obtain ⟨m, rfl, hle, hm⟩ := ih h
    exact ⟨c :: m, rfl, Nat.le_succ_of_le hle, by rw [skipVerbose, if_pos hblank, hm]⟩
  | case4 r hblank ih =>
    obtain ⟨m, rfl, hle, hm⟩ := ih h
    exact ⟨'#' :: m, rfl, Nat.le_succ_of_le hle, by rw [skipVerbose, if_neg hblank, if_pos rfl, hm]⟩
  | case5 c r hblank hhash =>
    -- nothing is skipped, so all of the text is left, or the tail is all of it
    refine ⟨u, h, Nat.le_refl _, ?_⟩
    obtain ⟨rfl, -⟩ | ⟨u, rfl, -⟩ := List.cons_eq_append_iff.1 h
    · rfl
    · rw [skipVerbose, if_neg hblank, if_neg hhash]

/-- **What may be skipped** in the mode of the reader is skipped up to where it ends. -/
theorem skipSpace_local (h : skipSpace v r = u ++ tail) :
    ∃ m, r = m ++ tail ∧ u.length ≤ m.length ∧ skipSpace v m = u := by
  cases v with
  | false => exact ⟨u, h, Nat.le_refl _, rfl⟩
  | true => exact skipVerbose_local h

/-- To skip blank space adds nothing to a text. -/
theorem skipSpace_length_le (v : Bool) (r : List Char) : (skipSpace v r).length ≤ r.length := by
  obtain ⟨m, hm, -⟩ := skipSpace_local (List.nil_append (skipSpace v r)).symm
  rw [congrArg List.length hm, List.length_append]
  exact Nat.le_add_left ..

/-- What stands first behind blank space does so whatever follows. -/
theorem skipSpace_append {c : Char} {m x : List Char} (h : skipSpace v m = c :: x)
    (tail : List Char) : skipSpace v (m ++ tail) = c :: (x ++ tail) := by
  cases v with
  | false => exact congrArg (· ++ tail) h
  | true =>
    simp only [skipSpace, if_true] at h ⊢
    -- whether a comment is open changes on the way, so the induction is about both
    generalize false = comment at h ⊢
    fun_induction skipVerbose comment m with
    | case1 => cases h
    | case2 c r ih => exact ih h
    | case3 c r hblank ih => rw [List.cons_append, skipVerbose, if_pos hblank, ih h]
    | case4 r hblank ih => rw [List.cons_append, skipVerbose, if_neg hblank, if_pos rfl, ih h]
    | case5 c r hblank hhash =>
      cases h
      rw [List.cons_append, skipVerbose, if_neg hblank, if_neg hhash]

/-- At the end of a text nothing is taken, whatever the fuel. -/
theorem spacedWhile_nil (fuel : Nat) : spacedWhile v p fuel [] = ([], []) := by
  cases fuel <;> rfl

/-- The fuel has to be enough, since a scan that runs out of it stops anywhere. -/
theorem spacedWhile_local {fuel : Nat} {taken : List Char} (hfuel : r.length ≤ fuel)
    (h : spacedWhile v p fuel r = (taken, u ++ tail)) :
    ∃ m, r = m ++ tail ∧ u.length ≤ m.length ∧
      ∀ fuel', m.length ≤ fuel' → spacedWhile v p fuel' m = (taken, u) := by
  induction fuel generalizing r taken with
  | zero =>
    -- there is fuel for every character, so no fuel means no characters
    obtain rfl := List.eq_nil_of_length_eq_zero (Nat.le_zero.1 hfuel)
    obtain ⟨rfl, hr⟩ := Prod.mk.inj h
    obtain ⟨rfl, rfl⟩ := List.append_eq_nil_iff.1 hr.symm
    exact ⟨[], rfl, Nat.le_refl _, fun fuel' _ => spacedWhile_nil fuel'⟩
  | succ fuel ih =>
    cases r with
    | nil =>
      obtain ⟨rfl, hr⟩ := Prod.mk.inj h
      obtain ⟨rfl, rfl⟩ := List.append_eq_nil_iff.1 hr.symm
      exact ⟨[], rfl, Nat.le_refl _, fun fuel' _ => spacedWhile_nil fuel'⟩
    | cons c r =>
      simp only [spacedWhile] at h
      split at h
      · next hc =>
        obtain ⟨rfl, hrest⟩ := Prod.mk.inj h
        -- the fuel that is left is enough for the text that is left
        have hskipped := Nat.le_trans (skipSpace_length_le v r) (Nat.le_of_succ_le_succ hfuel)
        obtain ⟨m₁, hm₁, hle₁, hscan⟩ := ih hskipped (Prod.ext rfl hrest)
        obtain ⟨m, rfl, hle, hskip⟩ := skipSpace_local hm₁
        refine ⟨c :: m, rfl, Nat.le_succ_of_le (Nat.le_trans hle₁ hle), fun fuel' hfuel' => ?_⟩
        obtain ⟨fuel', rfl⟩ := Nat.exists_eq_add_one.2 (Nat.lt_of_lt_of_le (Nat.succ_pos _) hfuel')
        have hleft := Nat.le_trans hle (Nat.le_of_succ_le_succ hfuel')
        rw [spacedWhile, if_pos hc, hskip, hscan fuel' hleft]
      · next hc =>
        obtain ⟨rfl, hr⟩ := Prod.mk.inj h
        refine ⟨u, hr, Nat.le_refl _, fun fuel' hfuel' => ?_⟩
        obtain ⟨rfl, -⟩ | ⟨u, rfl, -⟩ := List.cons_eq_append_iff.1 hr
        · exact spacedWhile_nil fuel'
        · have hpos := Nat.lt_of_lt_of_le (Nat.succ_pos _) hfuel'
          obtain ⟨fuel', rfl⟩ := Nat.exists_eq_add_one.2 hpos
          rw [spacedWhile, if_neg hc]

/-! ## Escapes -/

/-- A fixed number of digits is read up to where they end. -/
theorem fixedHex_local {count : Nat} {digits : List Char}
    (h : fixedHex v count r = .ok (digits, u ++ tail)) :
    ∃ m, r = m ++ tail ∧ u.length ≤ m.length ∧ fixedHex v count m = .ok (digits, u) := by
  induction count generalizing r digits with
  | zero =>
    obtain ⟨rfl, rfl⟩ := Prod.mk.inj (Except.ok.inj h)
    exact ⟨u, rfl, Nat.le_refl _, rfl⟩
  | succ count ih =>
    cases r with
    | nil => cases h
    | cons c r =>
      simp only [fixedHex] at h
      split at h
      · next hc =>
        obtain ⟨⟨digits, rest⟩, hdigits, h⟩ := bind_eq_ok.1 h
        obtain ⟨rfl, rfl⟩ := Prod.mk.inj (Except.ok.inj h)
        obtain ⟨m₁, hm₁, hle₁, hread⟩ := ih hdigits
        obtain ⟨m, rfl, hle, hskip⟩ := skipSpace_local hm₁
        refine ⟨c :: m, rfl, Nat.le_succ_of_le (Nat.le_trans hle₁ hle), ?_⟩
        rw [fixedHex, if_pos hc, hskip, hread, ok_bind]
        rfl
      · cases h

/-- What stands in braces, up to the closing one. -/
theorem braced_local {taken : List Char}
    (h : spacedWhile v p r.length (skipSpace v r) = (taken, u ++ tail)) :
    ∃ m, r = m ++ tail ∧ u.length ≤ m.length ∧
      spacedWhile v p m.length (skipSpace v m) = (taken, u) := by
  obtain ⟨m₁, hm₁, hle₁, hscan⟩ := spacedWhile_local (skipSpace_length_le v r) h
  obtain ⟨m, rfl, hle, rfl⟩ := skipSpace_local hm₁
  exact ⟨m, rfl, Nat.le_trans hle₁ hle, hscan _ hle⟩

/-- **An escape by number** is read up to where it ends, in braces or not. -/
theorem hexEscape_local {letter : Char} {a : Atom}
    (h : hexEscape v letter r = .ok (a, u ++ tail)) :
    ∃ m, r = m ++ tail ∧ u.length ≤ m.length ∧ hexEscape v letter m = .ok (a, u) := by
  simp only [hexEscape] at h
  split at h
  · next rest hr =>
    split at h
    · next digits rest' hscan =>
      split at h
      · cases h
      · next hdigits =>
        -- in braces, with as many digits as there are
        obtain ⟨a, ha, h⟩ := bind_eq_ok.1 h
        obtain ⟨rfl, hrest⟩ := Prod.mk.inj (Except.ok.inj h)
        obtain ⟨m₃, rfl, hle₃, hskip₃⟩ := skipSpace_local hrest
        obtain ⟨m₂, rfl, hle₂, hscan⟩ := braced_local (u := '}' :: m₃) hscan
        obtain ⟨m, rfl, hle, hskip⟩ := skipSpace_local (u := '{' :: m₂) hr
        refine ⟨m, rfl, ?_, ?_⟩
        · simp only [List.length_cons] at hle₂ hle
          omega
        · simp only [hexEscape, hskip, hscan]
          rw [if_neg hdigits]
          exact bind_eq_ok.2 ⟨a, ha, by rw [hskip₃]; rfl⟩
    · cases h
  · next rest hno =>
    -- without braces the letter says how many digits there are
    obtain ⟨⟨digits, rest'⟩, hread, h⟩ := bind_eq_ok.1 h
    obtain ⟨a, ha, h⟩ := bind_eq_ok.1 h
    obtain ⟨rfl, rfl⟩ := Prod.mk.inj (Except.ok.inj h)
    obtain ⟨m₁, hm₁, hle₁, hread₁⟩ := fixedHex_local hread
    obtain ⟨m, rfl, hle, hskip⟩ := skipSpace_local hm₁
    refine ⟨m, rfl, Nat.le_trans hle₁ hle, ?_⟩
    simp only [hexEscape, hskip]
    split
    · exact (hno _ hm₁).elim
    · exact bind_eq_ok.2 ⟨_, hread₁, bind_eq_ok.2 ⟨a, ha, rfl⟩⟩

/-- **An escape by property** is read up to where it ends, in braces or with one letter. -/
theorem propertyEscape_local {negated : Bool} {a : Atom}
    (h : propertyEscape v negated r = .ok (a, u ++ tail)) :
    ∃ m, r = m ++ tail ∧ u.length ≤ m.length ∧
      propertyEscape v negated m = .ok (a, u) := by
  simp only [propertyEscape] at h
  split at h
  · cases h
  · next rest hr =>
    split at h
    · next text rest' hscan =>
      -- a name in braces
      obtain ⟨rfl, rfl⟩ := Prod.mk.inj (Except.ok.inj h)
      obtain ⟨m₁, rfl, hle₁, hscan₁⟩ := braced_local (u := '}' :: u) hscan
      obtain ⟨m, rfl, hle, hskip⟩ := skipSpace_local (u := '{' :: m₁) hr
      refine ⟨m, rfl, ?_, ?_⟩
      · simp only [List.length_cons] at hle₁ hle
        omega
      · simp only [propertyEscape, hskip, hscan₁]
    · cases h
  · next c rest hno hr =>
    split at h
    · cases h
    · next hc =>
      -- a name of one letter, which is no brace and no backslash
      obtain ⟨rfl, hrest⟩ := Prod.mk.inj (Except.ok.inj h)
      obtain ⟨m₁, rfl, hle₁, hskip₁⟩ := skipSpace_local hrest
      obtain ⟨m, rfl, hle, hskip⟩ := skipSpace_local (u := c :: m₁) hr
      refine ⟨m, rfl, ?_, ?_⟩
      · simp only [List.length_cons] at hle
        omega
      · simp only [propertyEscape, hskip, if_neg hc, hskip₁]

/-- The name of a boundary is read up to its closing brace. -/
theorem boundaryName_local {a : Assertion}
    (h : boundaryName v r = .ok (some (a, u ++ tail))) :
    ∃ m, r = m ++ tail ∧ u.length ≤ m.length ∧ boundaryName v m = .ok (some (a, u)) := by
  simp only [boundaryName] at h
  split at h
  · cases h
  · next c rest hr =>
    split at h
    · cases h
    · next hc =>
      split at h
      · next name rest' hscan =>
        -- which of the names it is does not matter for where it ends
        obtain rfl : rest' = u ++ tail := by split at h <;> simp_all
        obtain ⟨m₁, hm₁, hle₁, hscan₁⟩ :=
          spacedWhile_local (r := c :: rest) (u := '}' :: u) (Nat.le_refl _) hscan
        obtain ⟨m, rfl, hle, hskip⟩ := skipSpace_local (hr.trans hm₁)
        refine ⟨m, rfl, ?_, ?_⟩
        · simp only [List.length_cons] at hle₁
          omega
        · cases m₁ with
          | nil => cases hscan₁ 0 (Nat.zero_le _)
          | cons d m₁ =>
            obtain rfl : c = d := List.head_eq_of_cons_eq hm₁
            simp only [boundaryName, hskip, if_neg hc, hscan₁ (m₁.length + 1) (Nat.le_refl _)]
            split at h <;> simp_all
      · cases h

/-- **An opening character with nothing behind it.** -/
def Dangles (v : Bool) (c : Char) (cs : List Char) : Prop :=
  ∃ rest, cs = c :: rest ∧ skipSpace v rest = []

/-- A brace that starts no name is left unread, and so is a text that ends at once. -/
theorem boundaryName_none_local (hname : boundaryName v (u ++ tail) = .ok none)
    (hmore : skipSpace v u ≠ []) : boundaryName v u = .ok none := by
  -- what stands behind the brace is there without the tail, and it starts no name
  obtain ⟨c, rest, hrest⟩ := List.exists_cons_of_ne_nil hmore
  simp only [boundaryName, skipSpace_append hrest, hrest] at hname ⊢
  split at hname
  · next hc => rw [if_pos hc]
  · split at hname
    · split at hname <;> cases hname
    · cases hname

/-- Most escapes are read off their letter. -/
theorem escapeAtom_of_letter {c : Char} (hhex : ¬ (c = 'x' ∨ c = 'u' ∨ c = 'U'))
    (hprop : ¬ (c = 'p' ∨ c = 'P')) (hbound : c ≠ 'b') (cs : List Char) :
    escapeAtom v (c :: cs) = (do let (a, _) ← escapeAtom v [c]; return (a, cs)) := by
  -- one letter after the other, none of which reads on
  simp only [escapeAtom, if_neg hhex, if_neg hprop]
  split
  · rfl
  · split
    · rfl
    · split
      · rfl
      · split
        any_goals rfl
        exact (hbound rfl).elim

/-- With a brace behind it a word boundary may have a name. -/
theorem escapeAtom_bound_brace (cs : List Char) :
    escapeAtom v ('b' :: '{' :: cs) = (do
      match ← boundaryName v cs with
      | some (a, rest) => return (.assertion a, rest)
      | none => return (.assertion .wordBoundary, '{' :: cs)) :=
  rfl

/-- Without a brace behind it a word boundary is read off its letter. -/
theorem escapeAtom_bound {cs : List Char} (hbrace : ∀ rest, cs ≠ '{' :: rest) :
    escapeAtom v ('b' :: cs) = .ok (.assertion .wordBoundary, cs) := by
  rw [escapeAtom]
  · rfl
  · exact hbrace

/-- A brace behind `\b` is looked past, so what is left unread has to say whether it
is the last thing there. -/
theorem escapeAtom_local {a : Atom} (h : escapeAtom v r = .ok (a, u ++ tail))
    (hbrace : a = .assertion .wordBoundary → ¬ Dangles v '{' u) :
    ∃ m, r = m ++ tail ∧ u.length < m.length ∧ escapeAtom v m = .ok (a, u) := by
  obtain - | ⟨c, r⟩ := r
  · cases h
  -- the three kinds of escapes that read past their letter come first
  by_cases hhex : c = 'x' ∨ c = 'u' ∨ c = 'U'
  · have heq (cs) : escapeAtom v (c :: cs) = hexEscape v c cs := by
      obtain rfl | rfl | rfl := hhex <;> rfl
    obtain ⟨m, rfl, hle, hread⟩ := hexEscape_local (heq r ▸ h)
    exact ⟨c :: m, rfl, Nat.lt_succ_of_le hle, (heq m).trans hread⟩
  by_cases hprop : c = 'p' ∨ c = 'P'
  · have heq (cs) : escapeAtom v (c :: cs) = propertyEscape v (c = 'P') cs := by
      obtain rfl | rfl := hprop <;> rfl
    obtain ⟨m, rfl, hle, hread⟩ := propertyEscape_local (heq r ▸ h)
    exact ⟨c :: m, rfl, Nat.lt_succ_of_le hle, (heq m).trans hread⟩
  by_cases hbound : c = 'b'
  · subst hbound
    by_cases hopen : ∃ rest, r = '{' :: rest
    · obtain ⟨rest, rfl⟩ := hopen
      rw [escapeAtom_bound_brace] at h
      obtain ⟨name, hname, h⟩ := bind_eq_ok.1 h
      obtain - | ⟨bound, rest'⟩ := name
      · -- the brace is left unread, either as the start of the tail or before it
        obtain ⟨rfl, hrest⟩ := Prod.mk.inj (Except.ok.inj h)
        obtain ⟨rfl, -⟩ | ⟨u, rfl, rfl⟩ := List.cons_eq_append_iff.1 hrest
        · exact ⟨['b'], congrArg (List.cons 'b') hrest, Nat.one_pos, rfl⟩
        · refine ⟨'b' :: '{' :: u, rfl, Nat.lt_succ_self _, ?_⟩
          have hmore : skipSpace v u ≠ [] := fun hnil => hbrace rfl ⟨u, rfl, hnil⟩
          rw [escapeAtom_bound_brace, boundaryName_none_local hname hmore]
          rfl
      · obtain ⟨rfl, rfl⟩ := Prod.mk.inj (Except.ok.inj h)
        obtain ⟨m, rfl, hle, hread⟩ := boundaryName_local hname
        refine ⟨'b' :: '{' :: m, rfl, Nat.lt_succ_of_le (Nat.le_succ_of_le hle), ?_⟩
        rw [escapeAtom_bound_brace, hread]
        rfl
    · rw [escapeAtom_bound fun rest hr => hopen ⟨rest, hr⟩] at h
      obtain ⟨rfl, rfl⟩ := Prod.mk.inj (Except.ok.inj h)
      refine ⟨'b' :: u, rfl, Nat.lt_succ_self _, escapeAtom_bound fun rest hmore => ?_⟩
      exact hopen ⟨rest ++ tail, congrArg (· ++ tail) hmore⟩
  -- all others leave everything behind their letter unread
  · have heq := escapeAtom_of_letter (v := v) hhex hprop hbound
    rw [heq] at h
    obtain ⟨⟨letter, rest⟩, hletter, h⟩ := bind_eq_ok.1 h
    obtain ⟨rfl, rfl⟩ := Prod.mk.inj (Except.ok.inj h)
    refine ⟨c :: u, rfl, Nat.lt_succ_self _, ?_⟩
    rw [heq, hletter]
    rfl

end Pattern
end JsonQuery
