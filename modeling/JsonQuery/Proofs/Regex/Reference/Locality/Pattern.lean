import JsonQuery.Proofs.Regex.Reference.Locality.Class

/-
What is left unread has not been looked at: groups, repetitions and patterns.

The reader of a whole pattern ends at a parenthesis or at the end of the text, so
the text up to the end of a group reads as a pattern by itself
(`readBranches_local`). That is so for any text behind it, and in any mode.
-/

set_option autoImplicit false

namespace JsonQuery
namespace Pattern

variable {v : Bool} {r u tail : List Char} {state state' : ReaderState}

/-- A text that starts otherwise does so without its tail. -/
theorem not_head {c : Char} (h : ∀ x, u ++ tail = c :: x → False) (x : List Char) :
    u ≠ c :: x :=
  fun hu => h (x ++ tail) (congrArg (· ++ tail) hu)

/-! ## Groups -/

/-- Flags are read up to the character that ends them. -/
theorem flagChanges_local {on dangling : Bool} {seen changes : FlagChanges} {c : Char}
    (h : flagChanges on seen dangling r = .ok (changes, c, u ++ tail)) :
    ∃ m, r = m ++ tail ∧ u.length < m.length ∧
      flagChanges on seen dangling m = .ok (changes, c, u) := by
  fun_induction flagChanges on seen dangling r with
  | case1 => cases h
  | case2 => cases h
  -- a colon or a parenthesis ends the flags, and everything else is one more flag
  | case3 on seen dangling d r hd hdangling =>
    obtain ⟨rfl, hpair⟩ := Prod.mk.inj (Except.ok.inj h)
    obtain ⟨rfl, rfl⟩ := Prod.mk.inj hpair
    exact ⟨d :: u, rfl, Nat.lt_succ_self _, by rw [flagChanges, if_pos hd, if_neg hdangling]⟩
  | case4 seen dangling r _ ih =>
    obtain ⟨m, rfl, hlt, hread⟩ := ih h
    exact ⟨'-' :: m, rfl, Nat.lt_succ_of_lt hlt, hread⟩
  | case5 => cases h
  | case6 => cases h
  | case7 => cases h
  | case8 on seen dangling d r hd hminus f hf hseen ih =>
    obtain ⟨m, rfl, hlt, hread⟩ := ih h
    refine ⟨d :: m, rfl, Nat.lt_succ_of_lt hlt, ?_⟩
    rw [flagChanges, if_neg hd, if_neg hminus]
    simp only [hf, if_neg hseen, hread]

/-- The name of a group is read up to its angle bracket. -/
theorem groupName_local {names : List (List Char)} {name : List Char}
    (h : groupName names r = .ok (name, u ++ tail)) :
    ∃ m, r = m ++ tail ∧ u.length < m.length ∧ groupName names m = .ok (name, u) := by
  simp only [groupName] at h
  split at h
  · next text rest hspan =>
    split at h
    · cases h
    · next c text =>
      split at h
      · cases h
      · next hchars =>
        split at h
        · cases h
        · next hnew =>
          obtain ⟨rfl, rfl⟩ := Prod.mk.inj (Except.ok.inj h)
          obtain ⟨m, rfl, hle, hspan₁⟩ := span_local (u := '>' :: u) hspan
          refine ⟨m, rfl, hle, ?_⟩
          simp only [groupName, hspan₁, if_neg hchars, if_neg hnew]
  · cases h

/-- An angle bracket that starts no look behind starts a name. -/
theorem opening_named {rest : List Char} (hskip : skipSpace state.verbose r = '?' :: '<' :: rest)
    (hbehind : ∀ x, rest ≠ '=' :: x) (hbehindNot : ∀ x, rest ≠ '!' :: x) :
    opening state r = (do
      let (name, rest) ← groupName state.names rest
      return (.group [], { state with names := name :: state.names }, rest)) := by
  rw [opening, hskip]
  split <;> grind

/-- What flags start, by the character behind them. -/
def openedBy (changes : FlagChanges) (closing : Char) : Except PatternError Opening :=
  if closing = ':' then .ok (.group changes)
  else if changes.isEmpty then .error .nothingToRepeat
  else .ok (.change changes)

/-- A question mark that starts neither a name nor a look around starts flags. -/
theorem opening_flags {rest : List Char} (hskip : skipSpace state.verbose r = '?' :: rest)
    (hahead : ∀ x, rest ≠ '=' :: x) (haheadNot : ∀ x, rest ≠ '!' :: x)
    (hname : ∀ x, rest ≠ 'P' :: '<' :: x) (hangle : ∀ x, rest ≠ '<' :: x) :
    opening state r = (do
      let (changes, closing, rest) ← flagChanges true [] false rest
      let o ← openedBy changes closing
      return (o, state, rest)) := by
  -- the reader decides in one place what the definition above decides in two
  have hopened (changes closing) (rest : List Char) :
      (do let o ← openedBy changes closing; return (o, state, rest)) =
        (if closing = ':' then pure (Opening.group changes, state, rest)
          else if changes.isEmpty then throw .nothingToRepeat
          else pure (Opening.change changes, state, rest)) := by
    rw [openedBy]
    split
    · rfl
    · split <;> rfl
  rw [opening, hskip]
  simp only [hopened]
  split <;> grind

/-- Without a question mark a group opens with nothing more to read. -/
theorem opening_plain (hskip : ∀ rest, skipSpace state.verbose r ≠ '?' :: rest) :
    opening state r = .ok (.group [], state, skipSpace state.verbose r) := by
  rw [opening]
  split <;> simp_all

/-- **The opening of a group** is read up to where it ends. -/
theorem opening_local {o : Opening} (h : opening state r = .ok (o, state', u ++ tail)) :
    ∃ m, r = m ++ tail ∧ u.length ≤ m.length ∧ opening state m = .ok (o, state', u) := by
  have hopening := h
  rw [opening] at h
  split at h
  · cases h
  · cases h
  · cases h
  · cases h
  · next rest hskip =>
    -- a name with the letter in front of it
    obtain ⟨⟨name, rest⟩, hname, h⟩ := bind_eq_ok.1 h
    obtain ⟨rfl, hpair⟩ := Prod.mk.inj (Except.ok.inj h)
    obtain ⟨rfl, rfl⟩ := Prod.mk.inj hpair
    obtain ⟨m₁, rfl, hlt₁, hname₁⟩ := groupName_local hname
    obtain ⟨m, rfl, hle, hskip₁⟩ := skipSpace_local (u := '?' :: 'P' :: '<' :: m₁) hskip
    simp only [List.length_cons] at hle
    refine ⟨m, rfl, by omega, ?_⟩
    rw [opening, hskip₁]
    exact bind_eq_ok.2 ⟨_, hname₁, rfl⟩
  · next rest hbehind hbehindNot hskip =>
    obtain ⟨⟨name, rest⟩, hname, h⟩ := bind_eq_ok.1 h
    obtain ⟨rfl, hpair⟩ := Prod.mk.inj (Except.ok.inj h)
    obtain ⟨rfl, rfl⟩ := Prod.mk.inj hpair
    obtain ⟨m₁, rfl, hlt₁, hname₁⟩ := groupName_local hname
    obtain ⟨m, rfl, hle, hskip₁⟩ := skipSpace_local (u := '?' :: '<' :: m₁) hskip
    simp only [List.length_cons] at hle
    refine ⟨m, rfl, by omega, ?_⟩
    rw [opening_named hskip₁ (not_head hbehind) (not_head hbehindNot)]
    exact bind_eq_ok.2 ⟨_, hname₁, rfl⟩
  · next rest hahead haheadNot _ _ hname hangle hskip =>
    rw [opening_flags hskip hahead haheadNot hname hangle] at hopening
    -- flags, which look at what is no name and no look around
    obtain ⟨⟨changes, closing, rest⟩, hflags, h⟩ := bind_eq_ok.1 hopening
    obtain ⟨o, ho, h⟩ := bind_eq_ok.1 h
    obtain ⟨rfl, hpair⟩ := Prod.mk.inj (Except.ok.inj h)
    obtain ⟨rfl, rfl⟩ := Prod.mk.inj hpair
    obtain ⟨m₁, rfl, hlt₁, hflags₁⟩ := flagChanges_local hflags
    obtain ⟨m, rfl, hle, hskip₁⟩ := skipSpace_local (u := '?' :: m₁) hskip
    rw [List.length_cons] at hle
    refine ⟨m, rfl, by omega, ?_⟩
    rw [opening_flags hskip₁ (not_head hahead) (not_head haheadNot)
      (fun x hx => hname (x ++ tail) (congrArg (· ++ tail) hx)) (not_head hangle)]
    exact bind_eq_ok.2 ⟨_, hflags₁, bind_eq_ok.2 ⟨o, ho, rfl⟩⟩
  · next _ _ _ _ _ _ hflags =>
    obtain ⟨rfl, hpair⟩ := Prod.mk.inj (Except.ok.inj h)
    obtain ⟨rfl, hrest⟩ := Prod.mk.inj hpair
    obtain ⟨m, rfl, hle, rfl⟩ := skipSpace_local hrest
    refine ⟨m, rfl, hle, opening_plain fun rest hskip => ?_⟩
    exact hflags (rest ++ tail) (hrest.trans (congrArg (· ++ tail) hskip))

/-! ## Repetition -/

/-- A question mark that makes a repetition lazy is skipped, if there is one. -/
theorem skipLazy_local (h : skipLazy r = u ++ tail) :
    ∃ m, r = m ++ tail ∧ u.length ≤ m.length ∧ skipLazy m = u := by
  by_cases hlazy : ∃ rest, r = '?' :: rest
  · obtain ⟨r, rfl⟩ := hlazy
    obtain rfl : r = u ++ tail := h
    exact ⟨'?' :: u, rfl, Nat.le_succ _, rfl⟩
  · rw [skipLazy] at h
    · subst h
      refine ⟨u, rfl, Nat.le_refl _, ?_⟩
      rw [skipLazy]
      -- no question mark stood there with the tail, so none does without it
      exact fun rest hu => hlazy ⟨rest ++ tail, congrArg (· ++ tail) hu⟩
    · exact fun rest hr => hlazy ⟨rest, hr⟩

/-- The number that digits stand for, if there are any. -/
def decimalOf (digits : List Char) : Except PatternError (Option Nat) :=
  if digits.isEmpty then .ok none
  else if Nat.ofDigitChars 10 digits 0 ≤ greatestCount then
    .ok (some (Nat.ofDigitChars 10 digits 0))
  else .error .invalidRepetition

/-- Whether a character is blank in a number, in any mode. -/
def isBlankInNumber (c : Char) : Bool := Unicode.whiteSpace.contains c.toNat

/-- A number is its digits with blank space around them. -/
theorem decimal_eq (cs : List Char) :
    decimal v cs =
      match spacedWhile v Char.isDigit cs.length (cs.dropWhile isBlankInNumber) with
      | (digits, rest) =>
        match spacedWhile v isBlankInNumber rest.length rest with
        | (_, rest) => (do let n ← decimalOf digits; return (n, rest)) := by
  obtain ⟨⟨digits, rest⟩, hdigits⟩ :
    ∃ x, spacedWhile v Char.isDigit cs.length (cs.dropWhile isBlankInNumber) = x := ⟨_, rfl⟩
  have hblank : (fun c : Char => Unicode.whiteSpace.contains c.toNat) = isBlankInNumber := rfl
  simp only [decimal, hblank, hdigits, decimalOf]
  split
  · rfl
  · split <;> rfl

/-- A number is read up to where the blank space behind it ends. -/
theorem decimal_local {n : Option Nat} (h : decimal v r = .ok (n, u ++ tail)) :
    ∃ m, r = m ++ tail ∧ u.length ≤ m.length ∧ decimal v m = .ok (n, u) := by
  rw [decimal_eq] at h
  obtain ⟨⟨digits, rest⟩, hdigits⟩ :
    ∃ x, spacedWhile v Char.isDigit r.length (r.dropWhile isBlankInNumber) = x := ⟨_, rfl⟩
  obtain ⟨⟨blank, rest'⟩, hblank⟩ : ∃ x, spacedWhile v isBlankInNumber rest.length rest = x :=
    ⟨_, rfl⟩
  simp only [hdigits, hblank] at h
  obtain ⟨n, hn, h⟩ := bind_eq_ok.1 h
  obtain ⟨rfl, rfl⟩ := Prod.mk.inj (Except.ok.inj h)
  -- blank space behind the digits, the digits, blank space in front of them
  obtain ⟨m₂, rfl, hle₂, hblank₁⟩ := spacedWhile_local (Nat.le_refl _) hblank
  obtain ⟨m₁, hm₁, hle₁, hdigits₁⟩ := spacedWhile_local (List.length_dropWhile_le _ _) hdigits
  obtain ⟨m, rfl, hle, rfl⟩ := dropWhile_local hm₁
  refine ⟨m, rfl, by omega, ?_⟩
  rw [decimal_eq, hdigits₁ m.length hle]
  simp only [hblank₁ m₂.length (Nat.le_refl _)]
  exact bind_eq_ok.2 ⟨n, hn, rfl⟩

/-- What ends a repetition, a question mark included. -/
theorem repetitionEnd_local (h : skipLazy (skipSpace v r) = u ++ tail) :
    ∃ m, r = m ++ tail ∧ u.length ≤ m.length ∧ skipLazy (skipSpace v m) = u := by
  obtain ⟨m₁, hm₁, hle₁, hlazy⟩ := skipLazy_local h
  obtain ⟨m, rfl, hle, rfl⟩ := skipSpace_local hm₁
  exact ⟨m, rfl, Nat.le_trans hle₁ hle, hlazy⟩

/-- **A repetition that counts** is read up to where it ends: one number, a least one or two. -/
theorem counted_local {least : Nat} {most : Option Nat}
    (h : counted v r = .ok (least, most, u ++ tail)) :
    ∃ m, r = m ++ tail ∧ u.length < m.length ∧ counted v m = .ok (least, most, u) := by
  obtain ⟨⟨first, rest⟩, hfirst, h⟩ := bind_eq_ok.1 h
  obtain - | first := first
  · cases h
  -- the text up to the first number, once what stands behind it is known
  have hback {x : List Char} (hrest : rest = x ++ tail) :
      ∃ m, r = m ++ tail ∧ x.length ≤ m.length ∧
        decimal v (skipSpace v m) = .ok (some first, x) := by
    obtain ⟨m₂, hm₂, hle₂, hread⟩ := decimal_local (hrest ▸ hfirst)
    obtain ⟨m, rfl, hle, rfl⟩ := skipSpace_local hm₂
    exact ⟨m, rfl, Nat.le_trans hle₂ hle, hread⟩
  simp only at h
  split at h
  · next rest =>
    obtain ⟨rfl, hpair⟩ := Prod.mk.inj (Except.ok.inj h)
    obtain ⟨rfl, hend⟩ := Prod.mk.inj hpair
    obtain ⟨m₁, rfl, hle₁, hend₁⟩ := repetitionEnd_local hend
    obtain ⟨m, rfl, hle, hread⟩ := hback (x := '}' :: m₁) rfl
    -- exactly as often as the first number says
    refine ⟨m, rfl, Nat.lt_of_le_of_lt hle₁ hle, bind_eq_ok.2 ⟨_, hread, ?_⟩⟩
    simp only [hend₁]
    rfl
  · next rest =>
    split at h
    · next rest' hskip =>
      obtain ⟨rfl, hpair⟩ := Prod.mk.inj (Except.ok.inj h)
      obtain ⟨rfl, hend⟩ := Prod.mk.inj hpair
      obtain ⟨m₂, rfl, hle₂, hend₂⟩ := repetitionEnd_local hend
      obtain ⟨m₁, rfl, hle₁, hskip₁⟩ := skipSpace_local (u := '}' :: m₂) hskip
      obtain ⟨m, rfl, hle, hread⟩ := hback (x := ',' :: m₁) rfl
      simp only [List.length_cons] at hle₁ hle
      refine ⟨m, rfl, by omega, bind_eq_ok.2 ⟨_, hread, ?_⟩⟩
      -- at least as often as the first number says
      simp only [hskip₁, hend₂]
      rfl
    · next rest' hno =>
      obtain ⟨⟨second, behind⟩, hsecond, h⟩ := bind_eq_ok.1 h
      obtain - | second := second
      · cases h
      simp only at h
      split at h
      · next behind =>
        split at h
        · next hcount =>
          obtain ⟨rfl, hpair⟩ := Prod.mk.inj (Except.ok.inj h)
          obtain ⟨rfl, hend⟩ := Prod.mk.inj hpair
          obtain ⟨m₃, rfl, hle₃, hend₃⟩ := repetitionEnd_local hend
          obtain ⟨m₂, hm₂, hle₂, hsecond₂⟩ := decimal_local (u := '}' :: m₃) hsecond
          obtain ⟨m₁, rfl, hle₁, hskip₁⟩ := skipSpace_local hm₂
          obtain ⟨m, rfl, hle, hread⟩ := hback (x := ',' :: m₁) rfl
          simp only [List.length_cons] at hle₂ hle
          refine ⟨m, rfl, by omega, bind_eq_ok.2 ⟨_, hread, ?_⟩⟩
          simp only [hskip₁]
          split
          · exact (hno _ hm₂).elim
          · rw [hsecond₂, ok_bind]
            simp only [if_pos hcount, hend₃]
            rfl
        · cases h
      · cases h
  · cases h

/-- A repetition that counts does not end with its opening brace. -/
theorem counted_nil (hr : skipSpace v r = []) : counted v r = .error .invalidRepetition := by
  rw [counted, hr]
  rfl

/-! ## Patterns -/

/-- A sequence ends at a bar, at a parenthesis or at the end of the text. -/
theorem readItems_done {fuel : Nat} {items : List Pattern} (hskip : skipSpace state.verbose r = u)
    (hend : ∀ c x, u = c :: x → c = '|' ∨ c = ')') :
    readItems (fuel + 1) state items r = .ok (.ofItems items.reverse, state, u) := by
  rw [readItems, hskip]
  cases u with
  | nil => rfl
  | cons c u => obtain rfl | rfl := hend c u rfl <;> rfl

/-- A pattern that is read on does not go on with a brace and nothing behind it. -/
theorem readItems_not_dangles {fuel : Nat} {items : List Pattern}
    {x : Pattern × ReaderState × List Char} (h : readItems fuel state items r = .ok x) :
    ¬ Dangles state.verbose '{' r := by
  rintro ⟨rest, rfl, hrest⟩
  have hbrace : skipSpace state.verbose ('{' :: rest) = '{' :: rest := by
    cases state.verbose <;> rfl
  obtain - | fuel := fuel
  · rw [readItems] at h
    cases h
  -- the brace would start a repetition that counts, which has nothing to read
  rw [readItems, hbrace] at h
  obtain ⟨_, -, h⟩ := bind_eq_ok.1 h
  rw [counted_nil hrest] at h
  cases h

/-- **What a sequence leaves unread it has not looked at**, and fuel above twice the
length of its text is not used up. -/
def ItemsLocal (fuel : Nat) : Prop :=
  ∀ {state state' : ReaderState} {items : List Pattern} {q : Pattern} {r u tail : List Char},
    readItems fuel state items r = .ok (q, state', u ++ tail) →
      ∃ m, r = m ++ tail ∧ u.length ≤ m.length ∧
        ∀ fuel', 2 * m.length < fuel' → readItems fuel' state items m = .ok (q, state', u)

def BranchesLocal (fuel : Nat) : Prop :=
  ∀ {state state' : ReaderState} {branches : List Pattern} {q : Pattern} {r u tail : List Char},
    readBranches fuel state branches r = .ok (q, state', u ++ tail) →
      ∃ m, r = m ++ tail ∧ u.length ≤ m.length ∧
        ∀ fuel', 2 * m.length + 1 < fuel' →
          readBranches fuel' state branches m = .ok (q, state', u)

section Items

variable {fuel : Nat} {items : List Pattern} {c : Char} {cs : List Char}
  {x : Pattern × ReaderState × List Char}

/-- A step that reads a character and goes on with what stands behind it. -/
theorem readItems_step_local (hskip : skipSpace state.verbose r = c :: cs)
    (hstep : ∃ m₁, cs = m₁ ++ tail ∧ u.length ≤ m₁.length ∧
      ∀ fuel m, skipSpace state.verbose m = c :: m₁ → 2 * m₁.length + 1 < fuel →
        readItems (fuel + 1) state items m = .ok x) :
    ∃ m, r = m ++ tail ∧ u.length ≤ m.length ∧
      ∀ fuel, 2 * m.length < fuel → readItems fuel state items m = .ok x := by
  obtain ⟨m₁, rfl, hle₁, hread⟩ := hstep
  obtain ⟨m, rfl, hle, hskip₁⟩ := skipSpace_local (u := c :: m₁) hskip
  rw [List.length_cons] at hle
  refine ⟨m, rfl, by omega, fun fuel hfuel => ?_⟩
  obtain ⟨fuel, rfl⟩ := Nat.exists_eq_add_one_of_ne_zero (Nat.ne_zero_of_lt hfuel)
  exact hread fuel m hskip₁ (by omega)

/-- A character that is an item by itself. -/
theorem readItems_single_local {p q : Pattern} (hitems : ItemsLocal fuel)
    (hskip : skipSpace state.verbose r = c :: cs)
    (h : readItems fuel state (p :: items) cs = .ok (q, state', u ++ tail))
    (hstep : ∀ fuel m m₁, skipSpace state.verbose m = c :: m₁ →
      readItems (fuel + 1) state items m = readItems fuel state (p :: items) m₁) :
    ∃ m, r = m ++ tail ∧ u.length ≤ m.length ∧
      ∀ fuel', 2 * m.length < fuel' → readItems fuel' state items m = .ok (q, state', u) := by
  obtain ⟨m₁, rfl, hle₁, hread₁⟩ := hitems h
  refine readItems_step_local hskip ⟨m₁, rfl, hle₁, fun fuel m hm hfuel => ?_⟩
  rw [hstep fuel m m₁ hm]
  exact hread₁ fuel (by omega)

/-- A character that repeats the item before it. -/
theorem readItems_repeat_local {q : Pattern} {least : Nat} {most : Option Nat}
    (hitems : ItemsLocal fuel) (hskip : skipSpace state.verbose r = c :: cs)
    (h : (do
      let items ← repeatLast items least most
      readItems fuel state items (skipLazy cs)) = .ok (q, state', u ++ tail))
    (hstep : ∀ fuel m m₁, skipSpace state.verbose m = c :: m₁ →
      readItems (fuel + 1) state items m = (do
        let items ← repeatLast items least most
        readItems fuel state items (skipLazy m₁))) :
    ∃ m, r = m ++ tail ∧ u.length ≤ m.length ∧
      ∀ fuel', 2 * m.length < fuel' → readItems fuel' state items m = .ok (q, state', u) := by
  obtain ⟨repeated, hrepeated, h⟩ := bind_eq_ok.1 h
  obtain ⟨m₂, hm₂, hle₂, hread₂⟩ := hitems h
  obtain ⟨m₁, rfl, hle₁, rfl⟩ := skipLazy_local hm₂
  refine readItems_step_local hskip ⟨m₁, rfl, by omega, fun fuel m hm hfuel => ?_⟩
  rw [hstep fuel m m₁ hm]
  exact bind_eq_ok.2 ⟨repeated, hrepeated, hread₂ fuel (by omega)⟩

/-- The end of a sequence, which is left unread. -/
theorem readItems_done_local (hskip : skipSpace state.verbose r = u ++ tail)
    (hend : ∀ c x, u = c :: x → c = '|' ∨ c = ')') :
    ∃ m, r = m ++ tail ∧ u.length ≤ m.length ∧ ∀ fuel', 2 * m.length < fuel' →
      readItems fuel' state items m = .ok (.ofItems items.reverse, state, u) := by
  obtain ⟨m, rfl, hle, hskip₁⟩ := skipSpace_local hskip
  refine ⟨m, rfl, hle, fun fuel' hfuel' => ?_⟩
  obtain ⟨fuel', rfl⟩ := Nat.exists_eq_add_one_of_ne_zero (Nat.ne_zero_of_lt hfuel')
  exact readItems_done hskip₁ hend

/-- One item more is read up to where it ends, and then the others are. -/
theorem itemsLocal_succ (hitems : ItemsLocal fuel) (hbranches : BranchesLocal fuel) :
    ItemsLocal (fuel + 1) := by
  intro state state' items q r u tail h
  rw [readItems] at h
  simp only at h
  split at h
  · next hskip =>
    obtain ⟨rfl, hpair⟩ := Prod.mk.inj (Except.ok.inj h)
    obtain ⟨rfl, hrest⟩ := Prod.mk.inj hpair
    obtain ⟨rfl, rfl⟩ := List.append_eq_nil_iff.1 hrest.symm
    -- the end of the text, a bar and a parenthesis end the sequence
    exact readItems_done_local hskip nofun
  · next rest hskip =>
    obtain ⟨rfl, hpair⟩ := Prod.mk.inj (Except.ok.inj h)
    obtain ⟨rfl, hrest⟩ := Prod.mk.inj hpair
    refine readItems_done_local (hskip.trans hrest) fun c x hu => .inl ?_
    subst hu
    exact (List.head_eq_of_cons_eq hrest).symm
  · next rest hskip =>
    obtain ⟨rfl, hpair⟩ := Prod.mk.inj (Except.ok.inj h)
    obtain ⟨rfl, hrest⟩ := Prod.mk.inj hpair
    refine readItems_done_local (hskip.trans hrest) fun c x hu => .inr ?_
    subst hu
    exact (List.head_eq_of_cons_eq hrest).symm
  · next rest hskip =>
    -- flags that hold from here on, or a group
    obtain ⟨⟨o, inner, rest⟩, hopening, h⟩ := bind_eq_ok.1 h
    obtain changes | changes := o
    · obtain ⟨m₂, rfl, hle₂, hread₂⟩ := hitems h
      obtain ⟨m₁, rfl, hle₁, hopening₁⟩ := opening_local hopening
      refine readItems_step_local hskip ⟨m₁, rfl, by omega, fun fuel m hm hfuel => ?_⟩
      rw [readItems, hm]
      simp only [hopening₁, ok_bind]
      exact hread₂ fuel (by omega)
    · obtain ⟨⟨body, inner', rest⟩, hbody, h⟩ := bind_eq_ok.1 h
      simp only at h
      split at h
      · next rest =>
        -- the parenthesis that ends the group is left unread by what is inside of it
        obtain ⟨m₃, rfl, hle₃, hread₃⟩ := hitems h
        obtain ⟨m₂, rfl, hle₂, hbody₂⟩ := hbranches (u := ')' :: m₃) hbody
        obtain ⟨m₁, rfl, hle₁, hopening₁⟩ := opening_local hopening
        rw [List.length_cons] at hle₂
        refine readItems_step_local hskip ⟨m₁, rfl, by omega, fun fuel m hm hfuel => ?_⟩
        rw [readItems, hm]
        simp only [hopening₁, ok_bind, hbody₂ fuel (by omega)]
        exact hread₃ fuel (by omega)
      · cases h
  · next rest hskip =>
    obtain ⟨⟨p, rest⟩, hclass, h⟩ := bind_eq_ok.1 h
    obtain ⟨m₂, rfl, hle₂, hread₂⟩ := hitems h
    obtain ⟨m₁, rfl, hlt₁, hclass₁⟩ := bracketedClass_local hclass
    refine readItems_step_local hskip ⟨m₁, rfl, by omega, fun fuel m hm hfuel => ?_⟩
    rw [readItems, hm]
    simp only [hclass₁, ok_bind]
    exact hread₂ fuel (by omega)
  · next rest hskip =>
    exact readItems_repeat_local hitems hskip h fun fuel m m₁ hm => by rw [readItems, hm]; rfl
  · next rest hskip =>
    exact readItems_repeat_local hitems hskip h fun fuel m m₁ hm => by rw [readItems, hm]; rfl
  · next rest hskip =>
    exact readItems_repeat_local hitems hskip h fun fuel m m₁ hm => by rw [readItems, hm]; rfl
  · next rest hskip =>
    obtain ⟨first, hfirst, h⟩ := bind_eq_ok.1 h
    obtain ⟨⟨least, most, rest⟩, hcounted, h⟩ := bind_eq_ok.1 h
    obtain ⟨repeated, hrepeated, h⟩ := bind_eq_ok.1 h
    obtain ⟨m₂, rfl, hle₂, hread₂⟩ := hitems h
    obtain ⟨m₁, rfl, hlt₁, hcounted₁⟩ := counted_local hcounted
    refine readItems_step_local hskip ⟨m₁, rfl, by omega, fun fuel m hm hfuel => ?_⟩
    rw [readItems, hm]
    exact bind_eq_ok.2 ⟨first, hfirst, bind_eq_ok.2 ⟨_, hcounted₁,
      bind_eq_ok.2 ⟨repeated, hrepeated, hread₂ fuel (by omega)⟩⟩⟩
  · next rest hskip =>
    exact readItems_single_local hitems hskip h fun fuel m m₁ hm => by rw [readItems, hm]; rfl
  · next rest hskip =>
    exact readItems_single_local hitems hskip h fun fuel m m₁ hm => by rw [readItems, hm]; rfl
  · next rest hskip =>
    exact readItems_single_local hitems hskip h fun fuel m m₁ hm => by rw [readItems, hm]; rfl
  · next rest hskip =>
    obtain ⟨⟨a, rest⟩, hescape, h⟩ := bind_eq_ok.1 h
    obtain ⟨m₂, rfl, hle₂, hread₂⟩ := hitems h
    -- a word boundary has to know that the sequence does not end with a brace
    have hends := readItems_not_dangles (hread₂ (2 * m₂.length + 1) (Nat.lt_succ_self _))
    obtain ⟨m₁, rfl, hlt₁, hescape₁⟩ := escapeAtom_local hescape fun _ => hends
    refine readItems_step_local hskip ⟨m₁, rfl, by omega, fun fuel m hm hfuel => ?_⟩
    rw [readItems, hm]
    exact bind_eq_ok.2 ⟨_, hescape₁, hread₂ fuel (by omega)⟩
  · rename_i hskip
    refine readItems_single_local hitems hskip h fun fuel m m₁ hm => ?_
    rw [readItems, hm]
    -- the character is none of those above
    simp only

end Items

/-- One branch more is read up to its bar, and then the others are. -/
theorem branchesLocal_succ {fuel : Nat} (hitems : ItemsLocal fuel)
    (hbranches : BranchesLocal fuel) : BranchesLocal (fuel + 1) := by
  intro state state' branches q r u tail h
  rw [readBranches] at h
  obtain ⟨⟨p, state₁, rest⟩, hread, h⟩ := bind_eq_ok.1 h
  simp only at h
  split at h
  · next rest =>
    -- the bar between two branches is left unread by the first of them
    obtain ⟨m₁, rfl, hle₁, hread₁⟩ := hbranches h
    obtain ⟨m, rfl, hle, hitems₁⟩ := hitems (u := '|' :: m₁) hread
    rw [List.length_cons] at hle
    refine ⟨m, rfl, by omega, fun fuel' hfuel' => ?_⟩
    obtain ⟨fuel', rfl⟩ := Nat.exists_eq_add_one_of_ne_zero (Nat.ne_zero_of_lt hfuel')
    rw [readBranches, hitems₁ fuel' (by omega), ok_bind]
    exact hread₁ fuel' (by omega)
  · next hbar =>
    obtain ⟨rfl, hpair⟩ := Prod.mk.inj (Except.ok.inj h)
    obtain ⟨rfl, rfl⟩ := Prod.mk.inj hpair
    obtain ⟨m, rfl, hle, hitems₁⟩ := hitems hread
    refine ⟨m, rfl, hle, fun fuel' hfuel' => ?_⟩
    obtain ⟨fuel', rfl⟩ := Nat.exists_eq_add_one_of_ne_zero (Nat.ne_zero_of_lt hfuel')
    rw [readBranches, hitems₁ fuel' (by omega), ok_bind]
    simp only
    split
    · exact (hbar _ rfl).elim
    · rfl

/-- Items and branches are read in terms of each other, so the induction on the fuel is about
both. -/
theorem itemsLocal_and_branchesLocal (fuel : Nat) : ItemsLocal fuel ∧ BranchesLocal fuel := by
  induction fuel with
  | zero =>
    refine ⟨fun h => ?_, fun h => ?_⟩
    · rw [readItems] at h
      cases h
    · rw [readBranches] at h
      cases h
  | succ fuel ih => exact ⟨itemsLocal_succ ih.1 ih.2, branchesLocal_succ ih.1 ih.2⟩

/-- **What a pattern leaves unread it has not looked at.** -/
theorem readBranches_local {fuel : Nat} {branches : List Pattern} {q : Pattern}
    (h : readBranches fuel state branches r = .ok (q, state', u ++ tail)) :
    ∃ m, r = m ++ tail ∧ u.length ≤ m.length ∧
      ∀ fuel', 2 * m.length + 1 < fuel' →
        readBranches fuel' state branches m = .ok (q, state', u) :=
  (itemsLocal_and_branchesLocal fuel).2 h

end Pattern
end JsonQuery
