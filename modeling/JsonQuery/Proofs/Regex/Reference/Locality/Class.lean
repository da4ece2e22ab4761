import JsonQuery.Proofs.Regex.Reference.Locality.Escape

/-
What is left unread has not been looked at: classes.

A class ends with its bracket, so inside of it there is always something left. The
readers of its parts rely on that: a hyphen makes a range unless the class ends
behind it, and a bracket right at the start is no end. Their lemmas ask for what
follows, and the reader of the whole class provides it.
-/

set_option autoImplicit false

namespace JsonQuery
namespace Pattern

variable {v : Bool} {r u tail : List Char}

/-! ## Classes by name -/

/-- What stands between the colons of a class by name. -/
def asciiClassName? (negated : Bool) (cs : List Char) : Option (ClassBody × List Char) :=
  match cs.span (· != ':') with
  | (name, ':' :: ']' :: cs) => (asciiClass? name).map fun set => (.ascii set negated, cs)
  | _ => none

/-- A class by name starts with a colon. -/
theorem asciiClassBody?_colon {x : ClassBody × List Char} (h : asciiClassBody? r = some x) :
    ∃ cs, r = ':' :: cs := by
  rw [asciiClassBody?.eq_def] at h
  split at h
  · exact ⟨_, rfl⟩
  · cases h

/-- A circumflex behind the colon negates the class. -/
theorem asciiClassBody?_negated (cs : List Char) :
    asciiClassBody? (':' :: '^' :: cs) = asciiClassName? true cs :=
  rfl

/-- Without a circumflex the name starts behind the colon. -/
theorem asciiClassBody?_plain {cs : List Char} (hcs : ∀ rest, cs ≠ '^' :: rest) :
    asciiClassBody? (':' :: cs) = asciiClassName? false cs := by
  rw [asciiClassBody?]
  · rfl
  · exact hcs

/-- A name is read up to the colon behind it. -/
theorem asciiClassName?_local {negated : Bool} {item : ClassBody}
    (h : asciiClassName? negated r = some (item, u ++ tail)) :
    ∃ m, r = m ++ tail ∧ u.length < m.length ∧ asciiClassName? negated m = some (item, u) := by
  simp only [asciiClassName?] at h
  split at h
  · next name rest hspan =>
    obtain ⟨set, hset, h⟩ := Option.map_eq_some_iff.1 h
    obtain ⟨rfl, rfl⟩ := Prod.mk.inj h
    obtain ⟨m, rfl, hle, hspan⟩ := span_local (u := ':' :: ']' :: u) hspan
    refine ⟨m, rfl, Nat.lt_of_succ_lt hle, ?_⟩
    simp only [asciiClassName?, hspan, hset, Option.map_some]
  · cases h

/-- A name that is there is there whatever follows. -/
theorem asciiClassName?_append {negated : Bool} {item : ClassBody}
    (h : asciiClassName? negated r = some (item, u)) (tail : List Char) :
    asciiClassName? negated (r ++ tail) = some (item, u ++ tail) := by
  simp only [asciiClassName?] at h
  split at h
  · next name rest hspan =>
    obtain ⟨set, hset, h⟩ := Option.map_eq_some_iff.1 h
    obtain ⟨rfl, rfl⟩ := Prod.mk.inj h
    simp only [asciiClassName?, span_append hspan, hset, List.cons_append, Option.map_some]
  · cases h

/-- A class by name is read up to its bracket. -/
theorem asciiClassBody?_local {item : ClassBody}
    (h : asciiClassBody? r = some (item, u ++ tail)) :
    ∃ m, r = m ++ tail ∧ u.length < m.length ∧ asciiClassBody? m = some (item, u) := by
  obtain ⟨cs, rfl⟩ := asciiClassBody?_colon h
  -- a circumflex is taken before the name, and the tail cannot supply one
  by_cases hneg : ∃ rest, cs = '^' :: rest
  · obtain ⟨cs, rfl⟩ := hneg
    obtain ⟨m, rfl, hlt, hread⟩ := asciiClassName?_local ((asciiClassBody?_negated cs).symm.trans h)
    exact ⟨':' :: '^' :: m, rfl, Nat.lt_succ_of_lt (Nat.lt_succ_of_lt hlt), hread⟩
  · rw [asciiClassBody?_plain fun rest hcs => hneg ⟨rest, hcs⟩] at h
    obtain ⟨m, rfl, hlt, hread⟩ := asciiClassName?_local h
    refine ⟨':' :: m, rfl, Nat.lt_succ_of_lt hlt, ?_⟩
    rw [asciiClassBody?_plain fun rest hm => hneg ⟨rest ++ tail, congrArg (· ++ tail) hm⟩, hread]

/-- A class by name that is there is there whatever follows. -/
theorem asciiClassBody?_append {item : ClassBody} (h : asciiClassBody? r = some (item, u))
    (tail : List Char) : asciiClassBody? (r ++ tail) = some (item, u ++ tail) := by
  obtain ⟨cs, rfl⟩ := asciiClassBody?_colon h
  by_cases hneg : ∃ rest, cs = '^' :: rest
  · obtain ⟨cs, rfl⟩ := hneg
    exact asciiClassName?_append ((asciiClassBody?_negated cs).symm.trans h) tail
  · rw [asciiClassBody?_plain fun rest hcs => hneg ⟨rest, hcs⟩] at h
    -- the name is not empty, so what decides on a circumflex is there already
    have hne : cs ≠ [] := by
      rintro rfl
      cases h
    obtain ⟨c, cs, rfl⟩ := List.exists_cons_of_ne_nil hne
    rw [List.cons_append, asciiClassBody?_plain, asciiClassName?_append h]
    intro rest hrest
    exact hneg ⟨cs, by rw [List.head_eq_of_cons_eq hrest]⟩

/-! ## The start of a class -/

/-- Whether a class is negated, and what stands behind that. -/
def negation (v : Bool) : List Char → Bool × List Char
  | '^' :: cs => (true, skipSpace v cs)
  | cs => (false, cs)

/-- The start of a class behind its hyphens. -/
def firstBracket (v negated : Bool) (items : List ClassBody) (cs : List Char) :
    Except PatternError (Bool × List ClassBody × List Char) :=
  match cs with
  | [] => throw .unclosedClass
  | ']' :: rest =>
    if items.isEmpty then
      if (skipSpace v rest).isEmpty then throw .unclosedClass
      else return (negated, [.literal ']' false], skipSpace v rest)
    else return (negated, items, cs)
  | _ => return (negated, items, cs)

/-- The start of a class in its three steps: negation, hyphens and a first bracket. -/
theorem classOpening_eq (cs : List Char) :
    classOpening v cs =
      match negation v (skipSpace v cs) with
      | (negated, cs) =>
        match spacedWhile v (· == '-') cs.length cs with
        | (hyphens, cs) => firstBracket v negated (hyphens.map (ClassBody.literal · false)) cs :=
  rfl

/-- A negation is read up to where it ends. -/
theorem negation_local {negated : Bool} (h : negation v r = (negated, u ++ tail)) :
    ∃ m, r = m ++ tail ∧ u.length ≤ m.length ∧ negation v m = (negated, u) := by
  by_cases hneg : ∃ rest, r = '^' :: rest
  · obtain ⟨r, rfl⟩ := hneg
    obtain ⟨rfl, hr⟩ := Prod.mk.inj h
    obtain ⟨m, rfl, hle, hskip⟩ := skipSpace_local hr
    exact ⟨'^' :: m, rfl, Nat.le_succ_of_le hle, by rw [negation, hskip]⟩
  · rw [negation] at h
    · obtain ⟨rfl, rfl⟩ := Prod.mk.inj h
      -- no circumflex was there with the tail, so none is there without it
      refine ⟨u, rfl, Nat.le_refl _, ?_⟩
      rw [negation]
      exact fun rest hu => hneg ⟨rest ++ tail, congrArg (· ++ tail) hu⟩
    · exact fun rest hr => hneg ⟨rest, hr⟩

/-- A first bracket is read up to where it ends, if the class goes on there. -/
theorem firstBracket_local {negated other : Bool} {items opening : List ClassBody}
    (h : firstBracket v other items r = .ok (negated, opening, u ++ tail)) (hu : u ≠ []) :
    ∃ m, r = m ++ tail ∧ u.length ≤ m.length ∧
      firstBracket v other items m = .ok (negated, opening, u) := by
  -- what is left starts with a character that the reader saw
  obtain ⟨c, u, rfl⟩ := List.exists_cons_of_ne_nil hu
  simp only [firstBracket] at h
  split at h
  · cases h
  · next rest =>
    split at h
    · next hitems =>
      split at h
      · cases h
      · obtain ⟨rfl, hpair⟩ := Prod.mk.inj (Except.ok.inj h)
        obtain ⟨rfl, hrest⟩ := Prod.mk.inj hpair
        obtain ⟨m, rfl, hle, hskip⟩ := skipSpace_local hrest
        refine ⟨']' :: m, rfl, Nat.le_succ_of_le hle, ?_⟩
        rw [firstBracket, if_pos hitems, hskip]
        rfl
    · next hitems =>
      obtain ⟨rfl, hpair⟩ := Prod.mk.inj (Except.ok.inj h)
      obtain ⟨rfl, hrest⟩ := Prod.mk.inj hpair
      obtain rfl : ']' = c := List.head_eq_of_cons_eq hrest
      exact ⟨']' :: u, hrest, Nat.le_refl _, by rw [firstBracket, if_neg hitems]; rfl⟩
  · next hnil hbracket =>
    obtain ⟨rfl, hpair⟩ := Prod.mk.inj (Except.ok.inj h)
    obtain ⟨rfl, rfl⟩ := Prod.mk.inj hpair
    refine ⟨c :: u, rfl, Nat.le_refl _, ?_⟩
    have hc : c ≠ ']' := fun hc => hbracket (u ++ tail) (congrArg (· :: (u ++ tail)) hc)
    rw [firstBracket]
    · rfl
    · nofun
    · exact fun rest hrest => hc (List.head_eq_of_cons_eq hrest)

/-- A bracket right at the start is no end, unless nothing follows it. -/
theorem classOpening_local {negated : Bool} {opening : List ClassBody}
    (h : classOpening v r = .ok (negated, opening, u ++ tail)) (hu : u ≠ []) :
    ∃ m, r = m ++ tail ∧ u.length ≤ m.length ∧
      classOpening v m = .ok (negated, opening, u) := by
  rw [classOpening_eq] at h
  obtain ⟨⟨other, cs₁⟩, hneg⟩ : ∃ x, negation v (skipSpace v r) = x := ⟨_, rfl⟩
  obtain ⟨⟨hyphens, cs₂⟩, hhyphens⟩ : ∃ x, spacedWhile v (· == '-') cs₁.length cs₁ = x :=
    ⟨_, rfl⟩
  simp only [hneg, hhyphens] at h
  -- from the last step to the first, each ends where the next one starts
  obtain ⟨m₃, rfl, hle₃, hfirst₁⟩ := firstBracket_local h hu
  obtain ⟨m₂, rfl, hle₂, hhyphens₁⟩ := spacedWhile_local (Nat.le_refl _) hhyphens
  obtain ⟨m₁, hm₁, hle₁, hneg₁⟩ := negation_local hneg
  obtain ⟨m, rfl, hle, hskip⟩ := skipSpace_local hm₁
  refine ⟨m, rfl, by omega, ?_⟩
  rw [classOpening_eq, hskip, hneg₁]
  simp only [hhyphens₁ m₂.length (Nat.le_refl _), hfirst₁]

/-! ## Characters and ranges -/

/-- A character of a class is read up to where it ends. An escape may ask whether a brace is the
last thing in the text. -/
theorem classAtom_local {a : Atom} (h : classAtom v r = .ok (a, u ++ tail))
    (hbrace : a = .assertion .wordBoundary → ¬ Dangles v '{' u) :
    ∃ m, r = m ++ tail ∧ u.length < m.length ∧ classAtom v m = .ok (a, u) := by
  rw [classAtom.eq_def] at h
  split at h
  · cases h
  · next cs =>
    obtain ⟨m, rfl, hlt, hread⟩ := escapeAtom_local h hbrace
    exact ⟨'\\' :: m, rfl, Nat.lt_succ_of_lt hlt, hread⟩
  · next c cs hescape =>
    obtain ⟨rfl, rfl⟩ := Prod.mk.inj (Except.ok.inj h)
    refine ⟨c :: u, rfl, Nat.lt_succ_self _, ?_⟩
    rw [classAtom]
    exact hescape

/-- No assertion can be listed in a class. -/
theorem ne_assertion_of_classItem {a : Atom} {item : ClassBody}
    (hitem : classItem a = .ok item) (b : Assertion) : a ≠ .assertion b := by
  rintro rfl
  cases hitem

/-- **What a class lists** is read up to where it ends: no assertion, so a brace behind it decides
nothing. -/
theorem classItem_local {a : Atom} {item : ClassBody} (h : classAtom v r = .ok (a, u ++ tail))
    (hitem : classItem a = .ok item) :
    ∃ m, r = m ++ tail ∧ u.length < m.length ∧ classAtom v m = .ok (a, u) :=
  classAtom_local h (absurd · (ne_assertion_of_classItem hitem _))

/-- **A range looks past what it leaves**: at a hyphen, and at what stands behind it. -/
theorem classRange_local {item : ClassBody} (h : classRange v r = .ok (item, u ++ tail))
    (hu : u ≠ []) (hdash : ¬ Dangles v '-' u) :
    ∃ m, r = m ++ tail ∧ u.length < m.length ∧ classRange v m = .ok (item, u) := by
  obtain ⟨⟨first, cs⟩, hfirst, h⟩ := bind_eq_ok.1 h
  simp only at h
  split at h
  · cases h
  · next rest hskip =>
    split at h
    · cases h
    · next d behind hbehind =>
      split at h
      · next hd =>
        obtain ⟨item, hitem, h⟩ := bind_eq_ok.1 h
        obtain ⟨rfl, hrest⟩ := Prod.mk.inj (Except.ok.inj h)
        obtain ⟨c, u, rfl⟩ := List.exists_cons_of_ne_nil hu
        obtain ⟨rfl, rfl⟩ := List.cons_eq_cons.1 hrest
        -- the character that decides is still there without the tail
        have hseen : skipSpace v u ≠ [] := fun hnil => hdash ⟨u, rfl, hnil⟩
        obtain ⟨e, w, hw⟩ := List.exists_cons_of_ne_nil hseen
        obtain rfl : e = d :=
          List.head_eq_of_cons_eq ((skipSpace_append hw tail).symm.trans hbehind)
        obtain ⟨m₁, rfl, hle₁, hskip₁⟩ := skipSpace_local (u := '-' :: u) hskip
        obtain ⟨m, rfl, hlt, hread⟩ := classItem_local hfirst hitem
        refine ⟨m, rfl, Nat.lt_of_le_of_lt hle₁ hlt, bind_eq_ok.2 ⟨_, hread, ?_⟩⟩
        simp only [hskip₁, hw, if_pos hd]
        exact bind_eq_ok.2 ⟨item, hitem, rfl⟩
      · next hd =>
        obtain ⟨⟨last, cs'⟩, hlast, h⟩ := bind_eq_ok.1 h
        simp only at h
        split at h
        · next a aByte b bByte =>
          split at h
          · next hab =>
            obtain ⟨rfl, rfl⟩ := Prod.mk.inj (Except.ok.inj h)
            -- a range proper: both of its ends are characters
            obtain ⟨m₃, hm₃, hlt₃, hread₃⟩ := classItem_local hlast rfl
            obtain ⟨e, w, rfl⟩ := List.exists_cons_of_length_pos (Nat.zero_lt_of_lt hlt₃)
            obtain rfl : d = e := List.head_eq_of_cons_eq hm₃
            obtain ⟨m₂, rfl, hle₂, hskip₂⟩ := skipSpace_local (hbehind.trans hm₃)
            obtain ⟨m₁, rfl, hle₁, hskip₁⟩ := skipSpace_local (u := '-' :: m₂) hskip
            obtain ⟨m, rfl, hlt, hread⟩ := classItem_local hfirst rfl
            refine ⟨m, rfl, ?_, bind_eq_ok.2 ⟨_, hread, ?_⟩⟩
            · simp only [List.length_cons] at *
              omega
            · simp only [hskip₁, hskip₂, if_neg hd]
              exact bind_eq_ok.2 ⟨_, hread₃, if_pos hab⟩
          · cases h
        · cases h
  · next hnil hhyphen =>
    obtain ⟨item, hitem, h⟩ := bind_eq_ok.1 h
    obtain ⟨rfl, hrest⟩ := Prod.mk.inj (Except.ok.inj h)
    obtain ⟨m₁, rfl, hle₁, hskip₁⟩ := skipSpace_local hrest
    obtain ⟨m, rfl, hlt, hread⟩ := classItem_local hfirst hitem
    refine ⟨m, rfl, Nat.lt_of_le_of_lt hle₁ hlt, bind_eq_ok.2 ⟨_, hread, ?_⟩⟩
    simp only [hskip₁]
    split
    · exact (hu rfl).elim
    · exact (hhyphen _ hrest).elim
    · exact bind_eq_ok.2 ⟨item, hitem, rfl⟩

/-! ## Bodies -/

/-- A class that ends has its bracket to read. -/
theorem classBody_ne_nil {fuel : Nat} {left : Option (ClassOperator × ClassBody)}
    {items : List ClassBody} {x : ClassBody × List Char}
    (h : classBody v fuel left items r = .ok x) : r ≠ [] := by
  rintro rfl
  obtain - | fuel := fuel
  · cases h
  · cases v <;> cases h

/-- A hyphen is not blank. -/
theorem skipSpace_hyphen (cs : List Char) : skipSpace v ('-' :: cs) = '-' :: cs := by
  cases v <;> rfl

/-- A class that ends does not do so with a hyphen. -/
theorem classBody_not_dangles {fuel : Nat} {left : Option (ClassOperator × ClassBody)}
    {items : List ClassBody} {x : ClassBody × List Char}
    (h : classBody v fuel left items r = .ok x) : ¬ Dangles v '-' r := by
  rintro ⟨rest, rfl, hrest⟩
  -- the hyphen would be a character of its own and then have to end a range
  have hatom : classAtom v ('-' :: rest) = .ok (.literal '-' false, rest) := rfl
  have hrange : classRange v ('-' :: rest) = .error .unclosedClass := by
    rw [classRange, hatom, ok_bind]
    simp only [hrest]
    rfl
  have hhead {c : Char} {cs : List Char} (hc : '-' :: rest = c :: cs) : '-' = c :=
    List.head_eq_of_cons_eq hc
  obtain - | fuel := fuel
  · cases h
  rw [classBody, skipSpace_hyphen] at h
  split at h
  · contradiction
  · next hc => exact absurd (hhead hc) (by decide)
  · next hc => exact absurd (hhead hc) (by decide)
  · next hc => exact absurd (hhead hc) (by decide)
  · next hc =>
    rw [(List.cons_eq_cons.1 hc).2, skipSpace_hyphen] at hrest
    cases hrest
  · next hc => exact absurd (hhead hc) (by decide)
  · rw [hrange] at h
    cases h

/-- A step that reads a fixed text and goes on with the rest. -/
theorem classBody_step_local {left left' : Option (ClassOperator × ClassBody)}
    {items items' : List ClassBody} {w cs : List Char} {x : ClassBody × List Char}
    (hw : w ≠ []) (hskip : skipSpace v r = w ++ cs)
    (hstep : ∀ fuel m m₁, skipSpace v m = w ++ m₁ →
      classBody v (fuel + 1) left items m = classBody v fuel left' items' m₁)
    (hrest : ∃ m, cs = m ++ tail ∧ u.length < m.length ∧
      ∀ fuel, m.length < fuel → classBody v fuel left' items' m = .ok x) :
    ∃ m, r = m ++ tail ∧ u.length < m.length ∧
      ∀ fuel, m.length < fuel → classBody v fuel left items m = .ok x := by
  -- the fixed text makes the step shorter, so the fuel that is left is enough
  obtain ⟨m₁, rfl, hlt₁, hread₁⟩ := hrest
  obtain ⟨m, rfl, hle, hskip₁⟩ := skipSpace_local (hskip.trans (List.append_assoc ..).symm)
  have hpos := List.length_pos_iff.2 hw
  rw [List.length_append] at hle
  refine ⟨m, rfl, by omega, fun fuel hfuel => ?_⟩
  obtain ⟨fuel, rfl⟩ := Nat.exists_eq_add_one_of_ne_zero (Nat.ne_zero_of_lt hfuel)
  rw [hstep fuel m m₁ hskip₁]
  exact hread₁ fuel (by omega)

/-- **What a class leaves unread it has not looked at**, and fuel above the length of
its text is not used up. -/
theorem classBody_local {fuel : Nat} {left : Option (ClassOperator × ClassBody)}
    {items : List ClassBody} {body : ClassBody}
    (h : classBody v fuel left items r = .ok (body, u ++ tail)) :
    ∃ m, r = m ++ tail ∧ u.length < m.length ∧
      ∀ fuel', m.length < fuel' → classBody v fuel' left items m = .ok (body, u) := by
  induction fuel generalizing left items body r u with
  | zero => cases h
  | succ fuel ih =>
    rw [classBody] at h
    split at h
    · cases h
    · next cs hskip =>
      split at h
      · next item rest hname =>
        -- a class by name, and then the rest of this class
        obtain ⟨m₂, rfl, hlt₂, hread₂⟩ := ih h
        obtain ⟨m₁, rfl, hlt₁, hname₁⟩ := asciiClassBody?_local hname
        obtain ⟨m, rfl, hle, hskip₁⟩ := skipSpace_local (u := '[' :: m₁) hskip
        rw [List.length_cons] at hle
        refine ⟨m, rfl, by omega, fun fuel' hfuel' => ?_⟩
        obtain ⟨fuel', rfl⟩ := Nat.exists_eq_add_one_of_ne_zero (Nat.ne_zero_of_lt hfuel')
        rw [classBody, hskip₁]
        simp only [hname₁]
        exact hread₂ fuel' (by omega)
      · next hname =>
        -- a class in this class, and then the rest of this one
        obtain ⟨⟨negated, opening, cs₁⟩, hopening, h⟩ := bind_eq_ok.1 h
        obtain ⟨⟨inner, cs₂⟩, hinner, h⟩ := bind_eq_ok.1 h
        obtain ⟨m₃, rfl, hlt₃, hread₃⟩ := ih h
        obtain ⟨m₂, rfl, hlt₂, hread₂⟩ := ih hinner
        have hne : m₂ ≠ [] := List.ne_nil_of_length_pos (Nat.zero_lt_of_lt hlt₂)
        obtain ⟨m₁, rfl, hle₁, hopening₁⟩ := classOpening_local hopening hne
        obtain ⟨m, rfl, hle, hskip₁⟩ := skipSpace_local (u := '[' :: m₁) hskip
        rw [List.length_cons] at hle
        refine ⟨m, rfl, by omega, fun fuel' hfuel' => ?_⟩
        obtain ⟨fuel', rfl⟩ := Nat.exists_eq_add_one_of_ne_zero (Nat.ne_zero_of_lt hfuel')
        -- no class by name stands there without the tail either
        have hname₁ : asciiClassBody? m₁ = none := by
          cases hsome : asciiClassBody? m₁ with
          | none => rfl
          | some found =>
            rw [asciiClassBody?_append hsome tail] at hname
            cases hname
        rw [classBody, hskip₁]
        simp only [hname₁, hopening₁, ok_bind, hread₂ fuel' (by omega)]
        exact hread₃ fuel' (by omega)
    · next cs hskip =>
      -- the closing bracket
      obtain ⟨rfl, rfl⟩ := Prod.mk.inj (Except.ok.inj h)
      obtain ⟨m, rfl, hle, hskip₁⟩ := skipSpace_local (u := ']' :: u) hskip
      refine ⟨m, rfl, hle, fun fuel' hfuel' => ?_⟩
      obtain ⟨fuel', rfl⟩ := Nat.exists_eq_add_one_of_ne_zero (Nat.ne_zero_of_lt hfuel')
      rw [classBody, hskip₁]
      rfl
    · next cs hskip =>
      refine classBody_step_local (w := ['&', '&']) (by decide) hskip
        (fun fuel m m₁ hm => ?_) (ih h)
      rw [classBody, hm]
      rfl
    · next cs hskip =>
      refine classBody_step_local (w := ['-', '-']) (by decide) hskip
        (fun fuel m m₁ hm => ?_) (ih h)
      rw [classBody, hm]
      rfl
    · next cs hskip =>
      refine classBody_step_local (w := ['~', '~']) (by decide) hskip
        (fun fuel m m₁ hm => ?_) (ih h)
      rw [classBody, hm]
      rfl
    · next cs hnil hopen hclose hand hminus htilde =>
      obtain ⟨⟨item, rest⟩, hrange, h⟩ := bind_eq_ok.1 h
      obtain ⟨m₂, rfl, hlt₂, hread₂⟩ := ih h
      -- that the class goes on and ends is what the range needs to know of its rest
      have hends := hread₂ (m₂.length + 1) (Nat.lt_succ_self _)
      obtain ⟨m₁, hm₁, hlt₁, hrange₁⟩ :=
        classRange_local hrange (classBody_ne_nil hends) (classBody_not_dangles hends)
      obtain ⟨m, rfl, hle, hskip₁⟩ := skipSpace_local hm₁
      refine ⟨m, rfl, by omega, fun fuel' hfuel' => ?_⟩
      obtain ⟨fuel', rfl⟩ := Nat.exists_eq_add_one_of_ne_zero (Nat.ne_zero_of_lt hfuel')
      rw [classBody, hskip₁]
      split
      · exact absurd hlt₁ (Nat.not_lt_zero _)
      · exact (hopen _ hm₁).elim
      · exact (hclose _ hm₁).elim
      · exact (hand _ hm₁).elim
      · exact (hminus _ hm₁).elim
      · exact (htilde _ hm₁).elim
      · rw [hrange₁, ok_bind]
        exact hread₂ fuel' (by omega)

/-- **A class in brackets is read up to where it ends.** -/
theorem bracketedClass_local {a : Pattern} (h : bracketedClass v r = .ok (a, u ++ tail)) :
    ∃ m, r = m ++ tail ∧ u.length < m.length ∧ bracketedClass v m = .ok (a, u) := by
  obtain ⟨⟨negated, opening, rest⟩, hopening, h⟩ := bind_eq_ok.1 h
  obtain ⟨⟨body, rest'⟩, hbody, h⟩ := bind_eq_ok.1 h
  obtain ⟨rfl, rfl⟩ := Prod.mk.inj (Except.ok.inj h)
  obtain ⟨m₁, rfl, hlt₁, hbody₁⟩ := classBody_local hbody
  have hne : m₁ ≠ [] := List.ne_nil_of_length_pos (Nat.zero_lt_of_lt hlt₁)
  obtain ⟨m, rfl, hle, hopening₁⟩ := classOpening_local hopening hne
  refine ⟨m, rfl, by omega, ?_⟩
  rw [bracketedClass, hopening₁, ok_bind]
  exact bind_eq_ok.2 ⟨_, hbody₁ _ (by omega), rfl⟩

end Pattern
end JsonQuery
