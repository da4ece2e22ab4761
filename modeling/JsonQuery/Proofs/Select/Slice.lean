import JsonQuery.Select.Slice
import Mathlib.Algebra.Order.Ring.Int
import Mathlib.Data.List.Range

/-
Where the walk of a slice goes.

The bounds of a slice and the turns of its walk are 64-bit arithmetic, and here they are
compared with the same rules over all integers: `Slice.first` and `Slice.limit` say where a
slice starts and what it stops before, and `Terms` lists the numbers from the one to the
other. No sum of an array's length and a bound leaves 64 bits. A turn of the walk may
saturate, but only beyond the bound, where the walk is over in either arithmetic
(`Walk.positions_spec`). So a slice picks no element twice, and only elements that the array
has.
-/

set_option autoImplicit false

namespace JsonQuery

theorem minValue_toInt : Int64.minValue.toInt = -0x8000000000000000 := by decide

theorem maxValue_toInt : Int64.maxValue.toInt = 0x7fffffffffffffff := by decide

/-! ## Progressions -/

/-- Whether a number lies before a bound, in the direction of a step. -/
def Before (step bound x : Int) : Prop := (0 < step ∧ x < bound) ∨ (step < 0 ∧ bound < x)

/-- **The numbers `first`, `first + step`, `first + 2 * step` and so on**, as long as they lie
before a bound. -/
def Terms (first step bound : Int) (ps : List Nat) : Prop :=
  ∃ count : Nat, (ps.map fun p : Nat => (p : Int))
      = ((List.range count).map fun i : Nat => first + (i : Int) * step)
    ∧ ∀ i : Nat, i < count ↔ Before step bound (first + i * step)

section Progressions

variable {first step bound : Int} {ps : List Nat}

/-- What does not lie before the bound does not come back. -/
theorem Before.of_add {i : Nat} (h : Before step bound (first + i * step)) :
    Before step bound first := by
  rcases h with ⟨hstep, h⟩ | ⟨hstep, h⟩
  · have hmoved : 0 ≤ (i : Int) * step := Int.mul_nonneg (by omega) (by omega)
    exact .inl ⟨hstep, by omega⟩
  · have hmoved : 0 ≤ (i : Int) * -step := Int.mul_nonneg (by omega) (by omega)
    rw [Int.mul_neg] at hmoved
    exact .inr ⟨hstep, by omega⟩

/-- There is no term where the first number is not before the bound. -/
theorem terms_nil (h : ¬ Before step bound first) : Terms first step bound [] := by
  refine ⟨0, rfl, fun i => ?_⟩
  have hnot : ¬ Before step bound (first + i * step) := fun hi => h hi.of_add
  simp [hnot]

/-- No terms come from a start beyond the bound. -/
theorem Terms.eq_nil (hps : Terms first step bound ps) (h : ¬ Before step bound first) :
    ps = [] := by
  obtain ⟨count, heq, hcount⟩ := hps
  have hzero : count = 0 := by
    by_contra hne
    have hfirst := (hcount 0).mp (Nat.pos_of_ne_zero hne)
    rw [Int.natCast_zero, Int.zero_mul, Int.add_zero] at hfirst
    exact h hfirst
  rw [hzero, List.range_zero, List.map_nil] at heq
  exact List.map_eq_nil_iff.mp heq

/-- **The first number comes before the terms from the second one on.** -/
theorem Terms.cons {p : Nat} (hp : (p : Int) = first) (h : Before step bound first)
    (hps : Terms (first + step) step bound ps) : Terms first step bound (p :: ps) := by
  obtain ⟨count, heq, hcount⟩ := hps
  have hshift (i : Nat) : first + ((i + 1 : Nat) : Int) * step = first + step + i * step := by
    rw [Int.natCast_add, Int.add_mul]
    omega
  refine ⟨count + 1, ?_, fun i => ?_⟩
  · rw [List.map_cons, heq, hp, List.range_succ_eq_map, List.map_cons, List.map_map]
    congr 1
    · simp
    · exact List.map_congr_left fun i _ => (hshift i).symm
  · cases i with
    | zero => simpa using h
    | succ i => rw [hshift, ← hcount, Nat.succ_lt_succ_iff]

/-- A term is a number of the progression that lies before the bound. -/
theorem Terms.mem (hps : Terms first step bound ps) {p : Nat} (hp : p ∈ ps) :
    ∃ i : Nat, (p : Int) = first + i * step ∧ Before step bound p := by
  obtain ⟨count, heq, hcount⟩ := hps
  have hmem : (p : Int) ∈ (List.range count).map fun i : Nat => first + i * step := by
    rw [← heq]
    exact List.mem_map_of_mem hp
  obtain ⟨i, hi, heq⟩ := List.mem_map.mp hmem
  exact ⟨i, heq.symm, heq ▸ (hcount i).mp (List.mem_range.mp hi)⟩

/-- **Terms climb by a positive step.** -/
theorem Terms.climb (hps : Terms first step bound ps) (hstep : 0 < step) :
    ps.Pairwise (· < ·) := by
  obtain ⟨count, heq, -⟩ := hps
  have hpairs : ((List.range count).map fun i : Nat => first + i * step).Pairwise (· < ·) := by
    refine List.pairwise_map.mpr (List.pairwise_lt_range.imp fun {i j} hij => ?_)
    have hmoved : (i : Int) * step < j * step :=
      Int.mul_lt_mul_of_pos_right (by omega) hstep
    omega
  rw [← heq, List.pairwise_map] at hpairs
  exact hpairs.imp fun h => Int.ofNat_lt.mp h

/-- **Terms fall by a negative step.** -/
theorem Terms.fall (hps : Terms first step bound ps) (hstep : step < 0) :
    ps.Pairwise (· > ·) := by
  obtain ⟨count, heq, -⟩ := hps
  have hpairs : ((List.range count).map fun i : Nat => first + i * step).Pairwise (· > ·) := by
    refine List.pairwise_map.mpr (List.pairwise_lt_range.imp fun {i j} hij => ?_)
    have hmoved : (j : Int) * step < i * step :=
      Int.mul_lt_mul_of_neg_right (by omega) hstep
    omega
  rw [← heq, List.pairwise_map] at hpairs
  exact hpairs.imp fun h => Int.ofNat_lt.mp h

/-- Terms are distinct, whatever the step. -/
theorem Terms.nodup (hps : Terms first step bound ps) : ps.Nodup := by
  by_cases hstep : 0 < step
  · exact (hps.climb hstep).imp Nat.ne_of_lt
  · by_cases hneg : step < 0
    · exact (hps.fall hneg).imp Nat.ne_of_gt
    · -- nothing lies before a bound without a direction
      have hnil := hps.eq_nil fun h => h.elim (fun h => hstep h.1) fun h => hneg h.1
      rw [hnil]
      exact .nil

end Progressions

/-! ## Walks -/

namespace Walk

/-- **Whether a walk passes some positions and is over then.** -/
inductive Yields : Walk → List Nat → Prop
  | done {w : Walk} (h : w.next? = none) : Yields w []
  | next {w u : Walk} {p : Nat} {ps : List Nat} (h : w.next? = some (p, u))
      (rest : Yields u ps) : Yields w (p :: ps)

/-- A walk passes the same positions every time. -/
theorem Yields.unique {w : Walk} {ps qs : List Nat} (hps : w.Yields ps) (hqs : w.Yields qs) :
    ps = qs := by
  induction hps generalizing qs with
  | done h =>
    cases hqs with
    | done => rfl
    | next hnext => rw [h] at hnext; cases hnext
  | next h _ ih =>
    cases hqs with
    | done hover => rw [h] at hover; cases hover
    | next hnext rest =>
      rw [h] at hnext
      cases hnext
      rw [ih rest]

/-- A walk goes on while its position comes before the bound. -/
theorem inRange_iff (w : Walk) :
    w.inRange = true ↔ Before w.step.toInt w.bound.toInt w.current.toInt := by
  simp only [inRange, Before, Int64.lt_iff_toInt_lt, Bool.or_eq_true, Bool.and_eq_true,
    decide_eq_true_eq, Int64.toInt_zero]

/-- Whether a walk climbs from a place in the array, or falls to a place no further than
one before it, and has less than some number of places to go. -/
def Within (fuel : Nat) (w : Walk) : Prop :=
  (0 < w.step.toInt → 0 ≤ w.current.toInt ∧ w.bound.toInt - w.current.toInt ≤ fuel)
    ∧ (w.step.toInt < 0 → -1 ≤ w.bound.toInt ∧ w.current.toInt - w.bound.toInt ≤ fuel)

variable {w : Walk} {fuel : Nat}

/-- A walk that has not reached its bound stands in the array. -/
theorem Within.current_nonneg (h : w.Within fuel)
    (hrange : Before w.step.toInt w.bound.toInt w.current.toInt) : 0 ≤ w.current.toInt := by
  rcases hrange with ⟨hstep, -⟩ | ⟨hstep, hlt⟩
  · exact (h.1 hstep).1
  · have := (h.2 hstep).1
    omega

/-- **A walk goes on exactly before its bound.** -/
theorem next?_of_within (h : w.Within fuel) :
    (¬ Before w.step.toInt w.bound.toInt w.current.toInt ∧ w.next? = none)
      ∨ (Before w.step.toInt w.bound.toInt w.current.toInt
        ∧ w.next? = some (w.current.toInt.toNat,
          { w with current := saturatingAdd w.current w.step })) := by
  by_cases hrange : Before w.step.toInt w.bound.toInt w.current.toInt
  · have hcurrent : 0 ≤ w.current := by
      rw [Int64.le_iff_toInt_le, Int64.toInt_zero]
      exact h.current_nonneg hrange
    exact .inr ⟨hrange, if_pos ⟨w.inRange_iff.mpr hrange, hcurrent⟩⟩
  · exact .inl ⟨hrange, if_neg fun hnext => hrange (w.inRange_iff.mp hnext.1)⟩

/-- A turn leaves less to go. A place before the bound is no extreme of 64 bits, so it is
left whatever saturates. -/
theorem Within.step (h : w.Within (fuel + 1))
    (hrange : Before w.step.toInt w.bound.toInt w.current.toInt) :
    Within fuel { w with current := saturatingAdd w.current w.step } := by
  have hcurrent := w.current.toInt_lt
  have hnonneg := h.current_nonneg hrange
  constructor
  · intro hstep
    have hgo := (h.1 hstep).2
    have hbound := w.bound.toInt_lt
    dsimp only at hstep ⊢
    rw [toInt_saturatingAdd, minValue_toInt, maxValue_toInt]
    rcases hrange with ⟨-, hlt⟩ | ⟨hneg, -⟩ <;> omega
  · intro hstep
    have hgo := h.2 hstep
    dsimp only at hstep ⊢
    rw [toInt_saturatingAdd, minValue_toInt, maxValue_toInt]
    rcases hrange with ⟨hpos, -⟩ | ⟨-, hlt⟩ <;> omega

/-- **Saturation changes nothing**: from a place in the array only a climbing walk saturates,
and then both its sum and the exact one lie beyond the bound. -/
theorem terms_saturatingAdd {ps : List Nat} (hnonneg : 0 ≤ w.current.toInt)
    (h : Terms (saturatingAdd w.current w.step).toInt w.step.toInt w.bound.toInt ps) :
    Terms (w.current.toInt + w.step.toInt) w.step.toInt w.bound.toInt ps := by
  have hsum := toInt_saturatingAdd w.current w.step
  rw [minValue_toInt, maxValue_toInt] at hsum
  have hcurrent := w.current.toInt_lt
  have hlow := w.step.le_toInt
  have hhigh := w.bound.toInt_lt
  by_cases hexact : (saturatingAdd w.current w.step).toInt = w.current.toInt + w.step.toInt
  · rwa [hexact] at h
  · have hpast : ¬ Before w.step.toInt w.bound.toInt (saturatingAdd w.current w.step).toInt := by
      unfold Before
      omega
    have hpastExact : ¬ Before w.step.toInt w.bound.toInt (w.current.toInt + w.step.toInt) := by
      unfold Before
      omega
    rw [h.eq_nil hpast]
    exact terms_nil hpastExact

/-- **A walk passes the terms of its progression and is then over**, as those of all
integers. -/
theorem positions_spec (h : w.Within fuel) :
    w.Yields (positions fuel w)
      ∧ Terms w.current.toInt w.step.toInt w.bound.toInt (positions fuel w) := by
  induction fuel generalizing w with
  | zero =>
    have hover : ¬ Before w.step.toInt w.bound.toInt w.current.toInt := by
      rintro (⟨hstep, hlt⟩ | ⟨hstep, hlt⟩)
      · have := (h.1 hstep).2
        omega
      · have := (h.2 hstep).2
        omega
    rcases next?_of_within h with ⟨-, hnext⟩ | ⟨hrange, -⟩
    · exact ⟨.done hnext, terms_nil hover⟩
    · exact absurd hrange hover
  | succ fuel ih =>
    rw [positions]
    rcases next?_of_within h with ⟨hover, hnext⟩ | ⟨hrange, hnext⟩
    · rw [hnext]
      exact ⟨.done hnext, terms_nil hover⟩
    · rw [hnext]
      dsimp only
      obtain ⟨hyields, hterms⟩ := ih (h.step hrange)
      have hnonneg := h.current_nonneg hrange
      have hexact := terms_saturatingAdd hnonneg hterms
      exact ⟨.next hnext hyields, hexact.cons (Int.toNat_of_nonneg hnonneg) hrange⟩

end Walk

/-! ## Bounds -/

namespace Slice

/-- The step of a slice, one unless it is given. -/
def distance (s : Slice) : Int := (s.step.map Int64.toInt).getD 1

/-- Where a bound lies, a negative one counted from the end. -/
def place (length bound : Int) : Int := if 0 ≤ bound then bound else length + bound

/-- **Where a slice starts**: at the front of the array, or going backwards at its last
element, unless a start is given. -/
def first (s : Slice) (length : Int) : Int :=
  if 0 < s.distance then
    (s.start.map fun b => max 0 (min (place length b.toInt) length)).getD 0
  else
    (s.start.map fun b => max (-1) (min (place length b.toInt) (length - 1))).getD (length - 1)

/-- **What a slice stops before**: the end of the array, or going backwards the place in
front of it, unless a bound is given. -/
def limit (s : Slice) (length : Int) : Int :=
  if 0 < s.distance then
    (s.stop.map fun b => max 0 (min (place length b.toInt) length)).getD length
  else
    (s.stop.map fun b => max (-1) (min (place length b.toInt) (length - 1))).getD (-1)

end Slice

/-- Clamping is what it is for integers. -/
theorem toInt_clampBetween {low high x : Int64} (h : low.toInt ≤ high.toInt) :
    (clampBetween low high x).toInt = max low.toInt (min x.toInt high.toInt) := by
  unfold clampBetween
  simp only [Int64.lt_iff_toInt_lt]
  split
  · omega
  · split <;> omega

section Bounds

variable {n : Int64}

/-- The last position of an array does not overflow. -/
theorem toInt_sub_one (hn : 0 ≤ n.toInt) : (n - 1).toInt = n.toInt - 1 := by
  have hlt := n.toInt_lt
  rw [Int64.toInt_sub, Int64.toInt_one]
  exact Int.bmod_eq_of_le (by omega) (by omega)

/-- **A bound is counted from the end without overflow.** -/
theorem Slice.toInt_fromFront (hn : 0 ≤ n.toInt) (b : Int64) :
    (fromFront n b).toInt = place n.toInt b.toInt := by
  have hlt := n.toInt_lt
  have hle := b.le_toInt
  unfold fromFront place
  simp only [Int64.le_iff_toInt_le, Int64.toInt_zero]
  split
  · rfl
  · rw [Int64.toInt_add]
    exact Int.bmod_eq_of_le (by omega) (by omega)

/-- A bound of a slice ends up where it does over all integers. -/
theorem Slice.toInt_bound {low high : Int64} (hn : 0 ≤ n.toInt) (h : low.toInt ≤ high.toInt)
    (o : Option Int64) (fallback : Int64) :
    ((o.map fun b => clampBetween low high (fromFront n b)).getD fallback).toInt
      = (o.map fun b => max low.toInt (min (place n.toInt b.toInt) high.toInt)).getD
        fallback.toInt := by
  cases o with
  | none => rfl
  | some b =>
    rw [Option.map_some, Option.map_some, Option.getD_some, Option.getD_some,
      toInt_clampBetween h, toInt_fromFront hn]

theorem Slice.step_walk (s : Slice) (n : Int64) : (s.walk n).step.toInt = s.distance := by
  have hstep : (s.walk n).step = s.step.getD 1 := by
    rw [walk]
    dsimp only
    split
    · rfl
    · split <;> rfl
  rw [hstep, distance]
  cases s.step <;> rfl

/-- **The walk of a slice stands and ends where the slice does**, unless it does not move. -/
theorem Slice.walk_eq (s : Slice) (hn : 0 ≤ n.toInt) (hmoves : s.distance ≠ 0) :
    (s.walk n).current.toInt = s.first n.toInt ∧ (s.walk n).bound.toInt = s.limit n.toInt := by
  have hdistance : (s.step.getD 1).toInt = s.distance := by
    rw [distance]
    cases s.step <;> rfl
  have hminus : (-1 : Int64).toInt = -1 := by decide
  have hne : s.step.getD 1 ≠ 0 := by
    intro hzero
    rw [hzero] at hdistance
    exact hmoves hdistance.symm
  have hforward : 0 < s.step.getD 1 ↔ 0 < s.distance := by
    rw [Int64.lt_iff_toInt_lt, hdistance, Int64.toInt_zero]
  rw [walk]
  dsimp only
  rw [if_neg hne, first, limit]
  by_cases hstep : 0 < s.distance
  · rw [if_pos (hforward.mpr hstep), if_pos hstep, if_pos hstep]
    have hrange : (0 : Int64).toInt ≤ n.toInt := hn
    exact ⟨toInt_bound hn hrange s.start 0, toInt_bound hn hrange s.stop n⟩
  · rw [if_neg (mt hforward.mp hstep), if_neg hstep, if_neg hstep]
    have hrange : (-1 : Int64).toInt ≤ (n - 1).toInt := by
      rw [hminus, toInt_sub_one hn]
      omega
    have hcurrent := toInt_bound hn hrange s.start (n - 1)
    have hbound := toInt_bound hn hrange s.stop (-1)
    rw [hminus, toInt_sub_one hn] at hcurrent hbound
    exact ⟨hcurrent, hbound⟩

/-- Where a slice starts and stops in an array, by its direction. -/
theorem Slice.first_limit_range (s : Slice) {length : Int} (h : 0 ≤ length) :
    (0 < s.distance → 0 ≤ s.first length ∧ s.limit length ≤ length)
      ∧ (s.distance < 0 → s.first length < length ∧ -1 ≤ s.limit length) := by
  unfold first limit
  constructor
  · intro hstep
    rw [if_pos hstep, if_pos hstep]
    constructor
    · cases s.start with
      | none => exact Int.le_refl 0
      | some b => exact Int.le_max_left ..
    · cases s.stop with
      | none => exact Int.le_refl length
      | some b => simp only [Option.map_some, Option.getD_some]; omega
  · intro hstep
    rw [if_neg (by omega), if_neg (by omega)]
    constructor
    · cases s.start with
      | none => simp only [Option.map_none, Option.getD_none]; omega
      | some b => simp only [Option.map_some, Option.getD_some]; omega
    · cases s.stop with
      | none => exact Int.le_refl (-1)
      | some b => exact Int.le_max_left ..

/-! ## Positions -/

/-- **The walk of a slice passes the terms between where the slice starts and what it stops
before**, and is over then, if it may take a turn for every element. -/
theorem Slice.walk_positions (s : Slice) (hn : 0 ≤ n.toInt) {fuel : Nat} (hfuel : n.toInt ≤ fuel) :
    (s.walk n).Yields ((s.walk n).positions fuel)
      ∧ Terms (s.first n.toInt) s.distance (s.limit n.toInt) ((s.walk n).positions fuel) := by
  have hstep := s.step_walk n
  by_cases hmoves : s.distance = 0
  · have hwithin : (s.walk n).Within fuel := by
      rw [Walk.Within, hstep, hmoves]
      exact ⟨fun h => absurd h (Int.lt_irrefl 0), fun h => absurd h (Int.lt_irrefl 0)⟩
    obtain ⟨hyields, hterms⟩ := Walk.positions_spec hwithin
    -- nothing lies before a bound without a direction, wherever the slice starts
    have hnot (bound x : Int) : ¬ Before 0 bound x := by
      unfold Before
      omega
    rw [hstep, hmoves] at hterms
    refine ⟨hyields, ?_⟩
    rw [hterms.eq_nil (hnot _ _), hmoves]
    exact terms_nil (hnot _ _)
  · obtain ⟨hcurrent, hbound⟩ := s.walk_eq hn hmoves
    obtain ⟨hclimbs, hfalls⟩ := s.first_limit_range hn
    have hwithin : (s.walk n).Within fuel := by
      rw [Walk.Within, hstep, hcurrent, hbound]
      constructor
      · intro h
        have := hclimbs h
        omega
      · intro h
        have := hfalls h
        omega
    have hspec := Walk.positions_spec hwithin
    rwa [hstep, hcurrent, hbound] at hspec

/-- Terms between the ends of a slice are positions in the array. -/
theorem Slice.lt_of_terms (s : Slice) {length : Int} (h : 0 ≤ length) {ps : List Nat}
    (hps : Terms (s.first length) s.distance (s.limit length) ps) :
    ∀ p ∈ ps, (p : Int) < length := by
  intro p hp
  obtain ⟨hclimbs, hfalls⟩ := s.first_limit_range h
  obtain ⟨i, heq, hbefore⟩ := hps.mem hp
  rcases hbefore with ⟨hstep, hlt⟩ | ⟨hstep, hlt⟩
  · have := hclimbs hstep
    omega
  · have hmoved : 0 ≤ (i : Int) * -s.distance := Int.mul_nonneg (by omega) (by omega)
    rw [Int.mul_neg] at hmoved
    have := hfalls hstep
    omega

end Bounds

/-- **A slice picks distinct positions of the array.** -/
theorem Slice.positions_spec (s : Slice) (length : Nat) :
    (s.positions length).Nodup ∧ ∀ p ∈ s.positions length, p < length := by
  rw [positions]
  generalize hn : (if (length : Int) ≤ Int64.maxValue.toInt then Int64.ofNat length
    else Int64.maxValue) = n
  -- an array longer than the greatest integer is walked as if it ended there
  have hlength : 0 ≤ n.toInt ∧ n.toInt ≤ length := by
    rw [← hn, maxValue_toInt]
    split
    · rw [Int64.toInt_ofNat_of_lt (by omega)]
      omega
    · rw [maxValue_toInt]
      omega
  have hterms := (s.walk_positions hlength.1 hlength.2).2
  refine ⟨hterms.nodup, fun p hp => ?_⟩
  have := s.lt_of_terms hlength.1 hterms p hp
  omega

/-- **A slice picks what its bounds and step say over all integers.** Its walk is over after
a turn for each position that it picks. These are the terms from where the slice starts to
what it stops before, which are positions of the array and climb or fall with the step; and
neither counting a bound from the end nor taking the last position overflows. -/
theorem Slice.positions_exact (s : Slice) {length : Nat}
    (h : (length : Int) ≤ Int64.maxValue.toInt) :
    (∀ ps, (s.walk (.ofNat length)).Yields ps ↔ ps = s.positions length)
      ∧ Terms (s.first length) s.distance (s.limit length) (s.positions length)
      ∧ (∀ p ∈ s.positions length, p < length)
      ∧ (0 < s.distance → (s.positions length).Pairwise (· < ·))
      ∧ (s.distance < 0 → (s.positions length).Pairwise (· > ·))
      ∧ (∀ b, (fromFront (.ofNat length) b).toInt = place length b.toInt)
      ∧ (Int64.ofNat length - 1).toInt = length - 1 := by
  have hn : (Int64.ofNat length).toInt = length := by
    rw [maxValue_toInt] at h
    exact Int64.toInt_ofNat_of_lt (by omega)
  have hnonneg : 0 ≤ (Int64.ofNat length).toInt := by omega
  have hpositions : s.positions length = (s.walk (.ofNat length)).positions length := by
    rw [positions, if_pos h]
  obtain ⟨hyields, hterms⟩ := s.walk_positions hnonneg (Int.le_of_eq hn)
  rw [← hpositions] at hyields hterms
  rw [hn] at hterms
  refine ⟨fun ps => ⟨fun hps => hps.unique hyields, fun hps => hps ▸ hyields⟩, hterms,
    (s.positions_spec length).2, hterms.climb, hterms.fall, fun b => ?_, ?_⟩
  · rw [toInt_fromFront hnonneg, hn]
  · rw [toInt_sub_one hnonneg, hn]

/-- The extremes of 64 bits as bounds and step: one element, and then the walk saturates. -/
theorem positions_exact_extreme :
    ((3 : Nat) : Int) ≤ Int64.maxValue.toInt
      ∧ Slice.positions ⟨some Int64.maxValue, some Int64.minValue, some Int64.minValue⟩ 3
          = [2] := by
  have h : ((3 : Nat) : Int) ≤ Int64.maxValue.toInt := by decide
  have hyields : (Slice.walk ⟨some Int64.maxValue, some Int64.minValue, some Int64.minValue⟩
      (.ofNat 3)).Yields [2] := .next rfl (.done rfl)
  exact ⟨h, (((Slice.positions_exact _ h).1 [2]).mp hyields).symm⟩

end JsonQuery
