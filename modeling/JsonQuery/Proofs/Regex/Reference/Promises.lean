import JsonQuery.Proofs.Regex.Engine
import JsonQuery.Proofs.Regex.Reference.Meaning

/-
The reference engine does what engines promise.

Its manual is read off the reader and the compiler (`Semantics.ofLimits`): a text is a pattern when
it is read and compiles, and it matches where the expression that it compiles to spans something. So
the engine keeps to it by the correctness of the matcher (`Engine.ofLimits_keeps`). That the manual
says the right thing is what the modules on reading and compiling are about: the ends of a text
(`Semantics.ofLimits_anchors`) and the common dialect (`Semantics.ofLimits_common`). None of this
depends on the limits.
-/

set_option autoImplicit false

namespace JsonQuery

open Interoperable (betweenEnds)

/-! ## The manual -/

/-- **A text that is read as a pattern and compiles to an expression.** -/
def Regex.Written (text : List Char) (q : Pattern) (r : Regex) : Prop :=
  Pattern.ofText text = .ok q ∧ ∃ fs, q.regex .initial = .ok (r, fs)

/-- **The manual of the reference engine**, for some limits. -/
def Semantics.ofLimits (limits : PatternLimits) : Semantics where
  IsPattern pattern := ∃ q r, Regex.Written pattern q r
  Spans pattern text i j := ∃ q r, Regex.Written pattern q r ∧ Regex.Spans text r i j
  OverLimits pattern :=
    ∃ q r, Regex.Written pattern q r ∧ (limits.depth < q.depth ∨ limits.size < r.size)

variable {limits : PatternLimits} {pattern : List Char} {q q' : Pattern} {r r' : Regex}

/-- A text is written in one way. -/
theorem Regex.Written.unique (h : Regex.Written pattern q r) (h' : Regex.Written pattern q' r') :
    q = q' ∧ r = r' := by
  obtain ⟨hread, fs, hregex⟩ := h
  obtain ⟨hread', fs', hregex'⟩ := h'
  obtain rfl : q = q' := Except.ok.inj (hread.symm.trans hread')
  exact ⟨rfl, (Prod.mk.inj (Except.ok.inj (hregex.symm.trans hregex'))).1⟩

/-- **A text compiles** when it is written within the limits. -/
theorem Regex.compile_ok_iff_written : Regex.compile limits pattern = .ok r ↔
    ∃ q, Regex.Written pattern q r ∧ ¬ (limits.depth < q.depth ∨ limits.size < r.size) := by
  constructor
  · intro h
    obtain ⟨q, hread, h⟩ := bind_eq_ok.1 h
    split at h
    · cases h
    · next hdepth =>
      obtain ⟨⟨r, fs⟩, hregex, h⟩ := bind_eq_ok.1 h
      simp only at h
      split at h
      · cases h
      · next hsize =>
        cases h
        exact ⟨q, ⟨hread, fs, hregex⟩, not_or.2 ⟨hdepth, hsize⟩⟩
  · rintro ⟨q, ⟨hread, fs, hregex⟩, hlimits⟩
    obtain ⟨hdepth, hsize⟩ := not_or.1 hlimits
    simp only [Regex.compile, hread, ok_bind, if_neg hdepth, hregex, if_neg hsize]
    rfl

/-! ## What it promises -/

/-- **The reference engine keeps to its manual.** -/
theorem Engine.ofLimits_keeps (limits : PatternLimits) :
    (Engine.ofLimits limits).Keeps (.ofLimits limits) where
  isPattern h := by
    obtain ⟨q, hwritten, -⟩ := Regex.compile_ok_iff_written.1 h
    exact ⟨q, _, hwritten⟩
  compiles := by
    rintro pattern ⟨q, r, hwritten⟩ hlimits
    have hsmall := fun hover => hlimits ⟨q, r, hwritten, hover⟩
    exact ⟨r, Regex.compile_ok_iff_written.2 ⟨q, hwritten, hsmall⟩⟩
  isMatch_iff {pattern r} h text := by
    obtain ⟨q, hwritten, -⟩ := Regex.compile_ok_iff_written.1 h
    -- the expression is the only one that the pattern compiles to
    have hspans (i j : Nat) : (Semantics.ofLimits limits).Spans pattern text.toList i j ↔
        Regex.Spans text.toList r i j := by
      constructor
      · rintro ⟨q', r', hwritten', hij⟩
        obtain ⟨-, rfl⟩ := hwritten'.unique hwritten
        exact hij
      · intro hij
        exact ⟨q, r, hwritten, hij⟩
    simp only [hspans]
    exact r.isMatch_iff text

/-- **Between the two ends of a text a pattern matches the whole of it.** -/
theorem Semantics.ofLimits_anchors (limits : PatternLimits) :
    (Semantics.ofLimits limits).Anchors := by
  rintro pattern ⟨q, r, hwritten⟩ ⟨q', r', hwritten'⟩ text i j -
  -- the pattern between the ends compiles to the expression between the ends
  obtain rfl := Pattern.ofText_betweenEnds hwritten.1 hwritten'.1
  have hbetween : Regex.Written (betweenEnds pattern) (Pattern.anchored q) r.betweenEnds := by
    obtain ⟨fs, hregex⟩ := hwritten.2
    refine ⟨hwritten'.1, .initial, ?_⟩
    rw [Pattern.regex_anchored, hregex]
    rfl
  obtain ⟨-, rfl⟩ := hwritten'.unique hbetween
  constructor
  · rintro ⟨p, s, hp, hij⟩
    obtain ⟨-, rfl⟩ := hp.unique hbetween
    obtain ⟨hi, hj, hij⟩ := Regex.spans_betweenEnds_iff.1 hij
    exact ⟨hi, hj, q, r, hwritten, hij⟩
  · rintro ⟨hi, hj, p, s, hp, hij⟩
    obtain ⟨-, rfl⟩ := hp.unique hwritten
    exact ⟨_, _, hbetween, Regex.spans_betweenEnds_iff.2 ⟨hi, hj, hij⟩⟩

/-! ## The common dialect -/

namespace Dialect

open Pattern

variable {e e' : Expression common}

/-- An expression is read to its end. -/
theorem Expression.ofText_text (hfree : e.CaretFree) : ofText e.text = .ok e.pattern := by
  have hread : readBranches (2 * (e.text ++ []).length + 2) ⟨false, []⟩ [] (e.text ++ []) =
      .ok (e.pattern, ⟨false, []⟩, []) :=
    e.readBranches_text hfree (by rw [List.append_nil]; omega)
      (fun c x h => absurd h.symm (List.cons_ne_nil c x)) []
  rw [List.append_nil] at hread
  rw [ofText, hread]
  rfl

/-- Between the ends of a text it is read in its group. -/
theorem Expression.ofText_betweenEnds (hfree : e.CaretFree) :
    ofText (betweenEnds e.text) = .ok (anchored e.pattern) := by
  have htext : betweenEnds e.text = ['\\', 'A', '(', '?', ':'] ++ (e.text ++ closing) :=
    List.append_assoc ..
  have hfuel : 2 * (betweenEnds e.text).length + 2 = (2 * e.text.length + 14) + 4 := by
    simp only [htext, closing, List.length_append, List.length_cons, List.length_nil]
    omega
  have hgroup : readBranches (2 * e.text.length + 15) ⟨false, []⟩ [] (e.text ++ closing) =
      .ok (e.pattern, ⟨false, []⟩, closing) :=
    e.readBranches_text hfree (by omega) (fun c x h => (List.head_eq_of_cons_eq h).symm) []
  have hitems : readItems ((2 * e.text.length + 14) + 3) ⟨false, []⟩ []
      (['\\', 'A', '(', '?', ':'] ++ (e.text ++ closing)) =
        .ok (anchored e.pattern, ⟨false, []⟩, []) := by
    rw [readItems_anchor, hgroup, ok_bind]
    exact readItems_closing _ _ _
  rw [ofText, hfuel, htext, readBranches_last hitems fun x => (List.cons_ne_nil _ x).symm]
  rfl

/-- **An expression is written for its language.** -/
theorem Expression.written (hfree : e.CaretFree) :
    ∃ r, Regex.Written e.text e.pattern r ∧ r.Denotes e.language := by
  obtain ⟨r, hr, hdenotes⟩ := e.means.means
  exact ⟨r, ⟨Expression.ofText_text hfree, .initial, hr⟩, hdenotes⟩

/-- A text of the common dialect has one language. -/
theorem Expression.language_eq_of_text_eq_common (hfree : e.CaretFree) (hfree' : e'.CaretFree)
    (h : e.text = e'.text) : e.language = e'.language := by
  obtain ⟨r, hwritten, hdenotes⟩ := Expression.written hfree
  obtain ⟨r', hwritten', hdenotes'⟩ := Expression.written hfree'
  rw [← h] at hwritten'
  obtain ⟨-, rfl⟩ := hwritten.unique hwritten'
  exact hdenotes.unique hdenotes'

end Dialect

end JsonQuery
