import JsonQuery.Proofs.Regex.Dialect
import JsonQuery.Regex.Interoperable

/-
What engines for regular expressions promise.

An engine is known by what its manual says: which texts are patterns, and where each of them
matches (`Semantics`). That an engine does what its manual says is `Engine.Keeps`; it may refuse a
pattern only for the resources that the pattern takes. Two more things are said of a manual, as
conditions of their own, so that a result names those that it needs. The two ends of a text are
written `\A` and `\z`, and a pattern in a group between them matches the whole text or nothing
(`Semantics.Anchors`). And the dialect that engines have in common has its usual meaning
(`Semantics.Common`).

Nothing else is ever asked of an engine. How it reads a pattern, how it matches, and which texts
outside of the common dialect it accepts are its own affair.
-/

set_option autoImplicit false

namespace JsonQuery

open Interoperable (betweenEnds)

/-- **What the manual of an engine says.** -/
structure Semantics where
  /-- The texts that are patterns. -/
  IsPattern : List Char → Prop
  /-- The places of a text where a match of a pattern may start and end. -/
  Spans (pattern text : List Char) : Nat → Nat → Prop
  /-- The patterns that take more resources than an engine grants. -/
  OverLimits : List Char → Prop

/-- **Whether an engine does what a manual says.** -/
structure Engine.Keeps (engine : Engine) (S : Semantics) : Prop where
  /-- What is accepted is a pattern. -/
  isPattern : ∀ {pattern : List Char} {c : engine.Compiled},
    engine.compile pattern = .ok c → S.IsPattern pattern
  /-- A pattern is accepted, unless it takes too many resources. -/
  compiles : ∀ {pattern : List Char}, S.IsPattern pattern → ¬ S.OverLimits pattern →
    ∃ c, engine.compile pattern = .ok c
  /-- A compiled pattern matches in a text when there is a match between two of its places. -/
  isMatch_iff : ∀ {pattern : List Char} {c : engine.Compiled}, engine.compile pattern = .ok c →
    ∀ text : String, engine.isMatch c text = true ↔
      ∃ i ≤ text.toList.length, ∃ j, S.Spans pattern text.toList i j

namespace Semantics

/-- **What a manual says of the ends of a text**: a pattern between them matches from one end to
the other, where it matches by itself. Not every pattern is one between the ends too, since an
engine may know comments, and a comment at the end of a pattern takes in what stands behind. -/
def Anchors (S : Semantics) : Prop :=
  ∀ ⦃pattern : List Char⦄, S.IsPattern pattern → S.IsPattern (betweenEnds pattern) →
    ∀ ⦃text : List Char⦄ ⦃i j : Nat⦄, i ≤ text.length →
      (S.Spans (betweenEnds pattern) text i j ↔
        i = 0 ∧ j = text.length ∧ S.Spans pattern text i j)

end Semantics

namespace Engine.Keeps

variable {engine : Engine} {S : Semantics} {pattern : List Char} {text : String}

/-- An engine that accepts a pattern tests for a match between two places of a text. -/
theorem test_iff_of_accepts (hkeeps : engine.Keeps S) (h : engine.accepts pattern = true) :
    engine.test pattern text = true ↔
      ∃ i ≤ text.toList.length, ∃ j, S.Spans pattern text.toList i j := by
  rw [accepts] at h
  cases hcompile : engine.compile pattern with
  | error e =>
    rw [hcompile] at h
    cases h
  | ok c =>
    rw [test, hcompile]
    exact hkeeps.isMatch_iff hcompile text

/-- A pattern that matches somewhere is accepted. -/
theorem accepts_of_test (h : engine.test pattern text = true) : engine.accepts pattern = true := by
  rw [test] at h
  rw [accepts]
  cases hcompile : engine.compile pattern with
  | error e =>
    rw [hcompile] at h
    cases h
  | ok c => rfl

/-- What an engine accepts is a pattern. -/
theorem isPattern_of_accepts (hkeeps : engine.Keeps S) (h : engine.accepts pattern = true) :
    S.IsPattern pattern := by
  rw [accepts] at h
  cases hcompile : engine.compile pattern with
  | error e =>
    rw [hcompile] at h
    cases h
  | ok c => exact hkeeps.isPattern hcompile

end Engine.Keeps

end JsonQuery
