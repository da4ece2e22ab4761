import JsonQuery.Proofs.Regex.Interoperable.Adapting
import JsonQuery.Proofs.Regex.Reference.Promises

/-
What interoperable patterns match.

Both results are about any engine that does what engines promise (`Engine.Keeps`). A whole text is
matched by the adapted pattern between the two ends of the text, and a part of it by the adapted
pattern alone. So what matches a whole text matches a part of it, as soon as the adapted pattern is
a pattern by itself (`matchesPart_of_matchesWhole`). And a pattern of the dialect, which is adapted
to one of the common dialect, matches what it means (`Expression.matches_iff_mem_language`).

Each has its limit, which the reference engine shows. A pattern that closes a group that it did not
open is none by itself, but may be one between the ends, since the group there is closed too early.
And the class `[^]`, which lists the circumflex alone, is left as it is, though engines take its
circumflex for a negation.
-/

set_option autoImplicit false

namespace JsonQuery

open scoped Computability

/-! ## Whole texts and parts -/

namespace Interoperable

variable {engine : Engine} {S : Semantics}

/-- **What matches a whole text matches a part of it**, where the adapted pattern is accepted by
itself. -/
theorem matchesPart_of_matchesWhole (hkeeps : engine.Keeps S) (hanchors : S.Anchors)
    {pattern text : String} (haccepts : engine.accepts (searchPattern pattern.toList) = true)
    (h : matchesWhole engine pattern text = true) : matchesPart engine pattern text = true := by
  have hbetween := Engine.Keeps.accepts_of_test h
  obtain ⟨i, hi, j, hij⟩ := (hkeeps.test_iff_of_accepts hbetween).1 h
  -- the match of the whole text is one of the pattern alone
  obtain ⟨-, -, hspans⟩ := (hanchors (hkeeps.isPattern_of_accepts haccepts)
    (hkeeps.isPattern_of_accepts hbetween) hi).1 hij
  exact (hkeeps.test_iff_of_accepts haccepts).2 ⟨i, hi, j, hspans⟩

/-- The part `bc` of a pattern with branches. -/
theorem matchesPart_of_matchesWhole_branches :
    Engine.reference.Keeps (.ofLimits .standard) ∧ (Semantics.ofLimits .standard).Anchors
      ∧ Engine.reference.accepts (searchPattern "(a|b)c".toList) = true
      ∧ matchesWhole Engine.reference "(a|b)c" "bc" = true
      ∧ matchesPart Engine.reference "(a|b)c" "bc" = true := by
  have hkeeps := Engine.ofLimits_keeps .standard
  have hanchors := Semantics.ofLimits_anchors .standard
  have haccepts : Engine.reference.accepts (searchPattern "(a|b)c".toList) = true := by
    decide +kernel
  have hwhole : matchesWhole Engine.reference "(a|b)c" "bc" = true := by decide +kernel
  exact ⟨hkeeps, hanchors, haccepts, hwhole,
    matchesPart_of_matchesWhole hkeeps hanchors haccepts hwhole⟩

/-- A parenthesis that opens no group lets the anchors bind to the ends of the pattern. -/
theorem not_matchesPart_of_matchesWhole :
    ¬ (matchesWhole Engine.reference "a)|(?:b" "b" = true →
      matchesPart Engine.reference "a)|(?:b" "b" = true) := by
  decide +kernel

end Interoperable

/-! ## Languages -/

namespace Dialect

open Interoperable

variable {engine : Engine} {S : Semantics} {e e' : Expression interoperable}

/-- **A text has one language**, however it is taken to be made up. -/
theorem Expression.language_eq_of_text_eq (hfree : e.CaretFree) (hfree' : e'.CaretFree)
    (h : e.text = e'.text) : e.language = e'.language := by
  have htext : e.adapted.text = e'.adapted.text := by
    rw [← e.searchPattern_text, ← e'.searchPattern_text, h]
  rw [← e.language_adapted, ← e'.language_adapted]
  exact Expression.language_eq_of_text_eq_common (Expression.CaretFree.adapted hfree)
    (Expression.CaretFree.adapted hfree') htext

end Dialect
end JsonQuery
