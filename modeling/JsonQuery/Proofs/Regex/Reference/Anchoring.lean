import JsonQuery.Proofs.Regex.Reference.Locality.Pattern
import JsonQuery.Proofs.Regex.Reference.Spans
import JsonQuery.Regex.Interoperable
import JsonQuery.Regex.Reference.Compile

/-
Patterns between anchors.

To match a whole text, a pattern is put into a group between the two ends of the text. What that
reads as depends on where the group ends. A pattern leaves unread what it has not looked at, so the
text up to the end of the group reads as a pattern by itself. When the pattern closes no group that
it did not open, that text is the pattern (`ofText_betweenEnds`). Otherwise the group ends inside of
the pattern and the anchors bind to its ends instead of to the whole.
-/

set_option autoImplicit false

namespace JsonQuery
namespace Pattern

open Interoperable (betweenEnds)

/-- What stands behind a pattern that is to match a whole text. -/
def closing : List Char := [')', '\\', 'z']

/-- A pattern between anchors. -/
def anchored (body : Pattern) : Pattern :=
  .concat [.atom (.assertion .textStart), .group [] body, .atom (.assertion .textEnd)]

/-! ## Reading -/

/-- The start of an anchored pattern is read up to the inside of its group. -/
theorem readItems_anchor (fuel : Nat) (cs : List Char) :
    readItems (fuel + 3) ⟨false, []⟩ [] (['\\', 'A', '(', '?', ':'] ++ cs) = (do
      let (body, inner, rest) ← readBranches (fuel + 1) ⟨false, []⟩ [] cs
      match rest with
      | ')' :: rest =>
        readItems (fuel + 1) ⟨false, inner.names⟩
          [.group [] body, .atom (.assertion .textStart)] rest
      | _ => throw .unclosedGroup) :=
  rfl

/-- A group that ends with the closing parenthesis is followed by the end of the text. -/
theorem readItems_closing (fuel : Nat) (names : List (List Char)) (items : List Pattern) :
    readItems (fuel + 2) ⟨false, names⟩ items ['\\', 'z'] =
      .ok (.ofItems (.atom (.assertion .textEnd) :: items).reverse, ⟨false, names⟩, []) :=
  rfl

/-- **Where the group ends**: behind the whole pattern, or at a parenthesis inside of
it, which is then one that opens no group. -/
theorem readBranches_closing {fuel : Nat} {state state' : ReaderState} {cs rest : List Char}
    {body : Pattern}
    (h : readBranches fuel state [] (cs ++ closing) = .ok (body, state', ')' :: rest)) :
    ∃ u, ')' :: rest = u ++ closing ∧
      readBranches (2 * cs.length + 2) state [] cs = .ok (body, state', u) := by
  obtain ⟨m, hm, -, hread⟩ := readBranches_local (u := []) h
  obtain ⟨behind, rfl, hbehind⟩ | ⟨u, rfl, hu⟩ := List.append_eq_append_iff.1 hm
  · -- the closing parenthesis stands nowhere else in the end of the text
    obtain rfl : behind = [] := by
      obtain - | ⟨c, behind⟩ := behind
      · rfl
      · have hmem : ')' ∈ ['\\', 'z'] := by
          rw [(List.cons_eq_cons.1 hbehind).2]
          exact List.mem_append_right _ (List.mem_cons_self ..)
        exact absurd hmem (by decide)
    rw [List.append_nil] at hread
    exact ⟨[], hbehind.symm, hread _ (Nat.lt_succ_self _)⟩
  · rw [hu] at h
    obtain ⟨n, hn, -, hread⟩ := readBranches_local h
    obtain rfl := List.append_cancel_right hn
    exact ⟨u, hu, hread _ (Nat.lt_succ_self _)⟩

/-- **A pattern between the two ends of a text reads as the pattern between two anchors.** The
pattern has to be one by itself: the text up to a parenthesis that opens no group is not, and would
end the group too early. -/
theorem ofText_betweenEnds {p : List Char} {body q : Pattern} (hbody : ofText p = .ok body)
    (h : ofText (betweenEnds p) = .ok q) : q = anchored body := by
  have hfuel : 2 * (betweenEnds p).length + 2 = (2 * p.length + 14) + 4 := by
    simp only [betweenEnds, List.length_append, List.length_cons, List.length_nil]
    omega
  have htext : betweenEnds p = ['\\', 'A', '(', '?', ':'] ++ (p ++ closing) :=
    List.append_assoc ..
  obtain ⟨⟨q', state, left⟩, hread, h⟩ := bind_eq_ok.1 h
  rw [hfuel, htext, readBranches, readItems_anchor] at hread
  obtain ⟨⟨items, state₁, rest₁⟩, hitems, hread⟩ := bind_eq_ok.1 hread
  obtain ⟨⟨inside, inner, rest₂⟩, hinside, hitems⟩ := bind_eq_ok.1 hitems
  simp only at hitems
  split at hitems
  · next rest₂ =>
    obtain ⟨u, hu, hpattern⟩ := readBranches_closing hinside
    -- the pattern by itself is read to its end, so nothing of it is left behind the group
    rw [ofText, hpattern, ok_bind] at hbody
    obtain rfl : u = [] := by
      cases u with
      | nil => rfl
      | cons c u => cases hbody
    cases hbody
    obtain rfl : rest₂ = ['\\', 'z'] := (List.cons_eq_cons.1 hu).2
    rw [readItems_closing] at hitems
    cases hitems
    cases hread
    cases h
    rfl
  · cases hitems

/-! ## Compiling -/

/-- **What a pattern between two anchors compiles to.** -/
theorem regex_anchored (fs : Flags) (body : Pattern) :
    (anchored body).regex fs = (do
      let (r, _) ← body.regex fs
      return (r.betweenEnds, fs)) := by
  have hchange : fs.change [] = fs := rfl
  simp only [anchored, Pattern.regex, Pattern.regexSeq, Atom.regex, ok_bind, pure_bind, bind_assoc,
    hchange]
  rfl

end Pattern
end JsonQuery
