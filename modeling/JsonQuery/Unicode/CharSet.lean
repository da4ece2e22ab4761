/-
Sets of characters.

A set is given by how it is made: ranges of code points, tables of a standard's
properties, and the operations on sets. Whether a character belongs is answered
by `CharSet.contains`, and every law of the operations is a law of Booleans.

A table lists the code points where membership changes, in increasing order. A
code point is inside when an odd number of them lie at or below it.
-/

set_option autoImplicit false

namespace JsonQuery

/-- Whether a code point lies inside a table of boundaries. -/
def insideBounds : List Nat → Nat → Bool
  | [], _ => false
  | b :: bs, n => if n < b then false else !insideBounds bs n

/-- A rule of simple case folding: of the code points from `first` to `last`,
every `stride`-th one folds to the code point `shift` further on. -/
structure CaseRule where
  first : Nat
  last : Nat
  stride : Nat
  shift : Int
deriving DecidableEq, Repr, Inhabited

namespace CaseRule

/-- Whether a rule folds a code point. -/
def covers (r : CaseRule) (n : Nat) : Bool :=
  r.first ≤ n && n ≤ r.last && (n - r.first) % r.stride == 0

/-- Where a rule takes a code point that it folds. -/
def target (r : CaseRule) (n : Nat) : Nat := (n + r.shift).toNat

/-- The code point that a rule folds to `n`, if there is one. -/
def source? (r : CaseRule) (n : Nat) : Option Nat :=
  let origin := (n - r.shift).toNat
  if r.covers origin && r.target origin == n then some origin else none

end CaseRule

/-- The folded form of a code point under case rules. -/
def foldCase (rules : List CaseRule) (n : Nat) : Nat :=
  match rules.find? (·.covers n) with
  | some r => r.target n
  | none => n

/-- **The code points that differ from `n` in case only**, itself included. -/
def caseVariants (rules : List CaseRule) (n : Nat) : List Nat :=
  let folded := foldCase rules n
  n :: folded :: rules.filterMap (·.source? folded)

/-- A set of code points. -/
inductive CharSet
  | empty
  /-- The code points from `first` through `last`. -/
  | range (first last : Nat)
  /-- The code points inside a table of boundaries. -/
  | table (bounds : List Nat)
  | union (a b : CharSet)
  | inter (a b : CharSet)
  | diff (a b : CharSet)
  | symmDiff (a b : CharSet)
  | compl (a : CharSet)
  /-- The code points that differ from a member in case only. -/
  | caseClosure (rules : List CaseRule) (a : CharSet)
deriving Repr, Inhabited

namespace CharSet

/-- **Membership.** -/
def contains : CharSet → Nat → Bool
  | empty, _ => false
  | range first last, n => first ≤ n && n ≤ last
  | table bounds, n => insideBounds bounds n
  | union a b, n => a.contains n || b.contains n
  | inter a b, n => a.contains n && b.contains n
  | diff a b, n => a.contains n && !b.contains n
  | symmDiff a b, n => a.contains n != b.contains n
  | compl a, n => !a.contains n
  | caseClosure rules a, n => (caseVariants rules n).any a.contains

/-- The set of one character. -/
def single (c : Char) : CharSet := range c.toNat c.toNat

/-- The set of the characters of a list. -/
def ofChars (cs : List Char) : CharSet := cs.foldr (fun c s => union (single c) s) empty

/-- The union of sets. -/
def unionAll (sets : List CharSet) : CharSet := sets.foldr union empty

@[simp] theorem contains_single (c : Char) (n : Nat) :
    (single c).contains n = (n == c.toNat) := by
  rw [Bool.eq_iff_iff]
  simp only [single, contains, Bool.and_eq_true, decide_eq_true_eq, beq_iff_eq]
  omega

end CharSet

end JsonQuery
