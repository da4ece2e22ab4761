import JsonQuery.Proofs.Regex.Language

/-
Patterns as trees, and what they mean.

Dialects of regular expressions have much in common: characters and escapes, classes, groups,
branches and quantifiers. They differ in the characters that they give a meaning and in whether
they have a point, and a `Dialect` says just that. A pattern of a dialect is a tree here, which
carries that it can be written: an ordinary character is one that the dialect gives no other
meaning, a range does not run backwards, a class lists something. Two things are read off a tree:
how it is written, and the language it stands for. The language is given by the tree alone, by the
operations on languages, and knows nothing of how a pattern is adapted, read or matched.
-/

set_option autoImplicit false

namespace JsonQuery

open scoped Computability

/-- **What sets a dialect apart.** -/
structure Dialect where
  /-- The characters that have a meaning outside a class. -/
  signs : List Char
  /-- The characters that have a meaning inside a class. -/
  classSigns : List Char
  /-- The characters that a backslash may stand in front of. -/
  escapeLetters : List Char
  /-- Whether a point stands for any character that breaks no line. -/
  hasPoint : Bool

namespace Dialect

/-- **The interoperable dialect.** -/
def interoperable : Dialect where
  signs := ['(', ')', '*', '+', '.', '?', '[', '\\', ']', '{', '|', '}']
  classSigns := ['-', '[', '\\', ']']
  escapeLetters :=
    ['(', ')', '*', '+', '-', '.', '?', '[', '\\', ']', '^', 'n', 'r', 't', '{', '|', '}']
  hasPoint := true

/-- **What every engine has.** A circumflex and a dollar sign mean the ends of a line there, and
in a class two ampersands or tildes an operation on classes; a backslash takes the meaning from
each. What a point stands for depends on the engine, so there is none. -/
def common : Dialect where
  signs := ['(', ')', '*', '+', '.', '?', '[', '\\', ']', '{', '|', '}', '^', '$']
  classSigns := ['-', '[', '\\', ']', '&', '~']
  escapeLetters := ['(', ')', '*', '+', '-', '.', '?', '[', '\\', ']', '^', 'n', 'r', 't', '{',
    '|', '}', '$', '&', '~']
  hasPoint := false

variable (d : Dialect)

/-! ## Characters -/

/-- A character that stands for itself outside a class. -/
def isNormal (c : Char) : Bool := !d.signs.contains c

/-- A character that stands for itself inside a class. -/
def isClassNormal (c : Char) : Bool := !d.classSigns.contains c

/-- A single-character escape. -/
structure Escape where
  letter : Char
  listed : letter ∈ d.escapeLetters

/-- A character of a class. -/
inductive ClassChar
  | normal (c : Char) (h : d.isClassNormal c = true)
  | escape (e : Escape d)

variable {d}

/-- The character that an escape stands for. -/
def Escape.char (e : Escape d) : Char :=
  match e.letter with
  | 'n' => '\n'
  | 'r' => '\r'
  | 't' => '\t'
  | c => c

/-- How an escape is written. -/
def Escape.text (e : Escape d) : List Char := ['\\', e.letter]

/-- The character that a character of a class stands for. -/
def ClassChar.char : ClassChar d → Char
  | normal c _ => c
  | escape e => e.char

/-- How a character of a class is written. -/
def ClassChar.text : ClassChar d → List Char
  | normal c _ => [c]
  | escape e => e.text

/-! ## Classes -/

/-- A character or a range of a class. -/
inductive ClassItem (d : Dialect)
  | single (c : ClassChar d)
  | range (first last : ClassChar d) (ordered : first.char ≤ last.char)

namespace ClassItem

/-- Whether an item lists a character. -/
def Lists : ClassItem d → Char → Prop
  | single x, c => c = x.char
  | range first last _, c => first.char ≤ c ∧ c ≤ last.char

/-- How an item is written. -/
def text : ClassItem d → List Char
  | single c => c.text
  | range first last _ => first.text ++ '-' :: last.text

/-- An item is written with a character at least. -/
theorem text_ne_nil (item : ClassItem d) : item.text ≠ [] := by
  cases item with
  | single x => cases x <;> simp [text, ClassChar.text, Escape.text]
  | range first last ordered => simp [text]

end ClassItem

/-- A character that may stand at some place or not. -/
def ifPresent (c : Char) (present : Bool) : List Char := if present then [c] else []

/-- **A class**: what it lists, with a hyphen at either end that stands for itself. A
circumflex right behind the opening bracket negates, unless nothing else is in the class. -/
structure Class (d : Dialect) where
  negated : Bool
  leading : Bool
  items : List (ClassItem d)
  trailing : Bool
  nonempty : leading = true ∨ items ≠ []
  unambiguous : negated = false → leading = false →
    (items.flatMap ClassItem.text).head? = some '^' →
      items.flatMap ClassItem.text = ['^'] ∧ trailing = false

namespace Class

/-- The inside of a class, up to the closing bracket. -/
def inside (k : Class d) : List Char :=
  ifPresent '-' k.leading ++ (k.items.flatMap ClassItem.text ++ ifPresent '-' k.trailing)

/-- How a class is written. -/
def text (k : Class d) : List Char :=
  '[' :: (ifPresent '^' k.negated ++ (k.inside ++ [']']))

/-- Whether a class lists a character. -/
def Lists (k : Class d) (c : Char) : Prop :=
  (c = '-' ∧ (k.leading = true ∨ k.trailing = true)) ∨ ∃ item ∈ k.items, item.Lists c

/-- **The characters of a class**: those that it lists, or all others. -/
def Contains (k : Class d) (c : Char) : Prop :=
  if k.negated then ¬ k.Lists c else k.Lists c

/-- Whether a class is not `[^]`, which lists the circumflex alone. -/
def CaretFree (k : Class d) : Prop := k.text ≠ ['[', '^', ']']

/-- A class that is not negated and starts with a circumflex is `[^]`, and no other class is. -/
theorem caretFree_iff (k : Class d) :
    k.CaretFree ↔ (k.negated = false → k.leading = false →
      (k.items.flatMap ClassItem.text).head? ≠ some '^') := by
  obtain ⟨negated, leading, items, trailing, hnonempty, hunambiguous⟩ := k
  constructor
  · -- such a class lists nothing else, so it is written this way
    rintro hfree rfl rfl hhead
    obtain ⟨htext, rfl⟩ := hunambiguous rfl rfl hhead
    exact hfree (by simp [text, inside, ifPresent, htext])
  · intro hhead htext
    cases negated with
    | true =>
      -- the circumflex negates, so there is no character left for what the class lists
      cases leading with
      | true => simp [text, inside, ifPresent] at htext
      | false =>
        obtain ⟨item, items, rfl⟩ :=
          List.exists_cons_of_ne_nil (hnonempty.resolve_left Bool.false_ne_true)
        have hlength := congrArg List.length htext
        have hpos := List.length_pos_of_ne_nil item.text_ne_nil
        simp only [text, inside, ifPresent, List.flatMap_cons, List.length_cons,
          List.length_append, List.length_nil, if_true] at hlength
        omega
    | false =>
      cases leading with
      | true => simp [text, inside, ifPresent] at htext
      | false =>
        obtain ⟨item, items, rfl⟩ :=
          List.exists_cons_of_ne_nil (hnonempty.resolve_left Bool.false_ne_true)
        refine hhead rfl rfl ?_
        obtain ⟨c, cs, hitem⟩ := List.exists_cons_of_ne_nil item.text_ne_nil
        simp only [text, inside, ifPresent, List.flatMap_cons, hitem] at htext ⊢
        simp only [Bool.false_eq_true, if_false, List.nil_append, List.cons_append,
          List.append_assoc, List.cons.injEq, true_and] at htext
        rw [htext.1]
        rfl

end Class

/-! ## Expressions -/

/-- How often something stands. -/
inductive Quantifier
  | once
  | star
  | plus
  | optional

mutual

/-- Branches with `|` between them. -/
inductive Expression (d : Dialect)
  | last (b : Branch d)
  | either (b : Branch d) (e : Expression d)

/-- Quantified particles one after the other. -/
inductive Branch (d : Dialect)
  | nil
  | piece (p : Particle d) (q : Quantifier) (b : Branch d)

/-- What a quantifier can stand behind. -/
inductive Particle (d : Dialect)
  | char (c : Char) (h : d.isNormal c = true)
  | point (h : d.hasPoint = true)
  | escape (e : Escape d)
  | bracketed (k : Class d)
  | group (e : Expression d)

end

/-! ### Writing -/

/-- How a quantifier is written. -/
def Quantifier.text : Quantifier → List Char
  | once => []
  | star => ['*']
  | plus => ['+']
  | optional => ['?']

mutual

/-- **How an expression is written.** -/
def Expression.text : Expression d → List Char
  | .last b => b.text
  | .either b e => b.text ++ '|' :: e.text

/-- How a branch is written. -/
def Branch.text : Branch d → List Char
  | .nil => []
  | .piece p q b => p.text ++ (q.text ++ b.text)

/-- How a particle is written. -/
def Particle.text : Particle d → List Char
  | .char c _ => [c]
  | .point _ => ['.']
  | .escape e => e.text
  | .bracketed k => k.text
  | .group e => '(' :: (e.text ++ [')'])

end

/-! ### Meaning -/

/-- The language of something that stands as often as a quantifier says. -/
def Quantifier.language (L : Language Char) : Quantifier → Language Char
  | once => L
  | star => L∗
  | plus => L * L∗
  | optional => 1 + L

mutual

/-- **The language of an expression.** -/
def Expression.language : Expression d → Language Char
  | .last b => b.language
  | .either b e => b.language + e.language

/-- The language of a branch. -/
def Branch.language : Branch d → Language Char
  | .nil => 1
  | .piece p q b => q.language p.language * b.language

/-- The language of a particle. -/
def Particle.language : Particle d → Language Char
  | .char c _ => oneOf (· = c)
  | .point _ => oneOf fun c => c ≠ '\n' ∧ c ≠ '\r'
  | .escape e => oneOf (· = e.char)
  | .bracketed k => oneOf k.Contains
  | .group e => e.language

end

/-! ### Classes inside -/

mutual

/-- **Whether no class of an expression is `[^]`.** -/
def Expression.CaretFree : Expression d → Prop
  | .last b => b.CaretFree
  | .either b e => b.CaretFree ∧ e.CaretFree

/-- Whether no class of a branch is `[^]`. -/
def Branch.CaretFree : Branch d → Prop
  | .nil => True
  | .piece p _ b => p.CaretFree ∧ b.CaretFree

/-- Whether no class of a particle is `[^]`. -/
def Particle.CaretFree : Particle d → Prop
  | .char _ _ | .point _ | .escape _ => True
  | .bracketed k => k.CaretFree
  | .group e => e.CaretFree

end

end Dialect
end JsonQuery
