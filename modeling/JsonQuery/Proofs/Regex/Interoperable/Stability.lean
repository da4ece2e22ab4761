import JsonQuery.Regex.Interoperable

/-
An adapted pattern has nothing left to adapt.

Adapting reads a pattern with two marks, whether a class is open and whether a backslash hides
the next character, and it writes each character as it is or spelled out. Here the reader is
set apart from the writer: `Place` is what the reader knows, `Place.step` how it goes on, and
`Place.spelled` what is written for one character. The argument is about one character at a time.
What is written for it brings the reader to where the character itself would have brought it
(`Place.after_spelled`), and has no special character on the way (`Place.isPlain_spelled`),
although it may open and close a class of its own. By induction both hold of all that is
written, whatever the pattern is: it may end inside a class or with a backslash. Since a pattern
without special characters is written as it is, adapting it again changes nothing.
-/

set_option autoImplicit false

namespace JsonQuery
namespace Interoperable

/-! ## Reading -/

/-- **What is known at a place of a pattern**: whether a class is open, and whether the character
before it is a backslash that hides the next one. -/
structure Place where
  inClass : Bool
  escaped : Bool
deriving DecidableEq, Repr

namespace Place

/-- The start of a pattern. -/
def start : Place := ⟨false, false⟩

/-- **The place behind a character.** A bracket that opens a class again, or that closes none,
changes nothing. -/
def step (p : Place) (c : Char) : Place :=
  if p.escaped then { p with escaped := false }
  else if c = '\\' then { p with escaped := true }
  else if c = '[' then { p with inClass := true }
  else if c = ']' then { p with inClass := false }
  else p

/-- The place behind a text. -/
def after (p : Place) (cs : List Char) : Place := cs.foldl step p

/-- **Whether a character is special at a place**: it has a meaning there that the interoperable
dialect does not know. Behind a backslash it has none. -/
def isSpecial (p : Place) (c : Char) : Bool :=
  !p.escaped && (if p.inClass then ['[', '&', '~'] else ['.', '^', '$']).contains c

/-- Whether no character of a text is special where it stands. -/
def isPlain (p : Place) : List Char → Bool
  | [] => true
  | c :: cs => !p.isSpecial c && (p.step c).isPlain cs

variable (p : Place) (c : Char) (cs ds : List Char)

@[simp] theorem after_nil : p.after [] = p := rfl

@[simp] theorem after_cons : p.after (c :: cs) = (p.step c).after cs := rfl

@[simp] theorem after_append : p.after (cs ++ ds) = (p.after cs).after ds :=
  List.foldl_append

@[simp] theorem isPlain_nil : p.isPlain [] = true := rfl

@[simp] theorem isPlain_cons :
    p.isPlain (c :: cs) = (!p.isSpecial c && (p.step c).isPlain cs) := rfl

@[simp] theorem isPlain_append :
    p.isPlain (cs ++ ds) = (p.isPlain cs && (p.after cs).isPlain ds) := by
  induction cs generalizing p with
  | nil => rw [List.nil_append, isPlain_nil, after_nil, Bool.true_and]
  | cons c cs ih =>
    rw [List.cons_append, isPlain_cons, ih, isPlain_cons, after_cons, Bool.and_assoc]

/-- A class goes on until it is closed. -/
theorem step_inClass {c : Char} (hslash : c ≠ '\\') (hclose : c ≠ ']') :
    (⟨true, false⟩ : Place).step c = ⟨true, false⟩ := by
  simp [step, hslash, hclose]

/-- Nothing else opens a class. -/
theorem step_outside {c : Char} (hslash : c ≠ '\\') (hopen : c ≠ '[') :
    (⟨false, false⟩ : Place).step c = ⟨false, false⟩ := by
  simp [step, hslash, hopen]

/-- Inside a class a bracket, `&` and `~` are special. -/
theorem isSpecial_inClass : (⟨true, false⟩ : Place).isSpecial c = true ↔
    c = '[' ∨ c = '&' ∨ c = '~' := by
  simp [isSpecial]

/-- Outside a class a point, `^` and `$` are. -/
theorem isSpecial_outside : (⟨false, false⟩ : Place).isSpecial c = true ↔
    c = '.' ∨ c = '^' ∨ c = '$' := by
  simp [isSpecial]

/-- The characters that are not special where nothing hides them. -/
theorem isSpecial_eq_false_iff {p : Place} (h : p.escaped = false) (c : Char) :
    p.isSpecial c = false ↔ if p.inClass = true then c ≠ '[' ∧ c ≠ '&' ∧ c ≠ '~'
      else c ≠ '.' ∧ c ≠ '^' ∧ c ≠ '$' := by
  rw [isSpecial, h]
  cases p.inClass <;> simp

/-- Behind a backslash nothing is special. -/
theorem isSpecial_escaped {p : Place} (h : p.escaped = true) (c : Char) :
    p.isSpecial c = false := by
  rw [isSpecial, h, Bool.not_true, Bool.false_and]

/-- A backslash is special nowhere. -/
theorem isSpecial_slash (p : Place) : p.isSpecial '\\' = false := by
  obtain ⟨inClass, escaped⟩ := p
  cases inClass <;> cases escaped <;> rfl

/-- A backslash and the character that it hides lead back to where they stand. -/
theorem step_slash {p : Place} (h : p.escaped = false) (c : Char) :
    (p.step '\\').escaped = true ∧ (p.step '\\').step c = p := by
  obtain ⟨inClass, escaped⟩ := p
  subst h
  exact ⟨rfl, rfl⟩

/-- A special character leaves its place as it is: it is no backslash, and neither opens nor
closes a class. -/
theorem step_of_isSpecial {p : Place} {c : Char} (h : p.isSpecial c = true) :
    p.escaped = false ∧ p.step c = p := by
  obtain ⟨inClass, escaped⟩ := p
  cases escaped with
  | true => cases h
  | false =>
    refine ⟨rfl, ?_⟩
    cases inClass with
    | true => rcases (isSpecial_inClass c).mp h with rfl | rfl | rfl <;> rfl
    | false => rcases (isSpecial_outside c).mp h with rfl | rfl | rfl <;> rfl

/-! ## Writing -/

/-- A point as the dialect understands it: neither a line feed nor a carriage return. -/
def pointSpelling : List Char := ['[', '^', '\\', 'n', '\\', 'r', ']']

/-- **What is written for a character**: it is spelled out where it is special. -/
def spelled (p : Place) (c : Char) : List Char :=
  if p.isSpecial c then
    if c = '.' then pointSpelling else ['\\', c]
  else [c]

/-- What is written for a text. -/
def written (p : Place) : List Char → List Char
  | [] => []
  | c :: cs => p.spelled c ++ (p.step c).written cs

/-- A special character other than the point is escaped. -/
theorem spelled_of_isSpecial {p : Place} {c : Char} (h : p.isSpecial c = true)
    (hpoint : c ≠ '.') : p.spelled c = ['\\', c] := by
  rw [spelled, if_pos h, if_neg hpoint]

/-- A character that is not special stays as it is. -/
theorem spelled_eq_self {p : Place} {c : Char} (h : ¬ p.isSpecial c = true) : p.spelled c = [c] :=
  if_neg h

/-- A point is special only where classes begin, since inside a class it stands for itself. -/
theorem eq_start_of_isSpecial_point {p : Place} (h : p.isSpecial '.' = true) : p = start := by
  obtain ⟨inClass, escaped⟩ := p
  cases inClass with
  | true => cases escaped <;> cases h
  | false =>
    cases escaped with
    | true => cases h
    | false => rfl

/-- **What is written for a character leads to where the character leads.** -/
theorem after_spelled (p : Place) (c : Char) : p.after (p.spelled c) = p.step c := by
  by_cases hspecial : p.isSpecial c = true
  · by_cases hpoint : c = '.'
    · subst hpoint
      rw [eq_start_of_isSpecial_point hspecial]
      decide
    · -- the backslash hides the character, which would not have changed the place either
      obtain ⟨hescaped, hstep⟩ := step_of_isSpecial hspecial
      rw [spelled_of_isSpecial hspecial hpoint, hstep, after_cons, after_cons, after_nil,
        (step_slash hescaped c).2]
  · rw [spelled_eq_self hspecial, after_cons, after_nil]

/-- **What is written for a character has no special character in it.** -/
theorem isPlain_spelled (p : Place) (c : Char) : p.isPlain (p.spelled c) = true := by
  by_cases hspecial : p.isSpecial c = true
  · by_cases hpoint : c = '.'
    · subst hpoint
      rw [eq_start_of_isSpecial_point hspecial]
      decide
    · obtain ⟨hescaped, -⟩ := step_of_isSpecial hspecial
      rw [spelled_of_isSpecial hspecial hpoint]
      -- behind the backslash that is written nothing is special
      simp [isSpecial_slash, isSpecial_escaped (step_slash hescaped c).1]
  · rw [spelled_eq_self hspecial]
    simpa using hspecial

/-- **What is written for a text leads to where the text leads.** -/
theorem after_written (p : Place) (cs : List Char) : p.after (p.written cs) = p.after cs := by
  induction cs generalizing p with
  | nil => rfl
  | cons c cs ih => rw [written, after_append, after_spelled, ih, after_cons]

/-- **Nothing special is written.** -/
theorem isPlain_written (p : Place) (cs : List Char) : p.isPlain (p.written cs) = true := by
  induction cs generalizing p with
  | nil => rfl
  | cons c cs ih => rw [written, isPlain_append, isPlain_spelled, after_spelled, ih, Bool.and_self]

/-- A text without special characters is written as it is. -/
theorem written_of_isPlain {p : Place} {cs : List Char} (h : p.isPlain cs = true) :
    p.written cs = cs := by
  induction cs generalizing p with
  | nil => rfl
  | cons c cs ih =>
    rw [isPlain_cons, Bool.and_eq_true, Bool.not_eq_true'] at h
    rw [written, spelled_eq_self (by rw [h.1]; decide), ih h.2, List.singleton_append]

/-- A character of a text without special characters is not special where it stands. -/
theorem isSpecial_of_isPlain {p : Place} {before behind : List Char} {c : Char}
    (h : p.isPlain (before ++ c :: behind) = true) : (p.after before).isSpecial c = false := by
  rw [isPlain_append, isPlain_cons, Bool.and_eq_true, Bool.and_eq_true, Bool.not_eq_true'] at h
  exact h.2.1

/-- **A pattern is adapted character by character.** -/
theorem written_eq_adapt (inClass : Bool) (cs : List Char) :
    (⟨inClass, false⟩ : Place).written cs = adapt inClass cs := by
  -- the cases are those of the adaptation, and in each the character is special or it is not
  fun_induction adapt inClass cs with
  | case1 => rfl
  | case2 inClass => cases inClass <;> rfl
  | case3 inClass c cs ih =>
    rw [← ih]
    cases inClass <;> rfl
  | case4 cs hslash ih => rw [← ih]; rfl
  | case5 c cs hslash hclose hspecial ih =>
    have hpoint : c ≠ '.' := by rintro rfl; simp at hspecial
    rw [written, spelled_of_isSpecial ((isSpecial_inClass c).mpr hspecial) hpoint,
      step_inClass hslash hclose, ih]
    rfl
  | case6 c cs hslash hclose hordinary ih =>
    rw [written, spelled_eq_self (mt (isSpecial_inClass c).mp hordinary),
      step_inClass hslash hclose, ih]
    rfl
  | case7 cs hslash ih => rw [← ih]; rfl
  | case8 cs hslash hopen ih => rw [← ih]; rfl
  | case9 c cs hslash hopen hpoint hspecial ih =>
    rw [written, spelled_of_isSpecial ((isSpecial_outside c).mpr (.inr hspecial)) hpoint,
      step_outside hslash hopen, ih]
    rfl
  | case10 c cs hslash hopen hpoint hordinary ih =>
    have hspecial : ¬ (⟨false, false⟩ : Place).isSpecial c = true := fun h =>
      ((isSpecial_outside c).mp h).elim hpoint hordinary
    rw [written, spelled_eq_self hspecial, step_outside hslash hopen, ih]
    rfl

end Place

/-! ## Adapted patterns -/

/-- **Nothing special is left in an adapted pattern**, whether or not the pattern is one of the
dialect. Where nothing hides a character of it, that character is special neither inside nor
outside a class; reading it ends where reading the pattern ends, in a class or not and behind a
backslash or not; and adapting it again changes nothing. -/
theorem searchPattern_stable (pattern : List Char) :
    (∀ before c behind, searchPattern pattern = before ++ c :: behind →
        (Place.start.after before).escaped = false →
        if (Place.start.after before).inClass = true then c ≠ '[' ∧ c ≠ '&' ∧ c ≠ '~'
        else c ≠ '.' ∧ c ≠ '^' ∧ c ≠ '$')
      ∧ Place.start.after (searchPattern pattern) = Place.start.after pattern
      ∧ searchPattern (searchPattern pattern) = searchPattern pattern := by
  have hwritten (cs : List Char) : searchPattern cs = Place.start.written cs :=
    (Place.written_eq_adapt false cs).symm
  have hplain := Place.isPlain_written Place.start pattern
  rw [hwritten (searchPattern pattern), hwritten pattern]
  refine ⟨fun before c behind hsplit hescaped => ?_, Place.after_written _ _,
    Place.written_of_isPlain hplain⟩
  rw [hsplit] at hplain
  exact (Place.isSpecial_eq_false_iff hescaped c).mp (Place.isSpecial_of_isPlain hplain)

/-- A pattern that ends inside a class, and with a backslash. -/
theorem searchPattern_stable_unterminated :
    searchPattern ['^', '[', '.', '&', '\\'] = ['\\', '^', '['] ++ '.' :: ['\\', '&', '\\']
      ∧ (Place.start.after ['\\', '^', '[']).escaped = false
      ∧ (if (Place.start.after ['\\', '^', '[']).inClass = true
          then '.' ≠ '[' ∧ '.' ≠ '&' ∧ '.' ≠ '~' else '.' ≠ '.' ∧ '.' ≠ '^' ∧ '.' ≠ '$')
      ∧ Place.start.after ['^', '[', '.', '&', '\\'] = ⟨true, true⟩ :=
  ⟨by decide, by decide,
    (searchPattern_stable ['^', '[', '.', '&', '\\']).1 ['\\', '^', '['] '.' ['\\', '&', '\\']
      (by decide) (by decide), by decide⟩

end Interoperable
end JsonQuery
