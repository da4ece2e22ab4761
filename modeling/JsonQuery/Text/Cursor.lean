/-
A place in a text: how many bytes lie before it, and the characters after it.

Positions are counted in bytes of the UTF-8 encoding while the scanners work on
characters, so every step that drops characters adds their encoded size. The sum
of the offset and the size of what is left is therefore the size of the whole
text at every place a scanner can reach (`Cursor.finish`).
-/

set_option autoImplicit false

namespace JsonQuery

/-- The size of a text in bytes of its UTF-8 encoding. -/
def utf8Size : List Char → Nat
  | [] => 0
  | c :: cs => c.utf8Size + utf8Size cs

@[simp] theorem utf8Size_nil : utf8Size [] = 0 := rfl

@[simp] theorem utf8Size_cons (c : Char) (cs : List Char) :
    utf8Size (c :: cs) = c.utf8Size + utf8Size cs := rfl

@[simp] theorem utf8Size_append (a b : List Char) :
    utf8Size (a ++ b) = utf8Size a + utf8Size b := by
  induction a with
  | nil => rw [List.nil_append, utf8Size_nil, Nat.zero_add]
  | cons c a ih => rw [List.cons_append, utf8Size_cons, ih, utf8Size_cons, Nat.add_assoc]

/-- A place in a text. -/
structure Cursor where
  /-- The bytes before the place. -/
  offset : Nat
  /-- The characters after it. -/
  rest : List Char
deriving DecidableEq, Repr, Inhabited

namespace Cursor

/-- The start of a text. -/
def start (cs : List Char) : Cursor := ⟨0, cs⟩

/-- The offset of the end of the text. -/
def finish (here : Cursor) : Nat := here.offset + utf8Size here.rest

/-- The place after the text `read`, of which `rest` is what follows. -/
def after (here : Cursor) (read rest : List Char) : Cursor :=
  ⟨here.offset + utf8Size read, rest⟩

/-- The end of the text. -/
def atEnd (here : Cursor) : Cursor := ⟨here.finish, []⟩

@[simp] theorem finish_start (cs : List Char) : (start cs).finish = utf8Size cs := by
  simp [start, finish]

/-- **Reading moves the cursor and not the end**, as long as what is read and
what is left make up what was there. -/
theorem finish_after (here : Cursor) (read rest : List Char) (h : here.rest = read ++ rest) :
    (here.after read rest).finish = here.finish := by
  simp [after, finish, h, Nat.add_assoc]

@[simp] theorem finish_atEnd (here : Cursor) : here.atEnd.finish = here.finish := by
  simp [atEnd, finish]

end Cursor

end JsonQuery
