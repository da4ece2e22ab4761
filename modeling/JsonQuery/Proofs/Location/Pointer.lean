import JsonQuery.Location.Pointer
import JsonQuery.Proofs.Number.Spelling

/-
Pointers lead where locations lead.

A reference token stands for the number or the name of its step, whatever tildes and
slashes the name has, and a pointer is cut into the tokens that it was put together from.
So resolving the pointer of a location walks the same way as the location does
(`Json.resolvePointer?_pointer`).

A token does not say whether it is a number or a name, so two locations can share a
pointer. Below one node they cannot: the node is an array or an object, and all steps from
it are of one sort (`Json.eq_of_pointer_eq`).
-/

set_option autoImplicit false

namespace JsonQuery

/-! ## Resolving, one replacement after the other -/

/-- A text with every two characters `a` and `b` in a row replaced by `x`, from the left. -/
def replacePair (a b x : Char) : List Char → List Char
  | c :: d :: cs =>
    if c = a ∧ d = b then x :: replacePair a b x cs else c :: replacePair a b x (d :: cs)
  | cs => cs

/-- What a reference token stands for: `~1` is replaced by a slash first, and then `~0` by
a tilde. -/
def tokenMeaning (token : List Char) : List Char :=
  replacePair '~' '0' '~' (replacePair '~' '1' '/' token)

/-- **Resolving a pointer**: what stands behind its first slash is split at the other ones,
and every part leads from a node to one of its children. -/
def Json.resolvePointer? (v : Json) (pointer : String) : Option Json :=
  match pointer.toList with
  | [] => some v
  | c :: cs =>
    if c = '/' then ((splitAtSlashes cs).map tokenMeaning).foldlM Json.referred? v else none

section Replacing

variable {a b x c : Char} {cs : List Char}

/-- A pair that stands first is replaced. -/
theorem replacePair_pair : replacePair a b x (a :: b :: cs) = x :: replacePair a b x cs := by
  rw [replacePair, if_pos ⟨rfl, rfl⟩]

/-- A character that does not begin the pair stays. -/
theorem replacePair_cons_of_ne (h : c ≠ a) :
    replacePair a b x (c :: cs) = c :: replacePair a b x cs := by
  cases cs with
  | nil => rfl
  | cons d cs => rw [replacePair, if_neg fun hc => h hc.1]

theorem replacePair_cons_of_head (h : ∀ d ∈ cs.head?, d ≠ b) :
    replacePair a b x (c :: cs) = c :: replacePair a b x cs := by
  cases cs with
  | nil => rfl
  | cons d cs => rw [replacePair, if_neg fun hc => h d rfl hc.2]

/-- A replacement puts nothing first but what stood there and what it puts in. -/
theorem head?_replacePair {d : Char} (h : d ∈ (replacePair a b x cs).head?) :
    d = x ∨ d ∈ cs.head? := by
  unfold replacePair at h
  split at h
  · split at h
    · exact .inl (Option.some.inj h).symm
    · exact .inr h
  · exact .inr h

end Replacing

/-- **The two replacements do what the escapes are read as**: no tilde or slash that is put
in becomes part of another escape. -/
theorem pointerUnescaped_eq (cs : List Char) : pointerUnescaped cs = tokenMeaning cs := by
  unfold tokenMeaning
  fun_induction pointerUnescaped cs with
  | case1 cs ih =>
    have hzero : replacePair '~' '1' '/' ('0' :: cs) = '0' :: replacePair '~' '1' '/' cs :=
      replacePair_cons_of_ne (by decide)
    rw [replacePair_cons_of_head (by simp), hzero, replacePair_pair, ih]
  | case2 cs ih => rw [replacePair_pair, replacePair_cons_of_ne (by decide), ih]
  | case3 c cs hzero hone ih =>
    by_cases htilde : c = '~'
    · -- a tilde of its own: what follows is no digit of an escape, before and after
      have hfirst : ∀ d ∈ cs.head?, d ≠ '1' := by
        rintro d hd rfl
        obtain ⟨ds, rfl⟩ := List.head?_eq_some_iff.mp hd
        exact hone ds htilde rfl
      have hsecond : ∀ d ∈ (replacePair '~' '1' '/' cs).head?, d ≠ '0' := by
        rintro d hd rfl
        rcases head?_replacePair hd with heq | hd
        · exact absurd heq (by decide)
        · obtain ⟨ds, rfl⟩ := List.head?_eq_some_iff.mp hd
          exact hzero ds htilde rfl
      rw [replacePair_cons_of_head hfirst, replacePair_cons_of_head hsecond, ih]
    · rw [replacePair_cons_of_ne htilde, replacePair_cons_of_ne htilde, ih]
  | case4 => rfl

/-- A pointer is resolved by its tokens. -/
theorem Json.atPointer?_eq (v : Json) (pointer : String) :
    v.atPointer? pointer = v.resolvePointer? pointer := by
  unfold atPointer? resolvePointer? referenceTokens?
  cases pointer.toList with
  | nil => rfl
  | cons c cs =>
    have hmeaning : pointerUnescaped = tokenMeaning := funext pointerUnescaped_eq
    rw [hmeaning]
    by_cases hc : c = '/'
    · simp only [hc, if_true]
      rfl
    · simp only [hc, if_false]
      rfl

/-! ## Tokens -/

/-- What the reference token of a step stands for. -/
def Step.reference : Step → List Char
  | index i => Nat.toDigits 10 i
  | name n => n.toList

/-- No digit is escaped, so an index is written like a name of the same characters. -/
theorem Step.token_eq (s : Step) : s.token = s.reference.flatMap pointerEscaped := by
  cases s with
  | name n => rfl
  | index i =>
    have hself : ∀ c ∈ Nat.toDigits 10 i, pointerEscaped c = [c] := by
      intro c hc
      have hdigit := (isDigits_toDigits i).2 c hc
      rw [pointerEscaped, if_neg (ne_of_isDigit hdigit rfl), if_neg (ne_of_isDigit hdigit rfl)]
    rw [reference, token, List.flatMap_congr hself, List.flatMap_singleton']

/-- No slash is left in an escaped name. -/
theorem slash_notMem_pointerEscaped (c : Char) : '/' ∉ pointerEscaped c := by
  unfold pointerEscaped
  split
  · decide
  · split
    · decide
    · rename_i hslash
      rw [List.mem_singleton]
      exact fun heq => hslash heq.symm

/-- **No slash stands in a token**, so that slashes only separate. -/
theorem Step.slash_notMem_token (s : Step) : '/' ∉ s.token := by
  rw [token_eq, List.mem_flatMap]
  rintro ⟨c, -, hc⟩
  exact slash_notMem_pointerEscaped c hc

/-- A token without slashes ends at the next one. -/
theorem splitAtSlashes_append {token rest : List Char} (h : '/' ∉ token) :
    splitAtSlashes (token ++ '/' :: rest) = token :: splitAtSlashes rest := by
  induction token with
  | nil => rfl
  | cons c token ih =>
    rw [List.mem_cons, not_or] at h
    rw [List.cons_append, splitAtSlashes, if_neg (Ne.symm h.1), ih h.2]

theorem splitAtSlashes_eq_self {token : List Char} (h : '/' ∉ token) :
    splitAtSlashes token = [token] := by
  induction token with
  | nil => rfl
  | cons c token ih =>
    rw [List.mem_cons, not_or] at h
    rw [splitAtSlashes, if_neg (Ne.symm h.1), ih h.2]

/-- A pointer behind a token is split into that token and its own. -/
theorem splitAtSlashes_pointer {token : List Char} (h : '/' ∉ token) (p : Location) :
    splitAtSlashes (token ++ p.pointerCharacters) = token :: p.map Step.token := by
  induction p generalizing token with
  | nil =>
    rw [Location.pointerCharacters, List.flatMap_nil, List.append_nil, splitAtSlashes_eq_self h]
    rfl
  | cons s p ih =>
    rw [Location.pointerCharacters, List.flatMap_cons, List.cons_append,
      splitAtSlashes_append h, List.map_cons]
    exact congrArg _ (ih s.slash_notMem_token)

/-- **A pointer has the references of its location.** -/
theorem referenceTokens?_pointer (p : Location) :
    referenceTokens? p.pointerCharacters = some (p.map Step.reference) := by
  cases p with
  | nil => rfl
  | cons s p =>
    have hmeaning : ∀ t : Step, pointerUnescaped t.token = t.reference := fun t => by
      rw [t.token_eq, pointerUnescaped_flatMap_pointerEscaped]
    rw [Location.pointerCharacters, List.flatMap_cons, List.cons_append, referenceTokens?,
      if_pos rfl]
    refine congrArg some ?_
    have hsplit := splitAtSlashes_pointer s.slash_notMem_token p
    rw [Location.pointerCharacters] at hsplit
    rw [hsplit, ← List.map_cons, List.map_map]
    exact List.map_congr_left fun t _ => hmeaning t

/-! ## Resolving -/

/-- A position is read back from its digits. -/
theorem tokenIndex?_toDigits (i : Nat) : tokenIndex? (Nat.toDigits 10 i) = some i := by
  have hdigits : (Nat.toDigits 10 i).all Char.isDigit = true :=
    List.all_eq_true.mpr (isDigits_toDigits i).2
  simp [tokenIndex?, hdigits, Nat.ofDigitChars_ten_toDigits]

/-- The reference of a step leads to the same child. -/
theorem Json.referred?_reference {v c : Json} {s : Step} (h : v.child? s = some c) :
    v.referred? s.reference = some c := by
  cases v with
  | array xs =>
    cases s with
    | index i =>
      rw [Step.reference, referred?, tokenIndex?_toDigits]
      exact h
    | name n => cases h
  | object ms =>
    cases s with
    | index i => cases h
    | name n =>
      rw [Step.reference, referred?, String.ofList_toList]
      exact h
  | _ => cases h

/-- The references of a location lead where its steps lead. -/
theorem Json.foldlM_reference {v n : Json} {p : Location} (h : v.follow? p = some n) :
    (p.map Step.reference).foldlM referred? v = some n := by
  induction p generalizing v with
  | nil => exact h
  | cons s p ih =>
    obtain ⟨c, hc, hn⟩ := Option.bind_eq_some_iff.mp h
    rw [List.map_cons, List.foldlM_cons, referred?_reference hc]
    exact ih hn

/-- **The pointer of a location leads where the location does.** -/
theorem Json.resolvePointer?_pointer {v n : Json} {p : Location} (h : v.follow? p = some n) :
    v.resolvePointer? p.pointer = some n := by
  rw [← atPointer?_eq, atPointer?, Location.pointer, String.toList_ofList,
    referenceTokens?_pointer]
  exact foldlM_reference h

/-! ## Telling locations apart -/

/-- Two steps from one node with the same reference are the same step. -/
theorem Json.step_eq_of_reference_eq {v c d : Json} {s t : Step} (hs : v.child? s = some c)
    (ht : v.child? t = some d) (h : s.reference = t.reference) : s = t := by
  cases s with
  | index i =>
    cases t with
    | index j =>
      have hdigits := congrArg (Nat.ofDigitChars 10 · 0) h
      simp only [Step.reference, Nat.ofDigitChars_ten_toDigits] at hdigits
      rw [hdigits]
    -- one of the two steps leads nowhere, whatever sort of node this is
    | name n => cases v <;> first | cases hs | cases ht
  | name m =>
    cases t with
    | index j => cases v <;> first | cases hs | cases ht
    | name n => exact congrArg Step.name (String.toList_inj.mp h)

/-- **Locations of one document with the same references are one location**: a name like a position
is told apart by the node it leads on from. -/
theorem Json.eq_of_references_eq {v c d : Json} {p q : Location} (hp : v.follow? p = some c)
    (hq : v.follow? q = some d) (h : p.map Step.reference = q.map Step.reference) : p = q := by
  induction p generalizing v q with
  | nil =>
    rw [List.map_nil] at h
    exact (List.map_eq_nil_iff.mp h.symm).symm
  | cons s p ih =>
    cases q with
    | nil => cases h
    | cons t q =>
      obtain ⟨e, he, hp⟩ := Option.bind_eq_some_iff.mp hp
      obtain ⟨f, hf, hq⟩ := Option.bind_eq_some_iff.mp hq
      rw [List.map_cons, List.map_cons, List.cons.injEq] at h
      have hst := step_eq_of_reference_eq he hf h.1
      subst hst
      rw [he] at hf
      cases hf
      rw [ih hp hq h.2]

/-- **Locations of nodes below one node are told apart by their pointers.** -/
theorem Json.eq_of_pointer_eq {v c d : Json} {p q : Location} (hp : v.follow? p = some c)
    (hq : v.follow? q = some d) (h : p.pointer = q.pointer) : p = q := by
  have hcharacters : p.pointerCharacters = q.pointerCharacters := String.ofList_injective h
  have hreferences := referenceTokens?_pointer p
  rw [hcharacters, referenceTokens?_pointer q] at hreferences
  exact eq_of_references_eq hp hq (Option.some.inj hreferences).symm

end JsonQuery
