import JsonQuery.Function.Standard
import JsonQuery.Proofs.Number.Layout
import JsonQuery.Proofs.Select.Reach
import JsonQuery.Proofs.Token.Legible
import JsonQuery.Regex.Reference.Compile

/-
Normalized paths are queries for their locations.

The text of a location is cut into a dollar sign and, for every step, a name or a number
between brackets. A name is written between single quotes there, which the canonical text
of a query never does, so this is another way to write the same lexemes. They derive the
query that takes the steps of the location one by one (`Location.query`), and that query
leads where the location does and nowhere else.

Indexes have to be in the range of index selectors; beyond it the text of a location is no
query at all.
-/

set_option autoImplicit false

namespace JsonQuery

/-- The segment that takes one step. -/
def Step.segment : Step → Segment
  | index i => .child [.index (.ofNat i)]
  | name n => .child [.name n]

/-- **The query for a location**: from the document along the steps, one after the other. -/
def Location.query (p : Location) : Query := .mk .root (p.map Step.segment)

/-- Whether the indexes of a location are in the range of index selectors. -/
def Location.Indexable (p : Location) : Prop := ∀ i : Nat, .index i ∈ p → (i : Int) ≤ greatestIndex

theorem Location.Indexable.head {s : Step} {p : Location} (h : Indexable (s :: p)) :
    Indexable [s] :=
  fun i hi => h i (List.mem_cons.mpr (.inl (List.mem_singleton.mp hi)))

theorem Location.Indexable.tail {s : Step} {p : Location} (h : Indexable (s :: p)) :
    Indexable p :=
  fun i hi => h i (List.mem_cons_of_mem s hi)

/-- An index of a location fits into 64 bits. -/
theorem Location.Indexable.toInt {i : Nat} (h : Indexable [.index i]) :
    (Int64.ofNat i).toInt = i := by
  have hi := h i List.mem_cons_self
  unfold greatestIndex at hi
  exact Int64.toInt_ofNat_of_lt (by omega)

/-! ## Lexemes -/

/-- The lexeme between the brackets of a step. -/
def Step.lexeme : Step → Lexeme
  | index i => .numeral (.ofInt i)
  | name n => .string n

/-- The characters between the brackets of a step. -/
def Step.inner : Step → List Char
  | index i => Nat.toDigits 10 i
  | name n => quotedText '\'' n.toList

/-- The lexemes of a step with the characters they are read from. -/
def Step.written (s : Step) : List (Lexeme × List Char) :=
  [(.punctuation '[', ['[']), (s.lexeme, s.inner), (.punctuation ']', [']'])]

/-- The lexemes of a normalized path with the characters they are read from. -/
def Location.written (p : Location) : List (Lexeme × List Char) :=
  (.punctuation '$', ['$']) :: p.flatMap Step.written

/-- The lexemes of a step are written as it is rendered. -/
theorem Step.written_eq (s : Step) : JsonQuery.written s.written = s.characters := by
  cases s <;>
  rfl

theorem Location.written_eq (p : Location) : JsonQuery.written p.written = p.characters := by
  have hsteps : JsonQuery.written (p.flatMap Step.written) = p.flatMap Step.characters := by
    rw [JsonQuery.written, List.flatMap_assoc]
    exact List.flatMap_congr fun s _ => s.written_eq
  exact congrArg ('$' :: ·) hsteps

/-- What stands between brackets is read before the closing one. -/
theorem Step.lexeme_readFrom (s : Step) (behind : List Char) :
    s.lexeme.ReadFrom s.inner (']' :: behind) := by
  cases s with
  | index i =>
    have hends : Numeral.Ends (']' :: behind) := by
      rintro c ⟨⟩
      decide
    have hread := (numeral_readsBack (Numeral.wellFormed_ofInt i) hends).readFrom
    have hspelling : (Lexeme.numeral (.ofInt i)).spelling = Nat.toDigits 10 i := by
      simp [Lexeme.spelling, Numeral.text, Numeral.ofInt]
    rwa [hspelling] at hread
  | name n => exact string_readFrom (.inl rfl) n _

/-- A step is read in turn before anything. -/
theorem Step.readInTurn_written (s : Step) {ms : List (Lexeme × List Char)} (h : ReadInTurn ms) :
    ReadInTurn (s.written ++ ms) :=
  ⟨punctuation_readsBack rfl _, s.lexeme_readFrom _, punctuation_readsBack rfl _, h⟩

/-- **The tokens of a normalized path.** -/
theorem Location.tokenize_text (p : Location) :
    lexemes (tokenize p.text) = p.written.map Prod.fst ++ [.endOfInput] := by
  have hsteps : ReadInTurn (p.flatMap Step.written) := by
    induction p with
    | nil => trivial
    | cons s p ih => exact s.readInTurn_written ih
  have hread : ReadInTurn p.written := ⟨punctuation_readsBack rfl _, hsteps⟩
  have htokens := tokenize_written hread
  rwa [written_eq] at htokens

/-! ## Compiling -/

/-- The lexeme of a step is the selector of its segment. -/
theorem Step.derives_segment {r : Registry} {s : Step} (hs : Location.Indexable [s])
    (rest : List Lexeme) :
    Derives r .segment (s.written.map Prod.fst ++ rest) s.segment rest := by
  cases s with
  | name n => exact .brackets (.lastSelector (.absent _) (.name n _) (.absent _))
  | index i =>
    have hi := hs i List.mem_cons_self
    have hint := Numeral.toInt_ofInt i
    have hlexeme : IntegerLexeme (.numeral (.ofInt i)) (.ofInt (Numeral.ofInt i).toInt) := by
      refine .intro (Numeral.isInteger_ofInt i) (Numeral.isNegativeZero_ofInt i) ?_ ?_
      · rw [hint]
        unfold greatestIndex
        omega
      · rwa [hint]
    rw [hint, Int64.ofInt_eq_ofNat] at hlexeme
    exact .brackets (.lastSelector (.absent _) (.index hlexeme _) (.absent _))

/-- A location is a phrase for its segments. -/
theorem Location.derives_segments {r : Registry} {p : Location} (hp : p.Indexable)
    (rest : List Lexeme) :
    Derives r .segments ((p.flatMap Step.written).map Prod.fst ++ rest) (p.map Step.segment)
      rest := by
  induction p with
  | nil => exact .noSegment rest
  | cons s p ih =>
    rw [List.flatMap_cons, List.map_append, List.append_assoc, List.map_cons]
    exact .nextSegment (.absent _) (Step.derives_segment hp.head _) (ih hp.tail)

/-- A location nests nothing. -/
theorem Location.nesting_query (p : Location) : p.query.nesting = 0 := by
  have hsteps : Segment.nestingAll (p.map Step.segment) = 0 := by
    induction p with
    | nil => simp [Segment.nestingAll]
    | cons s p ih =>
      cases s <;>
      simp [Segment.nestingAll, Step.segment, Segment.nesting, Selector.nestingAll,
        Selector.nesting, ih]
  rw [query, Query.nesting, hsteps]

/-- **A normalized path compiles to the query for its location**, whatever functions are
registered and however little may be nested. -/
theorem Location.compile_path (c : Compiler) {p : Location} (hp : p.Indexable) :
    c.compile p.text = .ok p.query := by
  refine Compiler.compile_of_derives ?_ (by rw [nesting_query]; exact Nat.zero_le _)
  rw [tokenize_text]
  exact .path (derives_segments hp [.endOfInput])

/-! ## Telling texts apart -/

/-- Steps with one segment are one step. -/
theorem Step.eq_of_segment_eq {s t : Step} (hs : Location.Indexable [s])
    (ht : Location.Indexable [t]) (h : s.segment = t.segment) : s = t := by
  cases s with
  | index i =>
    cases t with
    | index j =>
      simp only [segment, Segment.child.injEq, List.cons.injEq, Selector.index.injEq,
        and_true] at h
      -- an index in range is had back from its 64 bits
      have hij := hs.toInt
      rw [h, ht.toInt] at hij
      rw [Int.ofNat_inj.mp hij]
    | name n => simp [segment] at h
  | name m =>
    cases t with
    | index j => simp [segment] at h
    | name n => simpa [segment] using h

/-- Locations with the same segments are one location. -/
theorem Location.eq_of_segments_eq {p q : Location} (hp : p.Indexable) (hq : q.Indexable)
    (h : p.map Step.segment = q.map Step.segment) : p = q := by
  induction p generalizing q with
  | nil => exact (List.map_eq_nil_iff.mp h.symm).symm
  | cons s p ih =>
    cases q with
    | nil => cases h
    | cons t q =>
      rw [List.map_cons, List.map_cons, List.cons.injEq] at h
      rw [Step.eq_of_segment_eq hp.head hq.head h.1, ih hp.tail hq.tail h.2]

/-! ## Selecting -/

/-- A position of the array is an index for itself. -/
theorem resolveIndex_ofNat {i length : Nat} (hi : Location.Indexable [.index i])
    (h : i < length) : resolveIndex (.ofNat i) length = some i := by
  have hnonneg : ¬ Int64.ofNat i < 0 := by
    rw [Int64.lt_iff_toInt_lt, hi.toInt, Int64.toInt_zero]
    omega
  simp only [resolveIndex, hnonneg, if_false, hi.toInt]
  rw [if_pos (by omega), Int.toNat_natCast]

/-- **One step selects the child it leads to** and no other. -/
theorem Step.visit_segment {s : Step} (hs : Location.Indexable [s]) {v c : Json} (root : Json)
    (h : v.child? s = some c) : s.segment.visit v root = .ok [([s], c)] := by
  have hpick (t : Selector) (ht : t.pick v root = .ok [(s, c)]) :
      (Segment.child [t]).visit v root = .ok [([s], c)] := by
    rw [Segment.visit, Selector.pickAll, ht, Selector.pickAll]
    rfl
  cases v with
  | array xs =>
    cases s with
    | index i =>
      have hx : xs[i]? = some c := h
      obtain ⟨hlt, -⟩ := List.getElem?_eq_some_iff.mp hx
      refine hpick _ ?_
      rw [Selector.pick]
      simp only [pickIndex, resolveIndex_ofNat hs hlt, pickPosition, hx]
    | name n => cases h
  | object ms =>
    cases s with
    | index i => cases h
    | name n =>
      have hmember : ms.lookup n = some c := h
      refine hpick _ ?_
      rw [Selector.pick]
      simp only [pickName, hmember]
  | _ => cases h

/-- **The segments of a location lead to the node there** and to no other. -/
theorem Location.followLocated_segments {p : Location} (hp : p.Indexable) {v n : Json}
    (root : Json) (before : Location) (h : v.follow? p = some n) :
    Segment.followLocated (p.map Step.segment) [⟨before, v⟩] root = .ok [⟨before ++ p, n⟩] := by
  induction p generalizing v before with
  | nil =>
    cases h
    rw [List.append_nil]
    rfl
  | cons s p ih =>
    obtain ⟨c, hc, h⟩ := Option.bind_eq_some_iff.mp h
    have hextend : s.segment.extend root ⟨before, v⟩ = .ok [⟨before ++ [s], c⟩] := by
      rw [Segment.extend, Step.visit_segment hp.head root hc]
      rfl
    -- the walk goes on from the child, with this step in front of its locations
    have hnext := ih hp.tail (before ++ [s]) h
    rw [List.append_assoc, List.singleton_append] at hnext
    rw [List.map_cons, Segment.followLocated_cons, concatEach_cons, hextend]
    exact hnext

/-- **The query for a location selects the node there, and only that one.** -/
theorem Location.selectLocated_query {p : Location} (hp : p.Indexable) {v n : Json}
    (h : v.follow? p = some n) : p.query.selectLocated v = .ok [⟨p, n⟩] :=
  followLocated_segments hp v [] h

/-! ## Normalized paths -/

/-- **A normalized path is a query for its own location**: it compiles to the query that
takes its steps, no other location has its text, and in every document that has the
location the query selects the node there, once and with that location. -/
theorem Compiler.compile_location (c : Compiler) {p : Location} (hp : p.Indexable) :
    c.compile p.text = .ok (.mk .root (p.map Step.segment))
      ∧ (∀ q : Location, q.Indexable → q.text = p.text → q = p)
      ∧ ∀ v n, v.follow? p = some n →
        (Query.mk .root (p.map Step.segment)).selectLocated v = .ok [⟨p, n⟩] := by
  refine ⟨Location.compile_path c hp, fun q hq htext => ?_, fun v n h => ?_⟩
  -- locations with one text compile to one query
  · have hcompiled := Location.compile_path c hq
    rw [htext, Location.compile_path c hp] at hcompiled
    obtain ⟨-, hsegments⟩ := Query.mk.inj (Except.ok.inj hcompiled)
    exact Location.eq_of_segments_eq hq hp hsegments.symm
  · exact Location.selectLocated_query hp h

/-- A key of quotes, a backslash, a control character and a letter outside ASCII, and the
greatest index. -/
theorem compile_location_escaped :
    Location.Indexable [.name "'\"\\\x01é", .index 9007199254740991]
      ∧ (Compiler.ofRegistry (.standard .reference)).compile
          "$['\\'\"\\\\\\u0001é'][9007199254740991]"
        = .ok (.mk .root [.child [.name "'\"\\\x01é"], .child [.index 9007199254740991]]) := by
  have hindexable : Location.Indexable [.name "'\"\\\x01é", .index 9007199254740991] := by
    intro i hi
    have heq : i = 9007199254740991 := by simpa using hi
    rw [heq]
    decide
  exact ⟨hindexable,
    (Compiler.compile_location (.ofRegistry (.standard .reference)) hindexable).1⟩

end JsonQuery
