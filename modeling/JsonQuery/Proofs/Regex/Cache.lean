import JsonQuery.Regex.Cache
import Mathlib.Data.Finset.Card
import Mathlib.Data.List.Induction

/-
What a store of compiled patterns holds.

Nothing here depends on what a pattern is or how it is compiled: `compile` is any function that
answers a compiled pattern or a failure. A store is transparent because everything in it is what
compiling its text gives (`Faithful`). Patterns are kept in the order in which they first come,
until there is no more room, so what a store holds is told by the patterns that it was asked for
(`Holds`): the first accepted ones, none of them twice, as many as fit. One more pattern keeps
this true (`Holds.fetch`), and so do any number of them (`Holds.fetchAll`).
-/

set_option autoImplicit false

namespace JsonQuery

/-! ## First occurrences -/

section FirstOccurrences

variable {α : Type} [DecidableEq α]

/-- One more member is a first occurrence unless it was there before. -/
theorem eraseDups_concat (as : List α) (a : α) :
    (as ++ [a]).eraseDups = as.eraseDups ++ if a ∈ as then [] else [a] := by
  rw [List.eraseDups_append, List.removeAll, List.filter_singleton]
  by_cases ha : a ∈ as
  · simp [ha]
  · simp [ha, List.eraseDups_cons]

theorem nodup_eraseDups (as : List α) : as.eraseDups.Nodup := by
  induction as using List.reverseRecOn with
  | nil => exact .nil
  | append_singleton as a ih =>
    rw [eraseDups_concat]
    by_cases ha : a ∈ as
    · rwa [if_pos ha, List.append_nil]
    · rw [if_neg ha, ← List.concat_eq_append]
      exact ih.concat fun hmem => ha (List.mem_eraseDups.mp hmem)

theorem length_eraseDups (as : List α) : as.eraseDups.length = as.toFinset.card := by
  rw [← List.toFinset_card_of_nodup (nodup_eraseDups as)]
  congr 1
  ext a
  rw [List.mem_toFinset, List.mem_toFinset, List.mem_eraseDups]

omit [DecidableEq α] in
/-- The first members of a list that has one more. -/
theorem take_concat (as : List α) (a : α) (n : Nat) :
    (as ++ [a]).take n = as.take n ++ if as.length < n then [a] else [] := by
  rw [List.take_append]
  split
  · rw [List.take_of_length_le (l := [a]) (by simp; omega)]
  · rename_i h
    rw [Nat.sub_eq_zero_of_le (Nat.not_lt.mp h), List.take_zero]

end FirstOccurrences

namespace PatternCache

variable {ρ ε : Type} {compile : String → Except ε ρ} {c : PatternCache ρ} {text : String}
  {compiled : ρ}

/-- Whether a pattern is accepted. -/
def accepts (compile : String → Except ε ρ) (text : String) : Bool := (compile text).isOk

/-- A pattern that compiles is accepted. -/
theorem accepts_of_ok (h : compile text = .ok compiled) : accepts compile text = true := by
  rw [accepts, h]
  rfl

/-- A pattern that fails is not. -/
theorem accepts_of_error {e : ε} (h : compile text = .error e) :
    accepts compile text = false := by
  rw [accepts, h]
  rfl

/-! ## One pattern -/

/-- The texts of the patterns that are kept. -/
def texts (c : PatternCache ρ) : List String := c.entries.map Prod.fst

/-- There are as many texts as patterns. -/
theorem length_texts (c : PatternCache ρ) : c.texts.length = c.size := List.length_map ..

/-- A pattern that is not found is not kept. -/
theorem find?_eq_none_iff : c.find? text = none ↔ text ∉ c.texts := by
  rw [find?, List.lookup_eq_none_iff, texts, List.mem_map]
  constructor
  · rintro h ⟨entry, hentry, rfl⟩
    exact absurd (h entry hentry) (by simp)
  · intro h entry hentry
    rw [bne_iff_ne]
    rintro rfl
    exact h ⟨entry, hentry, rfl⟩

/-- What is found for a pattern is kept for it. -/
theorem mem_entries_of_find? (h : c.find? text = some compiled) :
    (text, compiled) ∈ c.entries := by
  obtain ⟨before, behind, heq, -⟩ := List.lookup_eq_some_iff.mp h
  rw [heq]
  exact List.mem_append_right _ List.mem_cons_self

/-- **How a pattern is fetched**: it is found, or it is compiled and kept if that succeeds. -/
theorem fetch_cases (compile : String → Except ε ρ) (c : PatternCache ρ) (text : String) :
    (∃ compiled, c.find? text = some compiled ∧ c.fetch compile text = (.ok compiled, c))
      ∨ (∃ e, c.find? text = none ∧ compile text = .error e
        ∧ c.fetch compile text = (.error e, c))
      ∨ ∃ compiled, c.find? text = none ∧ compile text = .ok compiled
        ∧ c.fetch compile text = (.ok compiled, c.keep text compiled) := by
  unfold fetch
  cases hfind : c.find? text with
  | some compiled => exact .inl ⟨compiled, rfl, rfl⟩
  | none =>
    cases hcompile : compile text with
    | error e => exact .inr (.inl ⟨e, rfl, rfl, rfl⟩)
    | ok compiled => exact .inr (.inr ⟨compiled, rfl, rfl, rfl⟩)

/-- Keeping adds one entry at the end, if there is room. -/
theorem entries_keep (c : PatternCache ρ) (text : String) (compiled : ρ) :
    (c.keep text compiled).entries
      = c.entries ++ if c.size < c.capacity then [(text, compiled)] else [] := by
  unfold keep
  split
  · rfl
  · exact (List.append_nil _).symm

@[simp] theorem capacity_keep (c : PatternCache ρ) (text : String) (compiled : ρ) :
    (c.keep text compiled).capacity = c.capacity := by
  unfold keep
  split <;>
  rfl

@[simp] theorem capacity_fetch (compile : String → Except ε ρ) (c : PatternCache ρ)
    (text : String) : (c.fetch compile text).2.capacity = c.capacity := by
  rcases fetch_cases compile c text with ⟨_, -, h⟩ | ⟨_, -, -, h⟩ | ⟨_, -, -, h⟩ <;>
  simp [h]

/-- **Whether a store holds what compiling gives.** -/
def Faithful (compile : String → Except ε ρ) (c : PatternCache ρ) : Prop :=
  ∀ text compiled, (text, compiled) ∈ c.entries → compile text = .ok compiled

namespace Faithful

/-- What is found for a pattern is what compiling it gives. -/
theorem find? (h : c.Faithful compile) (hfind : c.find? text = some compiled) :
    compile text = .ok compiled :=
  h _ _ (mem_entries_of_find? hfind)

/-- **A store answers what compiling gives.** -/
theorem fetch_fst (h : c.Faithful compile) (text : String) :
    (c.fetch compile text).1 = compile text := by
  rcases fetch_cases compile c text with ⟨_, hfind, hfetch⟩ | ⟨_, -, hcompile, hfetch⟩
      | ⟨_, -, hcompile, hfetch⟩
  · rw [hfetch, h.find? hfind]
  · rw [hfetch, hcompile]
  · rw [hfetch, hcompile]

/-- A store stays faithful when a compiled pattern is kept. -/
theorem keep (h : c.Faithful compile) (hcompile : compile text = .ok compiled) :
    (c.keep text compiled).Faithful compile := by
  intro other found hmem
  rw [entries_keep] at hmem
  rcases List.mem_append.mp hmem with hmem | hmem
  · exact h other found hmem
  · split at hmem
    · cases List.mem_singleton.mp hmem
      exact hcompile
    · cases hmem

/-- A store stays faithful when it is asked for a pattern. -/
theorem fetch (h : c.Faithful compile) (text : String) :
    (c.fetch compile text).2.Faithful compile := by
  rcases fetch_cases compile c text with ⟨_, -, hfetch⟩ | ⟨_, -, -, hfetch⟩
      | ⟨_, -, hcompile, hfetch⟩
  · rwa [hfetch]
  · rwa [hfetch]
  · rw [hfetch]
    exact h.keep hcompile

end Faithful

/-! ## Patterns one after the other -/

/-- The accepted patterns of a history, each where it first comes. -/
def admissible (compile : String → Except ε ρ) (history : List String) : List String :=
  (history.filter (accepts compile)).eraseDups

/-- **Whether a store is what a history of patterns leaves of an empty one.** -/
structure Holds (compile : String → Except ε ρ) (c : PatternCache ρ) (history : List String) :
    Prop where
  faithful : c.Faithful compile
  texts : c.texts = (admissible compile history).take c.capacity

variable {history : List String}

/-- The admissible patterns are the accepted ones of the history. -/
theorem mem_admissible_iff :
    text ∈ admissible compile history ↔ text ∈ history ∧ accepts compile text = true := by
  rw [admissible, List.mem_eraseDups, List.mem_filter]

/-- One more pattern is admissible if it is accepted and was not there before. -/
theorem admissible_concat (compile : String → Except ε ρ) (history : List String)
    (text : String) :
    admissible compile (history ++ [text]) = admissible compile history
      ++ if accepts compile text = true ∧ text ∉ history then [text] else [] := by
  rw [admissible, List.filter_append, List.filter_singleton]
  by_cases haccepts : accepts compile text = true
  · simp only [haccepts, cond_true, true_and]
    rw [eraseDups_concat]
    by_cases hmem : text ∈ history <;>
    simp [admissible, haccepts, hmem]
  · simp [admissible, haccepts]

/-- An empty store is what no patterns leave. -/
theorem holds_ofCapacity (compile : String → Except ε ρ) (capacity : Nat) :
    (ofCapacity capacity).Holds compile [] where
  faithful := nofun
  texts := List.take_nil.symm

namespace Holds

/-- The number of patterns kept is that of the admissible ones, up to the capacity. -/
theorem size_eq (h : c.Holds compile history) :
    c.size = min c.capacity (admissible compile history).length := by
  rw [← length_texts, h.texts, List.length_take]

/-- **One more pattern**: a store that is asked for it is what the longer history leaves. -/
theorem fetch (h : c.Holds compile history) (text : String) :
    (c.fetch compile text).2.Holds compile (history ++ [text]) := by
  refine ⟨h.faithful.fetch text, ?_⟩
  rw [admissible_concat, capacity_fetch]
  rcases fetch_cases compile c text with ⟨_, hfind, hfetch⟩ | ⟨_, -, hcompile, hfetch⟩
      | ⟨compiled, hfind, hcompile, hfetch⟩
  · -- what is found is admissible already
    have hmem : text ∈ c.texts := by
      by_contra hmem
      rw [find?_eq_none_iff.mpr hmem] at hfind
      cases hfind
    rw [h.texts] at hmem
    have hold := (mem_admissible_iff.mp (List.mem_of_mem_take hmem)).1
    rw [hfetch, if_neg fun hnew => hnew.2 hold, List.append_nil, h.texts]
  · -- a pattern that fails changes nothing
    rw [hfetch, accepts_of_error hcompile, if_neg (by simp), List.append_nil, h.texts]
  · have haccepts := accepts_of_ok hcompile
    have hsize := h.size_eq
    rw [hfetch, PatternCache.texts, entries_keep, List.map_append, ← PatternCache.texts, h.texts]
    by_cases hroom : c.size < c.capacity
    · -- there is room, so all that is admissible is kept, and this pattern is not
      have hlength : (admissible compile history).length < c.capacity := by omega
      have hnew : text ∉ history := by
        intro hold
        rw [find?_eq_none_iff, h.texts, List.take_of_length_le hlength.le] at hfind
        exact hfind (mem_admissible_iff.mpr ⟨hold, haccepts⟩)
      rw [if_pos hroom, if_pos ⟨haccepts, hnew⟩, take_concat, if_pos hlength,
        List.map_singleton]
    · have hfull : c.capacity ≤ (admissible compile history).length := by omega
      rw [if_neg hroom, List.map_nil, List.append_nil, List.take_append_of_le_length hfull]

/-- **Any number of patterns.** -/
theorem fetchAll (h : c.Holds compile history) (texts : List String) :
    (c.fetchAll compile texts).2.Holds compile (history ++ texts) := by
  induction texts generalizing c history with
  | nil => rwa [List.append_nil]
  | cons text texts ih =>
    rw [List.append_cons]
    exact ih (h.fetch text)

/-- Every pattern is answered with what compiling it gives. -/
theorem fetchAll_fst (h : c.Holds compile history) (texts : List String) :
    (c.fetchAll compile texts).1 = texts.map compile := by
  induction texts generalizing c history with
  | nil => rfl
  | cons text texts ih =>
    rw [List.map_cons, ← h.faithful.fetch_fst text, ← ih (h.fetch text)]
    rfl

end Holds

@[simp] theorem capacity_fetchAll (compile : String → Except ε ρ) (c : PatternCache ρ)
    (texts : List String) : (c.fetchAll compile texts).2.capacity = c.capacity := by
  induction texts generalizing c with
  | nil => rfl
  | cons text texts ih => exact (ih _).trans (capacity_fetch compile c text)

/-- Stores of one capacity that hold the same texts of what compiling gives are the same. -/
theorem eq_of_texts {d : PatternCache ρ} (hc : c.Faithful compile) (hd : d.Faithful compile)
    (hcapacity : c.capacity = d.capacity) (htexts : c.texts = d.texts) : c = d := by
  obtain ⟨n, es⟩ := c
  obtain ⟨m, fs⟩ := d
  dsimp only [texts] at hcapacity htexts
  subst hcapacity
  congr 1
  -- an entry is told by its text, since compiling tells the rest
  have hcompiled {es : List (String × ρ)} (h : Faithful compile ⟨n, es⟩) :
      es.map (fun p => (p.1, Except.ok (ε := ε) p.2))
        = (es.map Prod.fst).map fun text => (text, compile text) := by
    rw [List.map_map]
    exact List.map_congr_left fun p hp => by rw [Function.comp, h p.1 p.2 hp]
  have hmap : es.map (fun p => (p.1, Except.ok (ε := ε) p.2))
      = fs.map fun p => (p.1, .ok p.2) := by
    rw [hcompiled hc, hcompiled hd, htexts]
  refine List.map_injective_iff.mpr (fun p q hpq => ?_) hmap
  obtain ⟨htext, hanswer⟩ := Prod.mk.inj hpq
  exact Prod.ext htext (Except.ok.inj hanswer)

/-- A store keeps as many patterns as are accepted and differ, up to its capacity. -/
theorem size_fetchAll (compile : String → Except ε ρ) (capacity : Nat) (texts : List String) :
    ((ofCapacity capacity).fetchAll compile texts).2.size
      = min capacity (texts.filter (accepts compile)).toFinset.card := by
  have h := (holds_ofCapacity compile capacity).fetchAll texts
  rw [List.nil_append] at h
  rw [h.size_eq, capacity_fetchAll, admissible, length_eraseDups]
  rfl

/-- **A store of patterns is transparent and bounded**, however patterns are compiled. Each
pattern is answered with what compiling it gives, whatever came before. The store holds the first
accepted patterns, none twice and no more than its capacity, and of each what compiling gives; so
its size is the number of different accepted patterns, up to the capacity, and it never decreases.
Patterns that are not accepted make no difference to what it holds. -/
theorem fetchAll_transparent (compile : String → Except ε ρ) (capacity : Nat)
    (texts : List String) :
    let (answers, c) := (ofCapacity capacity).fetchAll compile texts
    answers = texts.map compile
      ∧ c.texts = ((texts.filter (accepts compile)).eraseDups).take capacity
      ∧ (∀ text compiled, (text, compiled) ∈ c.entries → compile text = .ok compiled)
      ∧ c.size = min capacity (texts.filter (accepts compile)).toFinset.card
      ∧ (∀ n, ((ofCapacity capacity).fetchAll compile (texts.take n)).2.size ≤ c.size)
      ∧ ((ofCapacity capacity).fetchAll compile (texts.filter (accepts compile))).2 = c := by
  have hempty := holds_ofCapacity compile capacity
  have hall := hempty.fetchAll texts
  have haccepted := hempty.fetchAll (texts.filter (accepts compile))
  rw [List.nil_append] at hall haccepted
  refine ⟨hempty.fetchAll_fst texts, ?_, hall.faithful, size_fetchAll compile capacity texts,
    fun n => ?_, eq_of_texts haccepted.faithful hall.faithful ?_ ?_⟩
  · rw [hall.texts, capacity_fetchAll]
    rfl
  · rw [size_fetchAll, size_fetchAll]
    -- the patterns of a beginning are among all of them
    refine min_le_min_left capacity (Finset.card_le_card fun text htext => ?_)
    rw [List.mem_toFinset, List.mem_filter] at htext ⊢
    exact ⟨List.mem_of_mem_take htext.1, htext.2⟩
  · rw [capacity_fetchAll, capacity_fetchAll]
  · rw [hall.texts, haccepted.texts, capacity_fetchAll, capacity_fetchAll, admissible, admissible,
      List.filter_filter]
    simp only [Bool.and_self]

end PatternCache

end JsonQuery
