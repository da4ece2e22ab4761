/-
A bounded store of compiled patterns.

A pattern that is asked for again is answered from the store. The store never
drops a pattern: once it is full, further patterns are compiled and not kept.
Patterns that are not accepted are never kept. How a pattern is compiled is up to the
one who asks.
-/

set_option autoImplicit false

namespace JsonQuery

/-- A store of at most `capacity` compiled patterns, each with its text. -/
structure PatternCache (ρ : Type) where
  capacity : Nat
  entries : List (String × ρ)
deriving Inhabited

namespace PatternCache

/-- The capacity unless another one is asked for. -/
def defaultCapacity : Nat := 32

variable {ρ ε : Type}

/-- A store without patterns. -/
def ofCapacity (capacity : Nat) : PatternCache ρ := ⟨capacity, []⟩

/-- The number of patterns that are kept. -/
def size (c : PatternCache ρ) : Nat := c.entries.length

/-- Whether no pattern is kept. -/
def isEmpty (c : PatternCache ρ) : Bool := c.size == 0

/-- What is kept for a pattern. -/
def find? (c : PatternCache ρ) (text : String) : Option ρ := c.entries.lookup text

/-- Keeps a compiled pattern if there is room. -/
def keep (c : PatternCache ρ) (text : String) (compiled : ρ) : PatternCache ρ :=
  if c.size < c.capacity then { c with entries := c.entries ++ [(text, compiled)] } else c

/-- **The compiled form of a pattern**, and the store afterwards. -/
def fetch (compile : String → Except ε ρ) (c : PatternCache ρ) (text : String) :
    Except ε ρ × PatternCache ρ :=
  match c.find? text with
  | some compiled => (.ok compiled, c)
  | none =>
    match compile text with
    | .ok compiled => (.ok compiled, c.keep text compiled)
    | .error e => (.error e, c)

/-- The compiled forms of patterns, fetched one after the other, and the store
afterwards. -/
def fetchAll (compile : String → Except ε ρ) (c : PatternCache ρ) :
    List String → List (Except ε ρ) × PatternCache ρ
  | [] => ([], c)
  | text :: texts =>
    let (result, c) := c.fetch compile text
    let (results, c) := c.fetchAll compile texts
    (result :: results, c)

end PatternCache

end JsonQuery
