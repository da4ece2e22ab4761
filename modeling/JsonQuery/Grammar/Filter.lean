import JsonQuery.Grammar.Selection

/-
Filter formulas.

A query, a call or a literal is read before it is known what it is: a condition
of its own, a side of a comparison, or an argument. What follows decides, and the
kinds that the context demands are checked then.
-/

set_option autoImplicit false

namespace JsonQuery

/-! ## Literals -/

/-- The value of a number literal. `-0` is the negative zero of binary64. -/
def numberLiteral (n : Numeral) (position : Nat) : Except ParseError Json :=
  if n.isNegativeZero then .ok (.number (.float (.zero true)))
  else if n.isInteger then do
    let i ← integerOf n position
    return .number (.integer i.toInt)
  else match Binary64.ofDecimal n.toDecimal with
    | some x => .ok (.number (.float x))
    | none => .error ⟨.outOfRange (String.ofList n.text), position⟩

/-- **A literal**: a string, a number, `true`, `false` or `null`. -/
def literal (ctx : Context) : Rule Json := fun ts =>
  let (t, rest) := ctx.next ts
  match t.lexeme with
  | .string s => .ok (.string s, rest)
  | .keyword .yes => .ok (.bool true, rest)
  | .keyword .no => .ok (.bool false, rest)
  | .keyword .null => .ok (.null, rest)
  | .numeral n => do
    let v ← numberLiteral n t.position
    return (v, rest)
  | _ => ctx.unexpected ts

/-! ## Calls -/

/-- The arguments after an opening parenthesis, through the closing one. -/
def callArguments (ctx : Context) (rules : Nested) : Rule (List Argument) := fun ts =>
  let ts := skipBlank ts
  if ctx.nextIs ')' ts then .ok ([], ts.tail)
  else delimited ctx ')' rules.argument (ts.length + 1) ts

/-- **A call.** The name is looked up before the arguments are read, the arguments
are one level of nesting, and they are checked when all of them are read. -/
def call (ctx : Context) (deeper : Option Nested) : Rule Call := fun ts => do
  let (t, rest) := ctx.next ts
  if ctx.nextIs '(' rest then
    match ctx.registry.lookup t.lexeme.text with
    | none => throw ⟨.unknownFunction t.lexeme.text, t.position⟩
    | some f =>
      let rules ← ctx.enter deeper t.position
      let (arguments, rest) ← callArguments ctx rules rest.tail
      match f.validate arguments with
      | .ok _ => return (.mk f.callee arguments, rest)
      | .error message => throw ⟨.functionArgument message, t.position⟩
  else throw (.ofToken t)

/-! ## Comparisons -/

/-- A query embedded in a formula, anchor included. -/
def embeddedQuery (ctx : Context) (deeper : Option Nested) : Rule Query := fun ts =>
  let (t, rest) := ctx.next ts
  queryFrom ctx deeper (if t.is '$' then .root else .current) rest

/-- Whether a comparison operator follows. A lone `=` counts, so that it is
reported where it stands. -/
def atComparison (ctx : Context) (ts : List Token) : Bool :=
  match (ctx.peek ts).lexeme with
  | .punctuation '=' | .punctuation '<' | .punctuation '>' => true
  | .punctuation '!' => ctx.nextIs '=' ts.tail
  | _ => false

/-- Whether `&&` or `||` follows. -/
def atLogicalOperator (ctx : Context) (ts : List Token) : Bool :=
  ctx.nextIsTwice '&' ts || ctx.nextIsTwice '|' ts

/-- A query as a side of a comparison: it has to be singular. -/
def queryOperand (q : Query) (position : Nat) : Except ParseError Operand :=
  match q.singular? with
  | some s => .ok (.singular s)
  | none => .error ⟨.nonSingularQuery, position⟩

/-- A call as a side of a comparison: it has to answer a value. -/
def callOperand (c : Call) (position : Nat) : Except ParseError Operand :=
  if c.result = .value then .ok (.call c)
  else .error ⟨.notComparable c.callee.name, position⟩

/-- A comparison operator. -/
def comparator (ctx : Context) : Rule Comparator := fun ts =>
  let (t, rest) := ctx.next (skipBlank ts)
  let doubled := ctx.nextIs '=' rest
  match t.lexeme with
  | .punctuation '=' => if doubled then .ok (.eq, rest.tail) else .error (.ofToken t)
  | .punctuation '!' => if doubled then .ok (.ne, rest.tail) else .error (.ofToken t)
  | .punctuation '<' => if doubled then .ok (.le, rest.tail) else .ok (.lt, rest)
  | .punctuation '>' => if doubled then .ok (.ge, rest.tail) else .ok (.gt, rest)
  | _ => .error (.ofToken t)

/-- **A side of a comparison.** -/
def operand (ctx : Context) (deeper : Option Nested) : Rule Operand := fun ts =>
  let ts := skipBlank ts
  let t := ctx.peek ts
  if t.lexeme.isQueryStart then do
    let (q, ts) ← embeddedQuery ctx deeper ts
    let o ← queryOperand q t.position
    return (o, ts)
  else match t.lexeme with
    | .identifier _ => do
      let (c, ts) ← call ctx deeper ts
      let o ← callOperand c t.position
      return (o, ts)
    | _ => do
      let (v, ts) ← literal ctx ts
      return (.literal v, ts)

/-- The comparison of a left side that is read already. -/
def comparison (ctx : Context) (deeper : Option Nested) (left : Operand) : Rule Condition :=
  fun ts => do
    let (op, ts) ← comparator ctx ts
    let (right, ts) ← operand ctx deeper ts
    return (.compare left op right, ts)

/-! ## Conditions -/

/-- A formula in parentheses, which is one level of nesting. -/
def group (ctx : Context) (deeper : Option Nested) : Rule Formula := fun ts => do
  let (t, ts) ← ctx.expect '(' ts
  let rules ← ctx.enter deeper t.position
  let (f, ts) ← rules.formula (skipBlank ts)
  let (_, ts) ← ctx.expect ')' (skipBlank ts)
  return (f, ts)

/-- A call as a condition: it has to answer true or false, or nodes. -/
def callCondition (c : Call) (position : Nat) : Except ParseError Condition :=
  if c.result = .value then .error ⟨.missingComparison, position⟩
  else .ok (.call false c)

/-- What `!` negates: a group, a query or a call that answers no value. -/
def negated (ctx : Context) (deeper : Option Nested) : Rule Condition := fun ts =>
  let t := ctx.peek ts
  if t.is '(' then do
    let (f, ts) ← group ctx deeper ts
    return (.group true f, ts)
  else if t.lexeme.isQueryStart then do
    let (q, ts) ← embeddedQuery ctx deeper ts
    return (.query true q, ts)
  else match t.lexeme with
    | .identifier _ => do
      let (c, ts) ← call ctx deeper ts
      if c.result = .value then throw ⟨.notLogical c.callee.name, t.position⟩
      else return (.call true c, ts)
    | _ => ctx.unexpected ts

/-- **A condition.** A literal is none: it has to be compared. -/
def condition (ctx : Context) (deeper : Option Nested) : Rule Condition := fun ts =>
  let ts := skipBlank ts
  let t := ctx.peek ts
  if t.is '!' then negated ctx deeper (skipBlank ts.tail)
  else if t.is '(' then do
    let (f, ts) ← group ctx deeper ts
    return (.group false f, ts)
  else if t.lexeme.isQueryStart then do
    let (q, ts) ← embeddedQuery ctx deeper ts
    let ts := skipBlank ts
    if atComparison ctx ts then
      let left ← queryOperand q t.position
      comparison ctx deeper left ts
    else return (.query false q, ts)
  else match t.lexeme with
    | .identifier _ => do
      let (c, ts) ← call ctx deeper ts
      let ts := skipBlank ts
      if atComparison ctx ts then
        let left ← callOperand c t.position
        comparison ctx deeper left ts
      else
        let test ← callCondition c t.position
        return (test, ts)
    | _ => do
      let (v, ts) ← literal ctx ts
      comparison ctx deeper (.literal v) ts

/-! ## Formulas -/

/-- A conjunction whose first condition is read already. -/
def conjunctionFrom (ctx : Context) (deeper : Option Nested) (first : Condition) :
    Rule (List Condition) := fun ts =>
  chained ctx '&' (condition ctx deeper) (ts.length + 1) first ts

/-- A conjunction. -/
def conjunction (ctx : Context) (deeper : Option Nested) : Rule (List Condition) := fun ts => do
  let (first, ts) ← condition ctx deeper ts
  conjunctionFrom ctx deeper first ts

/-- A formula whose first condition is read already. -/
def formulaFrom (ctx : Context) (deeper : Option Nested) (first : Condition) :
    Rule Formula := fun ts => do
  let (c, ts) ← conjunctionFrom ctx deeper first ts
  chained ctx '|' (conjunction ctx deeper) (ts.length + 1) c ts

/-- **A formula.** -/
def formula (ctx : Context) (deeper : Option Nested) : Rule Formula := fun ts => do
  let (first, ts) ← condition ctx deeper ts
  formulaFrom ctx deeper first ts

/-! ## Arguments -/

/-- The argument that is a formula with a first condition. -/
def formulaArgument (ctx : Context) (deeper : Option Nested) (first : Condition) :
    Rule Argument := fun ts => do
  let (f, ts) ← formulaFrom ctx deeper first ts
  return (.formula f, ts)

/-- The argument that is a query alone, in its singular form if it has one. -/
def queryArgument (q : Query) : Argument :=
  match q.singular? with
  | some s => .singular s
  | none => .query q

/-- **An argument.** A literal, a query or a call is passed as it is, unless an
operator follows and makes it the beginning of a formula. -/
def argument (ctx : Context) (deeper : Option Nested) : Rule Argument := fun ts =>
  let ts := skipBlank ts
  let t := ctx.peek ts
  if t.lexeme.isQueryStart then do
    let (q, ts) ← embeddedQuery ctx deeper ts
    let ts := skipBlank ts
    if atComparison ctx ts then
      let left ← queryOperand q t.position
      let (c, ts) ← comparison ctx deeper left ts
      formulaArgument ctx deeper c ts
    else
      let ts := skipBlank ts
      if atLogicalOperator ctx ts then formulaArgument ctx deeper (.query false q) ts
      else return (queryArgument q, ts)
  else if t.lexeme.isLiteral then do
    let (v, ts) ← literal ctx ts
    let ts := skipBlank ts
    if atComparison ctx ts then
      let (c, ts) ← comparison ctx deeper (.literal v) ts
      formulaArgument ctx deeper c ts
    else return (.literal v, ts)
  else match t.lexeme with
    | .identifier _ => do
      let (c, ts) ← call ctx deeper ts
      let ts := skipBlank ts
      if atComparison ctx ts then
        let left ← callOperand c t.position
        let (c, ts) ← comparison ctx deeper left ts
        formulaArgument ctx deeper c ts
      else
        let ts := skipBlank ts
        if atLogicalOperator ctx ts then
          let test ← callCondition c t.position
          formulaArgument ctx deeper test ts
        else return (.call c, ts)
    | _ => do
      let (f, ts) ← formula ctx deeper ts
      return (.formula f, ts)

end JsonQuery
