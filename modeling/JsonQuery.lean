import JsonQuery.Function.Kind
import JsonQuery.Function.Registry
import JsonQuery.Function.Signature
import JsonQuery.Function.Standard
import JsonQuery.Grammar.Compiler
import JsonQuery.Grammar.Error
import JsonQuery.Grammar.Filter
import JsonQuery.Grammar.Rule
import JsonQuery.Grammar.Selection
import JsonQuery.Json.Basic
import JsonQuery.Json.Ordered
import JsonQuery.Json.Printer
import JsonQuery.Json.Reader
import JsonQuery.Location.Basic
import JsonQuery.Location.Pointer
import JsonQuery.Marshal
import JsonQuery.Number.Binary64
import JsonQuery.Number.Decimal
import JsonQuery.Proofs.Function.Calling
import JsonQuery.Proofs.Function.Contract
import JsonQuery.Proofs.Function.History
import JsonQuery.Proofs.Function.Registration
import JsonQuery.Proofs.Grammar.Acceptance
import JsonQuery.Proofs.Grammar.Argument
import JsonQuery.Proofs.Grammar.Blame
import JsonQuery.Proofs.Grammar.Canonical
import JsonQuery.Proofs.Grammar.Completeness.Filter
import JsonQuery.Proofs.Grammar.Completeness.Selection
import JsonQuery.Proofs.Grammar.Derivation
import JsonQuery.Proofs.Grammar.Lookahead
import JsonQuery.Proofs.Grammar.Rendering
import JsonQuery.Proofs.Grammar.Soundness.Filter
import JsonQuery.Proofs.Grammar.Soundness.Selection
import JsonQuery.Proofs.Grammar.Widening
import JsonQuery.Proofs.Json.Keys
import JsonQuery.Proofs.Location.Children
import JsonQuery.Proofs.Location.NormalizedPath
import JsonQuery.Proofs.Location.Order
import JsonQuery.Proofs.Location.Pointer
import JsonQuery.Proofs.Marshal
import JsonQuery.Proofs.Number.Layout
import JsonQuery.Proofs.Number.Literal
import JsonQuery.Proofs.Number.Shortest
import JsonQuery.Proofs.Number.Spelling
import JsonQuery.Proofs.Outcome
import JsonQuery.Proofs.Query.Equality
import JsonQuery.Proofs.Query.Typing
import JsonQuery.Proofs.Query.WellFormed
import JsonQuery.Proofs.Query.ZeroSign
import JsonQuery.Proofs.Regex.Cache
import JsonQuery.Proofs.Regex.Dialect
import JsonQuery.Proofs.Regex.Engine
import JsonQuery.Proofs.Regex.Interoperable.Adapting
import JsonQuery.Proofs.Regex.Interoperable.Matching
import JsonQuery.Proofs.Regex.Interoperable.Stability
import JsonQuery.Proofs.Regex.Language
import JsonQuery.Proofs.Regex.Reference.Anchoring
import JsonQuery.Proofs.Regex.Reference.ClassReading
import JsonQuery.Proofs.Regex.Reference.Denotes
import JsonQuery.Proofs.Regex.Reference.Locality.Class
import JsonQuery.Proofs.Regex.Reference.Locality.Escape
import JsonQuery.Proofs.Regex.Reference.Locality.Pattern
import JsonQuery.Proofs.Regex.Reference.Meaning
import JsonQuery.Proofs.Regex.Reference.Promises
import JsonQuery.Proofs.Regex.Reference.Reading
import JsonQuery.Proofs.Regex.Reference.Spans
import JsonQuery.Proofs.Select.Agreement
import JsonQuery.Proofs.Select.Comparison
import JsonQuery.Proofs.Select.Composition
import JsonQuery.Proofs.Select.Counting
import JsonQuery.Proofs.Select.Descent
import JsonQuery.Proofs.Select.Equality
import JsonQuery.Proofs.Select.Overlap
import JsonQuery.Proofs.Select.Passes
import JsonQuery.Proofs.Select.Picks
import JsonQuery.Proofs.Select.Preorder
import JsonQuery.Proofs.Select.Progress
import JsonQuery.Proofs.Select.Reach
import JsonQuery.Proofs.Select.Root
import JsonQuery.Proofs.Select.Singular
import JsonQuery.Proofs.Select.Slice
import JsonQuery.Proofs.Text.Run
import JsonQuery.Proofs.Token.Legible
import JsonQuery.Proofs.Token.Position
import JsonQuery.Proofs.Token.Quoting
import JsonQuery.Proofs.Token.Span
import JsonQuery.Proofs.Token.Spelling
import JsonQuery.Proofs.Token.StringLiteral
import JsonQuery.Proofs.Token.Tiling
import JsonQuery.Query.Basic
import JsonQuery.Query.Equality
import JsonQuery.Query.Nesting
import JsonQuery.Query.Printer
import JsonQuery.Regex.Cache
import JsonQuery.Regex.Engine
import JsonQuery.Regex.Interoperable
import JsonQuery.Regex.Reference.Compile
import JsonQuery.Regex.Reference.Matcher
import JsonQuery.Regex.Reference.Pattern
import JsonQuery.Regex.Reference.Reader
import JsonQuery.Select.Comparison
import JsonQuery.Select.Located
import JsonQuery.Select.Nodes
import JsonQuery.Select.Slice
import JsonQuery.Text.Cursor
import JsonQuery.Text.Quoted
import JsonQuery.Text.Visible
import JsonQuery.Token.Basic
import JsonQuery.Token.Scan
import JsonQuery.Unicode.CaseChange
import JsonQuery.Unicode.CaseFolding
import JsonQuery.Unicode.Category
import JsonQuery.Unicode.CharSet
import JsonQuery.Unicode.Display
import JsonQuery.Unicode.Emoji
import JsonQuery.Unicode.Identifier
import JsonQuery.Unicode.Letter
import JsonQuery.Unicode.Mark
import JsonQuery.Unicode.Numeric
import JsonQuery.Unicode.Property
import JsonQuery.Unicode.Punctuation
import JsonQuery.Unicode.Script
import JsonQuery.Unicode.ScriptExtension
import JsonQuery.Unicode.Separator
import JsonQuery.Unicode.Symbol
import JsonQuery.Unicode.Word
import JsonQuery.Unicode.Writing
