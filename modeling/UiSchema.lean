import UiSchema.Binding
import UiSchema.Cache
import UiSchema.DataField
import UiSchema.Decimal.Binary64
import UiSchema.Decimal.Layout
import UiSchema.Decimal.Reading
import UiSchema.Decimal.Shortest
import UiSchema.Decode
import UiSchema.Decode.NumberText
import UiSchema.Decode.Scalar
import UiSchema.Digest
import UiSchema.Digest.Bytes
import UiSchema.Digest.Sha256
import UiSchema.Digest.Xxh64
import UiSchema.Entries
import UiSchema.Json
import UiSchema.Json.Block
import UiSchema.Json.Format
import UiSchema.Json.Load
import UiSchema.Json.Numeral
import UiSchema.Json.Reader
import UiSchema.Json.Repair
import UiSchema.Json.Repair.Content
import UiSchema.Json.Repair.Cursor
import UiSchema.Json.Repair.Quote
import UiSchema.Json.Repair.Table
import UiSchema.Json.Repair.Text
import UiSchema.Json.Token
import UiSchema.Layer.Merge
import UiSchema.Layer.Template
import UiSchema.Outcome
import UiSchema.Path
import UiSchema.Path.Parser
import UiSchema.Prompt.Builder
import UiSchema.Prompt.Meter
import UiSchema.Prompt.Options
import UiSchema.Prompt.Sections
import UiSchema.Proofs.Binding.Around
import UiSchema.Proofs.Binding.Idempotent
import UiSchema.Proofs.Binding.Pieces
import UiSchema.Proofs.Binding.Shown
import UiSchema.Proofs.Binding.Single
import UiSchema.Proofs.Cache.Inclusion
import UiSchema.Proofs.Cache.Latest
import UiSchema.Proofs.Cache.Ledger
import UiSchema.Proofs.Cache.Membership
import UiSchema.Proofs.Cache.Recency
import UiSchema.Proofs.Cache.Run
import UiSchema.Proofs.DataField.Complete
import UiSchema.Proofs.Decimal.PositiveProduct
import UiSchema.Proofs.Decimal.Spelling
import UiSchema.Proofs.Digest.Canonical
import UiSchema.Proofs.Digest.KeyOrder
import UiSchema.Proofs.Json.Bracketed
import UiSchema.Proofs.Json.Clean
import UiSchema.Proofs.Json.Cut
import UiSchema.Proofs.Json.Distinct
import UiSchema.Proofs.Json.Embedded
import UiSchema.Proofs.Json.Fence
import UiSchema.Proofs.Json.Grammar
import UiSchema.Proofs.Json.Ints
import UiSchema.Proofs.Json.Lossless
import UiSchema.Proofs.Json.Numeral
import UiSchema.Proofs.Json.Placed
import UiSchema.Proofs.Json.Reading
import UiSchema.Proofs.Json.RoundTrip
import UiSchema.Proofs.Json.Same
import UiSchema.Proofs.Json.Span
import UiSchema.Proofs.Json.Tokens
import UiSchema.Proofs.Json.Unambiguous
import UiSchema.Proofs.Json.Written
import UiSchema.Proofs.Layer.DeepMerge
import UiSchema.Proofs.Layer.ExplicitNull
import UiSchema.Proofs.Layer.InlineMap
import UiSchema.Proofs.Layer.Precedence
import UiSchema.Proofs.Layer.Reapplied
import UiSchema.Proofs.Layer.Registered
import UiSchema.Proofs.Layer.Validity
import UiSchema.Proofs.Outcome
import UiSchema.Proofs.Path.Followed
import UiSchema.Proofs.Path.Grammar
import UiSchema.Proofs.Path.Overlong
import UiSchema.Proofs.Path.Parser
import UiSchema.Proofs.Path.Position
import UiSchema.Proofs.Path.Resolved
import UiSchema.Proofs.Path.Written
import UiSchema.Proofs.Prompt.Budget
import UiSchema.Proofs.Prompt.Cached
import UiSchema.Proofs.Prompt.Feasible
import UiSchema.Proofs.Prompt.Kept
import UiSchema.Proofs.Prompt.Key
import UiSchema.Proofs.Prompt.Settled
import UiSchema.Proofs.Render.Alike
import UiSchema.Proofs.Render.Instances
import UiSchema.Proofs.Render.Lookups
import UiSchema.Proofs.Render.Malformed
import UiSchema.Proofs.Render.Modest
import UiSchema.Proofs.Render.Places
import UiSchema.Proofs.Render.Preorder
import UiSchema.Proofs.Render.Props
import UiSchema.Proofs.Render.Related
import UiSchema.Proofs.Render.Scoping
import UiSchema.Proofs.Render.Siblings
import UiSchema.Proofs.Render.Signals
import UiSchema.Proofs.Render.Total
import UiSchema.Proofs.Render.Variables
import UiSchema.Proofs.Render.Walk
import UiSchema.Proofs.Schema.Check
import UiSchema.Proofs.Schema.Decode
import UiSchema.Proofs.Schema.Duplicates
import UiSchema.Proofs.Schema.Faithful
import UiSchema.Proofs.Schema.Keyed
import UiSchema.Proofs.Schema.Returns
import UiSchema.Proofs.Schema.RoundTrip
import UiSchema.Proofs.Schema.Safety
import UiSchema.Proofs.Schema.Tree
import UiSchema.Proofs.Schema.WellFormed
import UiSchema.Proofs.Schema.Wire
import UiSchema.Proofs.Stream.Calls
import UiSchema.Proofs.Stream.Fenced
import UiSchema.Proofs.Stream.Latest
import UiSchema.Proofs.Stream.Returns
import UiSchema.Proofs.Text.Blank
import UiSchema.Proofs.Theme.Activation
import UiSchema.Proofs.Theme.History
import UiSchema.Proofs.Theme.Subscriptions
import UiSchema.Registry
import UiSchema.Registry.Definition
import UiSchema.Render
import UiSchema.Render.Node
import UiSchema.Render.Props
import UiSchema.Schema
import UiSchema.Schema.Check
import UiSchema.Schema.Component
import UiSchema.Schema.Issue
import UiSchema.Schema.Load
import UiSchema.Schema.Style
import UiSchema.Settings
import UiSchema.Stream
import UiSchema.Text.Blank
import UiSchema.Text.Case
import UiSchema.Text.CaseTable
import UiSchema.Text.Letter
import UiSchema.Text.Number
import UiSchema.Text.Printable
import UiSchema.Text.Quoted
import UiSchema.Text.Ranges
import UiSchema.Theme.Builtin
import UiSchema.Theme.Builtin.Components
import UiSchema.Theme.Builtin.Examples
import UiSchema.Theme.Builtin.Prompts
import UiSchema.Theme.Manager
import UiSchema.Theme.Pack
