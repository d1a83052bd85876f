import DataBinding.Binding.Basic
import DataBinding.Binding.Parser
import DataBinding.CommandLine
import DataBinding.Document
import DataBinding.Engine.Basic
import DataBinding.Engine.Bindings
import DataBinding.Engine.Dependencies
import DataBinding.Engine.Dispatch
import DataBinding.Engine.Observers
import DataBinding.Engine.Options
import DataBinding.Engine.Rendering
import DataBinding.Filter.Basic
import DataBinding.Filter.Builtin
import DataBinding.Filter.Clause
import DataBinding.Filter.Replacement
import DataBinding.Json.Basic
import DataBinding.Json.Decode
import DataBinding.Json.Inspect
import DataBinding.Json.Print
import DataBinding.Json.Tree
import DataBinding.Main
import DataBinding.Markup.Basic
import DataBinding.Markup.OfJson
import DataBinding.Number.Binary
import DataBinding.Number.Decimal
import DataBinding.Path.Basic
import DataBinding.Path.Growth
import DataBinding.Path.Numeral
import DataBinding.Path.Store
import DataBinding.Path.Trie
import DataBinding.Pattern.Basic
import DataBinding.Pattern.Class
import DataBinding.Pattern.Form
import DataBinding.Pattern.Parser
import DataBinding.Pattern.Program
import DataBinding.Pattern.Property
import DataBinding.Pattern.Property.Break
import DataBinding.Pattern.Property.Case
import DataBinding.Pattern.Property.Emoji
import DataBinding.Pattern.Property.Identifier
import DataBinding.Pattern.Property.Ideograph
import DataBinding.Pattern.Property.Mark
import DataBinding.Pattern.Property.Script
import DataBinding.Pattern.Property.ScriptExtension
import DataBinding.Pattern.Property.Sign
import DataBinding.Pattern.Repertoire
import DataBinding.Pattern.Search
import DataBinding.Pattern.Size
import DataBinding.Template
import DataBinding.Text.Blank
import DataBinding.Text.Case
import DataBinding.Text.Category
import DataBinding.Text.Category.Letter
import DataBinding.Text.Category.Mark
import DataBinding.Text.Category.Numeral
import DataBinding.Text.Category.Punctuation
import DataBinding.Text.Category.Separator
import DataBinding.Text.Category.Symbol
import DataBinding.Text.CharSet
import DataBinding.Text.Fold
import DataBinding.Text.Pieces
import DataBinding.Text.Property
import DataBinding.Text.Quoted
import DataBinding.Text.Span
import DataBinding.Text.Utf8
import DataBinding.Text.Version
import DataBinding.Proofs.Text.Blank
import DataBinding.Proofs.Text.Offset
import DataBinding.Proofs.Pattern.Groups
import DataBinding.Proofs.Pattern.Matches
import DataBinding.Proofs.Pattern.Splice
import DataBinding.Proofs.Path.Segment
import DataBinding.Proofs.Path.Related
import DataBinding.Proofs.Path.Frame
import DataBinding.Proofs.Path.Overwrite
import DataBinding.Proofs.Json.Rearranged
import DataBinding.Proofs.Path.Commute
import DataBinding.Proofs.Path.InPlace
import DataBinding.Proofs.Path.Trie
import DataBinding.Proofs.Path.Order
import DataBinding.Proofs.Path.Index
import DataBinding.Proofs.Binding.Grammar
import DataBinding.Proofs.Binding.Property
import DataBinding.Proofs.Binding.Chain
import DataBinding.Proofs.Binding.Spelling
import DataBinding.Proofs.Text.Trim
import DataBinding.Proofs.Binding.Attribute
import DataBinding.Proofs.Binding.Plain
import DataBinding.Proofs.Binding.Cursor
import DataBinding.Proofs.Binding.Fault
import DataBinding.Proofs.Filter.Chain
import DataBinding.Proofs.Filter.Handlers
import DataBinding.Proofs.Filter.Expansion
import DataBinding.Proofs.Filter.Safety
import DataBinding.Proofs.Engine.Cycle
import DataBinding.Proofs.Engine.Observers
import DataBinding.Proofs.Engine.Notification
import DataBinding.Proofs.Engine.Bindings
import DataBinding.Proofs.Engine.Run
import DataBinding.Proofs.Engine.History
import DataBinding.Proofs.Engine.Render
import DataBinding.Proofs.Engine.Equivalent
import DataBinding.Proofs.Engine.Refresh
import DataBinding.Proofs.Engine.Notes
import DataBinding.Proofs.Engine.Sync
import DataBinding.Proofs.Engine.Propagation
import DataBinding.Proofs.Engine.Computed
import DataBinding.Proofs.Engine.Acceptance
import DataBinding.Proofs.Engine.Machine
import DataBinding.Proofs.Engine.Halting
import DataBinding.Proofs.Engine.Depth
import DataBinding.Proofs.Engine.Cascade
import DataBinding.Proofs.Engine.Nesting
import DataBinding.Proofs.Engine.Passage
import DataBinding.Proofs.Engine.Invocation
import DataBinding.Proofs.Engine.Plan
import DataBinding.Proofs.Engine.Lockstep
import DataBinding.Proofs.Engine.Independence
import DataBinding.Proofs.Engine.Registry
import DataBinding.Proofs.Engine.Declaration
import DataBinding.Proofs.Engine.Index
import DataBinding.Proofs.Engine.Rerender
import DataBinding.Proofs.Json.Members
import DataBinding.Proofs.Markup.Table
import DataBinding.Proofs.Markup.Links
import DataBinding.Proofs.Markup.Notation
import DataBinding.Proofs.Markup.Forest
import DataBinding.Proofs.Markup.Serialize
import DataBinding.Proofs.Markup.Walk
import DataBinding.Proofs.Markup.Tag
import DataBinding.Proofs.Markup.Building
import DataBinding.Proofs.Markup.Face
import DataBinding.Proofs.Markup.Content
import DataBinding.Proofs.Markup.Unattached
import DataBinding.Proofs.Markup.Stray
import DataBinding.Proofs.Markup.Loop
import DataBinding.Proofs.Engine.Ending
import DataBinding.Proofs.Template.Shown
import DataBinding.Proofs.Template.Scan
import DataBinding.Proofs.Template.Fill
import DataBinding.Proofs.Template.Order
import DataBinding.Proofs.Template.Rescan
import DataBinding.Proofs.Template.Stateful
import DataBinding.Proofs.Path.Text
import DataBinding.Proofs.Path.Subtree
import DataBinding.Proofs.Path.Growth
import DataBinding.Proofs.Path.Beside
import DataBinding.Proofs.Path.Numeral
import DataBinding.Proofs.Filter.Replacement
import DataBinding.Proofs.Text.Pieces
import DataBinding.Proofs.Filter.Delimiter
import DataBinding.Proofs.Markup.Entity
