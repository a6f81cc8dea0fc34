import TypedRoutes.Blame
import TypedRoutes.Command.Arguments
import TypedRoutes.Command.Basic
import TypedRoutes.Command.Library
import TypedRoutes.Command.Nothing
import TypedRoutes.Command.Run
import TypedRoutes.Command.Target
import TypedRoutes.Declaration.Basic
import TypedRoutes.Declaration.Body
import TypedRoutes.Declaration.Declare
import TypedRoutes.Declaration.Expression
import TypedRoutes.Declaration.FieldError
import TypedRoutes.Declaration.Fields
import TypedRoutes.Declaration.MemberName
import TypedRoutes.Declaration.Members
import TypedRoutes.Declaration.Module
import TypedRoutes.Declaration.Refusal
import TypedRoutes.Declaration.Slots
import TypedRoutes.Declaration.SpecialField
import TypedRoutes.Display.Palette
import TypedRoutes.Display.Report
import TypedRoutes.Grouped
import TypedRoutes.Main
import TypedRoutes.Mapping
import TypedRoutes.Matching.Captures
import TypedRoutes.Matching.Matcher
import TypedRoutes.Matching.Run
import TypedRoutes.Matching.Settings
import TypedRoutes.Number.Binary64
import TypedRoutes.Number.FloatText
import TypedRoutes.Number.Integer
import TypedRoutes.Number.Shortest
import TypedRoutes.Pattern.Fault
import TypedRoutes.Pattern.Lexeme
import TypedRoutes.Pattern.Lexeme.Remainder
import TypedRoutes.Pattern.Outline
import TypedRoutes.Pattern.Place
import TypedRoutes.Pattern.Reading
import TypedRoutes.Pattern.Source
import TypedRoutes.Pattern.Succession
import TypedRoutes.Pattern.Token
import TypedRoutes.Program.Assembly
import TypedRoutes.Program.Instruction
import TypedRoutes.Program.Listing
import TypedRoutes.Program.Stops
import TypedRoutes.Proofs.Declaration.Demand
import TypedRoutes.Proofs.Declaration.Growth
import TypedRoutes.Proofs.Declaration.Handout
import TypedRoutes.Proofs.Declaration.Isolation
import TypedRoutes.Proofs.Declaration.Omission
import TypedRoutes.Proofs.Declaration.Persistence
import TypedRoutes.Proofs.Declaration.Reference
import TypedRoutes.Proofs.Declaration.Selection
import TypedRoutes.Proofs.Declaration.Soundness
import TypedRoutes.Proofs.Declaration.Variants
import TypedRoutes.Proofs.Mapping
import TypedRoutes.Proofs.Matching.Attribution
import TypedRoutes.Proofs.Matching.Consumption
import TypedRoutes.Proofs.Matching.Continuation
import TypedRoutes.Proofs.Matching.Cutting
import TypedRoutes.Proofs.Matching.Delivery
import TypedRoutes.Proofs.Matching.Ending
import TypedRoutes.Proofs.Matching.LetterCase
import TypedRoutes.Proofs.Matching.Overrun
import TypedRoutes.Proofs.Matching.Parting
import TypedRoutes.Proofs.Matching.Progress
import TypedRoutes.Proofs.Matching.Propriety
import TypedRoutes.Proofs.Matching.Retelling
import TypedRoutes.Proofs.Matching.Span
import TypedRoutes.Proofs.Matching.Stopping
import TypedRoutes.Proofs.Matching.Tolerance
import TypedRoutes.Proofs.Matching.Trace
import TypedRoutes.Proofs.Matching.TrailingSlash
import TypedRoutes.Proofs.Matching.Wording
import TypedRoutes.Proofs.Number.Numeral
import TypedRoutes.Proofs.Pattern.Approach
import TypedRoutes.Proofs.Pattern.Braces
import TypedRoutes.Proofs.Pattern.Completeness
import TypedRoutes.Proofs.Pattern.Completion
import TypedRoutes.Proofs.Pattern.Count
import TypedRoutes.Proofs.Pattern.Derivation
import TypedRoutes.Proofs.Pattern.Edges
import TypedRoutes.Proofs.Pattern.Evidence
import TypedRoutes.Proofs.Pattern.Expectation
import TypedRoutes.Proofs.Pattern.Grammar
import TypedRoutes.Proofs.Pattern.Levels
import TypedRoutes.Proofs.Pattern.Locality
import TypedRoutes.Proofs.Pattern.Marks
import TypedRoutes.Proofs.Pattern.Neighbours
import TypedRoutes.Proofs.Pattern.Offers
import TypedRoutes.Proofs.Pattern.Pairing
import TypedRoutes.Proofs.Pattern.Printed
import TypedRoutes.Proofs.Pattern.Recognized
import TypedRoutes.Proofs.Pattern.Retained
import TypedRoutes.Proofs.Pattern.Soundness
import TypedRoutes.Proofs.Pattern.Unfinished
import TypedRoutes.Proofs.Pattern.Zone
import TypedRoutes.Proofs.Program.Assembly
import TypedRoutes.Proofs.Program.Condensing
import TypedRoutes.Proofs.Program.Marked
import TypedRoutes.Proofs.Program.Shape
import TypedRoutes.Proofs.Program.Tolerance
import TypedRoutes.Proofs.Table.Audit
import TypedRoutes.Proofs.Table.Binding
import TypedRoutes.Proofs.Table.Following
import TypedRoutes.Proofs.Table.Mirroring
import TypedRoutes.Proofs.Table.Order
import TypedRoutes.Proofs.Table.Reach
import TypedRoutes.Proofs.Table.Rendering
import TypedRoutes.Proofs.Table.Restoring
import TypedRoutes.Proofs.Table.Rewriting
import TypedRoutes.Proofs.Table.Sharing
import TypedRoutes.Proofs.Table.Spelling
import TypedRoutes.Proofs.Table.Supply
import TypedRoutes.Proofs.Table.Writing
import TypedRoutes.Proofs.Text.Identifier
import TypedRoutes.Proofs.Text.Lowercase
import TypedRoutes.Proofs.Value.Conversion
import TypedRoutes.Success
import TypedRoutes.Table.Attribute
import TypedRoutes.Table.Audit
import TypedRoutes.Table.Catalog
import TypedRoutes.Table.Evaluation
import TypedRoutes.Table.Event
import TypedRoutes.Table.Field
import TypedRoutes.Table.Instance
import TypedRoutes.Table.Resolution
import TypedRoutes.Table.RouteClass
import TypedRoutes.Table.Slot
import TypedRoutes.Table.Writing
import TypedRoutes.Text.Basic
import TypedRoutes.Text.Blank
import TypedRoutes.Text.Composition
import TypedRoutes.Text.Digit
import TypedRoutes.Text.Identifier
import TypedRoutes.Text.Keyword
import TypedRoutes.Text.Letter
import TypedRoutes.Text.Lowercase
import TypedRoutes.Text.MarkClass
import TypedRoutes.Text.NormalForm
import TypedRoutes.Text.PlainForm
import TypedRoutes.Text.Printable
import TypedRoutes.Text.Quoted
import TypedRoutes.Text.Ranges
import TypedRoutes.Value.Basic
import TypedRoutes.Value.ClassRef
import TypedRoutes.Value.Conversion
import TypedRoutes.Value.Enumeration
import TypedRoutes.Value.Equality
import TypedRoutes.Value.Expression
import TypedRoutes.Value.FieldType
import TypedRoutes.Value.Scalar
import TypedRoutes.Value.Uuid
