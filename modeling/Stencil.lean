import Stencil.Catalog
import Stencil.Command
import Stencil.Command.Words
import Stencil.Config
import Stencil.Config.Loader
import Stencil.Decimal.Binary
import Stencil.Decimal.Notation
import Stencil.Decimal.Reader
import Stencil.Decimal.Shortest
import Stencil.Engine
import Stencil.Fault
import Stencil.Files
import Stencil.Helper
import Stencil.Host
import Stencil.Json
import Stencil.Locale
import Stencil.Locale.Table
import Stencil.Main
import Stencil.Output
import Stencil.Path
import Stencil.Proofs.Dispatch
import Stencil.Resolution
import Stencil.Script.Reader
import Stencil.Script.Run
import Stencil.Script.Syntax
import Stencil.Session
import Stencil.Stateful
import Stencil.Template.Compile
import Stencil.Template.Eval
import Stencil.Template.Filter
import Stencil.Template.Member
import Stencil.Template.Operation
import Stencil.Template.Parser
import Stencil.Template.Render
import Stencil.Template.Scope
import Stencil.Template.Syntax
import Stencil.Template.Token
import Stencil.Terminal
import Stencil.Text.Blank
import Stencil.Text.Case
import Stencil.Text.CaseTable
import Stencil.Text.Closeness
import Stencil.Text.Digits
import Stencil.Text.Printable
import Stencil.Text.Quoted
import Stencil.Text.Ranges
import Stencil.Text.Utf8
import Stencil.Text.Word
import Stencil.Toml
import Stencil.Toml.Scalar
import Stencil.Toml.Table
import Stencil.Value
import Stencil.Value.Arithmetic
import Stencil.Value.Format
import Stencil.Value.Order
import Stencil.View
import Stencil.World
import Stencil.Proofs.Segments
import Stencil.Proofs.Relating
import Stencil.Proofs.Tree
import Stencil.Proofs.Loading
import Stencil.Proofs.Building
import Stencil.Proofs.Coherence
import Stencil.Proofs.Logging
import Stencil.Proofs.Ownership
import Stencil.Proofs.Confinement
import Stencil.Proofs.Deeds
import Stencil.Proofs.Calls
import Stencil.Proofs.Staging
import Stencil.Proofs.HelperMap
import Stencil.Proofs.Changes
import Stencil.Proofs.HelperRuns
import Stencil.Proofs.LastWrite
import Stencil.Proofs.Isolation
import Stencil.Proofs.Merging
import Stencil.Proofs.Steady
import Stencil.Proofs.Nested
import Stencil.Proofs.Inert
import Stencil.Proofs.Clean
import Stencil.Proofs.Filters
import Stencil.Proofs.Traits
import Stencil.Proofs.Accord
import Stencil.Proofs.Reading
import Stencil.Proofs.Compiling
import Stencil.Proofs.Evaluating
import Stencil.Proofs.Watching
import Stencil.Proofs.Escaping
import Stencil.Proofs.Escaped
import Stencil.Proofs.Tables
import Stencil.Proofs.Precedence
import Stencil.Proofs.Parallel
import Stencil.Proofs.Twins
import Stencil.Proofs.Dating
import Stencil.Proofs.Sharing
import Stencil.Proofs.Renewal
import Stencil.Proofs.Consulting
import Stencil.Proofs.Easing
import Stencil.Proofs.Operating
import Stencil.Proofs.Filtering
import Stencil.Proofs.Expressing
import Stencil.Proofs.Unreported
import Stencil.Proofs.Settling
import Stencil.Proofs.Folding
import Stencil.Proofs.Lenience
import Stencil.Proofs.Softening
import Stencil.Proofs.Failing
import Stencil.Proofs.Keeping
import Stencil.Proofs.Reaching
import Stencil.Proofs.Strictness
import Stencil.Proofs.Transparency
import Stencil.Proofs.Erring
import Stencil.Proofs.Reporting
import Stencil.Proofs.Course
import Stencil.Proofs.ByName
import Stencil.Proofs.Snapshot
import Stencil.Proofs.Capture
import Stencil.Proofs.Unraised
import Stencil.Proofs.Standing
import Stencil.Proofs.Delivery
import Stencil.Proofs.Spelling
import Stencil.Proofs.Executing
import Stencil.Proofs.Looking
import Stencil.Proofs.Overwriting
import Stencil.Proofs.Ignoring
import Stencil.Proofs.Pairing
import Stencil.Proofs.Agreeing
import Stencil.Proofs.Filling
import Stencil.Proofs.Written
import Stencil.Proofs.Untranslated
import Stencil.Proofs.Respelling
import Stencil.Proofs.NormalForm
import Stencil.Proofs.Bringing
import Stencil.Proofs.Presence
import Stencil.Proofs.Arranging
import Stencil.Proofs.Assigning
import Stencil.Proofs.Serving
import Stencil.Proofs.Announcing
import Stencil.Proofs.Telling
import Stencil.Proofs.Untold
import Stencil.Proofs.Tagging
import Stencil.Proofs.Abstaining
import Stencil.Proofs.Insulating
import Stencil.Proofs.Insulated
