import PathRouter.Command.Arguments
import PathRouter.Command.Basic
import PathRouter.Command.Run
import PathRouter.Decimal.Shortest
import PathRouter.Journal.Basic
import PathRouter.Journal.Directive
import PathRouter.Journal.Event
import PathRouter.Journal.Filter
import PathRouter.Json.Basic
import PathRouter.Json.Decode
import PathRouter.Json.Error
import PathRouter.Json.Number
import PathRouter.Json.Printer
import PathRouter.Json.Reader
import PathRouter.Json.Record
import PathRouter.Json.Text
import PathRouter.Main
import PathRouter.Pattern.Assertion
import PathRouter.Pattern.Compile
import PathRouter.Pattern.Template
import PathRouter.Regex.Basic
import PathRouter.Regex.Bracket
import PathRouter.Regex.CharSet
import PathRouter.Regex.Error
import PathRouter.Regex.Escape
import PathRouter.Regex.Flags
import PathRouter.Regex.Footprint
import PathRouter.Regex.Node
import PathRouter.Regex.Parser
import PathRouter.Regex.Plan
import PathRouter.Regex.Runs
import PathRouter.Regex.Search
import PathRouter.Regex.Utf8
import PathRouter.RouteFile.Basic
import PathRouter.RouteFile.Decode
import PathRouter.RouteFile.Load
import PathRouter.RouteFile.Problems
import PathRouter.RouteFile.Read
import PathRouter.RouteFile.Rebuild
import PathRouter.RouteFile.Register
import PathRouter.Routing.Conversion
import PathRouter.Routing.Methods
import PathRouter.Routing.NameSet
import PathRouter.Routing.Outcome
import PathRouter.Routing.Record
import PathRouter.Routing.Route
import PathRouter.Routing.Table
import PathRouter.Session.Basic
import PathRouter.Session.RouteFiles
import PathRouter.Storage.Cache
import PathRouter.Storage.Files
import PathRouter.Text.Quoted
import PathRouter.Toml.Number
import PathRouter.Toml.Reader
import PathRouter.Toml.Text
import PathRouter.Toml.Tree
import PathRouter.Unicode.Blank
import PathRouter.Unicode.Casing
import PathRouter.Unicode.Letter
import PathRouter.Unicode.Ranges
import PathRouter.Unicode.Visible
import PathRouter.Unicode.Word
import PathRouter.Proofs.Regex.Reading
import PathRouter.Proofs.Pattern.Filling
import PathRouter.Proofs.Pattern.Expression
import PathRouter.Proofs.Regex.Walking
import PathRouter.Proofs.Pattern.Matching
import PathRouter.Proofs.Pattern.Compiling
import PathRouter.Proofs.Pattern.Scanning
import PathRouter.Proofs.Pattern.Size
import PathRouter.Proofs.Pattern.Acceptance
import PathRouter.Proofs.Pattern.Captures
import PathRouter.Proofs.Regex.GroupNames
import PathRouter.Proofs.Pattern.Groups
import PathRouter.Proofs.Regex.Alternatives
import PathRouter.Proofs.Pattern.Alternatives
import PathRouter.Proofs.Routing.Containment
import PathRouter.Proofs.Regex.Spans
import PathRouter.Proofs.Regex.Completeness
import PathRouter.Proofs.Regex.Runs
import PathRouter.Proofs.Regex.Choice
import PathRouter.Proofs.Routing.Uncached
import PathRouter.Proofs.Routing.Continuing
import PathRouter.Proofs.Routing.Counting
import PathRouter.Proofs.Routing.Extending
import PathRouter.Proofs.Routing.Failing
import PathRouter.Proofs.Routing.Workspace
import PathRouter.Proofs.RouteFile.Problems
import PathRouter.Proofs.Routing.Scoping
import PathRouter.Proofs.Storage.Cache
import PathRouter.Proofs.Routing.Answering
import PathRouter.Proofs.Storage.Reloading
import PathRouter.Proofs.Json.Decoding
import PathRouter.Proofs.RouteFile.Listing
import PathRouter.Proofs.Storage.Creating
import PathRouter.Proofs.Storage.Failing
import PathRouter.Proofs.RouteFile.Rebuilding
import PathRouter.Proofs.RouteFile.Watching
import PathRouter.Proofs.Command.Requests
import PathRouter.Proofs.Command.Running
import PathRouter.Proofs.Pattern.Outcomes
import PathRouter.Proofs.Pattern.Literals
import PathRouter.Proofs.Pattern.Substituting
import PathRouter.Proofs.RouteFile.Flattening
import PathRouter.Proofs.Routing.Ordering
import PathRouter.Proofs.Json.Forms
import PathRouter.Proofs.Json.Compact
import PathRouter.Proofs.Json.Objects
import PathRouter.Proofs.Unicode.ByteOrder
import PathRouter.Proofs.Routing.NormalForm
import PathRouter.Proofs.Routing.Presentations
import PathRouter.Proofs.RouteFile.Defaults
import PathRouter.Proofs.Json.Unambiguous
import PathRouter.Proofs.Routing.AnswerTexts
import PathRouter.Proofs.Pattern.Meanings
import PathRouter.Proofs.RouteFile.Repeating
import PathRouter.Proofs.RouteFile.Nesting
import PathRouter.Proofs.Regex.Standing
import PathRouter.Proofs.Pattern.Dividing
