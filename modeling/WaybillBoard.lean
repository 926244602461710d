import WaybillBoard.Binary64.Basic
import WaybillBoard.Binary64.Layout
import WaybillBoard.Binary64.Reader
import WaybillBoard.Binary64.Shortest
import WaybillBoard.Board.Footer
import WaybillBoard.Board.Header
import WaybillBoard.Board.Help
import WaybillBoard.Board.Keys
import WaybillBoard.Board.Messages
import WaybillBoard.Board.PanelLines
import WaybillBoard.Board.Theme
import WaybillBoard.Board.WaybillList
import WaybillBoard.CommandLine.Invocation
import WaybillBoard.CommandLine.Options
import WaybillBoard.CommandLine.Run
import WaybillBoard.Config.Basic
import WaybillBoard.Config.Check
import WaybillBoard.Config.Layers
import WaybillBoard.Config.Yaml
import WaybillBoard.Dashboard.Basic
import WaybillBoard.Dashboard.Fetching
import WaybillBoard.Dashboard.Route
import WaybillBoard.Dashboard.Task
import WaybillBoard.Files.Content
import WaybillBoard.Json.Basic
import WaybillBoard.Json.Number
import WaybillBoard.Json.Printer
import WaybillBoard.Json.Reader
import WaybillBoard.Json.Record
import WaybillBoard.Json.Text
import WaybillBoard.Proofs.Binary64.Literal
import WaybillBoard.Proofs.Binary64.Nearest
import WaybillBoard.Proofs.Binary64.Order
import WaybillBoard.Proofs.Binary64.Shortest
import WaybillBoard.Proofs.Board.Highlight
import WaybillBoard.Proofs.Board.OutputLines
import WaybillBoard.Proofs.Board.Scrolling
import WaybillBoard.Proofs.CommandLine.Precedence
import WaybillBoard.Proofs.CommandLine.Saving
import WaybillBoard.Proofs.Config.Acceptance
import WaybillBoard.Proofs.Config.Check
import WaybillBoard.Proofs.Config.RoundTrip
import WaybillBoard.Proofs.Config.Setting
import WaybillBoard.Proofs.Config.Usable
import WaybillBoard.Proofs.Dashboard.Delivery
import WaybillBoard.Proofs.Dashboard.Expansion
import WaybillBoard.Proofs.Dashboard.Landing
import WaybillBoard.Proofs.Dashboard.Latest
import WaybillBoard.Proofs.Dashboard.Linked
import WaybillBoard.Proofs.Dashboard.Memory
import WaybillBoard.Proofs.Dashboard.Operations
import WaybillBoard.Proofs.Dashboard.Outcomes
import WaybillBoard.Proofs.Dashboard.Recovery
import WaybillBoard.Proofs.Dashboard.Scene
import WaybillBoard.Proofs.Dashboard.Tasks
import WaybillBoard.Proofs.Dashboard.Toggling
import WaybillBoard.Proofs.Dashboard.Visible
import WaybillBoard.Proofs.Json.Documents
import WaybillBoard.Proofs.Json.Edits
import WaybillBoard.Proofs.Json.Grammar
import WaybillBoard.Proofs.Json.Reading
import WaybillBoard.Proofs.Json.Record
import WaybillBoard.Proofs.Json.Scalars
import WaybillBoard.Proofs.Json.Text
import WaybillBoard.Proofs.Json.Tokens
import WaybillBoard.Proofs.Report.Verbatim
import WaybillBoard.Proofs.Screen.Rows
import WaybillBoard.Proofs.Search.Alignment
import WaybillBoard.Proofs.Search.Containment
import WaybillBoard.Proofs.Search.Growth
import WaybillBoard.Proofs.Search.Hits
import WaybillBoard.Proofs.Search.Ranking
import WaybillBoard.Proofs.Search.Table
import WaybillBoard.Proofs.Search.Threshold
import WaybillBoard.Proofs.Session.Cadence
import WaybillBoard.Proofs.Session.Effects
import WaybillBoard.Proofs.Session.Escape
import WaybillBoard.Proofs.Session.Queue
import WaybillBoard.Proofs.Session.Scene
import WaybillBoard.Proofs.Session.Selection
import WaybillBoard.Proofs.Session.Serving
import WaybillBoard.Proofs.Session.Timing
import WaybillBoard.Proofs.Session.Typing
import WaybillBoard.Proofs.Session.Underlying
import WaybillBoard.Proofs.Session.Visit
import WaybillBoard.Proofs.Source.Agreement
import WaybillBoard.Proofs.Source.Compatibility
import WaybillBoard.Proofs.Source.Endpoint
import WaybillBoard.Proofs.Source.Narrowing
import WaybillBoard.Proofs.Text.Blank
import WaybillBoard.Proofs.Text.Digits
import WaybillBoard.Proofs.Text.Octets
import WaybillBoard.Proofs.Time.Calendar
import WaybillBoard.Proofs.Time.Difference
import WaybillBoard.Proofs.Time.Period
import WaybillBoard.Proofs.Time.Rfc3339
import WaybillBoard.Proofs.Url.Percent
import WaybillBoard.Proofs.Url.Segments
import WaybillBoard.Proofs.View.Age
import WaybillBoard.Proofs.View.Latency
import WaybillBoard.Proofs.View.Output
import WaybillBoard.Proofs.Waybill.Parts
import WaybillBoard.Proofs.Waybill.RoundTrip
import WaybillBoard.Proofs.Yaml.BlockText
import WaybillBoard.Proofs.Yaml.Character
import WaybillBoard.Proofs.Yaml.Document
import WaybillBoard.Proofs.Yaml.Lexer
import WaybillBoard.Proofs.Yaml.Mapping
import WaybillBoard.Proofs.Yaml.Plain
import WaybillBoard.Proofs.Yaml.Printable
import WaybillBoard.Proofs.Yaml.Quoted
import WaybillBoard.Proofs.Yaml.Value
import WaybillBoard.Report.Document
import WaybillBoard.Report.Listing
import WaybillBoard.Report.Request
import WaybillBoard.Screen.Basic
import WaybillBoard.Screen.Frame
import WaybillBoard.Screen.Paragraph
import WaybillBoard.Screen.Style
import WaybillBoard.Screen.Text
import WaybillBoard.Screen.Wrap
import WaybillBoard.Search.Distance
import WaybillBoard.Search.Index
import WaybillBoard.Session.Basic
import WaybillBoard.Session.Drawing
import WaybillBoard.Session.Fetching
import WaybillBoard.Session.Input
import WaybillBoard.Snapshot.Basic
import WaybillBoard.Source.Decode
import WaybillBoard.Source.FetchError
import WaybillBoard.Source.Local
import WaybillBoard.Source.Server
import WaybillBoard.Text.Blank
import WaybillBoard.Text.Grapheme
import WaybillBoard.Text.Grapheme.Table
import WaybillBoard.Text.Lowercase
import WaybillBoard.Text.Lowercase.Table
import WaybillBoard.Text.Octets
import WaybillBoard.Text.Quoted
import WaybillBoard.Text.Ranges
import WaybillBoard.Text.Width
import WaybillBoard.Text.Width.Table
import WaybillBoard.Time.Calendar
import WaybillBoard.Time.Instant
import WaybillBoard.Time.Period
import WaybillBoard.Time.Rfc3339
import WaybillBoard.Url.Basic
import WaybillBoard.Url.Host
import WaybillBoard.Url.Percent
import WaybillBoard.Url.Punycode
import WaybillBoard.Url.Reader
import WaybillBoard.Url.Segments
import WaybillBoard.View.Format
import WaybillBoard.View.Outcome
import WaybillBoard.View.Output
import WaybillBoard.View.Panel
import WaybillBoard.Waybill.Basic
import WaybillBoard.Waybill.Decode
import WaybillBoard.Waybill.Encode
import WaybillBoard.Yaml.BlockText
import WaybillBoard.Yaml.Character
import WaybillBoard.Yaml.Document
import WaybillBoard.Yaml.DoubleQuoted
import WaybillBoard.Yaml.Gap
import WaybillBoard.Yaml.Lexer
import WaybillBoard.Yaml.Node
import WaybillBoard.Yaml.Plain
import WaybillBoard.Yaml.Scalar
import WaybillBoard.Yaml.SingleQuoted
import WaybillBoard.Yaml.Style
import WaybillBoard.Yaml.Tag
import WaybillBoard.Yaml.Token
import WaybillBoard.Main
import WaybillBoard.Proofs.Text.Blank
import WaybillBoard.Proofs.Time.Period
