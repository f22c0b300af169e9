import SnippetStudio.Browser.Host
import SnippetStudio.Browser.Operation
import SnippetStudio.Buffer.Basic
import SnippetStudio.Buffer.History
import SnippetStudio.Buffer.Registry
import SnippetStudio.Buffer.Tape
import SnippetStudio.Buffer.Telling
import SnippetStudio.Bytes.Base64
import SnippetStudio.Bytes.Charset
import SnippetStudio.Bytes.CharsetName
import SnippetStudio.Bytes.Charts
import SnippetStudio.Bytes.Chinese
import SnippetStudio.Bytes.Chinese.ExtendedRows
import SnippetStudio.Bytes.Chinese.FullRows
import SnippetStudio.Bytes.Chinese.Rows
import SnippetStudio.Bytes.Chinese.TraditionalRows
import SnippetStudio.Bytes.Escape
import SnippetStudio.Bytes.Front
import SnippetStudio.Bytes.Grid
import SnippetStudio.Bytes.Japanese
import SnippetStudio.Bytes.Japanese.MoreRows
import SnippetStudio.Bytes.Japanese.Rows
import SnippetStudio.Bytes.Korean
import SnippetStudio.Bytes.Korean.Rows
import SnippetStudio.Bytes.Switching
import SnippetStudio.Bytes.Unicode
import SnippetStudio.Bytes.Utf7
import SnippetStudio.Capability.Basic
import SnippetStudio.Capability.Catalogue
import SnippetStudio.Capability.Description
import SnippetStudio.Capability.Fixture
import SnippetStudio.Capability.MockData
import SnippetStudio.Decimal.Binary
import SnippetStudio.Decimal.Layout
import SnippetStudio.Decimal.Shortest
import SnippetStudio.Diagnostic.Description
import SnippetStudio.Diagnostic.Failure
import SnippetStudio.Diagnostic.Parsed
import SnippetStudio.Diagnostic.Record
import SnippetStudio.Errand.Basic
import SnippetStudio.Errand.Fetch
import SnippetStudio.Errand.LogLine
import SnippetStudio.Errand.Plan
import SnippetStudio.Examples
import SnippetStudio.Fault
import SnippetStudio.Form.Coerce
import SnippetStudio.Form.Issue
import SnippetStudio.Generation.Basic
import SnippetStudio.Generation.Model
import SnippetStudio.Generation.Prompt
import SnippetStudio.Json.Basic
import SnippetStudio.Json.Order
import SnippetStudio.Json.Plain
import SnippetStudio.Json.Reader
import SnippetStudio.Json.Real
import SnippetStudio.Json.Sequence
import SnippetStudio.Json.Writer
import SnippetStudio.Page.Document
import SnippetStudio.Page.Script
import SnippetStudio.Picture.Basic
import SnippetStudio.Picture.DataUrl
import SnippetStudio.Picture.Jpeg
import SnippetStudio.Pipeline.Acquire
import SnippetStudio.Pipeline.Event
import SnippetStudio.Pipeline.Run
import SnippetStudio.Pipeline.Stream
import SnippetStudio.Preview.Compile
import SnippetStudio.Preview.Desk
import SnippetStudio.Preview.Engine
import SnippetStudio.Preview.Render
import SnippetStudio.Preview.Request
import SnippetStudio.Preview.Roster
import SnippetStudio.Rehearsal.Buffer
import SnippetStudio.Rehearsal.Fault
import SnippetStudio.Rehearsal.Host
import SnippetStudio.Rehearsal.Outside
import SnippetStudio.Rehearsal.Page
import SnippetStudio.Rehearsal.Run
import SnippetStudio.Rehearsal.Schedule
import SnippetStudio.Rehearsal.Service
import SnippetStudio.Rehearsal.Steps
import SnippetStudio.Scrape.Basic
import SnippetStudio.Scrape.Body
import SnippetStudio.Scrape.Options
import SnippetStudio.Service.Basic
import SnippetStudio.Service.Call
import SnippetStudio.Service.Endpoint
import SnippetStudio.Service.Handler
import SnippetStudio.Session.Basic
import SnippetStudio.Settings
import SnippetStudio.Snippet.Fence
import SnippetStudio.Snippet.Finding
import SnippetStudio.Snippet.Lint
import SnippetStudio.Snippet.Markup
import SnippetStudio.Snippet.Names
import SnippetStudio.Snippet.Report
import SnippetStudio.Snippet.Wrapping
import SnippetStudio.Text.Blank
import SnippetStudio.Text.Digit
import SnippetStudio.Text.Lines
import SnippetStudio.Text.Lower
import SnippetStudio.Text.Printable
import SnippetStudio.Text.Quoted
import SnippetStudio.Text.Ranges
import SnippetStudio.Text.Scan
import SnippetStudio.Text.Slice
import SnippetStudio.Text.Word
import SnippetStudio.Web.Address
import SnippetStudio.Web.ContentType
import SnippetStudio.Web.Exchange
import SnippetStudio.Web.Host
import SnippetStudio.Web.Label.Basic
import SnippetStudio.Web.Label.Direction
import SnippetStudio.Web.Label.Letters
import SnippetStudio.Web.Label.Marks
import SnippetStudio.Web.Link
import SnippetStudio.Web.MediaType
import SnippetStudio.Web.Percent
import SnippetStudio.Web.Punycode
import SnippetStudio.Web.Url
import SnippetStudio.Proofs.Preview.History
import SnippetStudio.Proofs.Preview.Step
import SnippetStudio.Proofs.Preview.Moves
import SnippetStudio.Proofs.Preview.Order
import SnippetStudio.Proofs.Preview.Versions
import SnippetStudio.Proofs.Preview.Supersession
import SnippetStudio.Proofs.Preview.Visits
import SnippetStudio.Proofs.Preview.Rest
import SnippetStudio.Proofs.Diagnostic.Position
import SnippetStudio.Proofs.Preview.Escape
import SnippetStudio.Proofs.Diagnostic.Reading
import SnippetStudio.Proofs.Diagnostic.Runtime
import SnippetStudio.Proofs.Snippet.Coordinates
import SnippetStudio.Proofs.Diagnostic.Agreement
import SnippetStudio.Proofs.Errand.Trace
import SnippetStudio.Proofs.Errand.Events
import SnippetStudio.Proofs.Preview.Mountings
import SnippetStudio.Proofs.Errand.Buffered
import SnippetStudio.Proofs.Pipeline.Silence
import SnippetStudio.Proofs.Pipeline.Story
import SnippetStudio.Proofs.Pipeline.Loading
import SnippetStudio.Proofs.Preview.Calls
import SnippetStudio.Proofs.Session.Step
import SnippetStudio.Proofs.Session.Following
import SnippetStudio.Proofs.Buffer.LastWord
import SnippetStudio.Proofs.Preview.Wanted
import SnippetStudio.Proofs.Preview.Alone
import SnippetStudio.Proofs.Preview.Waiting
import SnippetStudio.Proofs.Session.Snapshot
import SnippetStudio.Proofs.Bytes.Base64
import SnippetStudio.Proofs.Picture.DataUrl
import SnippetStudio.Proofs.Scrape.Files
import SnippetStudio.Proofs.Pipeline.Screenshot
import SnippetStudio.Proofs.Scrape.Completion
import SnippetStudio.Proofs.Snippet.Patterns
import SnippetStudio.Proofs.Snippet.Destructured
import SnippetStudio.Proofs.Snippet.Scope
import SnippetStudio.Proofs.Json.Strings
import SnippetStudio.Proofs.Json.Numbers
import SnippetStudio.Proofs.Json.RoundTrip
import SnippetStudio.Proofs.Pipeline.Frames
import SnippetStudio.Proofs.Session.Lifecycle
import SnippetStudio.Proofs.Buffer.Undo
import SnippetStudio.Proofs.Buffer.Notices
import SnippetStudio.Proofs.Buffer.Registrations
import SnippetStudio.Proofs.Web.Keyed
import SnippetStudio.Proofs.Errand.Alike
import SnippetStudio.Proofs.Scrape.Key
import SnippetStudio.Proofs.Text.Reading
import SnippetStudio.Proofs.Text.Returns
import SnippetStudio.Proofs.Snippet.Findings
import SnippetStudio.Proofs.Snippet.Repeats
import SnippetStudio.Proofs.Snippet.Constructs
import SnippetStudio.Proofs.Snippet.Pointing
import SnippetStudio.Proofs.Snippet.Entry
import SnippetStudio.Proofs.Snippet.ReturnsInText
import SnippetStudio.Proofs.Snippet.LineEndings
import SnippetStudio.Proofs.Snippet.Bindings
import SnippetStudio.Proofs.Snippet.Fence
import SnippetStudio.Proofs.Scrape.Tiers
import SnippetStudio.Proofs.Pipeline.Durations
import SnippetStudio.Proofs.Pipeline.Markup
import SnippetStudio.Proofs.Pipeline.Services
import SnippetStudio.Proofs.Web.Query
import SnippetStudio.Proofs.Scrape.Sent
import SnippetStudio.Proofs.Capability.Building
import SnippetStudio.Proofs.Browser.Starting
import SnippetStudio.Proofs.Session.Hosted
import SnippetStudio.Proofs.Page.Tokens
import SnippetStudio.Proofs.Page.Addresses
