import Gleaner.Calendar.Date
import Gleaner.Calendar.Format
import Gleaner.Calendar.Loose
import Gleaner.Calendar.Stamp
import Gleaner.Charset.Base64
import Gleaner.Charset.Basic
import Gleaner.Charset.Big5Table
import Gleaner.Charset.Body
import Gleaner.Charset.DoubleByte
import Gleaner.Charset.EucKrTable
import Gleaner.Charset.GbTable
import Gleaner.Charset.Japanese
import Gleaner.Charset.Jis0212Table
import Gleaner.Charset.ShiftJisTable
import Gleaner.Charset.SingleByte
import Gleaner.Charset.SingleByteTable
import Gleaner.Charset.Utf16
import Gleaner.Charset.Utf8
import Gleaner.Cli.Arguments
import Gleaner.Cli.Run
import Gleaner.Css.Matching
import Gleaner.Css.Parser
import Gleaner.Css.Selector
import Gleaner.Css.Token
import Gleaner.Decimal.Layout
import Gleaner.Decimal.Read
import Gleaner.Decimal.Shortest
import Gleaner.Entity
import Gleaner.Extraction
import Gleaner.Filter.Basic
import Gleaner.Filter.Builtin
import Gleaner.Html.Builder
import Gleaner.Html.Document
import Gleaner.Html.Foreign
import Gleaner.Html.Reference
import Gleaner.Html.ReferenceTable
import Gleaner.Html.Rules
import Gleaner.Html.Token
import Gleaner.Json.Basic
import Gleaner.Json.Merge
import Gleaner.Json.Parser
import Gleaner.Json.Path
import Gleaner.Json.Printer
import Gleaner.Json.Record
import Gleaner.Keyed
import Gleaner.Link
import Gleaner.Main
import Gleaner.Page
import Gleaner.Pattern.Basic
import Gleaner.Pattern.Bytes
import Gleaner.Pattern.Parser
import Gleaner.Pattern.Program
import Gleaner.Pattern.Search
import Gleaner.Proofs.Calendar.Date
import Gleaner.Proofs.Calendar.Format
import Gleaner.Proofs.Calendar.Printed
import Gleaner.Proofs.Calendar.Range
import Gleaner.Proofs.Calendar.Stamp
import Gleaner.Proofs.Charset.Body
import Gleaner.Proofs.Charset.Utf8
import Gleaner.Proofs.Decimal.Digits
import Gleaner.Proofs.Decimal.Double
import Gleaner.Proofs.Decimal.Finite
import Gleaner.Proofs.Decimal.Numeral
import Gleaner.Proofs.Decimal.Plain
import Gleaner.Proofs.Decimal.Rounding
import Gleaner.Proofs.Decimal.Shortest
import Gleaner.Proofs.Decimal.Zero
import Gleaner.Proofs.Entity
import Gleaner.Proofs.Entity.Merge
import Gleaner.Proofs.Entity.Readable
import Gleaner.Proofs.Extraction
import Gleaner.Proofs.Filter.Builtin
import Gleaner.Proofs.Filter.Overflow
import Gleaner.Proofs.Filter.Strict
import Gleaner.Proofs.Filter.Zone
import Gleaner.Proofs.Json.KeyPath
import Gleaner.Proofs.Json.Location
import Gleaner.Proofs.Json.Merge
import Gleaner.Proofs.Json.Nulls
import Gleaner.Proofs.Json.Number
import Gleaner.Proofs.Json.Path
import Gleaner.Proofs.Json.Reordered
import Gleaner.Proofs.Json.Scale
import Gleaner.Proofs.Json.Slot
import Gleaner.Proofs.Json.Stable
import Gleaner.Proofs.Json.Text
import Gleaner.Proofs.Json.WellKeyed
import Gleaner.Proofs.Keyed
import Gleaner.Proofs.Link
import Gleaner.Proofs.Page
import Gleaner.Proofs.Page.Projection
import Gleaner.Proofs.Page.Readable
import Gleaner.Proofs.Row
import Gleaner.Proofs.Site.Access
import Gleaner.Proofs.Site.Address
import Gleaner.Proofs.Site.Definition
import Gleaner.Proofs.Site.Filters
import Gleaner.Proofs.Site.Lookup
import Gleaner.Proofs.Site.Operation
import Gleaner.Proofs.Site.Order
import Gleaner.Proofs.Site.Overrides
import Gleaner.Proofs.Site.Profile
import Gleaner.Proofs.Site.Registry
import Gleaner.Proofs.Site.Request
import Gleaner.Proofs.Site.Resolve
import Gleaner.Proofs.Site.RoundTrip
import Gleaner.Proofs.Site.Search
import Gleaner.Proofs.Site.Session
import Gleaner.Proofs.Site.Visit
import Gleaner.Proofs.Site.WholeGroup
import Gleaner.Proofs.Site.Zone
import Gleaner.Proofs.Text.Blank
import Gleaner.Proofs.Text.Find
import Gleaner.Proofs.Text.Letter
import Gleaner.Proofs.Units.Cloak
import Gleaner.Proofs.Units.Duration
import Gleaner.Proofs.Units.Finite
import Gleaner.Proofs.Units.Leading
import Gleaner.Proofs.Units.Moment
import Gleaner.Proofs.Units.Naive
import Gleaner.Proofs.Units.Number
import Gleaner.Proofs.Units.Quantities
import Gleaner.Proofs.Units.Scan
import Gleaner.Proofs.Units.Size
import Gleaner.Proofs.Units.SizeToken
import Gleaner.Proofs.Url.Form
import Gleaner.Proofs.Url.Host
import Gleaner.Proofs.Url.Scheme
import Gleaner.Proofs.Web.Visit
import Gleaner.Query
import Gleaner.Site.Access
import Gleaner.Site.Basic
import Gleaner.Site.Builtin
import Gleaner.Site.Config
import Gleaner.Site.Definition
import Gleaner.Site.Error
import Gleaner.Site.Fetch
import Gleaner.Site.Registry
import Gleaner.Site.Request
import Gleaner.Site.Search
import Gleaner.Site.Visit
import Gleaner.Text.Blank
import Gleaner.Text.Case
import Gleaner.Text.CaseTable
import Gleaner.Text.Category
import Gleaner.Text.CategoryTable
import Gleaner.Text.Compose
import Gleaner.Text.ComposeTable
import Gleaner.Text.Infix
import Gleaner.Text.PropertyTable
import Gleaner.Text.Quoted
import Gleaner.Text.Ranges
import Gleaner.Text.ScriptTable
import Gleaner.Units.Cloak
import Gleaner.Units.Duration
import Gleaner.Units.Moment
import Gleaner.Units.Number
import Gleaner.Units.Scan
import Gleaner.Units.Size
import Gleaner.Url.Basic
import Gleaner.Url.Domain
import Gleaner.Url.DomainTable
import Gleaner.Url.Host
import Gleaner.Url.Label
import Gleaner.Url.LabelTable
import Gleaner.Url.Parser
import Gleaner.Url.Percent
import Gleaner.Url.Punycode
import Gleaner.Value
import Gleaner.Web.Client
import Gleaner.Web.Exchange
import Gleaner.Web.Response
import Gleaner.Web.Visit
