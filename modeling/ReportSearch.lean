import ReportSearch.Config.Basic
import ReportSearch.Index.Client
import ReportSearch.Main
import ReportSearch.Proofs.Catalog.DatePattern
import ReportSearch.Proofs.Catalog.FieldJson
import ReportSearch.Proofs.Catalog.FractionRun
import ReportSearch.Proofs.Catalog.LayoutText
import ReportSearch.Proofs.Catalog.Listing
import ReportSearch.Proofs.Catalog.MultiField
import ReportSearch.Proofs.Catalog.QuotedText
import ReportSearch.Proofs.Catalog.Wrapping
import ReportSearch.Proofs.Command.Posting
import ReportSearch.Proofs.Command.Shorthand
import ReportSearch.Proofs.Command.TypedValue
import ReportSearch.Proofs.Json.Numerals
import ReportSearch.Proofs.Pattern.Dialect
import ReportSearch.Proofs.Query.Answerable
import ReportSearch.Proofs.Query.DateEquality
import ReportSearch.Proofs.Query.EpochBound
import ReportSearch.Proofs.Query.Membership
import ReportSearch.Proofs.Rule.Accepted
import ReportSearch.Proofs.Rule.MissingValue
import ReportSearch.Proofs.Search.Accounting
import ReportSearch.Proofs.Search.Answers
import ReportSearch.Proofs.Search.Coverage
import ReportSearch.Proofs.Search.Decoding
import ReportSearch.Proofs.Search.Loading
import ReportSearch.Proofs.Search.DottedPath
import ReportSearch.Proofs.Search.Snapshots
import ReportSearch.Proofs.Web.Labels
import ReportSearch.Search.Session
import ReportSearch.Web.Respond
