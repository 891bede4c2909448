import ServiceStub.Admin.Request
import ServiceStub.Admin.Route
import ServiceStub.Assoc
import ServiceStub.Calendar.Date
import ServiceStub.Calendar.Fields
import ServiceStub.Calendar.Format
import ServiceStub.Calendar.Instant
import ServiceStub.Calendar.Text
import ServiceStub.Channel
import ServiceStub.Decimal.Binary
import ServiceStub.Decimal.Reader
import ServiceStub.Decimal.Shortest
import ServiceStub.Decimal.Text
import ServiceStub.FieldMatch
import ServiceStub.Http.Cookie
import ServiceStub.Http.Form
import ServiceStub.Http.Grammar
import ServiceStub.Http.Multipart
import ServiceStub.Http.Request
import ServiceStub.Http.Response
import ServiceStub.Http.Uri
import ServiceStub.Json.Basic
import ServiceStub.Json.Containment
import ServiceStub.Json.Number
import ServiceStub.Json.Parser
import ServiceStub.Json.Path
import ServiceStub.Json.PathParser
import ServiceStub.Json.Printer
import ServiceStub.Json.Record
import ServiceStub.Json.Schema
import ServiceStub.MatchResult
import ServiceStub.Matching
import ServiceStub.Pattern.Basic
import ServiceStub.Pattern.DateTime
import ServiceStub.Pattern.Definition
import ServiceStub.Pattern.Error
import ServiceStub.Pattern.JsonEquality
import ServiceStub.Pattern.MultiValue
import ServiceStub.Pattern.Multipart
import ServiceStub.Pattern.Request
import ServiceStub.Pattern.Url
import ServiceStub.Pattern.WholeRegex
import ServiceStub.Proofs.Admin.Refusal
import ServiceStub.Proofs.Admin.ScenarioState
import ServiceStub.Proofs.Assoc
import ServiceStub.Proofs.Calendar.Date
import ServiceStub.Proofs.Calendar.Order
import ServiceStub.Proofs.Calendar.Truncation
import ServiceStub.Proofs.Decimal.Double
import ServiceStub.Proofs.Decimal.Order
import ServiceStub.Proofs.Decimal.Range
import ServiceStub.Proofs.Decimal.Shortest
import ServiceStub.Proofs.Decimal.Text
import ServiceStub.Proofs.Decimal.Whole
import ServiceStub.Proofs.Distance
import ServiceStub.Proofs.Http.Disposition
import ServiceStub.Proofs.Http.Multipart
import ServiceStub.Proofs.Http.Response
import ServiceStub.Proofs.Http.Segment
import ServiceStub.Proofs.Http.Url
import ServiceStub.Proofs.Json.Canonical
import ServiceStub.Proofs.Json.Containment
import ServiceStub.Proofs.Json.Equality
import ServiceStub.Proofs.Json.Finite
import ServiceStub.Proofs.Json.Leniency
import ServiceStub.Proofs.Json.Parser
import ServiceStub.Proofs.Json.Printer
import ServiceStub.Proofs.Json.Record
import ServiceStub.Proofs.Json.Reordering
import ServiceStub.Proofs.Json.Subschema
import ServiceStub.Proofs.Json.Unordered
import ServiceStub.Proofs.Json.Validity
import ServiceStub.Proofs.MatchResult
import ServiceStub.Proofs.Matching
import ServiceStub.Proofs.Matching.Search
import ServiceStub.Proofs.Outcome
import ServiceStub.Proofs.Pattern.Absence
import ServiceStub.Proofs.Pattern.Building
import ServiceStub.Proofs.Pattern.Combination
import ServiceStub.Proofs.Pattern.DateTime
import ServiceStub.Proofs.Pattern.Declaration
import ServiceStub.Proofs.Pattern.Evaluation
import ServiceStub.Proofs.Pattern.Fault
import ServiceStub.Proofs.Pattern.FieldDeclaration
import ServiceStub.Proofs.Pattern.HeaderOrder
import ServiceStub.Proofs.Pattern.JsonOperand
import ServiceStub.Proofs.Pattern.JsonSchema
import ServiceStub.Proofs.Pattern.MultiValue
import ServiceStub.Proofs.Pattern.Nearness
import ServiceStub.Proofs.Pattern.Operators
import ServiceStub.Proofs.Pattern.PathTemplate
import ServiceStub.Proofs.Pattern.Reading
import ServiceStub.Proofs.Pattern.Request
import ServiceStub.Proofs.Pattern.RequestDeclaration
import ServiceStub.Proofs.Pattern.Satisfaction
import ServiceStub.Proofs.Scenario.Listing
import ServiceStub.Proofs.Scenario.Membership
import ServiceStub.Proofs.Scenario.Participation
import ServiceStub.Proofs.Scenario.Transitions
import ServiceStub.Proofs.Server.Answering
import ServiceStub.Proofs.Server.Channels
import ServiceStub.Proofs.Server.Defaults
import ServiceStub.Proofs.Server.Likeness
import ServiceStub.Proofs.Server.Loading
import ServiceStub.Proofs.Server.NearMiss
import ServiceStub.Proofs.Server.Operation
import ServiceStub.Proofs.Server.Parts
import ServiceStub.Proofs.Server.Ranking
import ServiceStub.Proofs.Server.Records
import ServiceStub.Proofs.Server.Restoration
import ServiceStub.Proofs.Server.ScenarioTable
import ServiceStub.Proofs.Server.SharedScenarios
import ServiceStub.Proofs.Server.Steps
import ServiceStub.Proofs.Server.Traffic
import ServiceStub.Proofs.Server.Writes
import ServiceStub.Proofs.Stub.Declaration
import ServiceStub.Proofs.Stub.Exactness
import ServiceStub.Proofs.Stub.Fault
import ServiceStub.Proofs.Stub.File
import ServiceStub.Proofs.Stub.History
import ServiceStub.Proofs.Stub.NearMiss
import ServiceStub.Proofs.Stub.Ordering
import ServiceStub.Proofs.Stub.Ranking
import ServiceStub.Proofs.Stub.Renumbering
import ServiceStub.Proofs.Stub.Resolution
import ServiceStub.Proofs.Stub.Store
import ServiceStub.Proofs.Text.Base64
import ServiceStub.Proofs.Text.Casing
import ServiceStub.Proofs.Text.Chars
import ServiceStub.Proofs.Text.CommonRun
import ServiceStub.Proofs.Text.Utf8
import ServiceStub.Proofs.Uuid
import ServiceStub.Regex.Categories
import ServiceStub.Regex.CharSet
import ServiceStub.Regex.FoldTable
import ServiceStub.Regex.Matcher
import ServiceStub.Regex.Parser
import ServiceStub.Regex.Properties
import ServiceStub.Regex.Scripts
import ServiceStub.Regex.Syntax
import ServiceStub.Report.Fault
import ServiceStub.Report.Json
import ServiceStub.Report.Overview
import ServiceStub.Report.Plain
import ServiceStub.Report.Summary
import ServiceStub.Scalar
import ServiceStub.Scenario
import ServiceStub.Server.Event
import ServiceStub.Server.Handler
import ServiceStub.Server.Journal
import ServiceStub.Server.State
import ServiceStub.StateError
import ServiceStub.Stub.Basic
import ServiceStub.Stub.File
import ServiceStub.Stub.Http
import ServiceStub.Stub.Message
import ServiceStub.Stub.NearMiss
import ServiceStub.Stub.Resolution
import ServiceStub.Stub.Store
import ServiceStub.Table
import ServiceStub.Text.Base64
import ServiceStub.Text.Blank
import ServiceStub.Text.Case
import ServiceStub.Text.CaseTable
import ServiceStub.Text.Chars
import ServiceStub.Text.CodePoints
import ServiceStub.Text.Columns
import ServiceStub.Text.Diff
import ServiceStub.Text.DisplayWidth
import ServiceStub.Text.Similarity
import ServiceStub.Text.Title
import ServiceStub.Text.Utf8
import ServiceStub.TextDiff
import ServiceStub.Total
import ServiceStub.Uuid
import ServiceStub.Xml.Document
import ServiceStub.Xml.Parser
import ServiceStub.Xml.XPath.Evaluate
import ServiceStub.Xml.XPath.Parser
import ServiceStub.Xml.XPath.Syntax
import ServiceStub.Xml.XPath.Token
