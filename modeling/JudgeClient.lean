import JudgeClient.Config
import JudgeClient.Fetch.Exchange
import JudgeClient.Page.View
import JudgeClient.Payload.Contest
import JudgeClient.Payload.Envelope
import JudgeClient.Proofs.Config
import JudgeClient.Proofs.Fetch.Classification
import JudgeClient.Proofs.Fetch.Issuing
import JudgeClient.Proofs.Fetch.Loading
import JudgeClient.Proofs.Fetch.Phases
import JudgeClient.Proofs.Fetch.Supersession
import JudgeClient.Proofs.Json.Float
import JudgeClient.Proofs.Json.Grammar
import JudgeClient.Proofs.Json.List
import JudgeClient.Proofs.Json.Number
import JudgeClient.Proofs.Json.Record
import JudgeClient.Proofs.Json.Refusal
import JudgeClient.Proofs.Json.Soundness
import JudgeClient.Proofs.Json.Text
import JudgeClient.Proofs.Page.ContestSubmissions
import JudgeClient.Proofs.Page.FilterLocation
import JudgeClient.Proofs.Page.JobFilter
import JudgeClient.Proofs.Page.JobSearch
import JudgeClient.Proofs.Page.Landing
import JudgeClient.Proofs.Page.Opening
import JudgeClient.Proofs.Page.Polling
import JudgeClient.Proofs.Page.Reopening
import JudgeClient.Proofs.Page.Submitting
import JudgeClient.Proofs.Payload.Envelope
import JudgeClient.Proofs.Payload.Lawful
import JudgeClient.Proofs.Payload.RoundTrip
import JudgeClient.Proofs.Payload.Submission
import JudgeClient.Proofs.Query.Reader
import JudgeClient.Proofs.Route.Ambiguity
import JudgeClient.Proofs.Route.Filling
import JudgeClient.Proofs.Route.Grammar
import JudgeClient.Proofs.Route.History
import JudgeClient.Proofs.Route.Location
import JudgeClient.Proofs.Route.Matching
import JudgeClient.Proofs.Route.ParamAccess
import JudgeClient.Proofs.Route.Numeric
import JudgeClient.Proofs.Route.Params
import JudgeClient.Proofs.Route.Pattern
import JudgeClient.Proofs.Route.Query
import JudgeClient.Proofs.Route.Resolving
import JudgeClient.Proofs.Route.Router
import JudgeClient.Proofs.Route.Table
import JudgeClient.Proofs.Text.Blank
import JudgeClient.Proofs.Timestamp
import JudgeClient.Proofs.Toml.Document
import JudgeClient.Proofs.Toml.Rest
import JudgeClient.Proofs.Toml.Value
import JudgeClient.Proofs.View.Links
import JudgeClient.Proofs.View.Times
import JudgeClient.Query.Writer
import JudgeClient.Route.Router
