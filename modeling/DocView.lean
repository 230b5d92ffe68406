import DocView.Argument
import DocView.Binary64.Basic
import DocView.Binary64.Shortest
import DocView.Bytes
import DocView.Calendar.Basic
import DocView.Calendar.Iso
import DocView.Calendar.Stamp
import DocView.Coercion
import DocView.CommandLine
import DocView.Document
import DocView.Error
import DocView.FieldType
import DocView.Fields
import DocView.Filter.Condition
import DocView.Filter.Evaluation
import DocView.Filter.Operator
import DocView.Filter.Preparation
import DocView.Filter.Set
import DocView.Inference
import DocView.Json.Reader
import DocView.Json.Writer
import DocView.Log.Layout
import DocView.Log.Level
import DocView.Log.Registry
import DocView.Main
import DocView.MessagePack.Reader
import DocView.MessagePack.Writer
import DocView.Page
import DocView.Path
import DocView.Pattern.Matcher
import DocView.Pattern.Parser
import DocView.Pattern.Syntax
import DocView.Proofs.Order
import DocView.Query.Basic
import DocView.Query.Builder
import DocView.Query.Parse
import DocView.Query.Replay
import DocView.SavedView
import DocView.Server.Complaint
import DocView.Server.Config
import DocView.Server.Form
import DocView.Server.Launch
import DocView.Server.Rendering
import DocView.Server.Request
import DocView.Server.Response
import DocView.Server.Route
import DocView.Server.Service
import DocView.Settings
import DocView.Settings.Load
import DocView.Sorting.Comparison
import DocView.Sorting.Documents
import DocView.Sorting.Key
import DocView.Store.Basic
import DocView.Store.Disk
import DocView.Store.Format
import DocView.Store.Record
import DocView.Store.Supply
import DocView.Table
import DocView.Text.Blank
import DocView.Text.Case
import DocView.Text.Decomposition
import DocView.Text.Digit
import DocView.Text.Letter
import DocView.Text.Numeral
import DocView.Text.Occurrence
import DocView.Text.Printable
import DocView.Text.Quoted
import DocView.Text.Split
import DocView.Text.Table
import DocView.Text.Utf8
import DocView.Value.Basic
import DocView.Value.Literal
import DocView.Value.Order
import DocView.Value.Text
import DocView.View
import DocView.Window
import DocView.Yaml.Node
import DocView.Yaml.Scalar
import DocView.Yaml.Token
import DocView.Proofs.Binary64.Place
import DocView.Proofs.Sorting.Comparison
import DocView.Proofs.Result
import DocView.Proofs.Sorting.Documents
import DocView.Proofs.Value.Form
import DocView.Proofs.Query.RoundTrip
import DocView.Proofs.Value.Data
import DocView.Proofs.Value.Strings
import DocView.Proofs.Value.Equality
import DocView.Proofs.Filter.Container
import DocView.Proofs.Filter.Set
import DocView.Proofs.Calendar
import DocView.Proofs.Filter.Number
import DocView.Proofs.Filter.Preparation
import DocView.Proofs.Json.Numeral
import DocView.Proofs.Json.NumeralText
import DocView.Proofs.Json.Quoted
import DocView.Proofs.Json.Text
import DocView.Proofs.Text.Split
import DocView.Proofs.Query.Freezing
import DocView.Proofs.Value.Text
import DocView.Proofs.Query.Distinction
import DocView.Proofs.Query.Replay
import DocView.Proofs.Sorting.Selection
import DocView.Proofs.Page
import DocView.Proofs.View
import DocView.Proofs.Store.Disk
import DocView.Proofs.Store.Operation
import DocView.Proofs.Store.Reachable
import DocView.Proofs.Store.Atomicity
import DocView.Proofs.Store.Record
import DocView.Proofs.Store.Persistence
import DocView.Proofs.Json.RoundTrip
import DocView.Proofs.Bytes
import DocView.Proofs.MessagePack.RoundTrip
import DocView.Proofs.Store.Encoding
import DocView.Proofs.Store.Call
import DocView.Proofs.Store.Ledger
import DocView.Proofs.Store.Backup
import DocView.Proofs.Document.Rows
import DocView.Proofs.View.Rows
import DocView.Proofs.Query.Merging
import DocView.Proofs.Query.Conjunction
import DocView.Proofs.Query.Fence
import DocView.Proofs.Query.Text
import DocView.Proofs.SavedView
import DocView.Proofs.Json.Digits
import DocView.Proofs.Coercion
import DocView.Proofs.Query.Untrusted
import DocView.Proofs.Store.Loading
import DocView.Proofs.Store.Identity
import DocView.Proofs.Value.Standing
import DocView.Proofs.Filter.Range
import DocView.Proofs.Filter.Raw
import DocView.Proofs.Store.Failure
import DocView.Proofs.Json.Finite
import DocView.Proofs.Store.Kind
import DocView.Proofs.Server.Rendering
import DocView.Proofs.Server.Failure
import DocView.Proofs.Json.Data
import DocView.Proofs.Query.Thawing
import DocView.Proofs.Query.Nulling
import DocView.Proofs.Query.NullDistinction
import DocView.Proofs.Query.Sending
import DocView.Proofs.Server.Documents
import DocView.Proofs.Server.Agreement
import DocView.Proofs.Filter.Complement
import DocView.Proofs.Value.Interchange
import DocView.Proofs.Value.Equivalence
import DocView.Proofs.Filter.Membership
import DocView.Proofs.Filter.Warnings
import DocView.Proofs.Filter.Answers
import DocView.Proofs.Filter.Algebra
import DocView.Proofs.Query.Literal
import DocView.Proofs.Page.Info
import DocView.Proofs.Sorting.Cascade
import DocView.Proofs.Query.Typing
import DocView.Proofs.Binary64.Rounding
import DocView.Proofs.Binary64.Shortest
import DocView.Proofs.Json.Double
import DocView.Proofs.Json.Reread
import DocView.Proofs.Query.Saving
import DocView.Proofs.Store.Identifier
import DocView.Proofs.Store.Import
import DocView.Proofs.Text.Table
import DocView.Proofs.Text.Case
import DocView.Proofs.Pattern.Matcher
import DocView.Proofs.Pattern.Folding
import DocView.Proofs.Pattern.Reader
import DocView.Proofs.Pattern.Flags
import DocView.Proofs.Filter.Pattern
import DocView.Proofs.Text.Numeral
import DocView.Proofs.Document.Path
import DocView.Proofs.Fields
import DocView.Proofs.Inference
import DocView.Proofs.Query.Fenced
import DocView.Proofs.Query.Refusal
