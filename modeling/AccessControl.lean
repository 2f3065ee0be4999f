import AccessControl.Account
import AccessControl.Argument
import AccessControl.AuthDomain
import AccessControl.DecodeFault
import AccessControl.Error
import AccessControl.FormBody
import AccessControl.Group
import AccessControl.Http.Method
import AccessControl.Http.Status
import AccessControl.Json.Basic
import AccessControl.Json.Decoder
import AccessControl.Json.Inspect
import AccessControl.Json.Parser
import AccessControl.Json.Printer
import AccessControl.Json.Token
import AccessControl.Manager
import AccessControl.Numeric.Double
import AccessControl.Numeric.Rounding
import AccessControl.Numeric.Shortest
import AccessControl.Ordered.Entries
import AccessControl.Ordered.Map
import AccessControl.Ordered.Set
import AccessControl.Origin
import AccessControl.Params
import AccessControl.Proofs.Account.ChangeTime
import AccessControl.Proofs.Account.Dependence
import AccessControl.Proofs.Account.Views
import AccessControl.Proofs.Account.WriteBack
import AccessControl.Proofs.Call.Classification
import AccessControl.Proofs.Call.Course
import AccessControl.Proofs.Call.Fault
import AccessControl.Proofs.Call.Listing
import AccessControl.Proofs.Call.Redirection
import AccessControl.Proofs.Call.Sending
import AccessControl.Proofs.Call.Target
import AccessControl.Proofs.Group.Decoding
import AccessControl.Proofs.Group.Interchange
import AccessControl.Proofs.Group.Naming
import AccessControl.Proofs.Group.Texts
import AccessControl.Proofs.InOrder
import AccessControl.Proofs.Json.Sameness
import AccessControl.Proofs.Ordered.Entries
import AccessControl.Proofs.Params.Merging
import AccessControl.Proofs.Params.Precedence
import AccessControl.Proofs.Record.Frame
import AccessControl.Proofs.Record.History
import AccessControl.Proofs.Record.Positional
import AccessControl.Proofs.Record.Reading
import AccessControl.Proofs.Record.Resolution
import AccessControl.Proofs.Record.Writing
import AccessControl.Proofs.Role.Grant
import AccessControl.Proofs.Role.Info
import AccessControl.Proofs.Role.List
import AccessControl.Proofs.Role.Refusal
import AccessControl.Proofs.Role.Sendable
import AccessControl.Proofs.Role.Structured
import AccessControl.Proofs.Role.Transfer
import AccessControl.Proofs.Role.WireForm
import AccessControl.Proofs.Success
import AccessControl.Proofs.Text.DotSegments
import AccessControl.Proofs.Text.FormBody
import AccessControl.Proofs.User.Groups
import AccessControl.Proofs.User.History
import AccessControl.Proofs.User.Interchange
import AccessControl.Proofs.User.Password
import AccessControl.Proofs.User.Profile
import AccessControl.Proofs.User.Sending
import AccessControl.Record.Basic
import AccessControl.Record.Schema
import AccessControl.Request
import AccessControl.Role.Basic
import AccessControl.Role.Grant
import AccessControl.Role.Info
import AccessControl.Role.Wire
import AccessControl.Text.CodePoints
import AccessControl.Text.DefaultIgnorable
import AccessControl.Text.Form
import AccessControl.Text.GraphemeExtend
import AccessControl.Text.Occurs
import AccessControl.Text.Octets
import AccessControl.Text.Percent
import AccessControl.Text.Quoted
import AccessControl.Text.Unprintable
import AccessControl.Time.Calendar
import AccessControl.Time.Instant
import AccessControl.Time.Rfc3339
import AccessControl.User
