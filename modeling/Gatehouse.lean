import Gatehouse.Text.Blank
import Gatehouse.Text.LowerCase
import Gatehouse.Text.Quoted
import Gatehouse.Bytes.Base64
import Gatehouse.Bytes.Utf8
import Gatehouse.Hash.Hmac
import Gatehouse.Json.Writer
import Gatehouse.Json.Reader
import Gatehouse.Json.Record
import Gatehouse.Calendar.Text
import Gatehouse.Uuid
import Gatehouse.Validation
import Gatehouse.Client
import Gatehouse.Policy
import Gatehouse.Session.Opening
import Gatehouse.Blacklist
import Gatehouse.Token.Settings
import Gatehouse.Hash.Bcrypt
import Gatehouse.Token.Codec
import Gatehouse.Program
import Gatehouse.Backend
import Gatehouse.Store.Memory
import Gatehouse.Store.Faulty
import Gatehouse.Service.Login
import Gatehouse.Service.Authorization
import Gatehouse.Database.Script
import Gatehouse.Catalog
import Gatehouse.Store.Relational
import Gatehouse.Http.Message
import Gatehouse.Http.Api
import Gatehouse.CommandLine.Invocation
import Gatehouse.Launch
import Gatehouse.Console
import Gatehouse.Records
import Gatehouse.Main
import Gatehouse.Database.ScriptFile
import Gatehouse.Proofs.Permission
import Gatehouse.Proofs.Session
import Gatehouse.Proofs.Store.Rotation
import Gatehouse.Proofs.Store.Orderly
import Gatehouse.Proofs.Store.RotationContract
import Gatehouse.Proofs.Service.Login
import Gatehouse.Proofs.Concurrency.Assurance
import Gatehouse.Proofs.Service.Refresh
import Gatehouse.Proofs.Concurrency.Calls
import Gatehouse.Proofs.Concurrency.System
import Gatehouse.Proofs.Concurrency.Refresh
import Gatehouse.Proofs.Concurrency.Keeping
import Gatehouse.Proofs.Concurrency.SingleUse
import Gatehouse.Proofs.Bytes.Base64
import Gatehouse.Proofs.Bytes.Utf8
import Gatehouse.Proofs.Json.Literal
import Gatehouse.Proofs.Calendar
import Gatehouse.Proofs.Json.RoundTrip
import Gatehouse.Proofs.Uuid
import Gatehouse.Proofs.Token.Claims
import Gatehouse.Proofs.Token.RoundTrip
import Gatehouse.Proofs.Service.Answers
import Gatehouse.Proofs.Service.LoginSuccess
import Gatehouse.Proofs.Store.Graph
import Gatehouse.Proofs.Service.Authorization
import Gatehouse.Proofs.Token.Acceptance
import Gatehouse.Proofs.Service.Renewal
import Gatehouse.Proofs.Concurrency.Forward
import Gatehouse.Proofs.Store.Founding
import Gatehouse.Proofs.Blacklist
import Gatehouse.Proofs.Concurrency.LoggedOut
import Gatehouse.Proofs.Device.Isolation
import Gatehouse.Proofs.Device.Succession
import Gatehouse.Proofs.Policy
import Gatehouse.Proofs.Service.Grants
import Gatehouse.Proofs.Http.Authorization
import Gatehouse.Proofs.Service.Lifetimes
import Gatehouse.Proofs.Http.Opacity
import Gatehouse.Proofs.Service.Trace
import Gatehouse.Proofs.Service.Enumeration
import Gatehouse.Proofs.Service.Sources
import Gatehouse.Proofs.Http.Anonymous
import Gatehouse.Proofs.Exchange
import Gatehouse.Proofs.Relational.Rotation
import Gatehouse.Proofs.Relational.Assignments
import Gatehouse.Proofs.Service.OneByOne
import Gatehouse.Proofs.Bytes.Order
import Gatehouse.Proofs.Text.Cut
import Gatehouse.Proofs.Database.Layout
import Gatehouse.Proofs.Relational.SessionRow
import Gatehouse.Proofs.Relational.SessionStatements
import Gatehouse.Proofs.Relational.Calls
import Gatehouse.Proofs.Relational.Catalog
import Gatehouse.Proofs.Relational.Seeding
import Gatehouse.Proofs.Store.Switches
import Gatehouse.Proofs.Service.Resolution
import Gatehouse.Proofs.Service.Elapse
import Gatehouse.Proofs.Store.Listing
import Gatehouse.Proofs.Service.Listing
import Gatehouse.Proofs.Store.Consistent
import Gatehouse.Proofs.Token.View
import Gatehouse.Proofs.Service.Meanwhile
import Gatehouse.Proofs.Store.Logout
import Gatehouse.Proofs.Service.Logout
import Gatehouse.Proofs.Client
import Gatehouse.Proofs.Service.Recognition
import Gatehouse.Proofs.Launch
import Gatehouse.Proofs.Validation
import Gatehouse.Proofs.Token.ClaimsText
import Gatehouse.Proofs.Blacklist.History
