import Gatehouse.Account.Caller
import Gatehouse.Account.Saving
import Gatehouse.Account.Service
import Gatehouse.Audit
import Gatehouse.Cipher.Blowfish
import Gatehouse.Cipher.PiDigits
import Gatehouse.Codec.Base64Url
import Gatehouse.Codec.Sextet
import Gatehouse.Codec.Word
import Gatehouse.Digest.Hmac
import Gatehouse.Digest.Sha256
import Gatehouse.Failure.Basic
import Gatehouse.Failure.Refusal
import Gatehouse.Form.Basic
import Gatehouse.Form.Field
import Gatehouse.Form.Violation
import Gatehouse.Json.Basic
import Gatehouse.Json.Display
import Gatehouse.Json.Reader
import Gatehouse.Json.Writer
import Gatehouse.Keyed
import Gatehouse.Log
import Gatehouse.Member.Basic
import Gatehouse.Member.Directory
import Gatehouse.Member.Named
import Gatehouse.Member.Scope
import Gatehouse.Member.Summary
import Gatehouse.Number.Exact
import Gatehouse.Number.Integer
import Gatehouse.Number.Layout
import Gatehouse.Number.Nearest
import Gatehouse.Number.Quantity
import Gatehouse.Number.Reading
import Gatehouse.Number.Shortest
import Gatehouse.Number.Significant
import Gatehouse.Number.Word
import Gatehouse.Password.Digest
import Gatehouse.Password.Verifier
import Gatehouse.Proofs.Account.PasswordSetup
import Gatehouse.Proofs.Flow
import Gatehouse.Proofs.Json.Numbers
import Gatehouse.Proofs.Json.Objects
import Gatehouse.Proofs.Json.Strings
import Gatehouse.Proofs.Member.Writing
import Gatehouse.Proofs.Text.Words
import Gatehouse.Proofs.Throttle.Taking
import Gatehouse.Proofs.Token.RoundTrip
import Gatehouse.Proofs.Token.Secret
import Gatehouse.Proofs.Token.Segments
import Gatehouse.Proofs.Token.Structure
import Gatehouse.Proofs.Web.Addresses
import Gatehouse.Proofs.Web.Throttling
import Gatehouse.Settings.Basic
import Gatehouse.Settings.EnvFile
import Gatehouse.Settings.Expansion
import Gatehouse.Settings.Value
import Gatehouse.Text.Blank
import Gatehouse.Text.Case
import Gatehouse.Text.DecimalDigit
import Gatehouse.Text.Digits
import Gatehouse.Text.Encoding
import Gatehouse.Text.Percent
import Gatehouse.Text.Printable
import Gatehouse.Text.Quoted
import Gatehouse.Text.Split
import Gatehouse.Throttle.Allowance
import Gatehouse.Throttle.Bucket
import Gatehouse.Throttle.Limiter
import Gatehouse.Time.Timestamp
import Gatehouse.Token.Claims
import Gatehouse.Token.Compact
import Gatehouse.Token.Key
import Gatehouse.Token.Processor
import Gatehouse.Web.Authority
import Gatehouse.Web.Cors
import Gatehouse.Web.Endpoint
import Gatehouse.Web.Handler
import Gatehouse.Web.Header
import Gatehouse.Web.Host
import Gatehouse.Web.Query
import Gatehouse.Web.Request
import Gatehouse.Web.Response
import Gatehouse.Web.Server
import Gatehouse.Web.Submission
import Gatehouse.World
import Gatehouse.Proofs.Account.TokenUses
import Gatehouse.Proofs.Throttle.Refilling
import Gatehouse.Proofs.Throttle.Serving
import Gatehouse.Proofs.Throttle.Calls
import Gatehouse.Proofs.Throttle.Isolation
import Gatehouse.Proofs.Throttle.AdmissionRate
import Gatehouse.Proofs.Account.ScopeDemand
import Gatehouse.Proofs.Member.Records
import Gatehouse.Proofs.Account.Operations
import Gatehouse.Proofs.Account.Signing
import Gatehouse.Proofs.Web.Layers
import Gatehouse.Proofs.Web.SigninFailures
import Gatehouse.Proofs.Web.Signing
import Gatehouse.Proofs.Account.Opening
import Gatehouse.Proofs.Account.Runs
import Gatehouse.Proofs.Account.Sessions
import Gatehouse.Proofs.Account.Binding
import Gatehouse.Proofs.Account.Privilege
import Gatehouse.Proofs.Account.Credentials
import Gatehouse.Proofs.Settings.SigningKey
import Gatehouse.Proofs.Number.Rounding
import Gatehouse.Proofs.Number.Bits
import Gatehouse.Proofs.Number.Scientific
import Gatehouse.Proofs.Number.Shortest
import Gatehouse.Proofs.Number.Monotone
import Gatehouse.Proofs.Json.Decimals
import Gatehouse.Proofs.Text.FixedWidth
import Gatehouse.Proofs.Time.Calendar
import Gatehouse.Proofs.Time.Order
import Gatehouse.Proofs.Throttle.Eviction
import Gatehouse.Proofs.Throttle.Recency
import Gatehouse.Proofs.Throttle.Recovery
import Gatehouse.Proofs.Throttle.RacedSweep
import Gatehouse.Proofs.Throttle.Sweeping
import Gatehouse.Proofs.Account.Orders
import Gatehouse.Proofs.Account.Renewal
import Gatehouse.Proofs.Password.Digests
import Gatehouse.Proofs.Account.FirstPassword
import Gatehouse.Proofs.Account.Recognition
import Gatehouse.Proofs.Web.AdminLookup
import Gatehouse.Proofs.Account.Likeness
import Gatehouse.Proofs.Web.HiddenDigests
import Gatehouse.Proofs.Member.Seniority
import Gatehouse.Proofs.Form.Acceptance
import Gatehouse.Proofs.Account.FailureCauses
import Gatehouse.Proofs.Web.AcceptedForms
import Gatehouse.Proofs.Web.Charging
import Gatehouse.Proofs.Account.Validation
import Gatehouse.Proofs.Account.Moves
import Gatehouse.Proofs.Account.TokenIds
import Gatehouse.Proofs.Account.Registration
import Gatehouse.Proofs.Password.Hashing
import Gatehouse.Proofs.Password.Keys
import Gatehouse.Proofs.Form.Findings
import Gatehouse.Proofs.Web.RejectedForms
import Gatehouse.Proofs.Account.Discretion
import Gatehouse.Proofs.Account.AuditTrail
