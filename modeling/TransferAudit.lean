import TransferAudit.UInt256
import TransferAudit.BigEndian
import TransferAudit.Text.Blank
import TransferAudit.Text.Hex
import TransferAudit.Text.Numeral
import TransferAudit.Text.CodeRange
import TransferAudit.Text.Alphanumeric
import TransferAudit.Text.Mark
import TransferAudit.Text.CombiningClass
import TransferAudit.Text.Composition
import TransferAudit.Text.Direction
import TransferAudit.Text.Joining
import TransferAudit.Text.Terminal
import TransferAudit.Duration
import TransferAudit.Crypto.Hash
import TransferAudit.Crypto.Keccak
import TransferAudit.Crypto.Sha256
import TransferAudit.Crypto.Secp256k1
import TransferAudit.Crypto.Signature
import TransferAudit.Account.Address
import TransferAudit.Account.Key
import TransferAudit.Rlp.Basic
import TransferAudit.Transaction
import TransferAudit.Binary64
import TransferAudit.Json.Basic
import TransferAudit.Json.Printer
import TransferAudit.Json.Token
import TransferAudit.Json.Raw
import TransferAudit.Url.Fault
import TransferAudit.Url.Percent
import TransferAudit.Url.Punycode
import TransferAudit.Url.Domain.Form
import TransferAudit.Url.Domain.Label
import TransferAudit.Url.Domain
import TransferAudit.Url.Host
import TransferAudit.Url.Basic
import TransferAudit.Url.Parser
import TransferAudit.Json.Record
import TransferAudit.Rpc.Quantity
import TransferAudit.Rpc.Method
import TransferAudit.Rpc.Fault
import TransferAudit.Rpc.Response
import TransferAudit.Rpc.Receipt
import TransferAudit.Log.Event
import TransferAudit.Ledger.Basic
import TransferAudit.Settlement.FeeLaw
import TransferAudit.Settlement.Law
import TransferAudit.Scenario.Config
import TransferAudit.Scenario.Fault
import TransferAudit.Scenario.Verdict
import TransferAudit.Scenario.Run
import TransferAudit.Rpc.Reply
import TransferAudit.Rpc.Client
import TransferAudit.Ledger.OverNode
import TransferAudit.Rpc.Node
import TransferAudit.Ledger.Scripted
import TransferAudit.Log.Pattern.Fault
import TransferAudit.Log.Pattern.Class
import TransferAudit.Log.Pattern
import TransferAudit.Log.Filter
import TransferAudit.Program.EnvFile
import TransferAudit.Program.Options
import TransferAudit.Program.Arguments
import TransferAudit.Program.Note
import TransferAudit.Program.Check
import TransferAudit.Replay.Journal
import TransferAudit.Replay.World
import TransferAudit.Replay.Stage
import TransferAudit.Replay.Program
import TransferAudit.Account.Fresh
import TransferAudit.Http.Message
import TransferAudit.Program.Help
import TransferAudit.Main
import TransferAudit.Rlp.Decode
import TransferAudit.Transaction.Envelope
import TransferAudit.Ledger.Honest
import TransferAudit.Scenario.VerdictReader
import TransferAudit.Proofs.Rlp.RoundTrip
import TransferAudit.Proofs.Rlp.Canonical
import TransferAudit.Proofs.Rlp.Size
import TransferAudit.Proofs.Transaction.Envelope
import TransferAudit.Proofs.Transaction.ReplayProtection
import TransferAudit.Proofs.Transaction.Canonical
import TransferAudit.Proofs.Replay.Perform
import TransferAudit.Proofs.Replay.Request
import TransferAudit.Proofs.Replay.Stage
import TransferAudit.Proofs.Replay.Passage
import TransferAudit.Proofs.Settlement.Law
import TransferAudit.Proofs.Settlement.Composition
import TransferAudit.Proofs.Scenario.Judgement
import TransferAudit.Proofs.Scenario.Observation
import TransferAudit.Proofs.Scenario.Passing
import TransferAudit.Proofs.Scenario.Course
import TransferAudit.Proofs.Scenario.Walk
import TransferAudit.Proofs.Scenario.Attribution
import TransferAudit.Proofs.Scenario.Calls
import TransferAudit.Proofs.Scenario.Faults
import TransferAudit.Proofs.Ledger.Submission
import TransferAudit.Proofs.Ledger.Polling
import TransferAudit.Proofs.Ledger.Wait
import TransferAudit.Proofs.Ledger.Confirmation
import TransferAudit.Proofs.Replay.Trace
import TransferAudit.Proofs.Ledger.Requests
import TransferAudit.Proofs.Scenario.Requests
import TransferAudit.Proofs.Scenario.Repetition
import TransferAudit.Proofs.Scenario.Series
import TransferAudit.Proofs.Ledger.Honesty
import TransferAudit.Proofs.Scenario.Exhaustion
import TransferAudit.Proofs.Ledger.Depth
import TransferAudit.Proofs.Scenario.TransactionHash
import TransferAudit.Proofs.Ledger.SealOverflow
import TransferAudit.Proofs.Json.Token
import TransferAudit.Proofs.Json.RoundTrip
import TransferAudit.Proofs.Text.Blank
import TransferAudit.Proofs.Text.Numeral
import TransferAudit.Proofs.Text.Hex
import TransferAudit.Proofs.Settlement.FeeText
import TransferAudit.Proofs.Account.Key
import TransferAudit.Proofs.Rpc.Quantity
import TransferAudit.Proofs.Scenario.VerdictRoundTrip
import TransferAudit.Proofs.Replay.Reserve
import TransferAudit.Proofs.Scenario.Runs
import TransferAudit.Proofs.Program.Settings
import TransferAudit.Proofs.Scenario.VerdictText
import TransferAudit.Proofs.Program.Outcome
import TransferAudit.Proofs.Text.Line
import TransferAudit.Proofs.Url.Host
import TransferAudit.Proofs.Url.Printable
import TransferAudit.Proofs.Ledger.Words
import TransferAudit.Proofs.Scenario.Lines
import TransferAudit.Proofs.Rpc.Response
import TransferAudit.Proofs.Rpc.Classification
import TransferAudit.Proofs.Ledger.Failure
import TransferAudit.Proofs.Scenario.Overdraft
import TransferAudit.Proofs.Scenario.FeeDependence
import TransferAudit.Proofs.Program.Amount
import TransferAudit.Proofs.Json.Record
import TransferAudit.Proofs.Rpc.RoundTrip
import TransferAudit.Proofs.Rpc.KnownMembers
