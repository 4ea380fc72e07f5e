import SnmpManager.Main
import SnmpManager.Run.Rehearsal
import SnmpManager.Proofs.Ber.BigEndian
import SnmpManager.Proofs.Ber.Length
import SnmpManager.Proofs.Ber.Integer
import SnmpManager.Proofs.Oid.Wire
import SnmpManager.Proofs.Ber.Takes
import SnmpManager.Proofs.Ber.Uses
import SnmpManager.Proofs.Ber.Content
import SnmpManager.Proofs.Ber.Forward
import SnmpManager.Proofs.Ber.Plain
import SnmpManager.Proofs.Value.Wire
import SnmpManager.Proofs.Message.Forward
import SnmpManager.Proofs.Message.Reads
import SnmpManager.Proofs.Message.RoundTrip
import SnmpManager.Proofs.Message.Size
import SnmpManager.Proofs.Message.Header
import SnmpManager.Proofs.Message.Decoded
import SnmpManager.Proofs.Oid.OnWire
import SnmpManager.Proofs.Oid.Domain
import SnmpManager.Proofs.Message.Asking
import SnmpManager.Proofs.Command.Named
import SnmpManager.Proofs.Command.Typed
import SnmpManager.Proofs.Command.Flags
import SnmpManager.Proofs.Command.Items
import SnmpManager.Proofs.Session.Ensures
import SnmpManager.Proofs.Session.Interpretation
import SnmpManager.Proofs.Session.Replies
import SnmpManager.Proofs.Session.Ledger
import SnmpManager.Proofs.Session.Sent
import SnmpManager.Proofs.Session.Correlation
import SnmpManager.Proofs.Session.Retries
import SnmpManager.Proofs.Session.Answers
import SnmpManager.Proofs.Oid.Order
import SnmpManager.Proofs.Walk.Polls
import SnmpManager.Proofs.Session.Permitted
import SnmpManager.Proofs.Walk.Reports
import SnmpManager.Proofs.Walk.Reference
import SnmpManager.Proofs.Walk.Batching
import SnmpManager.Proofs.Walk.Table
import SnmpManager.Proofs.Walk.Honest
import SnmpManager.Proofs.Walk.TableAgent
import SnmpManager.Proofs.Walk.Completeness
import SnmpManager.Proofs.Walk.Journal
import SnmpManager.Proofs.Walk.Discipline
import SnmpManager.Proofs.Walk.Termination
import SnmpManager.Proofs.Run.Questions
import SnmpManager.Proofs.Run.Notifications
import SnmpManager.Proofs.Run.Observed
import SnmpManager.Proofs.Run.Blame
import SnmpManager.Proofs.Run.UsageErrors
import SnmpManager.Proofs.Run.Refusals
import SnmpManager.Proofs.Text.Decimal
import SnmpManager.Proofs.Oid.Dotted
import SnmpManager.Proofs.Mib.Rendered
import SnmpManager.Proofs.Message.Tolerant
import SnmpManager.Proofs.Stream.Framing
import SnmpManager.Proofs.Session.Lifted
import SnmpManager.Proofs.Run.Printed
import SnmpManager.Proofs.Text.Hex
import SnmpManager.Proofs.Text.Radix
import SnmpManager.Proofs.Text.Lines
import SnmpManager.Proofs.Text.Json
import SnmpManager.Proofs.Print.Lines
import SnmpManager.Proofs.Print.Json
import SnmpManager.Proofs.Net.Ipv4
import SnmpManager.Proofs.Literal.Octets
import SnmpManager.Proofs.Literal.Printed
import SnmpManager.Proofs.Literal.Runs
import SnmpManager.Proofs.Literal.Buffer
import SnmpManager.Proofs.Literal.Bits
import SnmpManager.Proofs.Literal.Bytes
import SnmpManager.Proofs.Literal.Numbers
import SnmpManager.Proofs.Mib.Spellings
import SnmpManager.Proofs.Agent.Specifier
import SnmpManager.Proofs.Oid.Parsing
import SnmpManager.Proofs.Print.Recovered
import SnmpManager.Proofs.Print.Forms
import SnmpManager.Proofs.Message.Delimited
import SnmpManager.Proofs.Message.Bounded
