import Tftp.Codec
import Tftp.Counters
import Tftp.ErrorCode
import Tftp.Event
import Tftp.Fault
import Tftp.IoFault
import Tftp.Level
import Tftp.Limits
import Tftp.Link
import Tftp.Octets
import Tftp.Opcode
import Tftp.Packet
import Tftp.Packet.Decode
import Tftp.Packet.Write
import Tftp.Proofs.Block
import Tftp.Proofs.Bounds
import Tftp.Proofs.Calls
import Tftp.Proofs.Capacity
import Tftp.Proofs.Choice
import Tftp.Proofs.Chunking
import Tftp.Proofs.Codec
import Tftp.Proofs.Conservation
import Tftp.Proofs.Defect
import Tftp.Proofs.Delivery
import Tftp.Proofs.Dispatch
import Tftp.Proofs.Document.Format
import Tftp.Proofs.Document.Lines
import Tftp.Proofs.Document.Numeral
import Tftp.Proofs.Document.Spelling
import Tftp.Proofs.Encoding
import Tftp.Proofs.Exchange
import Tftp.Proofs.Exchange.Agreement
import Tftp.Proofs.Exchange.Ledger
import Tftp.Proofs.Exchange.Simulation
import Tftp.Proofs.Exchange.StopAndWait
import Tftp.Proofs.Filling
import Tftp.Proofs.Grammar
import Tftp.Proofs.InOrder
import Tftp.Proofs.Lossless
import Tftp.Proofs.LossyText
import Tftp.Proofs.Normalization
import Tftp.Proofs.Notice
import Tftp.Proofs.Numbering
import Tftp.Proofs.Overrides
import Tftp.Proofs.Reach
import Tftp.Proofs.Receiver
import Tftp.Proofs.Refusal
import Tftp.Proofs.Resumption
import Tftp.Proofs.RoundTrip
import Tftp.Proofs.Saved
import Tftp.Proofs.Sender
import Tftp.Proofs.SessionCounters
import Tftp.Proofs.Source
import Tftp.Proofs.Standing
import Tftp.Proofs.Standstill
import Tftp.Proofs.Steady
import Tftp.Proofs.Strictness
import Tftp.Proofs.Traffic
import Tftp.Proofs.Turns
import Tftp.Proofs.Words
import Tftp.Receiver
import Tftp.Rules
import Tftp.Sender
import Tftp.Settings
import Tftp.Settings.Document
import Tftp.Settings.Environment
import Tftp.Settings.Place
import Tftp.Settings.Storage
import Tftp.Sink
import Tftp.Source
import Tftp.Step
import Tftp.Text.Ascii
import Tftp.Text.Blank
import Tftp.Text.Combining
import Tftp.Text.Quoted
import Tftp.Text.Ranges
import Tftp.Text.Unprintable
import Tftp.Text.Utf8
import Tftp.Text.Utf8.Validity
import Tftp.Toml.Characters
import Tftp.Toml.Document
import Tftp.Toml.Format
import Tftp.Toml.Scalar
import Tftp.Toml.Statement
import Tftp.Toml.StringLiteral
import Tftp.Toml.Value
import Tftp.Toml.Written
import Tftp.View
