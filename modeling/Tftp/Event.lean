import Tftp.Counters
import Tftp.Level
import Tftp.Packet

/-! # Events

What an operation did is told by events, for a log. An event is a fact; its level, its line and
the fields that go with the line are read off it. -/

namespace Tftp

/-- Something worth a line in a log. -/
inductive Event where
  /-- A datagram was read as a packet. -/
  | decoded (packet : Packet) (length : Nat)
  /-- A datagram was refused. -/
  | rejected (fault : Fault) (length : Nat)
  /-- A packet was written. -/
  | encoded (packet : Packet) (length : Nat)
  /-- A sender handed out a block. -/
  | blockProduced (block : UInt16) (length : Nat)
  /-- The block handed out is the last of its transfer. -/
  | lastBlockProduced (block : UInt16) (blocks : UInt64)
  /-- An acknowledgment is not for the current block. -/
  | staleAcknowledgment (acknowledged current : UInt16)
  /-- The last block was acknowledged. -/
  | transferAcknowledged (blocks : UInt64)
  /-- A block came again and is acknowledged again. -/
  | duplicateBlock (block : UInt16)
  /-- The last block was stored. -/
  | transferReceived (block : UInt16) (bytes : UInt64)
  /-- The state of the counters. -/
  | snapshot (counters : Counters)

namespace Event

/-- How grave the event is. -/
def level : Event → Level
  | rejected .. => .warn
  | lastBlockProduced .. | transferAcknowledged .. | transferReceived .. | snapshot .. => .info
  | decoded .. | encoded .. | blockProduced .. | staleAcknowledgment .. | duplicateBlock .. =>
    .debug

/-- The line of the event. -/
def message : Event → String
  | decoded .. => "Decoded datagram"
  | rejected .. => "Rejected datagram"
  | encoded .. => "Encoded datagram"
  | blockProduced .. => "Produced data block"
  | lastBlockProduced .. => "Final data block produced"
  | staleAcknowledgment .. => "Ignoring stale acknowledgment"
  | transferAcknowledged .. => "Transfer acknowledged"
  | duplicateBlock .. => "Duplicate data block, re-acknowledging"
  | transferReceived .. => "Transfer received"
  | snapshot .. => "Codec metrics snapshot"

/-- The fields of the line with their texts. -/
def fields : Event → List (String × String)
  | decoded packet length => [("packet", packet.summary), ("len", toString length)]
  | rejected fault length => [("error", fault.message), ("len", toString length)]
  | encoded packet length => [("packet", packet.summary), ("len", toString length)]
  | blockProduced block length => [("block", toString block), ("len", toString length)]
  | lastBlockProduced block blocks =>
    [("final_block", toString block), ("blocks", toString blocks)]
  | staleAcknowledgment acknowledged current =>
    [("acked", toString acknowledged), ("current", toString current)]
  | transferAcknowledged blocks => [("blocks", toString blocks)]
  | duplicateBlock block => [("block", toString block)]
  | transferReceived block bytes => [("final_block", toString block), ("bytes", toString bytes)]
  | snapshot counters => counters.entries.map fun entry => (entry.1, toString entry.2)

end Event
end Tftp
