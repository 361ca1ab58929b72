import Tftp.Fault

/-! # Traffic counters

Every operation reports what it adds to eleven counters. The counters are words of 64 bits, and
adding wraps; so the counts of separate operations can be added in any order. -/

namespace Tftp

/-- Counts of datagrams, octets, blocks and transfers. -/
structure Counters where
  /-- Datagrams written. -/
  datagramsEncoded : UInt64 := 0
  /-- Datagrams read as a packet. -/
  datagramsDecoded : UInt64 := 0
  /-- Octets of the datagrams written. -/
  bytesEncoded : UInt64 := 0
  /-- Octets of the datagrams read as a packet. -/
  bytesDecoded : UInt64 := 0
  /-- Datagrams refused for any reason. -/
  decodeFailures : UInt64 := 0
  /-- Datagrams refused for being shorter than a header. -/
  undersizedRejected : UInt64 := 0
  /-- Datagrams refused for being too long. -/
  oversizedRejected : UInt64 := 0
  /-- Datagrams refused because their opcode stands for no kind. -/
  unknownTypeRejected : UInt64 := 0
  /-- Blocks handed out by senders. -/
  blocksSent : UInt64 := 0
  /-- Blocks stored by receivers. -/
  blocksReceived : UInt64 := 0
  /-- Transfers that came to their end. -/
  transfersCompleted : UInt64 := 0
  deriving DecidableEq, Repr, Inhabited

namespace Counters

/-- Nothing counted. -/
def zero : Counters := {}

instance : Zero Counters := ⟨zero⟩

/-- The counts of both. -/
def add (a b : Counters) : Counters where
  datagramsEncoded := a.datagramsEncoded + b.datagramsEncoded
  datagramsDecoded := a.datagramsDecoded + b.datagramsDecoded
  bytesEncoded := a.bytesEncoded + b.bytesEncoded
  bytesDecoded := a.bytesDecoded + b.bytesDecoded
  decodeFailures := a.decodeFailures + b.decodeFailures
  undersizedRejected := a.undersizedRejected + b.undersizedRejected
  oversizedRejected := a.oversizedRejected + b.oversizedRejected
  unknownTypeRejected := a.unknownTypeRejected + b.unknownTypeRejected
  blocksSent := a.blocksSent + b.blocksSent
  blocksReceived := a.blocksReceived + b.blocksReceived
  transfersCompleted := a.transfersCompleted + b.transfersCompleted

instance : Add Counters := ⟨add⟩

/-! ### What is counted -/

/-- A datagram of the given length was written. -/
def encoded (length : UInt64) : Counters := { datagramsEncoded := 1, bytesEncoded := length }

/-- A datagram of the given length was read as a packet. -/
def decoded (length : UInt64) : Counters := { datagramsDecoded := 1, bytesDecoded := length }

/-- A datagram was refused for the given fault. -/
def failed : Fault → Counters
  | .undersizedDatagram _ => { decodeFailures := 1, undersizedRejected := 1 }
  | .oversizedDatagram _ => { decodeFailures := 1, oversizedRejected := 1 }
  | .unknownType _ => { decodeFailures := 1, unknownTypeRejected := 1 }
  | _ => { decodeFailures := 1 }

/-- A sender handed out a block. -/
def sent : Counters := { blocksSent := 1 }

/-- A receiver stored a block. -/
def received : Counters := { blocksReceived := 1 }

/-- A transfer came to its end. -/
def completed : Counters := { transfersCompleted := 1 }

/-! ### Listing -/

/-- The counts with their names. -/
def entries (c : Counters) : List (String × UInt64) :=
  [("datagrams_encoded", c.datagramsEncoded), ("datagrams_decoded", c.datagramsDecoded),
   ("bytes_encoded", c.bytesEncoded), ("bytes_decoded", c.bytesDecoded),
   ("decode_failures", c.decodeFailures), ("undersized_rejected", c.undersizedRejected),
   ("oversized_rejected", c.oversizedRejected),
   ("unknown_type_rejected", c.unknownTypeRejected), ("blocks_sent", c.blocksSent),
   ("blocks_received", c.blocksReceived), ("transfers_completed", c.transfersCompleted)]

/-! ### Laws -/

theorem add_zero (a : Counters) : a + 0 = a := by
  change add a zero = a
  simp [add, zero]

theorem zero_add (a : Counters) : 0 + a = a := by
  change add zero a = a
  simp [add, zero]

theorem add_comm (a b : Counters) : a + b = b + a := by
  change add a b = add b a
  simp [add, UInt64.add_comm]

theorem add_assoc (a b c : Counters) : a + b + c = a + (b + c) := by
  change add (add a b) c = add a (add b c)
  simp [add, UInt64.add_assoc]

end Counters
end Tftp
