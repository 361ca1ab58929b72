import Tftp.Packet
import Tftp.Rules
import Tftp.Source
import Tftp.Step

/-! # Senders

The sending half of a transfer. A sender cuts its source into blocks, numbers them from 1 (or from
the block after the one it resumes at) and hands each out as a datagram. A block that is not full
is the last; if the content ends at the edge of a block, the last block is empty.

The counter moves only when a datagram is handed out. What a failing source delivered before it
failed is held back for the next call, so nothing is lost by a fault that passes. -/

namespace Tftp

/-- The sending half of a transfer. -/
structure Sender where
  source : Source
  /-- The number of the block handed out last. -/
  block : UInt16
  /-- How many blocks were handed out. -/
  blocksSent : UInt64 := 0
  /-- The last block was handed out. -/
  finished : Bool := false
  /-- The last block was acknowledged. -/
  complete : Bool := false
  /-- The datagram handed out last, for sending it again. -/
  lastDatagram : Option Octets := none
  /-- Octets that were read but not yet handed out. -/
  held : Octets := []
  rules : TransferRules := {}

namespace Sender

/-- A sender that goes on after the given block. -/
def resume (source : Source) (block : UInt16) : Sender := { source, block }

/-- A sender whose first block has number 1. -/
def new (source : Source) : Sender := resume source 0

/-- The same sender under other rules. -/
def withRules (s : Sender) (rules : TransferRules) : Sender := { s with rules }

/-! ### Handing out blocks -/

/-- The rules allow no further block: the counter stands at its end and must not start again, or
the bound on blocks is reached. -/
def isExhausted (s : Sender) : Bool :=
  (s.block == 65535 && !s.rules.allowRollover) ||
    (decide (0 < s.rules.maxBlocks) && decide (s.rules.maxBlocks.toUInt64 ≤ s.blocksSent))

/-- One more, unless the count is at its greatest value. -/
def countUp (n : UInt64) : UInt64 := if n + 1 = 0 then n else n + 1

/-- Hands out the octets held as the next block. -/
def emit (s : Sender) : Step Sender (Option Octets) :=
  match DataPacket.encodeNext s.block s.held with
  | .error fault => .refuse s fault
  | .ok (datagram, block) =>
    let blocksSent := countUp s.blocksSent
    let last := decide (s.held.length < blockSize)
    { result := .ok (some datagram)
      state := { s with
        block, blocksSent
        finished := last
        lastDatagram := some datagram
        held := [] }
      counts := .sent + .encoded (.ofNat datagram.length)
      events := .blockProduced block s.held.length ::
        if last then [.lastBlockProduced block blocksSent] else [] }

/-- Hands out the next block as a datagram, or nothing after the last block. -/
def next (s : Sender) : Step Sender (Option Octets) :=
  if s.finished then .answer s none
  else if s.isExhausted then .refuse s .blockExhausted
  else
    let filling := s.source.fill s.held
    let s := { s with source := filling.source, held := filling.held }
    match filling.fault with
    | some e => .refuse s (.io e)
    | none => s.emit

/-- Hands out blocks, at most `count` of them. -/
def nextMany (count : Nat) (s : Sender) : Run Sender := Run.upTo next count s

/-! ### Acknowledgments -/

/-- Takes note of an acknowledgment, and tells whether it is for the block handed out last. -/
def acknowledge (s : Sender) (ack : Acknowledgment) : Step Sender Bool :=
  if s.blocksSent = 0 ∨ ack.block ≠ s.block then
    { result := .ok false, state := s, events := [.staleAcknowledgment ack.block s.block] }
  else if s.finished && !s.complete then
    { result := .ok true, state := { s with complete := true }
      counts := .completed, events := [.transferAcknowledged s.blocksSent] }
  else .answer s true

end Sender
end Tftp
