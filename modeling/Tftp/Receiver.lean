import Tftp.Packet
import Tftp.Rules
import Tftp.Sink
import Tftp.Step

/-! # Receivers

The receiving half of a transfer. A receiver stores the blocks in order, beginning with block 1,
and answers each with the acknowledgment to send. The block stored last is acknowledged again when
it comes again, so that a lost acknowledgment does no harm; anything else is out of sequence.

A fault of the sink is reported once and ends the session: part of a block may be stored, and no
later packet is written on top of it. -/

namespace Tftp

/-- The receiving half of a transfer. -/
structure Receiver where
  sink : Sink
  /-- The number that the next new block must have. -/
  expected : UInt16 := 1
  /-- The number of the block stored last. -/
  lastAccepted : Option UInt16 := none
  /-- The number of octets stored in whole blocks. -/
  bytesWritten : UInt64 := 0
  /-- The last block was stored. -/
  finished : Bool := false
  /-- The counter stands at its end and must not start again. -/
  exhausted : Bool := false
  /-- The sink failed. -/
  sinkFailed : Bool := false
  rules : TransferRules := {}

namespace Receiver

/-- A receiver that has stored nothing. -/
def new (sink : Sink) : Receiver := { sink }

/-- The same receiver under other rules. -/
def withRules (r : Receiver) (rules : TransferRules) : Receiver := { r with rules }

/-- Settles a block that is not the last one, after its content was stored. -/
def advance (r : Receiver) (block : UInt16) : Step Receiver Acknowledgment :=
  { result := .ok ⟨block⟩
    state := { r with
      exhausted := r.exhausted || (block == 65535 && !r.rules.allowRollover)
      expected := block + 1 }
    counts := .received }

/-- Settles the last block, after its content was stored: it counts once the sink is flushed. -/
def finish (r : Receiver) (block : UInt16) : Step Receiver Acknowledgment :=
  match r.sink.flush with
  | (.error e, sink) =>
    { result := .error (.io e), state := { r with sink, sinkFailed := true }, counts := .received }
  | (.ok (), sink) =>
    { result := .ok ⟨block⟩
      state := { r with sink, finished := true }
      counts := .received + .completed
      events := [.transferReceived block r.bytesWritten] }

/-- Stores the block that was expected. -/
def store (r : Receiver) (packet : DataPacket) : Step Receiver Acknowledgment :=
  match r.sink.writeAll packet.payload with
  | (.error e, sink) => .refuse { r with sink, sinkFailed := true } (.io e)
  | (.ok (), sink) =>
    let r := { r with
      sink
      bytesWritten := r.bytesWritten + UInt64.ofNat packet.payload.length
      lastAccepted := some packet.block }
    if packet.isFinal then r.finish packet.block else r.advance packet.block

/-- Takes a data packet and answers with the acknowledgment to send. -/
def receive (r : Receiver) (packet : DataPacket) : Step Receiver Acknowledgment :=
  if r.sinkFailed then .refuse r (.session .sinkFailed)
  else if r.lastAccepted = some packet.block then
    { result := .ok ⟨packet.block⟩, state := r, events := [.duplicateBlock packet.block] }
  else if r.finished then .refuse r (.session .finished)
  else if packet.block ≠ r.expected then .refuse r (.unexpectedBlock r.expected packet.block)
  else if r.exhausted then .refuse r .blockExhausted
  else r.store packet

/-- Takes blocks of the same content under ascending numbers, `count` of them beginning with
`first`, until one is refused. Beside the receiver the run keeps the number that comes next. -/
def receiveMany (r : Receiver) (payload : Octets) (fits : payload.length ≤ blockSize)
    (first : UInt16) (count : Nat) : Run (Receiver × UInt16) :=
  Run.upTo (fun (r, block) =>
    let step := r.receive ⟨block, payload, fits⟩
    { result := step.result.map some
      state := (step.state, if step.result.isOk then block + 1 else block)
      counts := step.counts
      events := step.events }) count (r, first)

end Receiver
end Tftp
