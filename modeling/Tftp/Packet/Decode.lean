import Tftp.Packet
import Tftp.Rules
import Tftp.Text.Ascii
import Tftp.View

/-! # Reading datagrams

A datagram is read in two steps. `Frame.read` refuses what is shorter than a header or longer than
the largest datagram and takes the header apart; after it no octet is out of reach. The decoder of
a kind then checks the opcode and reads the rest from left to right, so that a fault names the first
defect in wire order. An acknowledgment's length is checked before its opcode.

`Packet.decode` looks at the opcode first and leaves the rest to the decoder of that kind.

A datagram in a shared buffer is read through a view of it. The content of a data packet is then a
view of the same buffer (`DataPacket.decodeView`), while all else is read as before; a view reads
as the octets that it shows (`Packet.decodeView_eq`). -/

namespace Tftp

/-! ### Frames -/

/-- A datagram whose length is in range. -/
structure Frame where
  opcode : UInt16
  /-- The octet after the opcode. -/
  hi : UInt8
  /-- The second octet after the opcode. -/
  lo : UInt8
  /-- What follows the header. -/
  rest : Octets
  deriving DecidableEq, Repr

namespace Frame

/-- Takes a datagram apart, unless it is too short or too long to be one. -/
def read : Octets → Except Fault Frame
  | a :: b :: c :: d :: rest =>
    if rest.length ≤ blockSize then .ok ⟨Octets.word a b, c, d, rest⟩
    else .error (.oversizedDatagram (headerSize + rest.length))
  | short => .error (.undersizedDatagram short.length)

/-- The word after the opcode. -/
def word (f : Frame) : UInt16 := Octets.word f.hi f.lo

/-- All that follows the opcode. -/
def body (f : Frame) : Octets := f.hi :: f.lo :: f.rest

/-- Refuses a frame of another kind. -/
def expect (f : Frame) (kind : Opcode) : Except Fault Unit :=
  if f.opcode = kind.toWord then .ok () else .error (.invalidOpcode f.opcode)

end Frame

/-! ### Texts -/

namespace TextPart

/-- The octets of the text up to the NUL that ends it, and what follows. -/
def split (part : TextPart) (o : Octets) : Except Fault (Octets × Octets) :=
  match o.splitAtNul with
  | some parts => .ok parts
  | none => .error (.malformedFraming (.unterminated part))

/-- The text that the octets encode. -/
def decode (part : TextPart) (o : Octets) : Except Fault String :=
  match Utf8.decode? o with
  | some text => .ok text
  | none => .error (.malformedFraming (.notUtf8 part))

end TextPart

/-! ### The kinds -/

namespace ReadRequest

/-- The request that a frame's body holds. Its mode is always the one accepted mode, in whatever
case the peer wrote it. -/
def ofBody (rules : DecodeRules) (body : Octets) : Except Fault ReadRequest := do
  let (name, rest) ← TextPart.filename.split body
  if name.isEmpty then throw .emptyFilename
  let filename ← TextPart.filename.decode name
  let (mode, rest) ← TextPart.mode.split rest
  let mode ← TextPart.mode.decode mode
  if !Text.equalIgnoringCase mode octetMode then throw (.unsupportedMode mode)
  if rules.rejectRequestOptions && !rest.isEmpty then
    throw (.malformedFraming .trailingOctets)
  return ⟨filename, octetMode⟩

/-- Reads a datagram that should be a read request. -/
def decode (rules : DecodeRules) (b : Octets) : Except Fault ReadRequest := do
  let f ← Frame.read b
  f.expect .readRequest
  ofBody rules f.body

end ReadRequest

namespace DataPacket

/-- Reads a datagram that should be a data packet. -/
def decode (b : Octets) : Except Fault DataPacket := do
  let f ← Frame.read b
  f.expect .data
  ofPayload f.word f.rest

end DataPacket

namespace Acknowledgment

/-- Reads a datagram that should be an acknowledgment. -/
def decode (b : Octets) : Except Fault Acknowledgment := do
  let f ← Frame.read b
  if !f.rest.isEmpty then throw (.malformedFraming .acknowledgmentLength)
  f.expect .acknowledgment
  return ⟨f.word⟩

end Acknowledgment

namespace ErrorPacket

/-- The error that a frame holds; what follows its message is ignored. -/
def ofFrame (rules : DecodeRules) (f : Frame) : Except Fault ErrorPacket := do
  let (message, _) ← TextPart.message.split f.rest
  if rules.strictText then
    let _ ← TextPart.message.decode message
  return ⟨.ofWord f.word, message⟩

/-- Reads a datagram that should be an error. -/
def decode (rules : DecodeRules) (b : Octets) : Except Fault ErrorPacket := do
  let f ← Frame.read b
  f.expect .error
  ofFrame rules f

end ErrorPacket

/-! ### Any packet -/

namespace Packet

/-- Reads the opcode of a datagram. -/
def peekOpcode (b : Octets) : Except Fault Opcode := do
  let f ← Frame.read b
  match Opcode.ofWord? f.opcode with
  | some kind => return kind
  | none => throw (.unknownType f.opcode)

/-- Reads a datagram by the decoder of the kind that its opcode names. -/
def decode (rules : DecodeRules) (b : Octets) : Except Fault Packet := do
  match ← peekOpcode b with
  | .readRequest => return .readRequest (← ReadRequest.decode rules b)
  | .data => return .data (← DataPacket.decode b)
  | .acknowledgment => return .acknowledgment (← Acknowledgment.decode b)
  | .error => return .error (← ErrorPacket.decode rules b)

end Packet

/-! ### Shared buffers -/

theorem Frame.rest_of_read {b : Octets} {f : Frame} (h : read b = .ok f) :
    headerSize ≤ b.length ∧ f.rest = b.drop headerSize := by
  unfold read at h
  split at h
  · split at h
    · obtain rfl := Except.ok.inj h
      simp [headerSize]
    · cases h
  · cases h

namespace DataPacket

/-- The block number in the header of a datagram that should be a data packet. -/
def header (b : Octets) : Except Fault UInt16 := do
  let f ← Frame.read b
  f.expect .data
  return f.word

theorem headerSize_le_of_header {b : Octets} {block : UInt16} (h : header b = .ok block) :
    headerSize ≤ b.length := by
  unfold header at h
  cases hf : Frame.read b with
  | error fault =>
    rw [hf] at h
    cases h
  | ok f => exact (Frame.rest_of_read hf).1

theorem decode_eq_header (b : Octets) :
    decode b = header b >>= fun block => ofPayload block (b.drop headerSize) := by
  unfold decode header
  cases hf : Frame.read b with
  | error fault => rfl
  | ok f =>
    rw [← (Frame.rest_of_read hf).2]
    cases he : f.expect .data with
    | error fault => simp [he, bind, Except.bind]
    | ok _ => simp [he, bind, Except.bind, pure, Except.pure]

/-- Reads a datagram that should be a data packet, and takes its content from the same buffer. -/
def decodeView (v : View) : Except Fault DataPacket :=
  match h : header v.octets with
  | .error fault => .error fault
  | .ok block =>
    have long : headerSize ≤ v.length := v.length_octets ▸ headerSize_le_of_header h
    ofPayload block (v.after headerSize long).octets

theorem decodeView_eq (v : View) : decodeView v = decode v.octets := by
  rw [decode_eq_header]
  unfold decodeView
  split
  next fault h => simp [h, bind, Except.bind]
  next block h => simp [h, bind, Except.bind, View.octets_after]

end DataPacket

namespace Packet

/-- Reads a datagram in a shared buffer by the decoder of the kind that its opcode names. -/
def decodeView (rules : DecodeRules) (v : View) : Except Fault Packet := do
  match ← peekOpcode v.octets with
  | .data => return .data (← DataPacket.decodeView v)
  | _ => decode rules v.octets

/-- A datagram in a shared buffer is read as the octets that the view shows. -/
theorem decodeView_eq (rules : DecodeRules) (v : View) :
    decodeView rules v = decode rules v.octets := by
  unfold decodeView decode
  cases peekOpcode v.octets with
  | error fault => rfl
  | ok kind =>
    cases kind with
    | data =>
      rw [DataPacket.decodeView_eq]
      rfl
    | readRequest | acknowledgment | error => rfl

end Packet
end Tftp
