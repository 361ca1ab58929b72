import Tftp.ErrorCode
import Tftp.Fault
import Tftp.Opcode
import Tftp.Text.Utf8

/-! # Packets and their wire form

The four kinds of packets and the octets that stand for them:

* a read request: opcode, filename, NUL, mode, NUL;
* a data packet: opcode, block number, content;
* an acknowledgment: opcode, block number;
* an error: opcode, code, message, NUL.

A data packet holds at most one block by its type. An error keeps its message as octets, since a
peer may send any; it is shown as text leniently. `encodedLength` is computed without encoding and
agrees with it (`length_encode`). `appendTo` writes the fields one by one behind what a buffer holds,
and comes to appending the whole wire form (`appendTo_eq`). An acknowledgment, whose length is fixed,
can also be had as an array (`Acknowledgment.toArray`). -/

namespace Tftp

/-! ### The kinds -/

/-- A request to read a file. -/
structure ReadRequest where
  filename : String
  mode : String := octetMode
  deriving DecidableEq, Repr

/-- One block of a file. -/
structure DataPacket where
  block : UInt16
  payload : Octets
  /-- The content fits into one block. -/
  fits : payload.length ≤ blockSize
  deriving DecidableEq, Repr

/-- The receipt for the data packet of the same number. -/
structure Acknowledgment where
  block : UInt16
  deriving DecidableEq, Repr

/-- The end of a transfer, with a reason. -/
structure ErrorPacket where
  code : ErrorCode
  /-- The octets of the message, without the NUL that ends it on the wire. -/
  message : Octets
  deriving DecidableEq, Repr

/-- Any packet. -/
inductive Packet where
  | readRequest (request : ReadRequest)
  | data (data : DataPacket)
  | acknowledgment (ack : Acknowledgment)
  | error (error : ErrorPacket)
  deriving DecidableEq, Repr

/-! ### Read requests -/

namespace ReadRequest

/-- The mode that is written: an empty one stands for `octet`. -/
def wireMode (r : ReadRequest) : String := if r.mode.isEmpty then octetMode else r.mode

/-- The length of the wire form. -/
def encodedLength (r : ReadRequest) : Nat :=
  2 + (Utf8.encode r.filename).length + 1 + (Utf8.encode r.wireMode).length + 1

/-- The wire form. -/
def encode (r : ReadRequest) : Octets :=
  Octets.ofWord Opcode.readRequest.toWord ++ Utf8.encode r.filename ++ 0 ::
    (Utf8.encode r.wireMode ++ [0])

/-- Writes the fields behind what the buffer holds. -/
def appendTo (r : ReadRequest) (buffer : Octets) : Octets :=
  let buffer := buffer ++ Octets.ofWord Opcode.readRequest.toWord
  let buffer := buffer ++ Utf8.encode r.filename
  let buffer := buffer ++ [0]
  let buffer := buffer ++ Utf8.encode r.wireMode
  buffer ++ [0]

end ReadRequest

/-! ### Data packets -/

namespace DataPacket

/-- The data packet with the given content, if it fits into one block. -/
def ofPayload (block : UInt16) (payload : Octets) : Except Fault DataPacket :=
  if fits : payload.length ≤ blockSize then .ok ⟨block, payload, fits⟩
  else .error (.oversizedPayload payload.length)

/-- A block that is not full is the last one of its transfer. -/
def isFinal (d : DataPacket) : Bool := decide (d.payload.length < blockSize)

/-- The length of the wire form. -/
def encodedLength (d : DataPacket) : Nat := headerSize + d.payload.length

/-- The wire form. -/
def encode (d : DataPacket) : Octets :=
  Octets.ofWord Opcode.data.toWord ++ Octets.ofWord d.block ++ d.payload

/-- Writes the fields behind what the buffer holds. -/
def appendTo (d : DataPacket) (buffer : Octets) : Octets :=
  let buffer := buffer ++ Octets.ofWord Opcode.data.toWord
  let buffer := buffer ++ Octets.ofWord d.block
  buffer ++ d.payload

/-- The wire form of the block after `current`, and its number. The counter goes on with 0 after
65535; whether that is allowed is for the session to decide. -/
def encodeNext (current : UInt16) (content : Octets) : Except Fault (Octets × UInt16) :=
  if content.length ≤ blockSize then
    let block := current + 1
    .ok (Octets.ofWord Opcode.data.toWord ++ Octets.ofWord block ++ content, block)
  else .error (.oversizedPayload content.length)

end DataPacket

/-! ### Acknowledgments -/

namespace Acknowledgment

/-- The length of the wire form. -/
def encodedLength (_ : Acknowledgment) : Nat := headerSize

/-- The wire form. -/
def encode (a : Acknowledgment) : Octets :=
  Octets.ofWord Opcode.acknowledgment.toWord ++ Octets.ofWord a.block

/-- Writes the fields behind what the buffer holds. -/
def appendTo (a : Acknowledgment) (buffer : Octets) : Octets :=
  let buffer := buffer ++ Octets.ofWord Opcode.acknowledgment.toWord
  buffer ++ Octets.ofWord a.block

/-- The wire form as an array of fixed size. -/
def toArray (a : Acknowledgment) : Vector UInt8 headerSize :=
  let opcode := Opcode.acknowledgment.toWord
  #v[(opcode >>> 8).toUInt8, opcode.toUInt8, (a.block >>> 8).toUInt8, a.block.toUInt8]

end Acknowledgment

/-! ### Errors -/

namespace ErrorPacket

/-- The error with the given message. -/
def ofMessage (code : ErrorCode) (message : String) : ErrorPacket := ⟨code, Utf8.encode message⟩

/-- The error whose message is the description of its code. -/
def ofCode (code : ErrorCode) : ErrorPacket := ofMessage code code.description

/-- The code that tells a peer of a fault of the given kind. -/
def codeOf? : IoKind → Option ErrorCode
  | .notFound => some .notFound
  | .permissionDenied => some .accessViolation
  | .alreadyExists => some .fileExists
  | .writeZero => some .diskFull
  | _ => none

/-- The error that tells a peer why a file cannot be served; a fault of a kind without a code of
its own is told by its text. -/
def ofIoFault (e : IoFault) : ErrorPacket :=
  match codeOf? e.kind with
  | some code => ofCode code
  | none => ofMessage .unknown e.text

/-- The message as text. -/
def text (e : ErrorPacket) : String := Utf8.lossy e.message

/-- The length of the wire form. -/
def encodedLength (e : ErrorPacket) : Nat := headerSize + e.message.length + 1

/-- The wire form. -/
def encode (e : ErrorPacket) : Octets :=
  Octets.ofWord Opcode.error.toWord ++ Octets.ofWord e.code.toWord ++ e.message ++ [0]

/-- Writes the fields behind what the buffer holds. -/
def appendTo (e : ErrorPacket) (buffer : Octets) : Octets :=
  let buffer := buffer ++ Octets.ofWord Opcode.error.toWord
  let buffer := buffer ++ Octets.ofWord e.code.toWord
  let buffer := buffer ++ e.message
  buffer ++ [0]

end ErrorPacket

/-! ### Any packet -/

namespace Packet

/-- The kind of the packet. -/
def opcode : Packet → Opcode
  | readRequest _ => .readRequest
  | data _ => .data
  | acknowledgment _ => .acknowledgment
  | error _ => .error

/-- The length of the wire form. -/
def encodedLength : Packet → Nat
  | readRequest r => r.encodedLength
  | data d => d.encodedLength
  | acknowledgment a => a.encodedLength
  | error e => e.encodedLength

/-- The wire form. -/
def encode : Packet → Octets
  | readRequest r => r.encode
  | data d => d.encode
  | acknowledgment a => a.encode
  | error e => e.encode

/-- Writes the packet behind what the buffer holds. -/
def appendTo : Packet → Octets → Octets
  | readRequest r => r.appendTo
  | data d => d.appendTo
  | acknowledgment a => a.appendTo
  | error e => e.appendTo

/-- One line that tells the packet's kind and fields. -/
def summary : Packet → String
  | readRequest r => s!"RRQ [{r.filename}] [{r.wireMode}]"
  | data d => s!"DATA [{d.block}] ({d.payload.length} bytes)"
  | acknowledgment a => s!"ACK [{a.block}]"
  | error e => s!"ERR [{e.code.toWord}]: {e.text}"

theorem length_encode (p : Packet) : p.encode.length = p.encodedLength := by
  cases p with
  | readRequest r =>
    simp [encode, encodedLength, ReadRequest.encode, ReadRequest.encodedLength,
      Octets.length_ofWord]
    omega
  | data d =>
    simp [encode, encodedLength, DataPacket.encode, DataPacket.encodedLength,
      Octets.length_ofWord, headerSize]
    omega
  | acknowledgment a =>
    simp [encode, encodedLength, Acknowledgment.encode, Acknowledgment.encodedLength,
      Octets.length_ofWord, headerSize]
  | error e =>
    simp [encode, encodedLength, ErrorPacket.encode, ErrorPacket.encodedLength,
      Octets.length_ofWord, headerSize]
    omega

/-- What the buffer holds stays as it is, and the wire form comes behind it. -/
theorem appendTo_eq (p : Packet) (buffer : Octets) : p.appendTo buffer = buffer ++ p.encode := by
  cases p with
  | readRequest r => simp [appendTo, encode, ReadRequest.appendTo, ReadRequest.encode]
  | data d => simp [appendTo, encode, DataPacket.appendTo, DataPacket.encode]
  | acknowledgment a => simp [appendTo, encode, Acknowledgment.appendTo, Acknowledgment.encode]
  | error e => simp [appendTo, encode, ErrorPacket.appendTo, ErrorPacket.encode]

end Packet
end Tftp
