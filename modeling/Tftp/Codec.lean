import Tftp.Packet.Decode
import Tftp.Step

/-! # The datagram codec

The codec reads and writes packets in a buffer that holds one datagram at a time. Reading takes the
whole buffer, whatever comes of it, and shares it with the packet; an empty buffer holds no datagram.
Writing appends to the buffer. Nothing but the rules is kept from one call to the next. -/

namespace Tftp

/-- A codec: the rules by which it judges datagrams. -/
structure Codec where
  rules : DecodeRules := {}
  deriving DecidableEq, Repr

namespace Codec

/-- Reads the datagram in the buffer, if there is one, and empties the buffer. -/
def decode (c : Codec) (buffer : Octets) : Step Octets (Option Packet) :=
  if buffer.isEmpty then .answer buffer none
  else
    let datagram := View.whole buffer
    match Packet.decodeView c.rules datagram with
    | .ok packet =>
      { result := .ok (some packet), state := []
        counts := .decoded (.ofNat datagram.length), events := [.decoded packet datagram.length] }
    | .error fault =>
      { result := .error fault, state := []
        counts := .failed fault, events := [.rejected fault datagram.length] }

/-- Appends the wire form of a packet to the buffer. -/
def encode (_ : Codec) (packet : Packet) (buffer : Octets) : Step Octets Unit :=
  let length := packet.encodedLength
  { result := .ok (), state := packet.appendTo buffer
    counts := .encoded (.ofNat length), events := [.encoded packet length] }

end Codec
end Tftp
