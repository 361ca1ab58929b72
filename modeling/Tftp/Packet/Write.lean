import Tftp.Packet
import Tftp.Sink

/-! # Writing packets to sinks

A packet goes to a sink whole, or the sink's own fault is reported. -/

namespace Tftp

/-- Writes the wire form of a packet to a sink; answers with its length. -/
def Packet.writeTo (p : Packet) (sink : Sink) : Except Fault Nat × Sink :=
  match sink.writeAll p.encode with
  | (.ok (), sink) => (.ok p.encode.length, sink)
  | (.error e, sink) => (.error (.io e), sink)

end Tftp
