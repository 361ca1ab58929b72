import Tftp.Codec
import Tftp.Receiver
import Tftp.Sender

/-! # A sender and a receiver on a wire

A link joins the two halves of a transfer by two queues of datagrams, one for data and one for
acknowledgments. What arrives is read by one codec, and acknowledgments are written by it. The wire
may lose, repeat and exchange datagrams, and may carry datagrams that neither half has sent; each
such mishap is an operation of its own.

`Link.pump` lets the transfer run on a wire without mishaps. -/

namespace Tftp

/-- A transfer in progress: its two halves and what is on the wire. -/
structure Link where
  sender : Sender
  receiver : Receiver
  codec : Codec := {}
  /-- Datagrams on their way to the receiver, the next to arrive first. -/
  data : List Octets := []
  /-- Datagrams on their way to the sender, the next to arrive first. -/
  acks : List Octets := []

/-- What the arrival of a datagram at the receiver comes to. -/
inductive Delivery where
  /-- The block was accepted, and its acknowledgment is on its way. -/
  | acknowledged (block : UInt16)
  /-- The datagram holds a packet of another kind. -/
  | notData (packet : Packet)
  /-- The datagram has no octets. -/
  | empty
  /-- Nothing was on its way. -/
  | nothing

/-- What the arrival of a datagram at the sender comes to. -/
inductive Receipt where
  /-- An acknowledgment arrived; it is for the current block or not. -/
  | matched (current : Bool)
  /-- The datagram holds a packet of another kind. -/
  | notAcknowledgment (packet : Packet)
  /-- The datagram has no octets. -/
  | empty
  /-- Nothing was on its way. -/
  | nothing

namespace Link

/-! ### Sending -/

/-- The sender's next datagram goes on its way. -/
def send (l : Link) : Step Link (Option Octets) :=
  (l.sender.next.within fun sender => { l with sender }).andThen fun l datagram =>
    .answer { l with data := l.data ++ datagram.toList } datagram

/-- The sender's last datagram goes on its way again. -/
def resend (l : Link) : Step Link (Option Octets) :=
  let datagram := l.sender.lastDatagram
  .answer { l with data := l.data ++ datagram.toList } datagram

/-! ### Arrivals -/

/-- The receiver takes a packet; the acknowledgment goes on its way. -/
def receive (l : Link) (packet : DataPacket) : Step Link Delivery :=
  ((l.receiver.receive packet).within fun receiver => { l with receiver }).andThen fun l ack =>
    ((l.codec.encode (.acknowledgment ack) []).within fun datagram =>
      { l with acks := l.acks ++ [datagram] }).andThen fun l _ =>
        .answer l (.acknowledged ack.block)

/-- The next data datagram arrives. -/
def deliver (l : Link) : Step Link Delivery :=
  match l.data with
  | [] => .answer l .nothing
  | datagram :: rest =>
    ((l.codec.decode datagram).within fun _ => { l with data := rest }).andThen fun l packet =>
      match packet with
      | none => .answer l .empty
      | some (.data packet) => l.receive packet
      | some packet => .answer l (.notData packet)

/-- The next acknowledgment datagram arrives. -/
def takeAck (l : Link) : Step Link Receipt :=
  match l.acks with
  | [] => .answer l .nothing
  | datagram :: rest =>
    ((l.codec.decode datagram).within fun _ => { l with acks := rest }).andThen fun l packet =>
      match packet with
      | none => .answer l .empty
      | some (.acknowledgment ack) =>
        ((l.sender.acknowledge ack).within fun sender => { l with sender }).andThen
          fun l current => .answer l (.matched current)
      | some packet => .answer l (.notAcknowledgment packet)

/-! ### Mishaps -/

/-- A foreign datagram is put on the way to the receiver. -/
def injectData (l : Link) (datagram : Octets) : Link := { l with data := l.data ++ [datagram] }

/-- A foreign datagram is put on the way to the sender. -/
def injectAck (l : Link) (datagram : Octets) : Link := { l with acks := l.acks ++ [datagram] }

/-- The next data datagram is lost. -/
def dropData (l : Link) : Link := { l with data := l.data.tail }

/-- The next acknowledgment datagram is lost. -/
def dropAck (l : Link) : Link := { l with acks := l.acks.tail }

/-- The next data datagram will arrive twice. -/
def repeatData (l : Link) : Link := { l with data := l.data.head?.toList ++ l.data }

/-- The next acknowledgment datagram will arrive twice. -/
def repeatAck (l : Link) : Link := { l with acks := l.acks.head?.toList ++ l.acks }

/-- The next two data datagrams change places. -/
def swapData (l : Link) : Link :=
  match l.data with
  | first :: second :: rest => { l with data := second :: first :: rest }
  | _ => l

/-! ### Undisturbed transfer -/

/-- Why an undisturbed transfer comes to rest. -/
inductive Rest where
  /-- As many rounds were made as are allowed. -/
  | limit
  /-- No datagram was sent. -/
  | sent (answer : Except Fault (Option Octets))
  /-- The datagram that arrived was not accepted. -/
  | delivered (answer : Except Fault Delivery)
  /-- The datagram that came back did not acknowledge the current block. -/
  | taken (answer : Except Fault Receipt)

/-- The most rounds of one undisturbed transfer. -/
def maxRounds : Nat := 200

/-- Sends a block, delivers it and takes its acknowledgment, round after round and at most `rounds`
times, as long as each does what it should. Answers with the number of datagrams sent. -/
def pump (rounds : Nat) (l : Link) : Step Link (Nat × Rest) :=
  match rounds with
  | 0 => .answer l (0, .limit)
  | rounds + 1 =>
    l.send.attempt.andThen fun l sent =>
      match sent with
      | .ok (some _) =>
        l.deliver.attempt.andThen fun l delivered =>
          match delivered with
          | .ok (.acknowledged _) =>
            l.takeAck.attempt.andThen fun l taken =>
              match taken with
              | .ok (.matched true) =>
                (pump rounds l).andThen fun l more => .answer l (more.1 + 1, more.2)
              | taken => .answer l (1, .taken taken)
          | delivered => .answer l (1, .delivered delivered)
      | sent => .answer l (0, .sent sent)

end Link
end Tftp
