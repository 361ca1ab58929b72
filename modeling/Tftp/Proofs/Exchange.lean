import Mathlib.Logic.Relation
import Tftp.Link
import Tftp.Proofs.Source

/-! # Transfers over a wire that cannot be relied on

An exchange is a link under way, together with what its caller knows: the datagrams that the sender
has handed out so far, and whether it may ask for the next block.

`Exchange.Move` lists all that can happen next. The caller asks for a block or sends the last
datagram again; a datagram arrives at either end; the wire loses a datagram, delivers it twice or
lets it be overtaken. How much of this is possible is said by a `Regime`: a wire may keep the order
of its datagrams, and a caller may wait for the acknowledgment of a block before it asks for the
next. `Regime.unruly` allows everything, and `Regime.stopAndWait` is a patient caller on a wire that
keeps the order.

Only the arrival of a block changes the receiver (`Move.receiver`). -/

namespace Tftp

/-! ### The wire -/

/-- What a wire may do to the datagrams on their way. -/
inductive Mishap {α : Type} (ordered : Bool) : List α → List α → Prop
  /-- A datagram is lost. -/
  | lose (before after : List α) (d : α) : Mishap ordered (before ++ d :: after) (before ++ after)
  /-- A datagram will arrive twice. -/
  | double (before after : List α) (d : α) :
      Mishap ordered (before ++ d :: after) (before ++ d :: d :: after)
  /-- A datagram is overtaken by the next one. -/
  | overtake (before after : List α) (d e : α) (disordered : ordered = false) :
      Mishap ordered (before ++ d :: e :: after) (before ++ e :: d :: after)

/-- How wire and caller behave. -/
structure Regime where
  /-- The wire delivers in the order of sending. -/
  ordered : Bool
  /-- The caller waits until the last block is acknowledged before it asks for the next. -/
  patient : Bool

/-- Datagrams are lost, doubled and overtaken, and the caller asks for blocks at any time. -/
def Regime.unruly : Regime := ⟨false, false⟩

/-- Datagrams are lost and doubled in place, and the caller is patient. -/
def Regime.stopAndWait : Regime := ⟨true, true⟩

/-! ### The receiver of a link -/

namespace Link

variable {l : Link}

theorem receiver_send : l.send.state.receiver = l.receiver :=
  Step.state_andThen (fun m : Link => m.receiver = l.receiver) rfl fun _ _ => rfl

theorem receiver_takeAck : l.takeAck.state.receiver = l.receiver := by
  unfold takeAck
  split
  · rfl
  · apply Step.state_andThen (fun m : Link => m.receiver = l.receiver) rfl
    intro packet _
    split
    · rfl
    · exact Step.state_andThen (fun m : Link => m.receiver = l.receiver) rfl fun _ _ => rfl
    · rfl

theorem receiver_receive (p : DataPacket) :
    (l.receive p).state.receiver = (l.receiver.receive p).state := by
  apply Step.state_andThen (fun m : Link => m.receiver = (l.receiver.receive p).state) rfl
  intro ack _
  exact Step.state_andThen (fun m : Link => m.receiver = (l.receiver.receive p).state) rfl
    fun _ _ => rfl

theorem receiver_deliver (l : Link) :
    l.deliver.state.receiver = l.receiver ∨
      ∃ p, l.deliver.state.receiver = (l.receiver.receive p).state := by
  unfold deliver
  split
  · exact Or.inl rfl
  · apply Step.state_andThen (fun m : Link => m.receiver = l.receiver ∨
      ∃ p, m.receiver = (l.receiver.receive p).state) (Or.inl rfl)
    intro packet _
    split
    · exact Or.inl rfl
    · exact Or.inr ⟨_, receiver_receive _⟩
    · exact Or.inl rfl

end Link

/-! ### The exchange -/

/-- What a transfer begins with. -/
structure Setup where
  source : Source
  writeScript : List WriteReply := []
  flushScript : List FlushReply := []
  senderRules : TransferRules := {}
  receiverRules : TransferRules := {}
  codec : Codec := {}

/-- A transfer under way. -/
structure Exchange where
  link : Link
  /-- The datagrams that the sender has handed out, in order. -/
  log : List Octets := []
  /-- The caller knows the last block to be acknowledged, or there is none yet. -/
  cleared : Bool := true

namespace Setup

/-- The sink before anything is stored. -/
def sink (u : Setup) : Sink := { writeScript := u.writeScript, flushScript := u.flushScript }

/-- The transfer before anything has happened. -/
def start (u : Setup) : Exchange where
  link :=
    { sender := (Sender.new u.source).withRules u.senderRules
      receiver := (Receiver.new u.sink).withRules u.receiverRules
      codec := u.codec }

end Setup

namespace Exchange

/-- The caller asks for the next block; if there is one, its datagram goes on its way. A call that
fails may be made again. -/
def send (x : Exchange) : Exchange :=
  let step := x.link.send
  match step.result with
  | .ok (some datagram) => ⟨step.state, x.log ++ [datagram], false⟩
  | _ => { x with link := step.state }

/-- The last datagram goes on its way again. -/
def resend (x : Exchange) : Exchange := { x with link := x.link.resend.state }

/-- A datagram arrives at the receiver, and the acknowledgment goes on its way. -/
def deliver (x : Exchange) : Exchange := { x with link := x.link.deliver.state }

/-- An acknowledgment arrives at the sender; the caller takes note if it is for the last block. -/
def takeAck (x : Exchange) : Exchange :=
  let step := x.link.takeAck
  match step.result with
  | .ok (.matched true) => { x with link := step.state, cleared := true }
  | _ => { x with link := step.state }

/-- All that can happen next. -/
inductive Move (g : Regime) (x : Exchange) : Exchange → Prop
  | send (may : g.patient = true → x.cleared = true) : Move g x x.send
  | resend : Move g x x.resend
  | deliver : Move g x x.deliver
  | takeAck : Move g x x.takeAck
  | data (data : List Octets) (h : Mishap g.ordered x.link.data data) :
      Move g x { x with link := { x.link with data } }
  | acks (acks : List Octets) (h : Mishap g.ordered x.link.acks acks) :
      Move g x { x with link := { x.link with acks } }

/-- What can become of a transfer. -/
def Reachable (g : Regime) (u : Setup) : Exchange → Prop := Relation.ReflTransGen (Move g) u.start

/-- The contents of the blocks that the sender has handed out. -/
def handedOut (x : Exchange) : List Octets := x.log.map (List.drop headerSize)

variable {g : Regime} {u : Setup} {x y : Exchange}

theorem send_link : x.send.link = x.link.send.state := by
  unfold Exchange.send
  dsimp only
  split <;> rfl

theorem takeAck_link : x.takeAck.link = x.link.takeAck.state := by
  unfold Exchange.takeAck
  dsimp only
  split <;> rfl

/-- Only the arrival of a block changes the receiver. -/
theorem Move.receiver (m : Move g x y) :
    y.link.receiver = x.link.receiver ∨
      ∃ p, y.link.receiver = (x.link.receiver.receive p).state := by
  cases m with
  | send may =>
    left
    rw [send_link, Link.receiver_send]
  | deliver => exact x.link.receiver_deliver
  | takeAck =>
    left
    rw [takeAck_link, Link.receiver_takeAck]
  | resend | data | acks => exact Or.inl rfl

/-! ### The mishaps of a link -/

namespace Reachable

theorem dropData (h : Reachable g u x) : Reachable g u { x with link := x.link.dropData } := by
  unfold Link.dropData
  cases hl : x.link.data with
  | nil => rwa [List.tail_nil, ← hl]
  | cons d rest =>
    refine h.tail (.data rest ?_)
    rw [hl]
    exact .lose [] rest d

theorem dropAck (h : Reachable g u x) : Reachable g u { x with link := x.link.dropAck } := by
  unfold Link.dropAck
  cases hl : x.link.acks with
  | nil => rwa [List.tail_nil, ← hl]
  | cons d rest =>
    refine h.tail (.acks rest ?_)
    rw [hl]
    exact .lose [] rest d

theorem repeatData (h : Reachable g u x) : Reachable g u { x with link := x.link.repeatData } := by
  unfold Link.repeatData
  cases hl : x.link.data with
  | nil => rwa [List.head?_nil, Option.toList_none, List.nil_append, ← hl]
  | cons d rest =>
    refine h.tail (.data (d :: d :: rest) ?_)
    rw [hl]
    exact .double [] rest d

theorem swapData (h : Reachable g u x) (disordered : g.ordered = false) :
    Reachable g u { x with link := x.link.swapData } := by
  unfold Link.swapData
  split
  next d e rest hl =>
    refine h.tail (.data (e :: d :: rest) ?_)
    rw [hl]
    exact .overtake [] rest d e disordered
  next => exact h

end Reachable

end Exchange
end Tftp
