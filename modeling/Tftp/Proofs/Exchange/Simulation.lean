import Tftp.Proofs.Exchange.Ledger
import Tftp.Proofs.Receiver
import Tftp.Proofs.Sender

/-! # Exchanges follow their ledgers

`Exchange.Records u x packets a` relates an exchange to the blocks handed out so far and to a
ledger: sender and receiver have done what the ledger says, and each datagram on its way is the wire
form of the block, or of the acknowledgment, that the ledger has in its place.

A move of the exchange is a move of the ledger (`Records.move`), provided that the sixteen bits of a
number are enough to tell the blocks. So what a kind of ledger keeps true through all its moves is
true of every exchange that can be reached (`Reachable.records`). -/

namespace Tftp

/-! ### Arrivals -/

namespace Codec

theorem decode_of_datagram {c : Codec} {b : Octets} {p : Packet}
    (h : Packet.decode c.rules b = .ok p) :
    (c.decode b).result = .ok (some p) ∧ (c.decode b).state = [] := by
  have hb : b.isEmpty = false := by
    cases b with
    | nil => cases h
    | cons => rfl
  simp [decode, Packet.decodeView_eq, hb, h]

end Codec

namespace Exchange

variable {x : Exchange} {d : Octets} {rest : List Octets}

theorem send_of_datagram (h : x.link.sender.next.result = .ok (some d)) :
    x.send =
      { link := { x.link with sender := x.link.sender.next.state, data := x.link.data ++ [d] }
        log := x.log ++ [d], cleared := false } := by
  simp [send, Link.send, Step.andThen, Step.within, Step.answer, h]

theorem send_of_nothing (h : ∀ d, x.link.sender.next.result ≠ .ok (some d)) :
    x.send = { x with link := { x.link with sender := x.link.sender.next.state } } := by
  cases hr : x.link.sender.next.result with
  | error fault => simp [send, Link.send, Step.andThen, Step.within, hr]
  | ok datagram =>
    cases datagram with
    | none => simp [send, Link.send, Step.andThen, Step.within, Step.answer, hr]
    | some d => exact absurd hr (h d)

theorem deliver_of_nil (h : x.link.data = []) : x.deliver = x := by
  simp [deliver, Link.deliver, h, Step.answer]

theorem deliver_of_data {p : DataPacket} (hl : x.link.data = d :: rest)
    (hd : Packet.decode x.link.codec.rules d = .ok (.data p)) :
    x.deliver = { x with link := { x.link with
      data := rest
      receiver := (x.link.receiver.receive p).state
      acks := x.link.acks ++
        ((x.link.receiver.receive p).result.toOption.map Acknowledgment.encode).toList } } := by
  obtain ⟨hr, -⟩ := Codec.decode_of_datagram hd
  cases hp : (x.link.receiver.receive p).result with
  | error fault =>
    simp [deliver, Link.deliver, Link.receive, Step.andThen, Step.within, Except.toOption, hl, hr,
      hp]
  | ok ack =>
    simp [deliver, Link.deliver, Link.receive, Step.andThen, Step.within, Step.answer,
      Except.toOption, Codec.encode, Packet.appendTo_eq, Packet.encode, hl, hr, hp]

theorem takeAck_of_nil (h : x.link.acks = []) : x.takeAck = x := by
  simp [takeAck, Link.takeAck, h, Step.answer]

theorem takeAck_of_acknowledgment {a : Acknowledgment} {current : Bool}
    (hl : x.link.acks = d :: rest)
    (hd : Packet.decode x.link.codec.rules d = .ok (.acknowledgment a))
    (ha : (x.link.sender.acknowledge a).result = .ok current) :
    x.takeAck =
      { x with
        link := { x.link with acks := rest, sender := (x.link.sender.acknowledge a).state }
        cleared := current || x.cleared } := by
  obtain ⟨hr, -⟩ := Codec.decode_of_datagram hd
  cases current <;>
    simp [takeAck, Link.takeAck, Step.andThen, Step.within, Step.answer, hl, hr, ha]

/-! ### Records -/

/-- A datagram is the wire form of the `n`-th block. -/
def IsBlock (packets : List DataPacket) (d : Octets) (n : Nat) : Prop :=
  ∃ p, packets[n - 1]? = some p ∧ d = p.encode

/-- A datagram acknowledges the `n`-th block. -/
def IsReceipt (d : Octets) (n : Nat) : Prop := d = (⟨blockNumber n⟩ : Acknowledgment).encode

/-- The blocks handed out and a ledger tell all that has happened. -/
structure Records (u : Setup) (x : Exchange) (packets : List DataPacket) (a : Ledger) : Prop where
  sender : x.link.sender.History u.source.content packets
  senderRules : x.link.sender.rules = u.senderRules
  receiver : x.link.receiver.Holds packets a.stored
  receiverRules : x.link.receiver.rules = u.receiverRules
  log : x.log = packets.map DataPacket.encode
  sent : a.sent = packets.length
  data : List.Forall₂ (IsBlock packets) x.link.data a.data
  acks : List.Forall₂ IsReceipt x.link.acks a.acks
  cleared : x.cleared = a.cleared
  /-- A transfer counts as complete only when all its blocks are settled. -/
  complete : x.link.sender.complete = true → a.stored = a.sent

theorem records_start (u : Setup) : Records u u.start [] {} where
  sender := Sender.history_new u.source u.senderRules
  senderRules := rfl
  receiver := Receiver.holds_new rfl u.receiverRules
  receiverRules := rfl
  log := rfl
  sent := rfl
  data := .nil
  acks := .nil
  cleared := rfl
  complete h := by cases h

theorem Records.sent_eq {u : Setup} {packets : List DataPacket} {a : Ledger}
    (h : Records u x packets a) : a.sent = x.log.length := by
  rw [h.sent, h.log, List.length_map]

theorem IsBlock.append {packets : List DataPacket} {n : Nat} (h : IsBlock packets d n)
    (p : DataPacket) : IsBlock (packets ++ [p]) d n := by
  obtain ⟨q, hq, rfl⟩ := h
  refine ⟨q, ?_, rfl⟩
  rw [List.getElem?_append_left (List.getElem?_eq_some_iff.mp hq).1, hq]

/-! ### Moves -/

namespace Records

variable {g : Regime} {u : Setup} {packets : List DataPacket} {a : Ledger}

/-- The block in front is among those handed out, and carries its number. -/
theorem front (h : Records u x packets a) (s : a.Sound) (hl : x.link.data = d :: rest) :
    ∃ n ns p, a.data = n :: ns ∧ List.Forall₂ (IsBlock packets) rest ns ∧ 0 < n ∧
      packets[n - 1]? = some p ∧ p.block = blockNumber n ∧ d = p.encode := by
  obtain ⟨n, ns, ⟨p, hp, hd⟩, hns, ha⟩ := List.forall₂_cons_left_iff.mp (hl ▸ h.data)
  have pos := (s.data n (ha ▸ List.mem_cons_self ..)).1
  refine ⟨n, ns, p, ha, hns, pos, hp, ?_, hd⟩
  rw [h.sender.numbered _ _ hp, Nat.sub_add_cancel pos]

theorem send (h : Records u x packets a)
    (may : g.patient = true → x.cleared = true) :
    ∃ packets' b, Ledger.Move g a b ∧ Records u x.send packets' b := by
  have rules := x.link.sender.next_frame h.sender.room
  rcases h.sender.next with ⟨running, p, result, history⟩ | ⟨none, history, finished⟩
  · refine ⟨packets ++ [p], _, .send fun hg => h.cleared ▸ may hg, ?_⟩
    rw [send_of_datagram result]
    refine ⟨history, ?_, h.receiver.append p, h.receiverRules, ?_, ?_, ?_, h.acks, rfl, ?_⟩
    · rw [rules.1, h.senderRules]
    · rw [h.log, List.map_append, List.map_singleton]
    · rw [List.length_append, List.length_singleton, ← h.sent]
    · refine List.rel_append (h.data.imp fun _ _ hb => hb.append p) (.cons ⟨p, ?_, rfl⟩ .nil)
      rw [h.sent, Nat.add_sub_cancel, List.getElem?_concat_length]
    · intro complete
      have := h.sender.confirmed (rules.2 ▸ complete)
      rw [running] at this
      cases this
  · refine ⟨packets, a, .idle, ?_⟩
    rw [send_of_nothing none]
    refine ⟨history, ?_, h.receiver, h.receiverRules, h.log, h.sent, h.data, h.acks, h.cleared, ?_⟩
    · rw [rules.1, h.senderRules]
    · intro complete
      exact h.complete (rules.2 ▸ complete)

theorem resend (h : Records u x packets a) :
    ∃ b, Ledger.Move g a b ∧ Records u x.resend packets b := by
  cases hp : packets.getLast? with
  | none =>
    have : x.resend = x := by
      simp [Exchange.resend, Link.resend, Step.answer, h.sender.last, hp]
    exact ⟨a, .idle, by rwa [this]⟩
  | some p =>
    have pos : 0 < a.sent := by
      rw [h.sent]
      exact List.length_pos_iff.mpr (by rintro rfl; cases hp)
    refine ⟨_, .resend pos, ?_⟩
    have : x.resend = { x with link := { x.link with data := x.link.data ++ [p.encode] } } := by
      simp [Exchange.resend, Link.resend, Step.answer, h.sender.last, hp]
    rw [this]
    refine { h with data := List.rel_append h.data (.cons ⟨p, ?_, rfl⟩ .nil) }
    rw [h.sent, ← List.getLast?_eq_getElem?, hp]

theorem deliver (h : Records u x packets a) (s : a.Sound) (apart : a.Apart) :
    ∃ b, Ledger.Move g a b ∧ Records u x.deliver packets b := by
  cases hl : x.link.data with
  | nil => exact ⟨a, .idle, by rwa [deliver_of_nil hl]⟩
  | cons d rest =>
    obtain ⟨n, ns, p, ha, hns, pos, hp, hb, rfl⟩ := h.front s hl
    have mem : n ∈ a.data := ha ▸ List.mem_cons_self ..
    rw [deliver_of_data hl (Packet.decode_encode_data _ p)]
    have rules := (x.link.receiver.receive_rules p).trans h.receiverRules
    rcases h.receiver.receive pos hp hb (apart.again n mem) (apart.next n mem) with
      ⟨⟨fault, refused⟩, holds⟩ | ⟨next, result, holds⟩
    · refine ⟨_, .refuse n ns ha, ?_⟩
      rw [refused]
      simp only [Except.toOption, Option.map_none, Option.toList_none, List.append_nil]
      exact { h with receiver := holds, receiverRules := rules, data := hns }
    · refine ⟨_, .settle n ns ha next, ?_⟩
      rw [result]
      refine { h with
        receiver := holds, receiverRules := rules, data := hns
        acks := List.rel_append h.acks (.cons rfl .nil), complete := ?_ }
      intro complete
      have level := h.complete complete
      have le := (s.data n mem).2
      show n = a.sent
      omega

theorem takeAck (h : Records u x packets a) (s : a.Sound) (apart : a.Apart) :
    ∃ b, Ledger.Move g a b ∧ Records u x.takeAck packets b := by
  cases hl : x.link.acks with
  | nil => exact ⟨a, .idle, by rwa [takeAck_of_nil hl]⟩
  | cons d rest =>
    obtain ⟨n, ns, rfl, hns, ha⟩ := List.forall₂_cons_left_iff.mp (hl ▸ h.acks)
    have mem : n ∈ a.acks := ha ▸ List.mem_cons_self ..
    have hd := Packet.decode_encode_acknowledgment x.link.codec.rules ⟨blockNumber n⟩
    have history := h.sender.acknowledge ⟨blockNumber n⟩
    rcases x.link.sender.acknowledge_cases ⟨blockNumber n⟩ with ⟨-, result, e⟩ | ⟨⟨-, hb⟩, result, e⟩
    · refine ⟨_, .stale n ns ha, ?_⟩
      rw [takeAck_of_acknowledgment hl hd result, e, Bool.false_or]
      exact { h with acks := hns }
    · have same : n = a.sent := apart.current n mem (by rw [h.sent, ← h.sender.block, ← hb])
      subst same
      refine ⟨_, .confirm ns ha, ?_⟩
      rw [takeAck_of_acknowledgment hl hd result, e, Bool.true_or]
      rw [e] at history
      refine { h with sender := history, acks := hns, cleared := rfl, complete := ?_ }
      intro _
      exact Nat.le_antisymm s.stored_le (s.acks _ mem).2

/-- **Every move of an exchange is a move of its ledger**, as long as numbers tell the blocks. -/
theorem move {y : Exchange} (h : Records u x packets a) (s : a.Sound) (apart : a.Apart)
    (m : Move g x y) : ∃ packets' b, Ledger.Move g a b ∧ Records u y packets' b := by
  cases m with
  | send may => exact h.send may
  | resend => exact ⟨packets, h.resend⟩
  | deliver => exact ⟨packets, h.deliver s apart⟩
  | takeAck => exact ⟨packets, h.takeAck s apart⟩
  | data data mishap =>
    obtain ⟨ns, mishap', hns⟩ := mishap.forall₂ h.data
    exact ⟨packets, _, .data ns mishap', { h with data := hns }⟩
  | acks acks mishap =>
    obtain ⟨ns, mishap', hns⟩ := mishap.forall₂ h.acks
    exact ⟨packets, _, .acks ns mishap', { h with acks := hns }⟩

end Records

/-! ### Runs -/

theorem Move.length_log_le {g : Regime} {y : Exchange} (m : Move g x y) :
    x.log.length ≤ y.log.length := by
  cases m with
  | send may =>
    unfold Exchange.send
    dsimp only
    split
    · simp
    · exact Nat.le_refl _
  | takeAck =>
    unfold Exchange.takeAck
    dsimp only
    split <;> exact Nat.le_refl _
  | resend | deliver | data | acks => exact Nat.le_refl _

/-- Whatever the moves of ledgers keep true is true of every exchange that can be reached, if
numbers tell the blocks in all exchanges on the way to it. -/
theorem Reachable.records {g : Regime} {u : Setup} (Inv : Ledger → Prop) (start : Inv {})
    (keep : ∀ {a b : Ledger}, a.Sound → Inv a → Ledger.Move g a b → Inv b)
    (apart : ∀ {y : Exchange} {packets : List DataPacket} {a : Ledger}, Records u y packets a →
      a.Sound → Inv a → y.log.length ≤ x.log.length → a.Apart)
    (h : Reachable g u x) : ∃ packets a, Records u x packets a ∧ a.Sound ∧ Inv a := by
  induction h with
  | refl => exact ⟨[], {}, records_start u, Ledger.sound_start, start⟩
  | @tail y z _ m ih =>
    have le := m.length_log_le
    obtain ⟨packets, a, records, sound, inv⟩ := ih fun r s i le' =>
      apart r s i (Nat.le_trans le' le)
    obtain ⟨packets', b, m', records'⟩ := records.move sound (apart records sound inv le) m
    exact ⟨packets', b, records', sound.move m', keep sound inv m'⟩

end Exchange
end Tftp
