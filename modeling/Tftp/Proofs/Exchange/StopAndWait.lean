import Tftp.Proofs.Exchange.Agreement
import Tftp.Proofs.Steady

/-! # Stop and wait

A patient caller asks for a block only when the last one is acknowledged. If the wire keeps the
order of its datagrams, though it loses and doubles them, then the ends are never more than one
block apart, and the counter may go round as often as it likes:

* the sink holds all blocks handed out, or all but the last one (`Reachable.stored_of_stopAndWait`);
* whatever was lost, sending the last datagram again brings the acknowledgment that the sender
  waits for, and after the last block both ends are done (`Reachable.recovers`). -/

namespace Tftp.Exchange

variable {g : Regime} {u : Setup} {x : Exchange} {packets : List DataPacket} {a : Ledger}

/-- The ends are never more than one block apart. -/
theorem Reachable.alternating (h : Reachable .stopAndWait u x) :
    ∃ packets a, Records u x packets a ∧ a.Sound ∧ a.Alternating :=
  h.records Ledger.Alternating Ledger.alternating_start (fun sound inv m => inv.move sound m)
    fun _ sound inv _ => inv.apart sound

/-! ### What is stored -/

theorem Records.handedOut_eq (h : Records u x packets a) :
    x.handedOut = packets.map DataPacket.payload := by
  rw [handedOut, h.log, List.map_map]
  apply List.map_congr_left
  intro p _
  exact p.payload_eq_drop

theorem Records.stored_eq (h : Records u x packets a) (sound : x.link.receiver.sinkFailed = false) :
    x.link.receiver.sink.stored = (x.handedOut.take a.stored).flatten := by
  rw [h.receiver.stored sound, h.handedOut_eq, ← List.map_take, payloads, List.flatMap_def]

theorem Reachable.steady (h : Reachable g u x) (steady : u.sink.Steady) :
    x.link.receiver.sink.Steady ∧ x.link.receiver.sinkFailed = false := by
  induction h with
  | refl => exact ⟨steady, rfl⟩
  | tail _ m ih =>
    obtain ⟨steady, sound⟩ := ih
    rcases m.receiver with same | ⟨p, received⟩
    · rw [same]
      exact ⟨steady, sound⟩
    · rw [received]
      exact Receiver.receive_steady steady sound p

/-- **Rollover is harmless.** However often the counter has gone round, the sink holds all blocks
handed out or all but the last one, in order, as long as it does not fail, and a steady sink never
does. A complete transfer has a receiver that has finished and stored all of the content. -/
theorem Reachable.stored_of_stopAndWait (h : Reachable .stopAndWait u x) :
    (u.sink.Steady → x.link.receiver.sinkFailed = false) ∧
    (x.link.receiver.sinkFailed = false →
      ∃ k, (k = x.log.length ∨ k + 1 = x.log.length) ∧
        x.link.receiver.sink.stored = (x.handedOut.take k).flatten) ∧
    x.link.receiver.sink.stored <+: u.source.content ∧
    (x.link.sender.complete = true →
      x.link.receiver.finished = true ∧ x.link.receiver.sink.stored = u.source.content) := by
  obtain ⟨packets, a, records, bounds, alternating⟩ := h.alternating
  refine ⟨fun steady => (h.steady steady).2, ?_, records.stored_prefix_content, ?_⟩
  · intro sound
    refine ⟨a.stored, ?_, records.stored_eq sound⟩
    have sent := records.sent_eq
    have near := alternating.near
    have le := bounds.stored_le
    omega
  · intro complete
    have finished := records.finished_of_complete complete
    exact ⟨finished, (records.of_finished finished).2⟩

/-- The first block arrives twice; the second is asked for again after a fault, is lost, and is sent
again. -/
def retried : Exchange :=
  let x := bumpy.start.send
  let y : Exchange := { x with link := x.link.repeatData }
  let z := y.deliver.deliver.takeAck.send.send
  let w : Exchange := { z with link := z.link.dropData }
  w.resend.deliver

theorem reachable_retried : Reachable .stopAndWait bumpy retried := by
  have first : Reachable .stopAndWait bumpy bumpy.start.send := .single (.send fun _ => rfl)
  have heard := first.repeatData.tail .deliver |>.tail .deliver |>.tail .takeAck
  have failed := heard.tail (.send fun _ => by decide +kernel)
  have second := failed.tail (.send fun _ => by decide +kernel)
  have lost := Reachable.dropData second
  exact lost.tail .resend |>.tail .deliver

/-- Both acknowledgments of the first block and that of the second arrive. -/
theorem stored_of_stopAndWait_retried :
    Reachable .stopAndWait bumpy retried.takeAck.takeAck ∧
    retried.takeAck.takeAck.link.receiver.sinkFailed = false ∧
    retried.takeAck.takeAck.link.sender.complete = true ∧
    retried.takeAck.takeAck.link.receiver.sink.stored = bumpy.source.content := by
  have h : Reachable .stopAndWait bumpy retried.takeAck.takeAck :=
    reachable_retried.tail .takeAck |>.tail .takeAck
  have complete : retried.takeAck.takeAck.link.sender.complete = true := by decide +kernel
  obtain ⟨sound, -, -, done⟩ := h.stored_of_stopAndWait
  exact ⟨h, sound ⟨by decide, by decide⟩, complete, (done complete).2⟩

/-! ### Recovery -/

/-- The datagram to send again is the wire form of the last block, which carries the sender's
number, and is short if the sender has finished. -/
theorem Records.last_block (h : Records u x packets a) (begun : x.log ≠ []) :
    ∃ p : DataPacket, 0 < a.sent ∧ x.link.sender.lastDatagram = some p.encode ∧
      p.block = blockNumber a.sent ∧ x.link.sender.block = p.block ∧
      (x.link.sender.finished = true → p.isFinal = true) := by
  have handedOut : packets ≠ [] := by
    rintro rfl
    exact begun h.log
  have pos : 0 < a.sent := by
    rw [h.sent]
    exact List.length_pos_iff.mpr handedOut
  obtain ⟨p, last⟩ := Option.ne_none_iff_exists'.mp (mt List.getLast?_eq_none_iff.mp handedOut)
  have hp : packets[a.sent - 1]? = some p := by rw [h.sent, ← List.getLast?_eq_getElem?, last]
  have block : p.block = blockNumber a.sent := by
    rw [h.sender.numbered _ _ hp, Nat.sub_add_cancel pos]
  refine ⟨p, pos, ?_, block, ?_, ?_⟩
  · rw [h.sender.last, last]
    rfl
  · rw [h.sender.block, ← h.sent, block]
  · intro ended
    obtain ⟨⟨full, short, rfl, -, final⟩, -⟩ := h.sender.ended ended
    rw [List.getLast?_concat] at last
    rwa [← Option.some.inj last]

theorem Records.acknowledge_last (h : Records u x packets a) (begun : x.log ≠ []) :
    (x.link.sender.acknowledge ⟨x.link.sender.block⟩).result = .ok true ∧
      (x.link.sender.finished = true →
        (x.link.sender.acknowledge ⟨x.link.sender.block⟩).state.complete = true) := by
  have started : x.link.sender.blocksSent ≠ 0 := by
    intro none
    rw [h.log, h.sender.started.mp none] at begun
    exact begun rfl
  rcases x.link.sender.acknowledge_cases ⟨x.link.sender.block⟩ with
    ⟨none | other, -, -⟩ | ⟨-, result, state⟩
  · exact absurd none started
  · exact absurd rfl other
  · refine ⟨result, ?_⟩
    intro ended
    rw [state]
    exact Bool.or_eq_true_iff.mpr (Or.inr ended)

/-- The receiver acknowledges the last block, again or for the first time. -/
theorem Records.receive_last (h : Records u x packets a) (bounds : a.Sound)
    (alternating : a.Alternating) (sound : x.link.receiver.sinkFailed = false)
    (few : x.link.receiver.rules.allowRollover = true ∨ a.sent ≤ 65535) {p : DataPacket}
    (pos : 0 < a.sent) (block : p.block = blockNumber a.sent)
    (takes : x.link.receiver.CanStore p) :
    (x.link.receiver.receive p).result = .ok ⟨p.block⟩ ∧
      (x.link.sender.finished = true → p.isFinal = true →
        (x.link.receiver.receive p).state.finished = true) := by
  have near := alternating.near
  have le := bounds.stored_le
  rcases Nat.lt_or_eq_of_le le with behind | level
  · -- The receiver has not stored the last block, so it waits for it.
    have next : a.sent = a.stored + 1 := by omega
    have running : x.link.receiver.finished = false := by
      by_contra finished
      obtain ⟨_, q, hq, final⟩ := h.receiver.final (by simpa using finished)
      obtain ⟨-, last⟩ := h.last_of_final hq final
      have sent := h.sent
      omega
    have awaits : x.link.receiver.Awaits p :=
      h.receiver.awaits_next sound running (few.imp_right fun _ => by omega) (next ▸ block)
    obtain ⟨result, ended⟩ := Receiver.receive_of_canStore awaits takes
    exact ⟨result, fun _ => ended⟩
  · -- The acknowledgment was lost or is still on its way.
    obtain ⟨result, state⟩ := h.receiver.receive_last sound (level ▸ pos) (level ▸ block)
    refine ⟨result, ?_⟩
    intro ended _
    rw [state]
    exact h.finished_of_level ended level

/-- **Sending again always recovers.** Whatever was lost or doubled before, the last datagram is
read as the last block; if the sink takes it, the receiver answers with the acknowledgment that the
sender waits for. If the sender has finished, both ends are done afterwards. -/
theorem Reachable.recovers (h : Reachable .stopAndWait u x) (begun : x.log ≠ [])
    (sound : x.link.receiver.sinkFailed = false)
    (few : u.receiverRules.allowRollover = true ∨ x.log.length ≤ 65535) :
    ∃ d p, x.link.sender.lastDatagram = some d ∧
      (∀ rules, Packet.decode rules d = .ok (.data p)) ∧
      (x.link.receiver.CanStore p →
        (x.link.receiver.receive p).result = .ok ⟨x.link.sender.block⟩ ∧
        (x.link.sender.acknowledge ⟨x.link.sender.block⟩).result = .ok true ∧
        (x.link.sender.finished = true →
          (x.link.sender.acknowledge ⟨x.link.sender.block⟩).state.complete = true ∧
          (x.link.receiver.receive p).state.finished = true)) := by
  obtain ⟨packets, a, records, bounds, alternating⟩ := h.alternating
  obtain ⟨p, pos, last, block, current, final⟩ := records.last_block begun
  obtain ⟨acknowledged, complete⟩ := records.acknowledge_last begun
  refine ⟨p.encode, p, last, fun rules => Packet.decode_encode_data rules p, ?_⟩
  intro takes
  rw [← records.sent_eq, ← records.receiverRules] at few
  obtain ⟨received, finished⟩ :=
    records.receive_last bounds alternating sound few pos block takes
  refine ⟨?_, acknowledged, fun ended => ⟨complete ended, finished ended (final ended)⟩⟩
  rw [received, current]

/-- Both acknowledgments of the first block and that of the second are lost. -/
def unheard : Exchange :=
  let x : Exchange := { retried with link := retried.link.dropAck }
  let y : Exchange := { x with link := x.link.dropAck }
  { y with link := y.link.dropAck }

/-- The second block, the last one, is acknowledged again, and both ends are done. -/
theorem recovers_unheard :
    Reachable .stopAndWait bumpy unheard ∧ unheard.log ≠ [] ∧
    unheard.link.receiver.sinkFailed = false ∧ bumpy.receiverRules.allowRollover = true ∧
    unheard.link.acks = [] ∧ unheard.link.sender.complete = false ∧
    ∃ p, (unheard.link.receiver.receive p).result = .ok ⟨2⟩ ∧
      (unheard.link.sender.acknowledge ⟨2⟩).state.complete = true := by
  have h : Reachable .stopAndWait bumpy unheard := reachable_retried.dropAck.dropAck.dropAck
  have begun : unheard.log ≠ [] := by
    intro none
    have two : unheard.log.length = 2 := by decide +kernel
    rw [none] at two
    cases two
  have steady := h.steady ⟨by decide, by decide⟩
  have second : unheard.link.sender.block = 2 := by decide +kernel
  have ended : unheard.link.sender.finished = true := by decide +kernel
  obtain ⟨d, p, -, -, recovered⟩ := h.recovers begun steady.2 (Or.inl rfl)
  obtain ⟨received, -, done⟩ := recovered (Receiver.canStore_of_steady steady.1 p)
  rw [second] at received done
  refine ⟨h, begun, steady.2, rfl, by decide +kernel, by decide +kernel, p, received, ?_⟩
  exact (done ended).1

end Tftp.Exchange
