import Tftp.Proofs.Exchange.Simulation

/-! # The two ends agree

Whatever is recorded of an exchange, the sink holds the beginning of the content
(`Records.stored_prefix_content`); a receiver that has finished has stored all of it
(`Records.of_finished`), and a sender that takes the transfer for complete has a receiver that has
finished (`Records.finished_of_complete`).

Hence `Reachable.agreement`: on a wire that loses, doubles and reorders datagrams, under a caller
that asks for blocks at any time, the ends agree as long as the counter has not gone round. -/

namespace Tftp.Exchange

/-! ### What records tell -/

namespace Records

variable {u : Setup} {x : Exchange} {packets : List DataPacket} {a : Ledger}

theorem payloads_prefix_content (h : Records u x packets a) :
    payloads packets <+: u.source.content := by
  cases hf : x.link.sender.finished with
  | false =>
    rw [← (h.sender.going hf).2]
    exact List.prefix_append ..
  | true =>
    have whole := (h.sender.ended hf).2
    exact whole ▸ List.prefix_rfl

theorem stored_prefix_content (h : Records u x packets a) :
    x.link.receiver.sink.stored <+: u.source.content := by
  cases hs : x.link.receiver.sinkFailed with
  | false =>
    rw [h.receiver.stored hs]
    exact (payloads_take_prefix_payloads packets a.stored).trans h.payloads_prefix_content
  | true =>
    exact (h.receiver.part hs).2.2.trans h.payloads_prefix_content

/-- Only the last block handed out is short, and only when the sender has finished. -/
theorem last_of_final (h : Records u x packets a) {i : Nat} {p : DataPacket}
    (hp : packets[i]? = some p) (final : p.isFinal = true) :
    x.link.sender.finished = true ∧ i + 1 = packets.length := by
  have ended := h.sender.finished_iff.mpr ⟨p, List.mem_of_getElem? hp, final⟩
  refine ⟨ended, ?_⟩
  obtain ⟨⟨full, last, rfl, whole, -⟩, -⟩ := h.sender.ended ended
  have lt := (List.getElem?_eq_some_iff.mp hp).1
  rw [List.length_append, List.length_singleton] at lt ⊢
  by_contra early
  rw [List.getElem?_append_left (by omega)] at hp
  have := whole p (List.mem_of_getElem? hp)
  rw [final] at this
  cases this

/-- A receiver that has finished has stored all of the content, and so has the sender handed it
out. -/
theorem of_finished (h : Records u x packets a) (hf : x.link.receiver.finished = true) :
    x.link.sender.finished = true ∧ x.link.receiver.sink.stored = u.source.content := by
  obtain ⟨pos, p, hp, final⟩ := h.receiver.final hf
  obtain ⟨ended, last⟩ := h.last_of_final hp final
  have sound : x.link.receiver.sinkFailed = false := by
    by_contra broken
    have := (h.receiver.part (by simpa using broken)).2.1
    rw [hf] at this
    cases this
  refine ⟨ended, ?_⟩
  rw [h.receiver.stored sound, List.take_of_length_le (by omega), (h.sender.ended ended).2]

theorem finished_of_level (h : Records u x packets a) (ended : x.link.sender.finished = true)
    (level : a.stored = a.sent) : x.link.receiver.finished = true := by
  have settled : x.link.receiver.Holds packets packets.length := (level.trans h.sent) ▸ h.receiver
  exact settled.finished_iff.mpr (h.sender.finished_iff.mp ended)

/-- A sender that takes the transfer for complete has a receiver that has finished. -/
theorem finished_of_complete (h : Records u x packets a) (hc : x.link.sender.complete = true) :
    x.link.receiver.finished = true :=
  h.finished_of_level (h.sender.confirmed hc) (h.complete hc)

end Records

/-! ### Any wire, any caller -/

/-- The number of blocks handed out stays within one turn of the counter if the sender's rules say
so, and otherwise if it does in the end. -/
theorem Records.length_log_le {u : Setup} {x y : Exchange} {packets : List DataPacket} {a : Ledger}
    (h : Records u y packets a)
    (few : u.senderRules.allowRollover = true → x.log.length ≤ 65535)
    (le : y.log.length ≤ x.log.length) : y.log.length ≤ 65535 := by
  cases hr : u.senderRules.allowRollover with
  | true => exact Nat.le_trans le (few hr)
  | false =>
    rw [h.log, List.length_map]
    exact h.sender.limit (by rw [h.senderRules, hr])

/-- **Safety and agreement.** On a wire that loses, doubles and reorders datagrams, and whatever the
caller does, the sink holds the beginning of the content, a receiver that has finished has stored
all of it, and a complete transfer has a receiver that has finished. The counter must not go round;
without rollover it never does. -/
theorem Reachable.agreement {u : Setup} {x : Exchange} (h : Reachable .unruly u x)
    (few : u.senderRules.allowRollover = true → x.log.length ≤ 65535) :
    x.log.length ≤ 65535 ∧
    x.link.receiver.sink.stored <+: u.source.content ∧
    (x.link.receiver.finished = true →
      x.link.sender.finished = true ∧ x.link.receiver.sink.stored = u.source.content) ∧
    (x.link.sender.complete = true →
      x.link.receiver.finished = true ∧ x.link.receiver.sink.stored = u.source.content) := by
  obtain ⟨packets, a, records, -, -⟩ := h.records (fun _ => True) trivial
    (fun _ _ _ => trivial)
    (fun records sound _ le => sound.apart (records.sent_eq ▸ records.length_log_le few le))
  refine ⟨records.length_log_le few (Nat.le_refl _), records.stored_prefix_content,
    records.of_finished, ?_⟩
  intro complete
  have finished := records.finished_of_complete complete
  exact ⟨finished, (records.of_finished finished).2⟩

/-- Two blocks from a source that is interrupted and fails once, for a sink that takes the first
block in pieces. -/
def bumpy : Setup where
  source :=
    { script := [.fill 7 300, .fault (.ofKind .interrupted), .fill 8 212, .fault (.ofKind .timedOut),
        .octets [9]] }
  writeScript := [.accept 100, .fault (.ofKind .interrupted)]

/-- The second block is asked for again after a fault, overtakes the first, is refused, and is sent
again. -/
def overtaken : Exchange :=
  let x := bumpy.start.send.send.send
  let y : Exchange := { x with link := x.link.swapData }
  y.deliver.deliver.resend.deliver.takeAck.takeAck

/-- The ends agree although the blocks arrive in the wrong order. -/
theorem agreement_overtaken :
    Reachable .unruly bumpy overtaken ∧
    (bumpy.senderRules.allowRollover = true → overtaken.log.length ≤ 65535) ∧
    overtaken.link.sender.complete = true ∧
    overtaken.link.receiver.sink.stored = bumpy.source.content := by
  have calls : Reachable .unruly bumpy bumpy.start.send.send.send := by
    refine Relation.ReflTransGen.refl.tail (.send ?_) |>.tail (.send ?_) |>.tail (.send ?_)
    all_goals exact fun h => by cases h
  have h : Reachable .unruly bumpy overtaken := calls.swapData rfl |>.tail .deliver
    |>.tail .deliver |>.tail .resend |>.tail .deliver |>.tail .takeAck |>.tail .takeAck
  have few : overtaken.log.length ≤ 65535 := by decide +kernel
  have complete : overtaken.link.sender.complete = true := by decide +kernel
  exact ⟨h, fun _ => few, complete, ((h.agreement fun _ => few).2.2.2 complete).2⟩

end Tftp.Exchange
