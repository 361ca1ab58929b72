import Tftp.Proofs.Block
import Tftp.Proofs.Source
import Tftp.Sender

/-! # What a sender has handed out

`Sender.next_cases` says once what asking for the next block can come to: nothing is left, the
rules forbid a further block, the source fails, or a block is handed out.

`Sender.History content packets s` relates a sender to the blocks that it has handed out and to the
content of the source that it began with. The blocks are numbered from 1; all but the last are full,
and the last is short exactly if the sender has finished. Until then the blocks, the octets held
back and what the source still holds are the content; afterwards the blocks alone are. Asking for a
block and taking an acknowledgment keep the history (`History.next`, `History.acknowledge`). The
number of blocks tells whether the sender has finished (`History.finished_iff_length`). -/

namespace Tftp

namespace Sender

/-! ### One block -/

theorem countUp_ne_zero (n : UInt64) : countUp n ≠ 0 := by
  unfold countUp
  split
  · rintro rfl
    contradiction
  · assumption

theorem toNat_countUp (n : UInt64) : (countUp n).toNat = min (n.toNat + 1) (UInt64.size - 1) := by
  have bound := n.toNat_lt
  have sum : (n + 1).toNat = (n.toNat + 1) % UInt64.size := UInt64.toNat_add n 1
  have zero : (0 : UInt64).toNat = 0 := rfl
  have size : UInt64.size = 18446744073709551616 := rfl
  rw [size] at sum ⊢
  unfold countUp
  split
  next top =>
    rw [top, zero] at sum
    omega
  next more =>
    have : (n + 1).toNat ≠ 0 := fun none => more (UInt64.toNat_inj.mp none)
    omega

theorem toNat_countUp_concat {α : Type} {n : UInt64} {l : List α}
    (count : n.toNat = min l.length (UInt64.size - 1)) (a : α) :
    (countUp n).toNat = min (l ++ [a]).length (UInt64.size - 1) := by
  rw [toNat_countUp, count, List.length_append, List.length_singleton]
  omega

/-- The sender after it has read for the next block. -/
def filled (s : Sender) : Sender :=
  { s with source := (s.source.fill s.held).source, held := (s.source.fill s.held).held }

/-- The sender after it has handed out a block. -/
def handedOut (s : Sender) (p : DataPacket) : Sender :=
  { s.filled with
    block := p.block, blocksSent := countUp s.blocksSent, finished := p.isFinal
    lastDatagram := some p.encode, held := [] }

/-- What asking for the next block can come to. -/
theorem next_cases (s : Sender) (h : s.held.length ≤ blockSize) :
    (s.finished = true ∧ s.next = .answer s none) ∨
    (s.finished = false ∧ s.isExhausted = true ∧ s.next = .refuse s .blockExhausted) ∨
    (s.finished = false ∧ ∃ e, (s.source.fill s.held).fault = some e ∧
      s.next = .refuse s.filled (.io e)) ∨
    (s.finished = false ∧ s.isExhausted = false ∧ (s.source.fill s.held).fault = none ∧
      ∃ p : DataPacket, p.block = s.block + 1 ∧ p.payload = (s.source.fill s.held).held ∧
        s.next.result = .ok (some p.encode) ∧ s.next.state = s.handedOut p) := by
  unfold next
  cases hf : s.finished with
  | true => exact Or.inl ⟨rfl, rfl⟩
  | false =>
    right
    cases he : s.isExhausted with
    | true => exact Or.inl ⟨rfl, rfl, rfl⟩
    | false =>
      right
      cases hr : (s.source.fill s.held).fault with
      | some e =>
        refine Or.inl ⟨rfl, e, rfl, ?_⟩
        simp [hr, filled, hf]
      | none =>
        have fits := Source.length_held_fill_le s.source s.held h
        refine Or.inr ⟨rfl, rfl, rfl, ⟨s.block + 1, _, fits⟩, rfl, rfl, ?_, ?_⟩
        · simp [hr, emit, DataPacket.encodeNext_of_fits fits]
        · simp [hr, emit, DataPacket.encodeNext_of_fits fits, handedOut, filled,
            DataPacket.isFinal]

theorem next_frame (s : Sender) (h : s.held.length ≤ blockSize) :
    s.next.state.rules = s.rules ∧ s.next.state.complete = s.complete := by
  rcases s.next_cases h with ⟨-, e⟩ | ⟨-, -, e⟩ | ⟨-, _, -, e⟩ | ⟨-, -, -, p, -, -, -, e⟩
  · rw [e]; exact ⟨rfl, rfl⟩
  · rw [e]; exact ⟨rfl, rfl⟩
  · rw [e]; exact ⟨rfl, rfl⟩
  · rw [e]; exact ⟨rfl, rfl⟩

theorem room_next (s : Sender) (h : s.held.length ≤ blockSize) :
    s.next.state.held.length ≤ blockSize := by
  rcases s.next_cases h with ⟨-, e⟩ | ⟨-, -, e⟩ | ⟨-, _, -, e⟩ | ⟨-, -, -, p, -, -, -, e⟩
  · rw [e]; exact h
  · rw [e]; exact h
  · rw [e]; exact Source.length_held_fill_le _ _ h
  · rw [e]; exact Nat.zero_le _

/-- Whether an acknowledgment is for the block handed out last, and what that changes. -/
theorem acknowledge_cases (s : Sender) (ack : Acknowledgment) :
    ((s.blocksSent = 0 ∨ ack.block ≠ s.block) ∧ (s.acknowledge ack).result = .ok false ∧
      (s.acknowledge ack).state = s) ∨
    ((s.blocksSent ≠ 0 ∧ ack.block = s.block) ∧ (s.acknowledge ack).result = .ok true ∧
      (s.acknowledge ack).state = { s with complete := s.complete || s.finished }) := by
  unfold acknowledge
  by_cases stale : s.blocksSent = 0 ∨ ack.block ≠ s.block
  · rw [if_pos stale]
    exact Or.inl ⟨stale, rfl, rfl⟩
  · rw [if_neg stale]
    right
    refine ⟨by simpa using stale, ?_⟩
    obtain ⟨source, block, blocksSent, finished, complete, lastDatagram, held, rules⟩ := s
    cases finished <;> cases complete <;> exact ⟨rfl, rfl⟩

/-! ### All blocks -/

/-- The sender has handed out the given blocks of the given content. -/
structure History (content : Octets) (packets : List DataPacket) (s : Sender) : Prop where
  numbered : ∀ i p, packets[i]? = some p → p.block = blockNumber (i + 1)
  block : s.block = blockNumber packets.length
  started : s.blocksSent = 0 ↔ packets = []
  last : s.lastDatagram = packets.getLast?.map DataPacket.encode
  room : s.held.length ≤ blockSize
  /-- Before the last block, what is not handed out is held or still in the source. -/
  going : s.finished = false →
    (∀ p ∈ packets, p.isFinal = false) ∧
      payloads packets ++ (s.held ++ s.source.content) = content
  /-- After the last block nothing of the content is missing. -/
  ended : s.finished = true →
    (∃ full final, packets = full ++ [final] ∧ (∀ p ∈ full, p.isFinal = false) ∧
      final.isFinal = true) ∧ payloads packets = content
  confirmed : s.complete = true → s.finished = true
  /-- Without rollover the counter stops at its last number. -/
  limit : s.rules.allowRollover = false → packets.length ≤ 65535

theorem history_new (source : Source) (rules : TransferRules) :
    ((new source).withRules rules).History source.content [] where
  numbered i p h := by simp at h
  block := rfl
  started := ⟨fun _ => rfl, fun _ => rfl⟩
  last := rfl
  room := Nat.zero_le _
  going _ := ⟨fun p h => by simp at h, rfl⟩
  ended h := by cases h
  confirmed h := by cases h
  limit _ := Nat.zero_le _

namespace History

variable {content : Octets} {packets : List DataPacket} {s : Sender}

/-- Reading for a block that is not handed out loses nothing. -/
theorem filled (h : s.History content packets) (running : s.finished = false) {e : IoFault}
    (fault : (s.source.fill s.held).fault = some e) : s.filled.History content packets where
  numbered := h.numbered
  block := h.block
  started := h.started
  last := h.last
  room := Source.length_held_fill_le _ _ h.room
  going _ := by
    obtain ⟨full, total⟩ := h.going running
    refine ⟨full, ?_⟩
    rw [← total]
    exact congrArg _ (Source.held_fill_content (Or.inl (by simp [fault])))
  ended hf := by
    rw [show s.filled.finished = s.finished from rfl, running] at hf
    cases hf
  confirmed := h.confirmed
  limit := h.limit

theorem numbered_concat (h : s.History content packets) {p : DataPacket}
    (block : p.block = s.block + 1) {i : Nat} {q : DataPacket}
    (hq : (packets ++ [p])[i]? = some q) : q.block = blockNumber (i + 1) := by
  rcases Nat.lt_or_ge i packets.length with old | new
  · rw [List.getElem?_append_left old] at hq
    exact h.numbered i q hq
  · rw [List.getElem?_append_right new] at hq
    obtain ⟨hi, rfl⟩ : i - packets.length = 0 ∧ p = q := by simpa [List.getElem?_singleton] using hq
    have hi : i = packets.length := by omega
    rw [block, h.block, hi, blockNumber_succ]

theorem lt_limit (h : s.History content packets) (allowed : s.isExhausted = false)
    (strict : s.rules.allowRollover = false) : packets.length < 65535 := by
  rcases Nat.lt_or_eq_of_le (h.limit strict) with below | at_end
  · exact below
  · have stands : s.block = 65535 := by
      rw [h.block, at_end]
      rfl
    simp [isExhausted, stands, strict] at allowed

/-- A block that is handed out takes its content from what was held and what the source held. -/
theorem handedOut (h : s.History content packets) (running : s.finished = false)
    (allowed : s.isExhausted = false) (nofault : (s.source.fill s.held).fault = none)
    {p : DataPacket} (block : p.block = s.block + 1)
    (payload : p.payload = (s.source.fill s.held).held) :
    (s.handedOut p).History content (packets ++ [p]) where
  numbered _ _ hq := h.numbered_concat block hq
  block := by
    rw [List.length_append, List.length_singleton, blockNumber_succ, ← h.block, ← block]
    rfl
  started := by simp [Sender.handedOut, countUp_ne_zero]
  last := by simp [Sender.handedOut]
  room := Nat.zero_le _
  going hf := by
    obtain ⟨full, total⟩ := h.going running
    have whole : p.isFinal = false := hf
    refine ⟨?_, ?_⟩
    · intro q hq
      rcases List.mem_append.mp hq with old | new
      · exact full q old
      · rwa [List.mem_singleton.mp new]
    · have long : blockSize ≤ (s.source.fill s.held).held.length := by
        rw [← payload]
        exact Nat.le_of_not_lt (of_decide_eq_false whole)
      rw [payloads_append, payloads_singleton, payload, List.append_assoc, ← total]
      exact congrArg _ (Source.held_fill_content (Or.inr long))
  ended hf := by
    obtain ⟨full, total⟩ := h.going running
    have final : p.isFinal = true := hf
    refine ⟨⟨packets, p, rfl, full, final⟩, ?_⟩
    have short : (s.source.fill s.held).held.length < blockSize := by
      rw [← payload]
      exact of_decide_eq_true final
    rw [payloads_append, payloads_singleton, payload, Source.held_fill_of_short nofault short,
      total]
  confirmed hc := by
    have := h.confirmed hc
    rw [running] at this
    cases this
  limit strict := by
    rw [List.length_append, List.length_singleton]
    exact h.lt_limit allowed strict

/-- Asking for a block keeps the history, with the block if there is one. -/
theorem next (h : s.History content packets) :
    (s.finished = false ∧ ∃ p, s.next.result = .ok (some p.encode) ∧
      s.next.state.History content (packets ++ [p])) ∨
    ((∀ d, s.next.result ≠ .ok (some d)) ∧ s.next.state.History content packets ∧
      s.next.state.finished = s.finished) := by
  rcases s.next_cases h.room with ⟨-, e⟩ | ⟨-, -, e⟩ | ⟨running, _, fault, e⟩ |
    ⟨running, allowed, nofault, p, block, payload, result, state⟩
  · rw [e]
    exact Or.inr ⟨fun d hd => (by cases hd), h, rfl⟩
  · rw [e]
    exact Or.inr ⟨fun d hd => (by cases hd), h, rfl⟩
  · rw [e]
    exact Or.inr ⟨fun d hd => (by cases hd), h.filled running fault, rfl⟩
  · rw [state]
    exact Or.inl ⟨running, p, result, h.handedOut running allowed nofault block payload⟩

theorem finished_iff (h : s.History content packets) :
    s.finished = true ↔ ∃ p ∈ packets, p.isFinal = true := by
  constructor
  · intro ended
    obtain ⟨⟨full, final, rfl, -, short⟩, -⟩ := h.ended ended
    exact ⟨final, List.mem_append_right _ (List.mem_singleton_self _), short⟩
  · rintro ⟨p, hp, short⟩
    cases running : s.finished with
    | true => rfl
    | false =>
      have := (h.going running).1 p hp
      rw [short] at this
      cases this

theorem length_of_running (h : s.History content packets) (running : s.finished = false) :
    packets.length ≤ content.length / 512 := by
  obtain ⟨full, total⟩ := h.going running
  have length := length_payloads_of_full full
  have sum := congrArg List.length total
  rw [List.length_append] at sum
  omega

theorem length_of_finished (h : s.History content packets) (ended : s.finished = true) :
    packets.length = content.length / 512 + 1 := by
  obtain ⟨⟨full, final, rfl, whole, short⟩, total⟩ := h.ended ended
  have length := length_payloads_of_full whole
  have last : final.payload.length < 512 := of_decide_eq_true short
  rw [← total, payloads_append, payloads_singleton, List.length_append, List.length_append,
    List.length_singleton]
  omega

/-- A sender has finished exactly when it has handed out as many blocks as the content needs. -/
theorem finished_iff_length (h : s.History content packets) :
    s.finished = true ↔ packets.length = content.length / 512 + 1 := by
  constructor
  · exact h.length_of_finished
  · intro all
    cases running : s.finished with
    | true => rfl
    | false =>
      have := h.length_of_running running
      omega

theorem acknowledge (h : s.History content packets) (ack : Acknowledgment) :
    (s.acknowledge ack).state.History content packets := by
  rcases s.acknowledge_cases ack with ⟨-, -, e⟩ | ⟨-, -, e⟩
  · rw [e]
    exact h
  · rw [e]
    refine { h with confirmed := ?_ }
    intro hc
    rcases Bool.or_eq_true_iff.mp hc with before | now
    · exact h.confirmed before
    · exact now

end History
end Sender
end Tftp
