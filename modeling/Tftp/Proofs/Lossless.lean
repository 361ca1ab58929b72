import Tftp.Proofs.Chunking
import Tftp.Proofs.Steady

/-! # A transfer without a wire

The simplest transfer hands each datagram of a sender straight to a receiver and the acknowledgment
straight back (`Ends.round`), until the sender has nothing more to hand out. Source and sink do not
fail, and both ends have the same rules.

The rules bound such a transfer twice: without rollover there is no block after the 65535th, and
there may be a bound on the number of blocks; `TransferRules.capacity` is the lower of the two. The
sender looks at them before it hands out a block, the receiver notes after block 65535 that there
must be no other, and the two must agree at the very edge, where the last block is the last one
allowed.

`Ends.Level` says that all blocks handed out are stored and acknowledged. A round that starts level
ends level with one block more, or the sender has finished, or the rules forbid a further block
(`Ends.Level.round_cases`); which of the three is told by the number of blocks, the length of the
content and the capacity (`Ends.Level.finished_iff`, `Ends.Level.isExhausted_eq_false_iff`). So the
content gets through exactly if its blocks are within the capacity (`Ends.transfer_of_steady`). -/

namespace Tftp

/-! ### How many blocks the rules allow -/

/-- The most blocks of a transfer under the given rules, if there is a bound. -/
def TransferRules.capacity (rules : TransferRules) : Option Nat :=
  Option.merge min (if rules.allowRollover then none else some 65535)
    (if 0 < rules.maxBlocks then some rules.maxBlocks.toNat else none)

theorem TransferRules.lt_capacity_iff {rules : TransferRules} {k : Nat} :
    (∀ cap ∈ rules.capacity, k < cap) ↔
      (rules.allowRollover = false → k < 65535) ∧
      (0 < rules.maxBlocks → k < rules.maxBlocks.toNat) := by
  unfold capacity
  cases rules.allowRollover with
  | true => by_cases bounded : 0 < rules.maxBlocks <;> simp [bounded]
  | false =>
    by_cases bounded : 0 < rules.maxBlocks
    · rw [if_neg Bool.false_ne_true, if_pos bounded]
      constructor
      · intro h
        have least := Nat.lt_min.mp (h (min 65535 rules.maxBlocks.toNat) rfl)
        exact ⟨fun _ => least.1, fun _ => least.2⟩
      · intro h cap mem
        obtain rfl : min 65535 rules.maxBlocks.toNat = cap := Option.some.inj mem
        exact Nat.lt_min.mpr ⟨h.1 rfl, h.2 bounded⟩
    · simp [bounded]

namespace Sender

variable {content : Octets} {packets : List DataPacket} {s : Sender}

/-- A sender that has counted its blocks has room for a further one up to its capacity. -/
theorem History.isExhausted_eq_false_iff (h : s.History content packets)
    (count : s.blocksSent.toNat = min packets.length (UInt64.size - 1)) :
    s.isExhausted = false ↔ ∀ cap ∈ s.rules.capacity, packets.length < cap := by
  have stands : s.block = 65535 ↔ packets.length % 65536 = 65535 := by
    rw [h.block, show (65535 : UInt16) = blockNumber 65535 from rfl, blockNumber_eq_iff]
  have bounded : s.rules.maxBlocks.toUInt64 ≤ s.blocksSent ↔
      s.rules.maxBlocks.toNat ≤ packets.length := by
    have small := s.rules.maxBlocks.toNat_lt
    have size : UInt64.size = 18446744073709551616 := rfl
    rw [UInt64.le_iff_toNat_le, UInt32.toNat_toUInt64, count]
    omega
  rw [TransferRules.lt_capacity_iff, isExhausted, Bool.or_eq_false_iff]
  refine and_congr ?_ ?_
  · cases strict : s.rules.allowRollover with
    | true => simp
    | false =>
      have limit := h.limit strict
      simp only [Bool.not_false, Bool.and_true, beq_eq_false_iff_ne, ne_eq, stands, true_implies]
      omega
  · simp only [Bool.and_eq_false_imp, decide_eq_true_eq, decide_eq_false_iff_not, bounded,
      Nat.not_le]

theorem acknowledge_handedOut (s : Sender) (p : DataPacket) :
    ((s.handedOut p).acknowledge ⟨p.block⟩).result = .ok true ∧
      ((s.handedOut p).acknowledge ⟨p.block⟩).state =
        { s.handedOut p with complete := s.complete || p.isFinal } := by
  rcases (s.handedOut p).acknowledge_cases ⟨p.block⟩ with ⟨stale, -⟩ | ⟨-, result, state⟩
  · rcases stale with none | other
    · exact absurd none (countUp_ne_zero _)
    · exact absurd rfl other
  · exact ⟨result, state⟩

end Sender

/-! ### Rounds -/

/-- The two ends of a transfer. -/
structure Ends where
  sender : Sender
  receiver : Receiver

/-- What a round comes to. -/
inductive Round where
  /-- The datagram was read, stored and acknowledged. -/
  | settled (datagram : Octets)
  /-- There is nothing more to hand out. -/
  | done
  /-- No datagram was handed out. -/
  | unsent (fault : Fault)
  /-- The datagram is not a data packet. -/
  | unread (fault : Fault)
  /-- The receiver did not take the packet. -/
  | refused (fault : Fault)
  /-- The acknowledgment is not for the block handed out last. -/
  | unmatched

namespace Ends

/-- New ends under the same rules. -/
def start (source : Source) (sink : Sink) (rules : TransferRules) : Ends where
  sender := (Sender.new source).withRules rules
  receiver := (Receiver.new sink).withRules rules

/-- One turn of the loop: the sender's next datagram is read and given to the receiver, and its
acknowledgment to the sender. -/
def round (x : Ends) : Round × Ends :=
  let sent := x.sender.next
  match sent.result with
  | .error fault => (.unsent fault, { x with sender := sent.state })
  | .ok none => (.done, { x with sender := sent.state })
  | .ok (some datagram) =>
    match DataPacket.decodeView (.whole datagram) with
    | .error fault => (.unread fault, { x with sender := sent.state })
    | .ok packet =>
      let received := x.receiver.receive packet
      match received.result with
      | .error fault => (.refused fault, ⟨sent.state, received.state⟩)
      | .ok ack =>
        let taken := sent.state.acknowledge ack
        let ends : Ends := ⟨taken.state, received.state⟩
        match taken.result with
        | .ok true => (.settled datagram, ends)
        | _ => (.unmatched, ends)

/-- The ends after so many rounds. -/
def after (x : Ends) : Nat → Ends
  | 0 => x
  | k + 1 => (x.after k).round.2

/-! ### Level ends -/

/-- The blocks handed out are all stored and acknowledged. -/
structure Level (content : Octets) (rules : TransferRules) (packets : List DataPacket)
    (x : Ends) : Prop where
  sender : x.sender.History content packets
  senderRules : x.sender.rules = rules
  count : x.sender.blocksSent.toNat = min packets.length (UInt64.size - 1)
  reliable : x.sender.finished = false → x.sender.source.failures = 0
  complete : x.sender.complete = x.sender.finished
  receiver : x.receiver.Holds packets packets.length
  receiverRules : x.receiver.rules = rules
  steady : x.receiver.sink.Steady
  sound : x.receiver.sinkFailed = false

theorem level_start {source : Source} {sink : Sink} (rules : TransferRules)
    (reliable : source.failures = 0) (steady : sink.Steady) (empty : sink.stored = []) :
    Level source.content rules [] (start source sink rules) where
  sender := Sender.history_new source rules
  senderRules := rfl
  count := rfl
  reliable _ := reliable
  complete := rfl
  receiver := Receiver.holds_new empty rules
  receiverRules := rfl
  steady := steady
  sound := rfl

namespace Level

variable {content : Octets} {rules : TransferRules} {packets : List DataPacket} {x : Ends}

theorem receiver_finished (h : Level content rules packets x) :
    x.receiver.finished = x.sender.finished :=
  Bool.eq_iff_iff.mpr (h.receiver.finished_iff.trans h.sender.finished_iff.symm)

theorem stored (h : Level content rules packets x) :
    x.receiver.sink.stored = payloads packets := by
  rw [h.receiver.stored h.sound, List.take_length]

theorem isExhausted_eq_false_iff (h : Level content rules packets x) :
    x.sender.isExhausted = false ↔ ∀ cap ∈ rules.capacity, packets.length < cap :=
  h.senderRules ▸ h.sender.isExhausted_eq_false_iff h.count

theorem of_running (h : Level content rules packets x) (running : x.sender.finished = false) :
    packets.length ≤ content.length / 512 ∧
      x.receiver.sink.stored = content.take (512 * packets.length) := by
  obtain ⟨full, total⟩ := h.sender.going running
  refine ⟨h.sender.length_of_running running, ?_⟩
  rw [h.stored, ← total, ← length_payloads_of_full full, List.take_left]

theorem of_finished (h : Level content rules packets x) (ended : x.sender.finished = true) :
    packets.length = content.length / 512 + 1 ∧ x.receiver.sink.stored = content :=
  ⟨h.sender.length_of_finished ended, h.stored.trans (h.sender.ended ended).2⟩

theorem finished_iff (h : Level content rules packets x) :
    x.sender.finished = true ↔ packets.length = content.length / 512 + 1 :=
  h.sender.finished_iff_length

/-! ### One round -/

/-- The receiver waits for the block that the sender may hand out: its own limit is not in force
before the sender's. -/
theorem awaits (h : Level content rules packets x) (running : x.sender.finished = false)
    (allowed : x.sender.isExhausted = false) {p : DataPacket}
    (block : p.block = x.sender.block + 1) : x.receiver.Awaits p := by
  have number : p.block = blockNumber (packets.length + 1) := by
    rw [block, h.sender.block, blockNumber_succ]
  refine h.receiver.awaits_next h.sound (h.receiver_finished.trans running) ?_ number
  rw [h.receiverRules, ← h.senderRules]
  cases strict : x.sender.rules.allowRollover with
  | true => exact Or.inl rfl
  | false => exact Or.inr (h.sender.lt_limit allowed strict)

theorem receive (h : Level content rules packets x) {p : DataPacket} (awaits : x.receiver.Awaits p) :
    (x.receiver.receive p).result = .ok ⟨p.block⟩ ∧
      (x.receiver.receive p).state.Holds (packets ++ [p]) (packets ++ [p]).length := by
  obtain ⟨received, -⟩ :=
    Receiver.receive_of_canStore awaits (Receiver.canStore_of_steady h.steady p)
  rw [Receiver.receive_of_awaits awaits] at received ⊢
  refine ⟨received, ?_⟩
  rw [List.length_append, List.length_singleton]
  rcases (h.receiver.append p).store awaits List.getElem?_concat_length with
    ⟨⟨fault, refused⟩, -⟩ | ⟨-, holds⟩
  · rw [received] at refused
    cases refused
  · exact holds

theorem handedOut (h : Level content rules packets x) (running : x.sender.finished = false)
    (allowed : x.sender.isExhausted = false)
    (nofault : (x.sender.source.fill x.sender.held).fault = none) {p : DataPacket}
    (block : p.block = x.sender.block + 1)
    (payload : p.payload = (x.sender.source.fill x.sender.held).held)
    (result : x.sender.next.result = .ok (some p.encode))
    (state : x.sender.next.state = x.sender.handedOut p) :
    x.round.1 = .settled p.encode ∧ Level content rules (packets ++ [p]) x.round.2 := by
  obtain ⟨received, holds⟩ := h.receive (h.awaits running allowed block)
  obtain ⟨steady, sound⟩ := Receiver.receive_steady h.steady h.sound p
  obtain ⟨matched, acknowledged⟩ := x.sender.acknowledge_handedOut p
  have rules' := (x.receiver.receive_rules p).trans h.receiverRules
  have history :=
    (h.sender.handedOut running allowed nofault block payload).acknowledge ⟨p.block⟩
  rw [acknowledged] at history
  have ends : x.round = (.settled p.encode,
      ⟨{ x.sender.handedOut p with complete := x.sender.complete || p.isFinal },
        (x.receiver.receive p).state⟩) := by
    simp only [round, result, DataPacket.decodeView_encode, received, state, matched, acknowledged]
  rw [ends]
  refine ⟨rfl, history, h.senderRules, Sender.toNat_countUp_concat h.count p, ?_, ?_, holds, rules',
    steady, sound⟩
  · intro whole
    have full : p.isFinal = false := whole
    exact (Sender.owed_full running nofault block payload full).2.trans (h.reliable running)
  · show (x.sender.complete || p.isFinal) = p.isFinal
    rw [h.complete, running, Bool.false_or]

/-- What a round that starts level can come to. -/
theorem round_cases (h : Level content rules packets x) :
    (x.sender.finished = true ∧ x.sender.next = .answer x.sender none ∧ x.round = (.done, x)) ∨
    (x.sender.finished = false ∧ ¬ (∀ cap ∈ rules.capacity, packets.length < cap) ∧
      x.sender.next = .refuse x.sender .blockExhausted ∧
      x.round = (.unsent .blockExhausted, x)) ∨
    (x.sender.finished = false ∧ (∀ cap ∈ rules.capacity, packets.length < cap) ∧
      ∃ p : DataPacket, x.round.1 = .settled p.encode ∧
        Level content rules (packets ++ [p]) x.round.2) := by
  rcases x.sender.next_cases h.sender.room with ⟨ended, e⟩ | ⟨running, stopped, e⟩ |
    ⟨running, e, fault, -⟩ | ⟨running, allowed, nofault, p, block, payload, result, state⟩
  · refine Or.inl ⟨ended, e, ?_⟩
    rw [round, e]
    rfl
  · have full : ¬ ∀ cap ∈ rules.capacity, packets.length < cap := by
      rw [← h.isExhausted_eq_false_iff, stopped]
      exact Bool.noConfusion
    refine Or.inr (Or.inl ⟨running, full, e, ?_⟩)
    rw [round, e]
    rfl
  · have stopped : (x.sender.source.fill x.sender.held).fault ≠ none := by simp [fault]
    have failures := Source.failures_fill (Or.inl stopped)
    rw [h.reliable running, fault] at failures
    cases failures
  · exact Or.inr (Or.inr ⟨running, h.isExhausted_eq_false_iff.mp allowed, p,
      h.handedOut running allowed nofault block payload result state⟩)

theorem not_refused (h : Level content rules packets x) (fault : Fault) :
    x.round.1 ≠ .refused fault := by
  intro refused
  rcases h.round_cases with ⟨-, -, e⟩ | ⟨-, -, -, e⟩ | ⟨-, -, p, e, -⟩
  all_goals
    rw [e] at refused
    cases refused

/-- A round keeps the ends level. As long as there are blocks to come and the rules allow them, it
settles one more. -/
theorem round (h : Level content rules packets x) :
    ∃ packets', Level content rules packets' x.round.2 ∧
      (packets.length < content.length / 512 + 1 →
        (∀ cap ∈ rules.capacity, packets.length < cap) →
        packets'.length = packets.length + 1 ∧ ∃ d, x.round.1 = .settled d) := by
  rcases h.round_cases with ⟨ended, -, e⟩ | ⟨-, full, -, e⟩ | ⟨-, -, p, result, level⟩
  · rw [e]
    refine ⟨packets, h, ?_⟩
    intro more
    exact absurd (h.finished_iff.mp ended) (Nat.ne_of_lt more)
  · rw [e]
    refine ⟨packets, h, ?_⟩
    intro _ room
    exact absurd room full
  · exact ⟨packets ++ [p], level, fun _ _ => ⟨List.length_append, p.encode, result⟩⟩

end Level

/-! ### All rounds -/

variable {content : Octets} {rules : TransferRules} {packets : List DataPacket} {x : Ends}

/-- Ends that start level stay level, and settle one block in each round until all blocks are
settled or the capacity is reached. -/
theorem Level.after (h : Level content rules [] x) (k : Nat) :
    ∃ packets, Level content rules packets (x.after k) ∧
      (k ≤ content.length / 512 + 1 → (∀ cap ∈ rules.capacity, k ≤ cap) →
        packets.length = k ∧ ∀ i < k, ∃ d, (x.after i).round.1 = .settled d) := by
  induction k with
  | zero => exact ⟨[], h, fun _ _ => ⟨rfl, fun i hi => absurd hi (Nat.not_lt_zero i)⟩⟩
  | succ k ih =>
    obtain ⟨packets, level, before⟩ := ih
    obtain ⟨packets', level', one⟩ := level.round
    refine ⟨packets', level', ?_⟩
    intro more room
    obtain ⟨length, settled⟩ :=
      before (Nat.le_of_succ_le more) fun cap hc => Nat.le_of_succ_le (room cap hc)
    obtain ⟨length', now⟩ := one (length ▸ more) (length ▸ room)
    refine ⟨by rw [length', length], ?_⟩
    intro i hi
    rcases Nat.lt_succ_iff_lt_or_eq.mp hi with earlier | rfl
    · exact settled i earlier
    · exact now

/-- **Exact capacity.** Let a content need `n` blocks, the last of which may be empty. If the rules
allow as many, the loop settles `n` datagrams one after the other, then the sender has nothing more
to hand out, both ends are done, and the sink holds the content. If the rules allow fewer, it settles
as many as they allow; from then on the sender refuses each call for a block and stays as it is, its
source included, neither end has finished, and the sink holds what these blocks carry. It is never
the receiver that refuses. -/
theorem transfer_of_steady (source : Source) (sink : Sink) (rules : TransferRules)
    (reliable : source.failures = 0) (steady : sink.Steady) (empty : sink.stored = []) :
    let x := start source sink rules
    let n := source.content.length / 512 + 1
    ((∀ cap ∈ rules.capacity, n ≤ cap) →
      (∀ i < n, ∃ d, (x.after i).round.1 = .settled d) ∧
      (x.after n).sender.next = .answer (x.after n).sender none ∧
      (x.after n).sender.complete = true ∧
      (x.after n).receiver.finished = true ∧
      (x.after n).receiver.sink.stored = source.content) ∧
    (∀ cap ∈ rules.capacity, cap < n →
      (∀ i < cap, ∃ d, (x.after i).round.1 = .settled d) ∧
      (∀ j, ((x.after cap).sender.after j).next =
        .refuse (x.after cap).sender .blockExhausted) ∧
      (x.after cap).sender.finished = false ∧
      (x.after cap).receiver.finished = false ∧
      (x.after cap).receiver.sink.stored = source.content.take (512 * cap)) ∧
    ∀ k fault, (x.after k).round.1 ≠ .refused fault := by
  intro x n
  have first : Level source.content rules [] x := level_start rules reliable steady empty
  refine ⟨?_, ?_, ?_⟩
  · intro room
    obtain ⟨packets, level, before⟩ := first.after n
    obtain ⟨length, settled⟩ := before (Nat.le_refl n) room
    have ended : (x.after n).sender.finished = true := level.finished_iff.mpr length
    refine ⟨settled, ?_, level.complete.trans ended, level.receiver_finished.trans ended,
      (level.of_finished ended).2⟩
    rcases level.round_cases with ⟨-, none, -⟩ | ⟨running, -⟩ | ⟨running, -⟩
    · exact none
    · rw [ended] at running
      cases running
    · rw [ended] at running
      cases running
  · intro cap capacity short
    obtain ⟨packets, level, before⟩ := first.after cap
    obtain ⟨rfl, settled⟩ := before (Nat.le_of_lt short) fun cap' hc =>
      Nat.le_of_eq (Option.mem_unique capacity hc)
    have running : (x.after packets.length).sender.finished = false :=
      Bool.eq_false_iff.mpr fun ended => Nat.ne_of_lt short (level.finished_iff.mp ended)
    refine ⟨settled, ?_, running, level.receiver_finished.trans running,
      (level.of_running running).2⟩
    rcases level.round_cases with ⟨ended, -⟩ | ⟨-, -, refused, -⟩ | ⟨-, room, -⟩
    · rw [running] at ended
      cases ended
    · intro j
      rw [Sender.after_of_refuse refused, refused]
    · exact absurd (room _ capacity) (Nat.lt_irrefl _)
  · intro k fault
    obtain ⟨packets, level, -⟩ := first.after k
    exact level.not_refused fault

/-- A full block and the empty one after it are two blocks, which is as many as one bound allows and
one more than the other does. -/
theorem transfer_of_steady_edge :
    let source : Source := { script := [.fill 7 512] }
    let x (maxBlocks : UInt32) := start source {} { allowRollover := false, maxBlocks }
    ((x 2).after 2).receiver.finished = true ∧
    ((x 2).after 2).receiver.sink.stored = source.content ∧
    ((x 1).after 1).receiver.finished = false ∧
    ((x 1).after 1).receiver.sink.stored = source.content.take 512 := by
  intro source x
  have steady : Sink.Steady {} := ⟨by simp, by simp⟩
  have length : source.content.length = 512 := by decide +kernel
  obtain ⟨through, -, -⟩ := transfer_of_steady source {} { allowRollover := false, maxBlocks := 2 }
    rfl steady rfl
  obtain ⟨-, stopped, -⟩ := transfer_of_steady source {} { allowRollover := false, maxBlocks := 1 }
    rfl steady rfl
  rw [length] at through stopped
  obtain ⟨-, -, -, finished, stored⟩ := through (by decide)
  obtain ⟨-, -, -, running, part⟩ := stopped 1 (by decide) (by decide)
  exact ⟨finished, stored, running, part⟩

end Ends
end Tftp
