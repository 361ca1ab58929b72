import Tftp.Proofs.Turns

/-! # What a sender tells of itself

A caller knows a sender by its number of blocks, its current block, its last datagram and by whether
it has finished and is complete. `Standing start emitted s` ties these to the datagrams that were
handed out, and `Settled turns s` ties the end of the transfer to the acknowledgments that were taken
and to what was counted. Each turn keeps both (`Standing.turn`, `Settled.turn`), so they hold at any
point of any run: `Sender.standing_tells`. -/

namespace Tftp

namespace Sender

/-! ### Blocks -/

/-- What a sender that goes on after block `start` tells of the datagrams that it has handed out. -/
structure Standing (start : UInt16) (emitted : List Octets) (s : Sender) : Prop where
  sent : s.blocksSent.toNat = min emitted.length (UInt64.size - 1)
  block : s.block = start + blockNumber emitted.length
  last : s.lastDatagram = emitted.getLast?
  /-- The last datagram carries the current block, and is short exactly if the sender has finished. -/
  current :
    (emitted = [] ∧ s.finished = false) ∨
    ∃ p : DataPacket, emitted.getLast? = some p.encode ∧ p.block = s.block ∧
      s.finished = p.isFinal
  room : s.held.length < blockSize

theorem standing_resume (source : Source) (start : UInt16) :
    (resume source start).Standing start [] where
  sent := rfl
  block := (UInt16.add_zero start).symm
  last := rfl
  current := Or.inl ⟨rfl, rfl⟩
  room := Nat.succ_pos _

namespace Standing

variable {start : UInt16} {emitted : List Octets}

/-- A turn keeps the standing. -/
theorem turn {t : Turn} (h : t.sender.Standing start emitted) :
    t.after.Standing start (emitted ++ t.datagram?.toList) := by
  have room := Turn.held_after_lt h.room
  cases t.outcome (Nat.le_of_lt h.room) with
  | idle _ state silent | failed _ _ state silent | matched state silent =>
    rw [silent, Option.toList_none, List.append_nil]
    rw [state] at room ⊢
    exact ⟨h.sent, h.block, h.last, h.current, room⟩
  | handed p _ _ block _ state datagram =>
    rw [datagram, Option.toList_some]
    rw [state] at room ⊢
    refine ⟨toNat_countUp_concat h.sent p.encode, ?_, List.getLast?_concat.symm,
      Or.inr ⟨p, List.getLast?_concat, rfl, rfl⟩, room⟩
    show p.block = _
    rw [block, h.block, List.length_append, List.length_singleton, blockNumber_succ,
      UInt16.add_assoc]

variable {s : Sender}

theorem blocksSent_eq_zero_iff (h : s.Standing start emitted) :
    s.blocksSent = 0 ↔ emitted = [] := by
  have sent := h.sent
  have size : UInt64.size = 18446744073709551616 := rfl
  rw [← UInt64.toNat_inj, ← List.length_eq_zero_iff]
  show s.blocksSent.toNat = 0 ↔ _
  omega

theorem toNat_block (h : s.Standing start emitted) :
    s.block.toNat = (start.toNat + emitted.length) % 65536 := by
  rw [h.block, UInt16.toNat_add, blockNumber, UInt16.toNat_ofNat']
  exact Nat.add_mod_mod _ _ _

end Standing

/-- The standing of any run. -/
theorem standing_reached (source : Source) (start : UInt16) (inputs : List Input) :
    ((resume source start).reached inputs).Standing start
      (Turn.datagrams ((resume source start).turns inputs)) := by
  refine reached_induction (P := fun turns s => s.Standing start (Turn.datagrams turns)) ?_ ?_ inputs
  · exact standing_resume source start
  · intro turns t h
    rw [Turn.datagrams_concat]
    exact h.turn

theorem acknowledge_result (s : Sender) (ack : Acknowledgment) :
    (s.acknowledge ack).result = .ok (decide (s.blocksSent ≠ 0 ∧ ack.block = s.block)) := by
  rcases s.acknowledge_cases ack with ⟨stale, result, -⟩ | ⟨current, result, -⟩
  · have other : ¬ (s.blocksSent ≠ 0 ∧ ack.block = s.block) := by
      rintro ⟨begun, same⟩
      exact stale.elim begun (absurd same)
    rw [result, decide_eq_false other]
  · rw [result, decide_eq_true current]

/-! ### The end of a transfer -/

theorem next_of_finished {s : Sender} (ended : s.finished = true) : s.next = .answer s none := by
  rw [next, if_pos ended]

/-- No turn takes the end of a transfer back. -/
theorem Turn.finished_after {t : Turn} (room : t.sender.held.length < blockSize)
    (ended : t.sender.finished = true) : t.after.finished = true := by
  cases t.outcome (Nat.le_of_lt room) with
  | idle _ state | failed _ _ state | matched state =>
    rw [state]
    exact ended
  | handed _ running =>
    rw [ended] at running
    cases running

theorem finished_reached {s : Sender} (room : s.held.length < blockSize)
    (ended : s.finished = true) (inputs : List Input) : (s.reached inputs).finished = true := by
  have both := reached_induction
    (P := fun _ s => s.held.length < blockSize ∧ s.finished = true) ⟨room, ended⟩
    (fun _ _ h => ⟨Turn.held_after_lt h.1, Turn.finished_after h.1 h.2⟩) inputs
  exact both.2

/-- A transfer is complete if its last block was acknowledged, and counts once then. -/
structure Settled (turns : List Turn) (s : Sender) : Prop where
  confirmed : s.complete = true ↔ ∃ t ∈ turns, t.confirms = true
  counted : (turns.map fun t => t.counts.transfersCompleted).filter (· ≠ 0) =
    if s.complete then [1] else []

theorem settled_resume (source : Source) (start : UInt16) : (resume source start).Settled [] where
  confirmed := by simp [resume]
  counted := rfl

namespace Settled

variable {turns : List Turn} {t : Turn} {s : Sender}

theorem keep (h : t.sender.Settled turns) (unconfirmed : t.confirms = false)
    (uncounted : t.counts.transfersCompleted = 0) (same : s.complete = t.sender.complete) :
    s.Settled (turns ++ [t]) where
  confirmed := by
    rw [same, h.confirmed]
    simp [or_and_right, exists_or, unconfirmed]
  counted := by
    rw [same, List.map_append, List.filter_append, h.counted]
    simp [uncounted]

theorem turn (h : t.sender.Settled turns) (room : t.sender.held.length < blockSize) :
    t.after.Settled (turns ++ [t]) := by
  cases t.outcome (Nat.le_of_lt room) with
  | idle _ state _ uncounted unconfirmed | failed _ _ state _ uncounted unconfirmed =>
    rw [state]
    exact h.keep unconfirmed (congrArg Counters.transfersCompleted uncounted) rfl
  | handed _ _ _ _ _ state _ counted unconfirmed =>
    rw [state]
    exact h.keep unconfirmed (congrArg Counters.transfersCompleted counted) rfl
  | matched state _ counted confirms =>
    rw [state]
    constructor
    · show (t.sender.complete || t.sender.finished) = true ↔ _
      rw [Bool.or_eq_true, h.confirmed, ← confirms]
      simp [or_and_right, exists_or]
    · -- The transfer counts with the first acknowledgment after the end, and never again.
      show _ = if t.sender.complete || t.sender.finished then _ else _
      rw [List.map_append, List.filter_append, h.counted, List.map_singleton, counted]
      cases t.sender.complete <;> cases t.sender.finished <;> rfl

end Settled

theorem settled_reached (source : Source) (start : UInt16) (inputs : List Input) :
    ((resume source start).reached inputs).Settled ((resume source start).turns inputs) := by
  have both := reached_induction
    (P := fun turns s => s.held.length < blockSize ∧ s.Settled turns) (s := resume source start)
    ⟨Nat.succ_pos _, settled_resume source start⟩
    (fun _ _ h => ⟨Turn.held_after_lt h.1, h.2.turn h.1⟩) inputs
  exact both.2

/-! ### Any run -/

/-- **What a sender tells of itself is true.** At any point of any run that has handed out `n`
datagrams: the number of blocks is `n`, up to the greatest number that the counter can hold; the
current block is `n` blocks after the first one; before the first datagram the sender has not
finished and takes no acknowledgment, and afterwards the last datagram is kept, reads back under any
rules as the current block, is short exactly if the sender has finished, and its number is the one
that is acknowledged. A sender that has finished stays so and hands out nothing. The transfer is
complete exactly if its end was acknowledged, and it is counted once then and otherwise not. -/
theorem standing_tells (source : Source) (start : UInt16) (inputs : List Input) :
    let s := (resume source start).reached inputs
    let turns := (resume source start).turns inputs
    let emitted := Turn.datagrams turns
    let n := emitted.length
    s.blocksSent.toNat = min n (UInt64.size - 1) ∧
    s.block.toNat = (start.toNat + n) % 65536 ∧
    ((n = 0 ∧ s.lastDatagram = none ∧ s.finished = false ∧
        ∀ ack, (s.acknowledge ack).result = .ok false) ∨
      (0 < n ∧ ∃ d p, emitted.getLast? = some d ∧ s.lastDatagram = some d ∧
        (∀ rules, Packet.decode rules d = .ok (.data p)) ∧ p.block = s.block ∧
        s.finished = p.isFinal ∧
        ∀ ack, (s.acknowledge ack).result = .ok (decide (ack.block = p.block)))) ∧
    (s.finished = true → ∀ later,
      (s.reached later).finished = true ∧
      (s.reached later).next = .answer (s.reached later) none) ∧
    (s.complete = true ↔ ∃ t ∈ turns, t.confirms = true) ∧
    (turns.map fun t => t.counts.transfersCompleted).filter (· ≠ 0) =
      if s.complete then [1] else [] := by
  intro s turns emitted n
  have standing : s.Standing start emitted := standing_reached source start inputs
  have settled : s.Settled turns := settled_reached source start inputs
  refine ⟨standing.sent, standing.toNat_block, ?_, ?_, settled.confirmed, settled.counted⟩
  · rcases standing.current with ⟨none, running⟩ | ⟨p, last, block, final⟩
    · left
      refine ⟨List.length_eq_zero_iff.mpr none, ?_, running, fun ack => ?_⟩
      · rw [standing.last, none]
        rfl
      · rw [s.acknowledge_result, standing.blocksSent_eq_zero_iff.mpr none]
        simp
    · right
      have some : emitted ≠ [] := by
        rintro none
        rw [none] at last
        cases last
      have begun := mt standing.blocksSent_eq_zero_iff.mp some
      refine ⟨List.length_pos_iff.mpr some, p.encode, p, last, standing.last.trans last,
        fun rules => Packet.decode_encode_data rules p, block, final, fun ack => ?_⟩
      rw [s.acknowledge_result, block]
      simp [begun]
  · intro ended later
    have still := finished_reached standing.room ended later
    exact ⟨still, next_of_finished still⟩

/-- A sender that goes on after block 65535 hands out block 0 as its last, and nothing more under
other rules. The end is acknowledged twice, and the transfer counts once. -/
theorem standing_tells_twice :
    let s := resume ⟨[.octets [7]], 0⟩ 65535
    let inputs := [.acknowledge ⟨65535⟩, .next, .acknowledge ⟨0⟩, .acknowledge ⟨0⟩]
    let t := (s.reached inputs).reached [.rules { maxBlocks := 2 }]
    t.next = .answer t none ∧
      ((s.turns inputs).map fun t => t.counts.transfersCompleted).filter (· ≠ 0) = [1] := by
  intro s inputs t
  have ended : (s.reached inputs).finished = true := by decide +kernel
  have complete : (s.reached inputs).complete = true := by decide +kernel
  obtain ⟨-, -, -, still, -, counted⟩ := standing_tells ⟨[.octets [7]], 0⟩ 65535 inputs
  rw [if_pos complete] at counted
  exact ⟨(still ended [.rules { maxBlocks := 2 }]).2, counted⟩

end Sender
end Tftp
