import Tftp.Proofs.Numbering
import Tftp.Proofs.Steady

/-! # How many blocks a receiver stores

The rules of a transfer bound its blocks in two ways: there is a bound on their number, and without
rollover the counter ends at 65535. A sender keeps to both. A receiver keeps to the second alone:

* Its answers, its sink and its counts are the same under any bound (`Receiver.after_feed_bounded`,
  `Receiver.answers_feed_bounded`).
* Without rollover it stores at most 65535 blocks (`Receiver.length_storedCalls_le`), because the
  counter is exhausted by then.
* All blocks up to that, and any number at all with rollover, are stored if they come in order and
  the sink does not fail (`Receiver.storedAll`).

So a bound on the blocks of a transfer keeps no block out of the sink. -/

namespace Tftp

namespace Receiver

/-! ### The bound makes no difference -/

/-- The same receiver under another bound. -/
def bounded (r : Receiver) (maxBlocks : UInt32) : Receiver :=
  r.withRules { r.rules with maxBlocks }

theorem finish_bounded (r : Receiver) (m : UInt32) (block : UInt16) :
    (r.bounded m).finish block = (r.finish block).within (bounded · m) := by
  unfold finish
  rw [show (r.bounded m).sink = r.sink from rfl]
  cases r.sink.flush with
  | mk result sink => cases result <;> rfl

theorem store_bounded (r : Receiver) (m : UInt32) (p : DataPacket) :
    (r.bounded m).store p = (r.store p).within (bounded · m) := by
  unfold store
  rw [show (r.bounded m).sink = r.sink from rfl]
  cases r.sink.writeAll p.payload with
  | mk result sink =>
    cases result with
    | error e => rfl
    | ok =>
      cases p.isFinal with
      | false => rfl
      | true => exact finish_bounded (r.wrote p sink) m p.block

/-- A packet is answered alike under any bound, and does the same to the receiver. -/
theorem receive_bounded (r : Receiver) (m : UInt32) (p : DataPacket) :
    (r.bounded m).receive p = (r.receive p).within (bounded · m) := by
  unfold receive
  rw [store_bounded]
  simp only [show (r.bounded m).sinkFailed = r.sinkFailed from rfl,
    show (r.bounded m).lastAccepted = r.lastAccepted from rfl,
    show (r.bounded m).finished = r.finished from rfl,
    show (r.bounded m).expected = r.expected from rfl,
    show (r.bounded m).exhausted = r.exhausted from rfl]
  repeat' split
  all_goals rfl

/-- The run of a receiver that gets its rules and then some packets. -/
def feed (rules : TransferRules) (packets : List DataPacket) : List Input :=
  .rules rules :: packets.map .packet

theorem feed_concat (rules : TransferRules) (packets : List DataPacket) (p : DataPacket) :
    feed rules (packets ++ [p]) = feed rules packets ++ [.packet p] := by
  simp [feed]

variable {sink : Sink} {rules : TransferRules}

theorem after_feed_bounded (m : UInt32) (packets : List DataPacket) :
    (new sink).after (feed { rules with maxBlocks := m } packets) =
      ((new sink).after (feed rules packets)).bounded m := by
  induction packets using List.reverseRecOn with
  | nil => rfl
  | append_singleton packets p ih =>
    rw [feed_concat, feed_concat, after_concat, after_concat, ih]
    exact congrArg Step.state (receive_bounded _ m p)

/-- What the packets of a run are answered. -/
def answers (r : Receiver) (inputs : List Input) : List (Except Fault Acknowledgment) :=
  (r.calls inputs).map fun c => c.step.result

theorem answers_feed_bounded (m : UInt32) (packets : List DataPacket) :
    (new sink).answers (feed { rules with maxBlocks := m } packets) =
      (new sink).answers (feed rules packets) := by
  induction packets using List.reverseRecOn with
  | nil => rfl
  | append_singleton packets p ih =>
    have last := congrArg Step.result
      (receive_bounded ((new sink).after (feed rules packets)) m p)
    unfold answers at ih ⊢
    rw [feed_concat, feed_concat, calls_concat, calls_concat, after_feed_bounded, List.map_append,
      List.map_append, ih]
    exact congrArg (_ ++ [·]) last

/-! ### The counter is the bound -/

theorem rules_after_feed (packets : List DataPacket) :
    ((new sink).after (feed rules packets)).rules = rules := by
  induction packets using List.reverseRecOn with
  | nil => rfl
  | append_singleton packets p ih =>
    rw [feed_concat, after_concat]
    exact (receive_rules _ p).trans ih

theorem rules_of_mem_calls {packets : List DataPacket} {c : Call}
    (h : c ∈ (new sink).calls (feed rules packets)) : c.receiver.rules = rules := by
  induction packets using List.reverseRecOn with
  | nil => cases h
  | append_singleton packets p ih =>
    rw [feed_concat, calls_concat] at h
    rcases List.mem_append.mp h with before | last
    · exact ih before
    · obtain rfl : c = ⟨_, p⟩ := by simpa [callOf] using last
      exact rules_after_feed packets

/-- A receiver that has stored 65535 blocks and goes on has used up its numbers. -/
theorem exhausted_of_length (strict : rules.allowRollover = false) {packets : List DataPacket}
    (sound : ((new sink).after (feed rules packets)).sinkFailed = false)
    (running : ((new sink).after (feed rules packets)).finished = false)
    (length : ((new sink).storedCalls (feed rules packets)).length = 65535) :
    ((new sink).after (feed rules packets)).exhausted = true := by
  have account : Account sink ((new sink).storedCalls (feed rules packets)) _ _ :=
    account_after sink (feed rules packets)
  obtain ⟨c, last⟩ : ∃ c, ((new sink).storedCalls (feed rules packets)).getLast? = some c := by
    rw [← Option.ne_none_iff_exists', ne_eq, List.getLast?_eq_none_iff]
    exact List.ne_nil_of_length_pos (by omega)
  have mem := List.mem_of_getLast? last
  rw [exhausted_iff]
  refine ⟨c, last, ?_, (account.expected_of_running sound running).2 c mem, ?_⟩
  · rw [account.number_of_last last, length]
    rfl
  · rw [rules_of_mem_calls (List.mem_filter.mp mem).1, strict]

theorem length_storedCalls_le (strict : rules.allowRollover = false) (packets : List DataPacket) :
    ((new sink).storedCalls (feed rules packets)).length ≤ 65535 := by
  induction packets using List.reverseRecOn with
  | nil => exact Nat.zero_le _
  | append_singleton packets p ih =>
    rw [feed_concat, storedCalls_concat_packet, List.length_append]
    cases stores : Call.stores ⟨(new sink).after (feed rules packets), p⟩ with
    | false =>
      rw [List.filter_cons_of_neg (by rw [stores]; exact Bool.false_ne_true)]
      exact ih
    | true =>
      have awaits := Call.awaits_of_stores stores
      have below : ((new sink).storedCalls (feed rules packets)).length ≠ 65535 := by
        intro length
        have ended := exhausted_of_length strict awaits.sound awaits.running length
        have allowed := awaits.allowed
        rw [ended] at allowed
        cases allowed
      rw [(Call.filter_of_stores stores).1, List.length_singleton]
      omega

/-! ### Everything below it is stored -/

/-- The blocks of a transfer from the first on, as a sender hands them out: they are numbered in
order, and all but the last are full. -/
structure InSequence (packets : List DataPacket) : Prop where
  numbered : ∀ i p, packets[i]? = some p → p.block = blockNumber (i + 1)
  full : ∀ p ∈ packets.dropLast, p.isFinal = false

theorem InSequence.of_concat {packets : List DataPacket} {p : DataPacket}
    (h : InSequence (packets ++ [p])) :
    InSequence packets ∧ p.block = blockNumber (packets.length + 1) ∧
      ∀ q ∈ packets, q.isFinal = false := by
  have full := h.full
  rw [List.dropLast_concat] at full
  refine ⟨⟨?_, fun q mem => full q (List.dropLast_subset _ mem)⟩, ?_, full⟩
  · intro i q hq
    apply h.numbered
    rw [List.getElem?_append_left (List.getElem?_eq_some_iff.mp hq).1, hq]
  · exact h.numbered _ p List.getElem?_concat_length

/-- What a run comes to in which every packet was stored. -/
structure StoredAll (sink : Sink) (rules : TransferRules) (packets : List DataPacket) : Prop where
  steady : ((new sink).after (feed rules packets)).sink.Steady
  sound : ((new sink).after (feed rules packets)).sinkFailed = false
  stored : ((new sink).storedCalls (feed rules packets)).map Call.packet = packets
  answers : (new sink).answers (feed rules packets) = packets.map fun p => .ok ⟨p.block⟩

/-- As long as the counter can number it, the next block is awaited. -/
theorem StoredAll.awaits {packets : List DataPacket} (h : StoredAll sink rules packets)
    (full : ∀ q ∈ packets, q.isFinal = false) {p : DataPacket}
    (number : p.block = blockNumber (packets.length + 1))
    (allowed : rules.allowRollover = true ∨ packets.length < 65535) :
    ((new sink).after (feed rules packets)).Awaits p := by
  have account : Account sink ((new sink).storedCalls (feed rules packets)) _ _ :=
    account_after sink (feed rules packets)
  have length : ((new sink).storedCalls (feed rules packets)).length = packets.length := by
    rw [← List.length_map Call.packet, h.stored]
  have whole : ∀ c ∈ (new sink).storedCalls (feed rules packets), c.packet.isFinal = false := by
    intro c mem
    apply full
    rw [← h.stored]
    exact List.mem_map_of_mem mem
  have running : ((new sink).after (feed rules packets)).finished = false := by
    rw [← Bool.not_eq_true, account.finished_iff]
    rintro ⟨c, last, final, -⟩
    rw [whole c (List.mem_of_getLast? last)] at final
    cases final
  have more : ((new sink).after (feed rules packets)).exhausted = false := by
    rw [← Bool.not_eq_true, exhausted_iff]
    rintro ⟨c, last, uses⟩
    have strict := uses.strict
    rw [rules_of_mem_calls (List.mem_filter.mp (List.mem_of_getLast? last)).1] at strict
    have below := allowed.resolve_left (by rw [strict]; exact Bool.false_ne_true)
    have same : blockNumber packets.length = blockNumber 65535 := by
      rw [← length, ← account.number_of_last last, uses.number]
      rfl
    have := blockNumber_eq_iff.mp same
    omega
  refine account.awaits_expected h.sound running more ?_
  rw [(account.expected_of_running h.sound running).1, length, number]

/-- Blocks that come in order are stored and acknowledged, as long as the counter can number
them. -/
theorem storedAll (steady : sink.Steady) {packets : List DataPacket} (h : InSequence packets)
    (allowed : rules.allowRollover = true ∨ packets.length ≤ 65535) :
    StoredAll sink rules packets := by
  induction packets using List.reverseRecOn with
  | nil => exact ⟨steady, rfl, rfl, rfl⟩
  | append_singleton packets p ih =>
    obtain ⟨before, number, full⟩ := h.of_concat
    rw [List.length_append, List.length_singleton] at allowed
    have all := ih before (allowed.imp_right Nat.le_of_succ_le)
    have awaits := all.awaits full number allowed
    have taken := receive_steady all.steady all.sound p
    have answered := (receive_of_canStore awaits (canStore_of_steady all.steady p)).1
    have stores : Call.stores ⟨(new sink).after (feed rules packets), p⟩ = true :=
      Call.stores_of_acknowledged answered awaits.fresh
    refine ⟨?_, ?_, ?_, ?_⟩
    · rw [feed_concat, after_concat]
      exact taken.1
    · rw [feed_concat, after_concat]
      exact taken.2
    · rw [feed_concat, storedCalls_concat_packet, (Call.filter_of_stores stores).1,
        List.map_append, all.stored]
      rfl
    · rw [feed_concat, Receiver.answers, calls_concat, List.map_append, List.map_append,
        ← all.answers]
      exact congrArg (_ ++ [·]) answered

/-- **A receiver does not look at the bound on the blocks of a transfer.** Whatever packets arrive and
whatever the sink does:

* under any other bound the packets are answered alike, and the receiver comes to the same state but
  for the bound in its rules;
* without rollover at most 65535 blocks are stored;
* if the sink does not fail, all blocks that come in order are stored and acknowledged, whatever the
  bound is, as long as the counter can number them. -/
theorem stored_under_any_bound (sink : Sink) (rules : TransferRules) :
    (∀ m packets,
      (new sink).answers (feed { rules with maxBlocks := m } packets) =
        (new sink).answers (feed rules packets) ∧
      (new sink).after (feed { rules with maxBlocks := m } packets) =
        ((new sink).after (feed rules packets)).bounded m) ∧
    (rules.allowRollover = false → ∀ packets,
      ((new sink).storedCalls (feed rules packets)).length ≤ 65535) ∧
    (sink.Steady → ∀ packets, InSequence packets →
      rules.allowRollover = true ∨ packets.length ≤ 65535 →
      ((new sink).storedCalls (feed rules packets)).map Call.packet = packets ∧
      (new sink).answers (feed rules packets) = packets.map fun p => .ok ⟨p.block⟩) := by
  refine ⟨fun m packets => ⟨answers_feed_bounded m packets, after_feed_bounded m packets⟩,
    length_storedCalls_le, ?_⟩
  intro steady packets inSequence allowed
  have all : StoredAll sink rules packets := storedAll steady inSequence allowed
  exact ⟨all.stored, all.answers⟩

/-- A sink that is slow and interrupted takes two blocks, under a bound of one. -/
theorem stored_under_any_bound_halting :
    let sink : Sink := { writeScript := [.accept 1, .fault (.ofKind .interrupted)] }
    let packets : List DataPacket :=
      [⟨1, List.replicate 512 7, Nat.le_of_eq List.length_replicate⟩, ⟨2, [], by decide⟩]
    sink.Steady ∧ InSequence packets ∧
      ((new sink).storedCalls (feed { maxBlocks := 1 } packets)).map Call.packet = packets ∧
      (new sink).answers (feed { maxBlocks := 1 } packets) = [.ok ⟨1⟩, .ok ⟨2⟩] := by
  intro sink packets
  have steady : sink.Steady := ⟨by decide, by decide⟩
  have inSequence : InSequence packets := by
    refine ⟨?_, ?_⟩
    · intro i p hp
      match i with
      | 0 | 1 =>
        obtain rfl := Option.some.inj hp
        rfl
    · intro p mem
      obtain rfl := List.mem_singleton.mp mem
      exact decide_eq_false (by rw [List.length_replicate]; exact Nat.lt_irrefl _)
  obtain ⟨-, -, stored⟩ := stored_under_any_bound sink { maxBlocks := 1 }
  exact ⟨steady, inSequence, stored steady packets inSequence (Or.inr (by decide))⟩

/-- Under a bound of one block, two blocks are stored. -/
theorem stored_beyond_bound :
    let rules : TransferRules := { maxBlocks := 1 }
    let packets : List DataPacket :=
      [⟨1, List.replicate 512 7, Nat.le_of_eq List.length_replicate⟩, ⟨2, [7], by decide⟩]
    let r := (new {}).after (feed rules packets)
    ((new {}).storedCalls (feed rules packets)).length = 2 ∧
      (new {}).answers (feed rules packets) = [.ok ⟨1⟩, .ok ⟨2⟩] ∧
      r.sink.stored = List.replicate 513 7 := by
  decide +kernel

end Receiver
end Tftp
