import Tftp.Proofs.Chunking
import Tftp.Proofs.Conservation

/-! # Resuming a transfer

A sender that has handed out a full block holds nothing back and has not finished, until it is called
again (`Sender.Midway`). Its source and its current block are then all that a new sender needs to go
on: `Sender.resume_seamless` says that the new one answers every further call as the old one would
have.

What a call answers does not depend on the last datagram or on whether the transfer is complete, and
without a bound on the blocks it does not depend on their count either. Two senders that agree in
everything else are `Alike`. They answer a call alike and are still alike afterwards (`Alike.next`),
so this goes on for any number of calls (`Alike.after`). -/

namespace Tftp

namespace Sender

/-! ### Senders that answer alike -/

theorem next_eq (s : Sender) :
    s.next =
      if s.finished then .answer s none
      else if s.isExhausted then .refuse s .blockExhausted
      else match (s.source.fill s.held).fault with
        | some e => .refuse s.filled (.io e)
        | none => s.filled.emit := rfl

/-- The two senders agree in all that a call for the next block depends on, as nothing bounds the
number of blocks. -/
structure Alike (s t : Sender) : Prop where
  source : t.source = s.source
  block : t.block = s.block
  finished : t.finished = s.finished
  held : t.held = s.held
  rules : t.rules = s.rules
  unbounded : s.rules.maxBlocks = 0

namespace Alike

variable {s t : Sender}

theorem isExhausted (h : Alike s t) : t.isExhausted = s.isExhausted := by
  unfold Sender.isExhausted
  rw [h.block, h.rules, h.unbounded]
  rfl

theorem filled (h : Alike s t) : Alike s.filled t.filled where
  source := by simp only [Sender.filled, h.source, h.held]
  block := h.block
  finished := h.finished
  held := by simp only [Sender.filled, h.source, h.held]
  rules := h.rules
  unbounded := h.unbounded

theorem emit (h : Alike s t) :
    t.emit.result = s.emit.result ∧ t.emit.counts = s.emit.counts ∧
      Alike s.emit.state t.emit.state := by
  unfold Sender.emit
  rw [h.block, h.held]
  cases DataPacket.encodeNext s.block s.held with
  | error fault => exact ⟨rfl, rfl, h⟩
  | ok written => exact ⟨rfl, rfl, h.source, rfl, rfl, rfl, h.rules, h.unbounded⟩

/-- A call is answered alike, counts alike and leaves the two alike. -/
theorem next (h : Alike s t) :
    t.next.result = s.next.result ∧ t.next.counts = s.next.counts ∧
      Alike s.next.state t.next.state := by
  rw [next_eq s, next_eq t, h.finished, h.isExhausted, h.source, h.held]
  by_cases ended : s.finished = true
  · rw [if_pos ended, if_pos ended]
    exact ⟨rfl, rfl, h⟩
  rw [if_neg ended, if_neg ended]
  by_cases stopped : s.isExhausted = true
  · rw [if_pos stopped, if_pos stopped]
    exact ⟨rfl, rfl, h⟩
  rw [if_neg stopped, if_neg stopped]
  cases (s.source.fill s.held).fault with
  | some e => exact ⟨rfl, rfl, h.filled⟩
  | none => exact h.filled.emit

/-- However often both are called, they stay alike. -/
theorem after (h : Alike s t) (k : Nat) : Alike (s.after k) (t.after k) := by
  induction k with
  | zero => exact h
  | succ k ih => exact ih.next.2.2

theorem handed (h : Alike s t) (k : Nat) : t.handed k = s.handed k := by
  induction k with
  | zero => rfl
  | succ k ih => rw [Sender.handed, Sender.handed, ih, (h.after k).next.1]

end Alike

/-! ### After a full block -/

/-- The sender holds nothing back and has not handed out its last block. -/
structure Midway (s : Sender) : Prop where
  held : s.held = []
  running : s.finished = false

variable {s : Sender}

/-- All that was read has gone into the block, and only a short block is the last. -/
theorem midway_next (room : s.held.length ≤ blockSize) {d : Octets}
    (handed : s.next.result = .ok (some d)) (full : d.length = 516) : s.next.state.Midway := by
  rcases s.next_cases room with ⟨-, e⟩ | ⟨-, -, e⟩ | ⟨-, _, -, e⟩ | ⟨-, -, -, p, -, -, result, state⟩
  · rw [e] at handed
    cases handed
  · rw [e] at handed
    cases handed
  · rw [e] at handed
    cases handed
  · rw [result] at handed
    cases handed
    have long : p.payload.length = 512 := by
      rw [← p.payload_eq_drop, List.length_drop, full]
      rfl
    rw [state]
    exact ⟨rfl, decide_eq_false (Nat.not_lt_of_le (Nat.le_of_eq long.symm))⟩

namespace Midway

theorem take (h : s.Midway) {input : Input} (quiet : input ≠ .next) : (s.take input).Midway := by
  cases input with
  | next => exact absurd rfl quiet
  | acknowledge ack =>
    show (s.acknowledge ack).state.Midway
    rcases s.acknowledge_cases ack with ⟨-, -, e⟩ | ⟨-, -, e⟩
    · rw [e]
      exact h
    · rw [e]
      exact ⟨h.held, h.running⟩
  | rules rules => exact ⟨h.held, h.running⟩

theorem reached (h : s.Midway) {inputs : List Input} (quiet : .next ∉ inputs) :
    (s.reached inputs).Midway := by
  induction inputs generalizing s with
  | nil => exact h
  | cons input inputs ih =>
    obtain ⟨first, others⟩ := List.ne_and_not_mem_of_not_mem_cons quiet
    exact ih (h.take first.symm) others

/-- A sender that goes on from the same source after the same block is alike. -/
theorem alike_resume (h : s.Midway) (unbounded : s.rules.maxBlocks = 0) :
    Alike s ((resume s.source s.block).withRules s.rules) where
  source := rfl
  block := rfl
  finished := h.running.symm
  held := h.held.symm
  rules := rfl
  unbounded := unbounded

end Midway

/-! ### Any run -/

/-- **Resuming is seamless.** Take a sender at any point of any run at which the last call handed out
a full block; since then only acknowledgments came or rules were replaced, and the rules do not bound
the number of blocks. A new sender that takes over the source and goes on after the current block
under the same rules answers every further call as the old one would have, whatever the source does:
with the same datagram, with nothing, with the same failure of the source or because the numbers are
used up. It counts the same, and the two stay alike. -/
theorem resume_seamless (source : Source) (start : UInt16) (before later : List Input) {d : Octets}
    (handed : ((resume source start).reached before).next.result = .ok (some d))
    (full : d.length = 516) (quiet : .next ∉ later)
    (unbounded : ((resume source start).reached (before ++ .next :: later)).rules.maxBlocks = 0) :
    let s := (resume source start).reached (before ++ .next :: later)
    let t := (resume s.source s.block).withRules s.rules
    ∀ k, (t.after k).next.result = (s.after k).next.result ∧
      (t.after k).next.counts = (s.after k).next.counts ∧
      t.handed k = s.handed k ∧ Alike (s.after k) (t.after k) := by
  intro s t k
  have room := (conserved_reached source start before).room
  have midway : s.Midway := by
    show ((resume source start).reached (before ++ .next :: later)).Midway
    rw [reached, List.foldl_append]
    exact (midway_next (Nat.le_of_lt room) handed full).reached quiet
  have alike : Alike s t := midway.alike_resume unbounded
  obtain ⟨result, counts, -⟩ := (alike.after k).next
  exact ⟨result, counts, alike.handed k, alike.after k⟩

/-- The number has gone round to 0 when the sender is replaced, and an acknowledgment came in between.
The next call fails in the source; the one after it hands out the last block. -/
theorem resume_seamless_retried :
    let source : Source := ⟨[.fill 7 512, .fault (.ofKind .timedOut), .octets [1, 2]], 0⟩
    let s := (resume source 65535).reached [.next, .acknowledge ⟨0⟩]
    let t := (resume s.source s.block).withRules s.rules
    t.next.result = .error (.io (.ofKind .timedOut)) ∧
      (t.after 1).next.result = .ok (some [0, 3, 0, 1, 1, 2]) := by
  intro source s t
  have handed : (resume source 65535).next.result =
      .ok (some ([0, 3, 0, 0] ++ List.replicate 512 7)) := by decide +kernel
  have same := resume_seamless source 65535 [] [.acknowledge ⟨0⟩] handed (by decide +kernel)
    (by simp) (by decide +kernel)
  have failed : s.next.result = .error (.io (.ofKind .timedOut)) := by decide +kernel
  have last : (s.after 1).next.result = .ok (some [0, 3, 0, 1, 1, 2]) := by decide +kernel
  exact ⟨(same 0).1.trans failed, (same 1).1.trans last⟩

end Sender
end Tftp
