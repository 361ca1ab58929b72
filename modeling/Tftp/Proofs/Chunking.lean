import Tftp.Proofs.Sender

/-! # The datagrams of a content

What a sender hands out depends on the content of its source and on the block that it goes on after,
and not on how the source delivers the content. `chunks start content` lists the datagrams in closed
form: the `i`-th one carries the `i`-th 512 octets of the content under the number `start + i`, and
the last one carries what is left over, which may be nothing.

A sender that nothing bounds owes its caller the chunks of what it holds back and what its source
still delivers (`Sender.owed`). A call hands out the first of them, or fails and owes as much as
before, or has nothing left to hand out (`Sender.Unbounded.next_cases`); so after any number of calls
the datagrams handed out and those owed are all chunks together (`Sender.handed_append_owed`). Each
call also uses up one block or one failure of the source (`Sender.callsLeft_after`), so a caller who
tries again after each failure gets them all (`Sender.handed_eq_chunks`). -/

namespace Tftp

/-! ### Chunks -/

/-- The datagram of the `i`-th block of a content, counted from 1, in a transfer that goes on after
block `start`. -/
def chunk (start : UInt16) (content : Octets) (i : Nat) : Octets :=
  let number := (start.toNat + i) % 65536
  [0, 3, UInt8.ofNat (number / 256), UInt8.ofNat (number % 256)] ++
    (content.take (512 * i)).drop (512 * (i - 1))

/-- The datagrams of all blocks of a content. -/
def chunks (start : UInt16) (content : Octets) : List Octets :=
  (List.range (content.length / 512 + 1)).map fun i => chunk start content (i + 1)

variable {start : UInt16} {content : Octets}

theorem length_chunks : (chunks start content).length = content.length / 512 + 1 := by
  simp [chunks]

theorem length_chunk_last :
    (chunk start content (content.length / 512 + 1)).length = 4 + content.length % 512 := by
  simp only [chunk, List.length_append, List.length_cons, List.length_nil, List.length_drop,
    List.length_take]
  omega

theorem encode_eq_chunk {p : DataPacket} (block : p.block = start + 1)
    (payload : p.payload = content.take 512) : p.encode = chunk start content 1 := by
  have number : p.block.toNat = (start.toNat + 1) % 65536 := by
    rw [block, UInt16.toNat_add]
    rfl
  rw [DataPacket.encode, Octets.ofWord_opcode, Octets.ofWord, number, payload]
  rfl

/-- The chunks after the first are those of the rest of the content. -/
theorem chunk_succ (i : Nat) :
    chunk start content (i + 2) = chunk (start + 1) (content.drop 512) (i + 1) := by
  have number : (start.toNat + (i + 2)) % 65536 = ((start + 1).toNat + (i + 1)) % 65536 := by
    rw [UInt16.toNat_add]
    simp only [UInt16.reduceToNat]
    omega
  have stop : 512 * (i + 2) = 512 + 512 * (i + 1) := by omega
  have begin : 512 * (i + 2 - 1) = 512 + 512 * (i + 1 - 1) := by omega
  rw [chunk, chunk, number, stop, begin, List.take_drop, List.drop_drop]

theorem chunks_of_short (short : content.length < 512) :
    chunks start content = [chunk start content 1] := by
  rw [chunks, Nat.div_eq_of_lt short]
  rfl

theorem chunks_of_full (full : 512 ≤ content.length) :
    chunks start content = chunk start content 1 :: chunks (start + 1) (content.drop 512) := by
  have count : content.length / 512 = (content.drop 512).length / 512 + 1 := by
    rw [List.length_drop]
    omega
  rw [chunks, count, List.range_succ_eq_map, List.map_cons, List.map_map]
  refine congrArg _ (List.map_congr_left fun i _ => ?_)
  exact chunk_succ i

theorem chunks_ne_nil : chunks start content ≠ [] := by
  rw [← List.length_pos_iff, length_chunks]
  exact Nat.succ_pos _

/-! ### What a sender owes -/

namespace Sender

/-- Nothing but the end of its source bounds the sender. -/
structure Unbounded (s : Sender) : Prop where
  rollover : s.rules.allowRollover = true
  blocks : s.rules.maxBlocks = 0
  room : s.held.length ≤ blockSize

/-- The datagrams that the sender has still to hand out. -/
def owed (s : Sender) : List Octets :=
  if s.finished then [] else chunks s.block (s.held ++ s.source.content)

/-- How many calls it takes to hand them out: one for each of them and for each failure on the way. -/
def callsLeft (s : Sender) : Nat :=
  if s.finished then 0 else s.owed.length + s.source.failures

variable {s : Sender}

theorem owed_eq_nil_iff : s.owed = [] ↔ s.finished = true := by
  unfold owed
  cases s.finished with
  | true => simp
  | false => simp [chunks_ne_nil]

theorem callsLeft_eq_zero_iff : s.callsLeft = 0 ↔ s.finished = true := by
  unfold callsLeft
  cases hf : s.finished with
  | true => simp
  | false =>
    have := mt owed_eq_nil_iff.mp (by simp [hf] : ¬ s.finished = true)
    simp [this]

theorem owed_filled (running : s.finished = false) {e : IoFault}
    (fault : (s.source.fill s.held).fault = some e) :
    s.filled.owed = s.owed ∧ s.filled.callsLeft + 1 = s.callsLeft := by
  have stopped : (s.source.fill s.held).fault ≠ none := by simp [fault]
  have running' : s.filled.finished = false := running
  have same : s.filled.owed = s.owed := by
    rw [owed, owed, running, running']
    exact congrArg (chunks s.block) (Source.held_fill_content (Or.inl stopped))
  have failures := Source.failures_fill (Or.inl stopped)
  rw [fault] at failures
  refine ⟨same, ?_⟩
  rw [callsLeft, callsLeft, running, running', same, failures]
  rfl

section

variable (running : s.finished = false) (nofault : (s.source.fill s.held).fault = none)
  {p : DataPacket} (block : p.block = s.block + 1)
  (payload : p.payload = (s.source.fill s.held).held)
include running nofault block payload

theorem owed_full (full : p.isFinal = false) :
    s.owed = p.encode :: (s.handedOut p).owed ∧
      (s.handedOut p).source.failures = s.source.failures := by
  have length : p.payload.length = 512 := p.length_payload_of_full full
  have long : 512 ≤ p.payload.length := Nat.le_of_eq length.symm
  have total := Source.held_fill_content (Or.inr (payload ▸ long))
  have failures := Source.failures_fill (Or.inr (payload ▸ long))
  rw [← payload] at total
  have running' : (s.handedOut p).finished = false := full
  constructor
  · rw [owed, owed, running, running', ← total]
    show chunks s.block (p.payload ++ _) = p.encode :: chunks p.block _
    rw [chunks_of_full (by simp [length]), List.drop_left' length, block,
      encode_eq_chunk block (List.take_left' length).symm]
    rfl
  · rw [failures, nofault]
    rfl

theorem owed_final (final : p.isFinal = true) :
    s.owed = [p.encode] ∧ s.source.failures = 0 := by
  have short : p.payload.length < 512 := of_decide_eq_true final
  have total := Source.held_fill_of_short nofault (payload ▸ short)
  rw [← payload] at total
  refine ⟨?_, Source.failures_of_short nofault (payload ▸ short)⟩
  rw [owed, running, ← total]
  show chunks s.block p.payload = _
  rw [chunks_of_short short,
    encode_eq_chunk block (List.take_of_length_le (Nat.le_of_lt short)).symm]

/-- A call that answers hands out the first datagram that is owed. -/
theorem owed_handedOut :
    s.owed = p.encode :: (s.handedOut p).owed ∧ (s.handedOut p).callsLeft + 1 = s.callsLeft := by
  cases full : p.isFinal with
  | false =>
    have running' : (s.handedOut p).finished = false := full
    obtain ⟨first, failures⟩ := owed_full running nofault block payload full
    refine ⟨first, ?_⟩
    rw [callsLeft, callsLeft, running, running', first, failures]
    simp only [Bool.false_eq_true, if_false, List.length_cons]
    omega
  | true =>
    have ended : (s.handedOut p).finished = true := full
    obtain ⟨last, failures⟩ := owed_final running nofault block payload full
    rw [owed_eq_nil_iff.mpr ended, callsLeft_eq_zero_iff.mpr ended]
    refine ⟨last, ?_⟩
    rw [callsLeft, running, last, failures]
    rfl

end

namespace Unbounded

theorem allowed (h : s.Unbounded) : s.isExhausted = false := by
  simp [isExhausted, h.rollover, h.blocks]

theorem next (h : s.Unbounded) : s.next.state.Unbounded := by
  obtain ⟨rules, -⟩ := s.next_frame h.room
  exact ⟨rules ▸ h.rollover, rules ▸ h.blocks, s.room_next h.room⟩

/-- What a call can come to. -/
theorem next_cases (h : s.Unbounded) :
    (s.owed = [] ∧ s.next = .answer s none) ∨
    (s.owed ≠ [] ∧ s.next.state.callsLeft + 1 = s.callsLeft ∧
      ((∃ e, s.next.result = .error (.io e) ∧ s.next.state.owed = s.owed) ∨
        ∃ d, s.next.result = .ok (some d) ∧ s.owed = d :: s.next.state.owed)) := by
  rcases Sender.next_cases s h.room with ⟨ended, e⟩ | ⟨-, stopped, -⟩ | ⟨running, e, fault, result⟩ |
    ⟨running, -, nofault, p, block, payload, result, state⟩
  · exact Or.inl ⟨owed_eq_nil_iff.mpr ended, e⟩
  · rw [h.allowed] at stopped
    cases stopped
  · obtain ⟨same, one⟩ := owed_filled running fault
    rw [result]
    exact Or.inr ⟨by simp [owed_eq_nil_iff, running], one, Or.inl ⟨e, rfl, same⟩⟩
  · obtain ⟨first, one⟩ := owed_handedOut running nofault block payload
    rw [result, state]
    exact Or.inr ⟨by simp [owed_eq_nil_iff, running], one, Or.inr ⟨_, rfl, first⟩⟩

end Unbounded

/-! ### Calling again and again -/

/-- The sender after so many calls for the next block. -/
def after (s : Sender) : Nat → Sender
  | 0 => s
  | k + 1 => (s.after k).next.state

theorem after_of_refuse {fault : Fault} (h : s.next = .refuse s fault) (j : Nat) :
    s.after j = s := by
  induction j with
  | zero => rfl
  | succ j ih =>
    show (s.after j).next.state = s
    rw [ih, h]
    rfl

/-- The datagrams that the first `k` calls hand out. -/
def handed (s : Sender) : Nat → List Octets
  | 0 => []
  | k + 1 => s.handed k ++ (s.after k).next.result.toOption.join.toList

theorem Unbounded.after (h : s.Unbounded) (k : Nat) : (s.after k).Unbounded := by
  induction k with
  | zero => exact h
  | succ k ih => exact ih.next

/-- What was handed out and what is owed are together all that was owed at first. -/
theorem handed_append_owed (h : s.Unbounded) (k : Nat) :
    s.handed k ++ (s.after k).owed = s.owed := by
  induction k with
  | zero => rfl
  | succ k ih =>
    -- The last call takes at most one datagram off the front of what was owed before it.
    rw [handed, List.append_assoc, ← ih]
    refine congrArg _ ?_
    show _ ++ (s.after k).next.state.owed = _
    rcases (h.after k).next_cases with ⟨-, e⟩ | ⟨-, -, ⟨_, result, same⟩ | ⟨d, result, first⟩⟩
    · rw [e]
      rfl
    · rw [result, same]
      rfl
    · rw [result, first]
      rfl

theorem callsLeft_after (h : s.Unbounded) (k : Nat) :
    (s.after k).callsLeft = s.callsLeft - k := by
  induction k with
  | zero => rfl
  | succ k ih =>
    show (s.after k).next.state.callsLeft = _
    rcases (h.after k).next_cases with ⟨none, e⟩ | ⟨-, one, -⟩
    · -- Nothing is left to do, so the difference has come down to zero and stays there.
      have zero := callsLeft_eq_zero_iff.mpr (owed_eq_nil_iff.mp none)
      rw [e]
      show (s.after k).callsLeft = _
      omega
    · omega

/-- **The datagrams depend on the content alone.** However a source delivers its content, a caller
who asks again after each failure is handed exactly the chunks of the content, in order, and nothing
after the last of them; the sender has finished from the last one on. It takes one call for each
chunk and one for each failure of the source. The last chunk holds what the full ones leave over,
so nothing if the length of the content is a multiple of 512. -/
theorem handed_eq_chunks (source : Source) (start : UInt16) :
    let s := (resume source start).withRules { allowRollover := true, maxBlocks := 0 }
    let n := source.content.length / 512 + 1
    let all := (List.range n).map fun i => chunk start source.content (i + 1)
    (∀ k,
      s.handed k <+: all ∧
      ((s.after k).finished = true ↔ s.handed k = all) ∧
      (s.handed k = all ↔ n + source.failures ≤ k) ∧
      ((s.handed k = all ∧ (s.after k).next.result = .ok none) ∨
        (s.handed k ≠ all ∧ ((∃ d, (s.after k).next.result = .ok (some d)) ∨
          ∃ e, (s.after k).next.result = .error (.io e))))) ∧
    (chunk start source.content n).length = 4 + source.content.length % 512 := by
  intro s n all
  have unbounded : s.Unbounded := ⟨rfl, rfl, Nat.zero_le _⟩
  have calls : s.callsLeft = n + source.failures := congrArg (· + source.failures) length_chunks
  refine ⟨fun k => ?_, length_chunk_last⟩
  have together : s.handed k ++ (s.after k).owed = all := handed_append_owed unbounded k
  have complete : (s.after k).owed = [] ↔ s.handed k = all := by
    rw [← together, List.self_eq_append_right]
  refine ⟨⟨_, together⟩, owed_eq_nil_iff.symm.trans complete, ?_, ?_⟩
  · rw [← complete, owed_eq_nil_iff, ← callsLeft_eq_zero_iff, callsLeft_after unbounded, calls]
    omega
  · rcases (unbounded.after k).next_cases with ⟨none, e⟩ | ⟨some, -, ⟨e, result, -⟩ | ⟨d, result, -⟩⟩
    · rw [e]
      exact Or.inl ⟨complete.mp none, rfl⟩
    · exact Or.inr ⟨mt complete.mpr some, Or.inr ⟨e, result⟩⟩
    · exact Or.inr ⟨mt complete.mpr some, Or.inl ⟨d, result⟩⟩

/-- A failure between the octets takes a call of its own and is not seen in the datagram; the number
goes round. -/
theorem handed_eq_chunks_retried :
    ((resume ⟨[.octets [1, 2], .fault (.ofKind .timedOut), .octets [3]], 0⟩ 65535).withRules
      { allowRollover := true, maxBlocks := 0 }).handed 2 = [[0, 3, 0, 0, 1, 2, 3]] := by
  obtain ⟨-, -, complete, -⟩ := (handed_eq_chunks
    ⟨[.octets [1, 2], .fault (.ofKind .timedOut), .octets [3]], 0⟩ 65535).1 2
  exact complete.mpr (by decide)

end Sender
end Tftp
