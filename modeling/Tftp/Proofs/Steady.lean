import Tftp.Proofs.Receiver

/-! # Sinks that do not fail

A sink is steady if each of its writes takes at least one octet or is interrupted, and each flush
succeeds. It may take as little as it likes at a time: all octets get into it in the end, and it is
steady afterwards (`Sink.Steady.writeAll`, `Sink.Steady.flush`). A receiver that stores into a steady
sink never counts it as failed, whatever packets it takes (`Receiver.receive_steady`). -/

namespace Tftp

/-- The write takes something, or may be made again. -/
def WriteReply.isSteady : WriteReply → Bool
  | accept limit => decide (0 < limit)
  | acceptAll => true
  | fault e => e.isInterrupted

def FlushReply.isDone : FlushReply → Bool
  | done => true
  | fault _ => false

namespace Sink

/-- No call of the sink fails for good. -/
structure Steady (s : Sink) : Prop where
  writes : ∀ reply ∈ s.writeScript, reply.isSteady = true
  flushes : ∀ reply ∈ s.flushScript, reply.isDone = true

namespace Steady

variable {s : Sink}

theorem write (h : s.Steady) {o : Octets} (some : o ≠ []) :
    (∃ n, (s.write o).1 = .ok (n + 1) ∧ (s.write o).2.Steady) ∨
    (∃ e, (s.write o).1 = .error e ∧ e.isInterrupted = true ∧ (s.write o).2.Steady) := by
  obtain ⟨n, length⟩ := Nat.exists_eq_succ_of_ne_zero (mt List.eq_nil_of_length_eq_zero some)
  have writes := h.writes
  unfold Sink.write
  split
  next hs => exact Or.inl ⟨n, congrArg _ length, by simp [hs], h.flushes⟩
  next rest hs =>
    rw [hs] at writes
    obtain ⟨-, others⟩ := List.forall_mem_cons.mp writes
    exact Or.inl ⟨n, congrArg _ length, by simpa [hs] using others, h.flushes⟩
  next limit rest hs =>
    rw [hs] at writes
    obtain ⟨first, others⟩ := List.forall_mem_cons.mp writes
    have pos : 0 < limit := of_decide_eq_true first
    have part : min limit o.length = min limit o.length - 1 + 1 := by omega
    exact Or.inl ⟨min limit o.length - 1, congrArg _ part, others, h.flushes⟩
  next e rest hs =>
    rw [hs] at writes
    obtain ⟨first, others⟩ := List.forall_mem_cons.mp writes
    exact Or.inr ⟨e, rfl, first, others, h.flushes⟩

/-- All octets get into the sink. -/
theorem writeAll (h : s.Steady) (o : Octets) :
    (s.writeAll o).1 = .ok () ∧ (s.writeAll o).2.Steady := by
  fun_induction Sink.writeAll s o with
  | case1 s o _ => exact ⟨rfl, h⟩
  | case2 s o ho s' hw =>
    have write := h.write (by simpa using ho)
    simp [hw] at write
  | case3 s o ho n s' hw ih =>
    have write := h.write (by simpa using ho)
    rw [hw] at write
    apply ih
    simpa using write
  | case4 s o ho e s' hw _ ih =>
    have write := h.write (by simpa using ho)
    rw [hw] at write
    apply ih
    simp at write
    exact write.2
  | case5 s o ho e s' hw lasting =>
    have write := h.write (by simpa using ho)
    simp [hw, lasting] at write

theorem flush (h : s.Steady) : s.flush.1 = .ok () ∧ s.flush.2.Steady := by
  have flushes := h.flushes
  unfold Sink.flush
  split
  next => exact ⟨rfl, h.writes, h.flushes⟩
  next rest hs =>
    rw [hs] at flushes
    exact ⟨rfl, h.writes, (List.forall_mem_cons.mp flushes).2⟩
  next e rest hs =>
    rw [hs] at flushes
    exact absurd (List.forall_mem_cons.mp flushes).1 (by simp [FlushReply.isDone])

end Steady
end Sink

/-- A steady sink takes every packet. -/
theorem Receiver.canStore_of_steady {r : Receiver} (h : r.sink.Steady) (p : DataPacket) :
    r.CanStore p := by
  obtain ⟨written, steady⟩ := h.writeAll p.payload
  refine ⟨(r.sink.writeAll p.payload).2, ?_, fun _ => steady.flush.1⟩
  rw [← written]

theorem Receiver.receive_steady {r : Receiver} (h : r.sink.Steady) (sound : r.sinkFailed = false)
    (p : DataPacket) :
    (r.receive p).state.sink.Steady ∧ (r.receive p).state.sinkFailed = false := by
  obtain ⟨written, steady⟩ := h.writeAll p.payload
  rcases r.receive_cases p with ⟨-, e, -⟩ | ⟨-, -, -, e⟩ | ⟨-, e⟩
  · rw [e]
    exact ⟨h, sound⟩
  · rw [e]
    exact ⟨h, sound⟩
  · rw [e]
    rcases r.store_cases p with ⟨_, _, hw, -, -⟩ | ⟨sink, hw, stored⟩
    · simp [hw] at written
    · rw [hw] at steady
      obtain ⟨flushed, steady'⟩ := Sink.Steady.flush steady
      rcases stored with ⟨-, -, e⟩ | ⟨-, _, _, hf, -, -⟩ | ⟨-, sink', hf, -, e⟩
      · rw [e]
        exact ⟨steady, sound⟩
      · simp [hf] at flushed
      · rw [e]
        rw [hf] at steady'
        exact ⟨steady', sound⟩

end Tftp
