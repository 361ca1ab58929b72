import Tftp.Proofs.Turns

/-! # No octet is lost, repeated or read too early

What a source has delivered is told by the reads that were made: `Source.delivered wants` joins the
answers to reads of the given sizes, and `Source.afterReads wants` is the source that they leave. As
reads take octets from the front, the source that is left settles what was delivered
(`delivered_append_rest`).

`Conserved source emitted s` says that a sender which began with `source` and has handed out the
datagrams `emitted` still has the rest of what the source has delivered, in order, and that this rest
is less than a block. Filling a block makes reads and holds back what they deliver
(`Source.exists_reads_fill`), so each turn keeps this (`Conserved.turn`), whether a call fails before
or after some octets came, and whatever is acknowledged or changed in between. -/

namespace Tftp

/-! ### Reads -/

namespace Source

/-- The source after reads of the given sizes. -/
def afterReads (s : Source) : List Nat → Source
  | [] => s
  | want :: wants => (s.read want).2.afterReads wants

/-- What reads of the given sizes deliver, joined. A read that fails delivers nothing. -/
def delivered (s : Source) : List Nat → Octets
  | [] => []
  | want :: wants => (s.read want).1.toOption.getD [] ++ (s.read want).2.delivered wants

theorem afterReads_append (s : Source) (wants more : List Nat) :
    s.afterReads (wants ++ more) = (s.afterReads wants).afterReads more := by
  induction wants generalizing s with
  | nil => rfl
  | cons want wants ih => exact ih (s.read want).2

theorem delivered_append (s : Source) (wants more : List Nat) :
    s.delivered (wants ++ more) = s.delivered wants ++ (s.afterReads wants).delivered more := by
  induction wants generalizing s with
  | nil => rfl
  | cons want wants ih =>
    rw [List.cons_append, delivered, ih (s.read want).2, delivered, List.append_assoc]
    rfl

theorem delivered_append_rest (s : Source) (wants : List Nat) :
    s.delivered wants ++ (s.afterReads wants).rest = s.rest := by
  induction wants generalizing s with
  | nil => rfl
  | cons want wants ih =>
    have first : (s.read want).1.toOption.getD [] ++ (s.read want).2.rest = s.rest :=
      Supply.content_read want s.script
    rw [delivered, List.append_assoc, ← first, ← ih (s.read want).2]
    rfl

/-- Filling a block makes some reads, none for more than is missing of the block, and holds back what
they deliver. -/
theorem exists_reads_fill (s : Source) (held : Octets) :
    ∃ wants, (∀ want ∈ wants, 0 < want ∧ want ≤ blockSize - held.length) ∧
      (s.fill held).source = s.afterReads wants ∧
      (s.fill held).held = held ++ s.delivered wants := by
  -- A read that delivers or is interrupted is followed by more; the end and a fault stop the filling.
  fun_induction fill s held with
  | case1 s held => exact ⟨[], by simp, rfl, (List.append_nil held).symm⟩
  | case2 s held room s' h =>
    refine ⟨[blockSize - held.length], ?_, ?_, ?_⟩
    · rw [List.forall_mem_singleton]
      exact ⟨by omega, Nat.le_refl _⟩
    · simp [afterReads, h]
    · simp [delivered, h, Except.toOption]
  | case3 s held room b o s' h ih =>
    obtain ⟨wants, bound, source, content⟩ := ih
    refine ⟨(blockSize - held.length) :: wants, ?_, ?_, ?_⟩
    · rw [List.forall_mem_cons]
      refine ⟨by omega, fun want mem => ?_⟩
      have := bound want mem
      rw [List.length_append] at this
      omega
    · rw [source, afterReads, h]
    · rw [content, delivered, h, List.append_assoc]
      rfl
  | case4 s held room e s' h _ ih =>
    obtain ⟨wants, bound, source, content⟩ := ih
    refine ⟨(blockSize - held.length) :: wants, ?_, ?_, ?_⟩
    · rw [List.forall_mem_cons]
      exact ⟨by omega, bound⟩
    · rw [source, afterReads, h]
    · rw [content, delivered, h]
      rfl
  | case5 s held room e s' h _ =>
    refine ⟨[blockSize - held.length], ?_, ?_, ?_⟩
    · rw [List.forall_mem_singleton]
      exact ⟨by omega, Nat.le_refl _⟩
    · simp [afterReads, h]
    · simp [delivered, h, Except.toOption]

end Source

namespace Sender

/-! ### What is handed out and held back -/

/-- The contents of some blocks' datagrams, joined. -/
def carried (datagrams : List Octets) : Octets :=
  datagrams.flatMap fun d => d.drop headerSize

theorem carried_concat (datagrams : List Octets) (p : DataPacket) :
    carried (datagrams ++ [p.encode]) = carried datagrams ++ p.payload := by
  rw [carried, List.flatMap_append, List.flatMap_singleton, p.payload_eq_drop, carried]

/-- What the source has delivered is handed out or held back, and less than a block is held back. -/
structure Conserved (source : Source) (emitted : List Octets) (s : Sender) : Prop where
  delivered : ∃ wants, (∀ want ∈ wants, 0 < want ∧ want ≤ blockSize) ∧
    s.source = source.afterReads wants ∧ carried emitted ++ s.held = source.delivered wants
  room : s.held.length < blockSize

namespace Conserved

variable {source : Source} {emitted : List Octets}

theorem fill {s : Sender} (h : s.Conserved source emitted) :
    ∃ wants, (∀ want ∈ wants, 0 < want ∧ want ≤ blockSize) ∧
      (s.source.fill s.held).source = source.afterReads wants ∧
      carried emitted ++ (s.source.fill s.held).held = source.delivered wants := by
  obtain ⟨wants, bound, stands, content⟩ := h.delivered
  obtain ⟨more, bound', stands', content'⟩ := s.source.exists_reads_fill s.held
  refine ⟨wants ++ more, ?_, ?_, ?_⟩
  · intro want mem
    rcases List.mem_append.mp mem with old | new
    · exact bound want old
    · have := bound' want new
      omega
  · rw [stands', stands, Source.afterReads_append]
  · rw [content', ← List.append_assoc, content, stands, Source.delivered_append]

/-- A turn keeps what was delivered. -/
theorem turn {t : Turn} (h : t.sender.Conserved source emitted) :
    t.after.Conserved source (emitted ++ t.datagram?.toList) := by
  have room := Turn.held_after_lt h.room
  cases t.outcome (Nat.le_of_lt h.room) with
  | idle _ state silent | matched state silent =>
    rw [silent, Option.toList_none, List.append_nil]
    rw [state] at room ⊢
    exact ⟨h.delivered, room⟩
  | failed _ _ state silent =>
    rw [silent, Option.toList_none, List.append_nil]
    rw [state] at room ⊢
    exact ⟨h.fill, room⟩
  | handed p _ _ _ payload state datagram =>
    rw [datagram, Option.toList_some]
    rw [state] at room ⊢
    -- All that the filling came to goes into the datagram, so nothing is held back.
    obtain ⟨wants, bound, stands, content⟩ := h.fill
    refine ⟨⟨wants, bound, stands, ?_⟩, room⟩
    rw [carried_concat, payload, content]
    exact List.append_nil _

end Conserved

theorem conserved_reached (source : Source) (start : UInt16) (inputs : List Input) :
    ((resume source start).reached inputs).Conserved source
      (Turn.datagrams ((resume source start).turns inputs)) := by
  refine reached_induction (P := fun turns s => s.Conserved source (Turn.datagrams turns)) ?_ ?_ inputs
  · exact ⟨⟨[], by simp, rfl, rfl⟩, Nat.succ_pos _⟩
  · intro turns t h
    rw [Turn.datagrams_concat]
    exact h.turn

/-! ### Calls that hand out nothing -/

/-- A call that fails changes only the source and what is held back. -/
theorem next_of_error {s : Sender} (room : s.held.length ≤ blockSize) {fault : Fault}
    (h : s.next.result = .error fault) :
    s.next.state = { s with source := s.next.state.source, held := s.next.state.held } ∧
      s.next.counts = 0 := by
  rcases s.next_cases room with ⟨-, e⟩ | ⟨-, -, e⟩ | ⟨-, _, -, e⟩ | ⟨-, -, -, _, -, -, result, -⟩
  · rw [e]
    exact ⟨rfl, rfl⟩
  · rw [e]
    exact ⟨rfl, rfl⟩
  · rw [e]
    exact ⟨rfl, rfl⟩
  · rw [result] at h
    cases h

theorem next_of_unread {s : Sender} (room : s.held.length ≤ blockSize)
    (h : s.next.result = .ok none ∨ s.next.result = .error .blockExhausted) :
    s.next.state = s ∧ s.next.counts = 0 := by
  rcases s.next_cases room with ⟨-, e⟩ | ⟨-, -, e⟩ | ⟨-, _, -, e⟩ | ⟨-, -, -, _, -, -, result, -⟩
  · rw [e]
    exact ⟨rfl, rfl⟩
  · rw [e]
    exact ⟨rfl, rfl⟩
  · rw [e] at h
    rcases h with h | h <;> cases h
  · rw [result] at h
    rcases h with h | h <;> cases h

theorem acknowledge_frame (s : Sender) (ack : Acknowledgment) :
    (s.acknowledge ack).state.source = s.source ∧ (s.acknowledge ack).state.held = s.held := by
  rcases s.acknowledge_cases ack with ⟨-, -, e⟩ | ⟨-, -, e⟩ <;> rw [e] <;> exact ⟨rfl, rfl⟩

/-! ### Any run -/

/-- **No octet is lost, repeated or read too early.** At any point of any run, whatever the source
does: the contents of the datagrams handed out, followed by what is held back, are exactly what the
source has delivered so far, by reads of at most a block; and less than a block is held back. A call
that fails changes nothing else and counts nothing; one that finds nothing left or no block allowed
does not read either. Acknowledgments and new rules leave the source and what is held back alone. -/
theorem nothing_lost (source : Source) (start : UInt16) (inputs : List Input) :
    let s := (resume source start).reached inputs
    let emitted := Turn.datagrams ((resume source start).turns inputs)
    (∃ wants, (∀ want ∈ wants, 0 < want ∧ want ≤ 512) ∧ s.source = source.afterReads wants ∧
      carried emitted ++ s.held = source.delivered wants) ∧
    carried emitted ++ s.held ++ s.source.rest = source.rest ∧
    s.held.length < 512 ∧
    (∀ fault, s.next.result = .error fault →
      s.next.state = { s with source := s.next.state.source, held := s.next.state.held } ∧
      s.next.counts = 0) ∧
    (s.next.result = .ok none ∨ s.next.result = .error .blockExhausted →
      s.next.state = s ∧ s.next.counts = 0) ∧
    (∀ ack, (s.acknowledge ack).state.source = s.source ∧
      (s.acknowledge ack).state.held = s.held) ∧
    ∀ rules, (s.withRules rules).source = s.source ∧ (s.withRules rules).held = s.held := by
  intro s emitted
  have conserved : s.Conserved source emitted := conserved_reached source start inputs
  have room : s.held.length ≤ blockSize := Nat.le_of_lt conserved.room
  refine ⟨conserved.delivered, ?_, conserved.room, ?_, next_of_unread room, s.acknowledge_frame, ?_⟩
  · obtain ⟨wants, -, stands, content⟩ := conserved.delivered
    rw [content, stands, Source.delivered_append_rest]
  · intro fault failed
    exact next_of_error room failed
  · intro rules
    exact ⟨rfl, rfl⟩

/-- Two octets come before the source fails: nothing is counted, and they lead the next datagram. -/
theorem nothing_lost_retried :
    let s := resume ⟨[.octets [1, 2], .fault (.ofKind .timedOut), .octets [3]], 0⟩ 0
    s.next.result = .error (.io (.ofKind .timedOut)) ∧ s.next.counts = 0 ∧
      s.next.state.held = [1, 2] ∧
      Turn.datagrams (s.turns [.next, .next]) = [[0, 3, 0, 1, 1, 2, 3]] := by
  intro s
  have failed : s.next.result = .error (.io (.ofKind .timedOut)) := by decide +kernel
  obtain ⟨-, -, -, unchanged, -⟩ :=
    nothing_lost ⟨[.octets [1, 2], .fault (.ofKind .timedOut), .octets [3]], 0⟩ 0 []
  exact ⟨failed, (unchanged _ failed).2, by decide +kernel, by decide +kernel⟩

end Sender
end Tftp
