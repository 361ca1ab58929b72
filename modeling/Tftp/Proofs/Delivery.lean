import Tftp.Packet.Write
import Tftp.Proofs.Calls

/-! # Delivering a packet

A packet is written to a sink that may take a part of what it is offered, be interrupted, or fail. A
reply that takes nothing of something counts as a failure too; so each reply of a sink either lets the
writer go on or stops it with a fault (`WriteReply.stop?`).

`Sink.Halts` says that a writer was let on by some replies of the sink, was stopped by the next one,
and made no call after that. A writer that fails has come to such a halt
(`Sink.halts_of_writeAll_error`): it never fails of its own accord, and never passes over a fault.
What the sink has taken by then is told by `Sink.stored_of_writeAll_ok` and
`Sink.stored_of_writeAll_error`. Together they say what writing a packet comes to
(`Packet.writeTo_delivers`). -/

namespace Tftp

/-! ### Replies -/

/-- The fault with which the reply stops a writer that has something to write, if it does. -/
def WriteReply.stop? : WriteReply → Option IoFault
  | accept 0 => some .nothingTaken
  | accept (_ + 1) | acceptAll => none
  | fault e => if e.isInterrupted then none else some e

namespace Sink

theorem reply_of_write {s t : Sink} {o : Octets} {answer : Except IoFault Nat}
    (some_octets : o ≠ []) (h : s.write o = (answer, t)) :
    (s.writeScript = [] ∧ answer = .ok o.length) ∨
    ∃ reply, s.writeScript = reply :: t.writeScript ∧
      (answer = .ok 0 → reply.stop? = some .nothingTaken) ∧
      (∀ n, answer = .ok (n + 1) → reply.stop? = none) ∧
      ∀ e, answer = .error e → reply = .fault e := by
  have length : o.length ≠ 0 := mt List.eq_nil_of_length_eq_zero some_octets
  unfold write at h
  split at h
  next script =>
    obtain ⟨rfl, -⟩ := Prod.mk.inj h
    exact Or.inl ⟨script, rfl⟩
  next rest script =>
    obtain ⟨rfl, rfl⟩ := Prod.mk.inj h
    refine Or.inr ⟨.acceptAll, by simp [script], ?_, fun _ _ => rfl, nofun⟩
    intro none
    exact absurd (Except.ok.inj none) length
  next limit rest script =>
    obtain ⟨rfl, rfl⟩ := Prod.mk.inj h
    refine Or.inr ⟨.accept limit, script, ?_, ?_, nofun⟩
    · intro none
      have taken : min limit o.length = 0 := Except.ok.inj none
      obtain rfl : limit = 0 := by omega
      rfl
    · intro n some
      have taken : min limit o.length = n + 1 := Except.ok.inj some
      obtain ⟨m, rfl⟩ := Nat.exists_eq_succ_of_ne_zero (show limit ≠ 0 by omega)
      rfl
  next e rest script =>
    obtain ⟨rfl, rfl⟩ := Prod.mk.inj h
    refine Or.inr ⟨.fault e, script, nofun, nofun, ?_⟩
    intro e' same
    rw [Except.error.inj same]

/-! ### Writers that fail -/

/-- A writer was let on by some replies of the sink and was stopped by the next one, with the given
fault. It made one call for each of them and no other. -/
inductive Halts (before : Sink) (e : IoFault) (after : Sink) : Prop
  | intro (went : List WriteReply) (last : WriteReply)
      (script : before.writeScript = went ++ last :: after.writeScript)
      (goes_on : ∀ reply ∈ went, reply.stop? = none) (stops : last.stop? = some e)
      (calls : after.calls = before.calls + went.length + 1)

theorem calls_of_write {s t : Sink} {o : Octets} {answer : Except IoFault Nat}
    (h : s.write o = (answer, t)) : t.calls = s.calls + 1 := by
  obtain ⟨writes, flushes, -⟩ := frame_of_write h
  rw [calls, calls, writes, flushes]
  omega

theorem Halts.of_stop {s t : Sink} {e : IoFault} {reply : WriteReply}
    (script : s.writeScript = reply :: t.writeScript) (stops : reply.stop? = some e)
    (once : t.calls = s.calls + 1) : Halts s e t :=
  .intro [] reply script (fun _ h => nomatch h) stops once

theorem Halts.cons {s t s' : Sink} {e : IoFault} {reply : WriteReply}
    (script : s.writeScript = reply :: t.writeScript) (goes_on : reply.stop? = none)
    (once : t.calls = s.calls + 1) (h : Halts t e s') : Halts s e s' := by
  obtain ⟨went, last, rest, others, stops, calls⟩ := h
  refine .intro (reply :: went) last ?_ (List.forall_mem_cons.mpr ⟨goes_on, others⟩) stops ?_
  · rw [script, rest]
    rfl
  · rw [calls, once, List.length_cons]
    omega

/-- A writer fails exactly at the first reply that stops it, and with the fault of that reply. -/
theorem halts_of_writeAll_error {s s' : Sink} {o : Octets} {e : IoFault}
    (h : s.writeAll o = (.error e, s')) : s.Halts e s' := by
  fun_induction writeAll s o with
  | case1 => cases (Prod.mk.inj h).1
  | case2 s o some_octets t hw =>
    obtain ⟨he, rfl⟩ := Prod.mk.inj h
    obtain rfl := Except.error.inj he
    rcases reply_of_write (by simpa using some_octets) hw with
      ⟨-, whole⟩ | ⟨reply, script, nothing, -, -⟩
    · have : o.length = 0 := (Except.ok.inj whole).symm
      simp_all
    · exact .of_stop script (nothing rfl) (calls_of_write hw)
  | case3 s o some_octets n t hw ih =>
    rcases reply_of_write (by simpa using some_octets) hw with
      ⟨-, whole⟩ | ⟨reply, script, -, part, -⟩
    · -- After its script the sink takes everything, and nothing is left that could fail.
      have nothing_left : o.drop (n + 1) = [] :=
        List.drop_eq_nil_of_le (Nat.le_of_eq (Except.ok.inj whole).symm)
      rw [nothing_left, writeAll, if_pos List.isEmpty_nil] at h
      cases (Prod.mk.inj h).1
    · exact .cons script (part n rfl) (calls_of_write hw) (ih h)
  | case4 s o some_octets e' t hw interrupted ih =>
    rcases reply_of_write (by simpa using some_octets) hw with
      ⟨-, whole⟩ | ⟨reply, script, -, -, fault⟩
    · cases whole
    · obtain rfl := fault e' rfl
      exact .cons script (if_pos interrupted) (calls_of_write hw) (ih h)
  | case5 s o some_octets e' t hw lasting =>
    obtain ⟨he, rfl⟩ := Prod.mk.inj h
    obtain rfl := Except.error.inj he
    rcases reply_of_write (by simpa using some_octets) hw with
      ⟨-, whole⟩ | ⟨reply, script, -, -, fault⟩
    · cases whole
    · obtain rfl := fault e' rfl
      exact .of_stop script (if_neg lasting) (calls_of_write hw)

end Sink

/-! ### Packets -/

namespace Packet

variable {p : Packet} {sink : Sink}

/-- Writing a packet ends as writing its octets ends. -/
theorem writeTo_cases (p : Packet) (sink : Sink) :
    (∃ sink', sink.writeAll p.encode = (.ok (), sink') ∧
      p.writeTo sink = (.ok p.encode.length, sink')) ∨
    ∃ e sink', sink.writeAll p.encode = (.error e, sink') ∧
      p.writeTo sink = (.error (.io e), sink') := by
  unfold writeTo
  cases h : sink.writeAll p.encode with
  | mk result sink' =>
    cases result with
    | ok => exact Or.inl ⟨sink', rfl, rfl⟩
    | error e => exact Or.inr ⟨e, sink', rfl, rfl⟩

/-- **A packet is delivered whole, or the sink's fault is reported.** Writing a packet to a sink
answers with a length exactly if the sink has taken the wire form, all of it, in order and once; the
length is then that of the wire form, which is also the one computed without encoding. Otherwise the
sink has taken the wire form up to some octet before its end, and the answer is the fault of the first
reply that stops a writer: the sink's own one, or that it takes nothing. The sink is not called
after that. -/
theorem writeTo_delivers (p : Packet) (sink : Sink) :
    let written := p.writeTo sink
    (∀ n, written.1 = .ok n ↔
      written.2.stored = sink.stored ++ p.encode ∧ n = p.encode.length ∧ n = p.encodedLength) ∧
    ∀ fault, written.1 = .error fault → ∃ e, fault = .io e ∧
      (∃ taken, taken <+: p.encode ∧ taken ≠ p.encode ∧
        written.2.stored = sink.stored ++ taken) ∧
      sink.Halts e written.2 := by
  intro written
  rcases p.writeTo_cases sink with ⟨sink', hw, answer⟩ | ⟨e, sink', hw, answer⟩
  · have stored := Sink.stored_of_writeAll_ok hw
    have result : written = (.ok p.encode.length, sink') := answer
    rw [result]
    constructor
    · intro n
      constructor
      · intro length
        obtain rfl := Except.ok.inj length
        exact ⟨stored, rfl, p.length_encode⟩
      · rintro ⟨-, rfl, -⟩
        rfl
    · intro fault failed
      cases failed
  · obtain ⟨k, less, stored⟩ := Sink.stored_of_writeAll_error hw
    have partly : p.encode.take k ≠ p.encode := by
      intro whole
      have := congrArg List.length whole
      rw [List.length_take] at this
      omega
    have result : written = (.error (.io e), sink') := answer
    rw [result]
    constructor
    · intro n
      constructor
      · intro length
        cases length
      · rintro ⟨whole, -, -⟩
        exact absurd (List.append_cancel_left (stored.symm.trans whole)) partly
    · intro fault failed
      obtain rfl := Except.error.inj failed
      exact ⟨e, rfl, ⟨_, List.take_prefix k _, partly, stored⟩, Sink.halts_of_writeAll_error hw⟩

/-- A slow and interrupted sink that breaks down with one octet to go; the reply after that is not
asked for. -/
theorem writeTo_delivers_broken :
    let replies : List WriteReply := [.accept 1, .fault (.ofKind .interrupted), .accept 2]
    let sink : Sink := { writeScript := replies ++ [.fault (.ofKind .brokenPipe), .acceptAll] }
    let written := (acknowledgment ⟨7⟩).writeTo sink
    written.1 = .error (.io (.ofKind .brokenPipe)) ∧ sink.Halts (.ofKind .brokenPipe) written.2 := by
  intro replies sink written
  have failed : written.1 = .error (.io (.ofKind .brokenPipe)) := by
    subst written sink replies
    cbv
  obtain ⟨e, same, -, halts⟩ := (writeTo_delivers (acknowledgment ⟨7⟩) sink).2 _ failed
  cases same
  exact ⟨failed, halts⟩

end Packet
end Tftp
