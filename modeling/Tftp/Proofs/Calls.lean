import Tftp.Proofs.Receiver

/-! # What a call does to the sink

A receiver is judged by its sink. A `Call` is one call of `receive`, and what it did is read off the
sink before and after it: it reached the sink and made it take the whole content of the packet
(`Call.stores`), it reached the sink but broke off before that (`Call.breaksOff`), and it flushed the
sink with success (`Call.flushed`). None of these looks into the receiver.

`Call.outcome` says in these terms what a call can come to. A run is a list of inputs, packets and
changes of the rules, in any order; `Receiver.calls` lists the calls that are made in it. -/

namespace Tftp

/-! ### How often a sink is called -/

namespace Sink

/-- How often the sink was called. -/
def calls (s : Sink) : Nat := s.writes + s.flushes

theorem frame_of_write {s s' : Sink} {o : Octets} {answer : Except IoFault Nat}
    (h : s.write o = (answer, s')) :
    s'.writes = s.writes + 1 ∧ s'.flushes = s.flushes ∧ s'.flushScript = s.flushScript := by
  unfold write at h
  split at h
  all_goals
    obtain ⟨-, rfl⟩ := Prod.mk.inj h
    exact ⟨rfl, rfl, rfl⟩

theorem frame_of_writeAll {s s' : Sink} {o : Octets} {answer : Except IoFault Unit}
    (h : s.writeAll o = (answer, s')) :
    s.writes ≤ s'.writes ∧ (o ≠ [] → s.writes < s'.writes) ∧
      s'.flushes = s.flushes ∧ s'.flushScript = s.flushScript := by
  fun_induction writeAll s o with
  | case1 s o none =>
    obtain ⟨-, rfl⟩ := Prod.mk.inj h
    have : o = [] := List.isEmpty_iff.mp none
    exact ⟨Nat.le_refl _, fun some => absurd this some, rfl, rfl⟩
  | case2 s o _ t hw =>
    obtain ⟨-, rfl⟩ := Prod.mk.inj h
    obtain ⟨once, flushes, script⟩ := frame_of_write hw
    exact ⟨by omega, fun _ => by omega, flushes, script⟩
  | case3 s o _ n t hw ih =>
    obtain ⟨once, flushes, script⟩ := frame_of_write hw
    obtain ⟨le, -, flushes', script'⟩ := ih h
    exact ⟨by omega, fun _ => by omega, flushes'.trans flushes, script'.trans script⟩
  | case4 s o _ e t hw _ ih =>
    obtain ⟨once, flushes, script⟩ := frame_of_write hw
    obtain ⟨le, -, flushes', script'⟩ := ih h
    exact ⟨by omega, fun _ => by omega, flushes'.trans flushes, script'.trans script⟩
  | case5 s o _ e t hw _ =>
    obtain ⟨-, rfl⟩ := Prod.mk.inj h
    obtain ⟨once, flushes, script⟩ := frame_of_write hw
    exact ⟨by omega, fun _ => by omega, flushes, script⟩

theorem frame_of_flush {s s' : Sink} {answer : Except IoFault Unit} (h : s.flush = (answer, s')) :
    s'.writes = s.writes ∧ s'.flushes = s.flushes + 1 := by
  unfold flush at h
  split at h
  all_goals
    obtain ⟨-, rfl⟩ := Prod.mk.inj h
    exact ⟨rfl, rfl⟩

theorem flush_congr {s t : Sink} (h : s.flushScript = t.flushScript) : s.flush.1 = t.flush.1 := by
  unfold flush
  rw [h]
  split <;> rfl

end Sink

/-! ### Calls -/

/-- A call of `receive`. -/
structure Call where
  /-- The receiver before the call. -/
  receiver : Receiver
  packet : DataPacket

namespace Call

variable (c : Call)

/-- What the call comes to. -/
def step : Step Receiver Acknowledgment := c.receiver.receive c.packet

/-- The sink before the call. -/
def before : Sink := c.receiver.sink

/-- The sink after the call. -/
def after : Sink := c.step.state.sink

/-- The sink was called. -/
def reaches : Bool := decide (c.before.calls < c.after.calls)

/-- The sink was called, and took the whole content of the packet. -/
def stores : Bool := c.reaches && decide (c.after.stored = c.before.stored ++ c.packet.payload)

/-- The sink was called, and did not take the whole content of the packet. -/
def breaksOff : Bool := c.reaches && !decide (c.after.stored = c.before.stored ++ c.packet.payload)

/-- The sink was flushed, and answered that it is done. -/
def flushed : Bool := decide (c.before.flushes < c.after.flushes) && c.before.flush.1.isOk

/-- What a call can come to. -/
inductive Outcome : Prop
  /-- The packet is refused. -/
  | refused (fault : Fault) (result : c.step.result = .error fault)
      (state : c.step.state = c.receiver)
  /-- The packet carries the number of the block stored last. -/
  | repeated (sound : c.receiver.sinkFailed = false)
      (last : c.receiver.lastAccepted = some c.packet.block)
      (result : c.step.result = .ok ⟨c.packet.block⟩) (state : c.step.state = c.receiver)
  /-- The sink takes a part of the content. -/
  | cut (awaits : c.receiver.Awaits c.packet) (breaks : c.breaksOff = true)
      (fault : Fault) (result : c.step.result = .error fault) (sink : Sink)
      (state : c.step.state = c.receiver.failed sink) (n : Nat)
      (part : sink.stored = c.before.stored ++ c.packet.payload.take n)
  /-- The sink takes a full block. -/
  | advanced (awaits : c.receiver.Awaits c.packet) (stores : c.stores = true)
      (full : c.packet.isFinal = false) (result : c.step.result = .ok ⟨c.packet.block⟩)
      (sink : Sink) (exhausted : Bool)
      (state : c.step.state = { c.receiver.wrote c.packet sink with
        exhausted, expected := c.packet.block + 1 })
      (whole : sink.stored = c.before.stored ++ c.packet.payload)
  /-- The sink takes the last block, and is not flushed. -/
  | unflushed (awaits : c.receiver.Awaits c.packet) (stores : c.stores = true)
      (final : c.packet.isFinal = true) (unflushed : c.flushed = false)
      (fault : Fault) (result : c.step.result = .error fault) (sink : Sink)
      (state : c.step.state = { c.receiver.wrote c.packet sink with sinkFailed := true })
      (whole : sink.stored = c.before.stored ++ c.packet.payload)
  /-- The sink takes the last block and is flushed. -/
  | finished (awaits : c.receiver.Awaits c.packet) (stores : c.stores = true)
      (final : c.packet.isFinal = true) (flushed : c.flushed = true)
      (result : c.step.result = .ok ⟨c.packet.block⟩) (sink : Sink)
      (state : c.step.state = { c.receiver.wrote c.packet sink with finished := true })
      (whole : sink.stored = c.before.stored ++ c.packet.payload)

variable {c}

theorem untouched (state : c.step.state = c.receiver) :
    [c].filter stores = [] ∧ [c].filter breaksOff = [] := by
  have same : c.after = c.before := congrArg Receiver.sink state
  simp [stores, breaksOff, reaches, same]

theorem filter_of_stores (h : c.stores = true) :
    [c].filter stores = [c] ∧ [c].filter breaksOff = [] := by
  have whole := of_decide_eq_true (Bool.and_eq_true_iff.mp h).2
  simp [h, breaksOff, whole]

theorem filter_of_breaksOff (h : c.breaksOff = true) :
    [c].filter stores = [] ∧ [c].filter breaksOff = [c] := by
  have partly := (Bool.and_eq_true_iff.mp h).2
  simp only [Bool.not_eq_true', decide_eq_false_iff_not] at partly
  simp [h, stores, partly]

theorem breaksOff_of_error {e : IoFault} {sink : Sink}
    (hw : c.before.writeAll c.packet.payload = (.error e, sink)) (after : c.after = sink) :
    c.breaksOff = true ∧ ∃ n, sink.stored = c.before.stored ++ c.packet.payload.take n := by
  obtain ⟨n, short, part⟩ := Sink.stored_of_writeAll_error hw
  have some : c.packet.payload ≠ [] := List.length_pos_iff.mp (by omega)
  obtain ⟨-, called, flushes, -⟩ := Sink.frame_of_writeAll hw
  have reaches : c.before.calls < c.after.calls := by
    have := called some
    rw [after, Sink.calls, Sink.calls]
    omega
  have partly : c.after.stored ≠ c.before.stored ++ c.packet.payload := by
    intro whole
    have := congrArg List.length whole
    rw [after, part, List.length_append, List.length_append, List.length_take] at this
    omega
  exact ⟨by simp [breaksOff, Call.reaches, reaches, partly], n, part⟩

theorem stores_of_ok {sink : Sink} (hw : c.before.writeAll c.packet.payload = (.ok (), sink))
    (full : c.packet.isFinal = false) (after : c.after = sink) : c.stores = true := by
  have length : c.packet.payload.length = 512 := c.packet.length_payload_of_full full
  have some : c.packet.payload ≠ [] := List.length_pos_iff.mp (by omega)
  obtain ⟨-, called, flushes, -⟩ := Sink.frame_of_writeAll hw
  have reaches : c.before.calls < c.after.calls := by
    have := called some
    rw [after, Sink.calls, Sink.calls]
    omega
  have whole : c.after.stored = c.before.stored ++ c.packet.payload := by
    rw [after, Sink.stored_of_writeAll_ok hw]
  simp [stores, Call.reaches, reaches, whole]

/-- A short block whose content gets into the sink is stored, even if it is empty, because the sink
is flushed; and the flush answers as the script had it from the beginning. -/
theorem stores_of_flush {sink sink' : Sink} {answer : Except IoFault Unit}
    (hw : c.before.writeAll c.packet.payload = (.ok (), sink)) (hf : sink.flush = (answer, sink'))
    (after : c.after = sink') :
    c.stores = true ∧ c.flushed = answer.isOk ∧
      sink'.stored = c.before.stored ++ c.packet.payload := by
  obtain ⟨writes, -, flushes, script⟩ := Sink.frame_of_writeAll hw
  obtain ⟨writes', flushes'⟩ := Sink.frame_of_flush hf
  have stored := sink.stored_flush
  have answers : sink.flush.1 = c.before.flush.1 := Sink.flush_congr script
  rw [hf] at stored answers
  have once : c.before.flushes < c.after.flushes := by
    rw [after]
    omega
  have reaches : c.before.calls < c.after.calls := by
    rw [after, Sink.calls, Sink.calls]
    omega
  have whole : sink'.stored = c.before.stored ++ c.packet.payload := by
    rw [stored, Sink.stored_of_writeAll_ok hw]
  refine ⟨?_, ?_, whole⟩
  · rw [← after] at whole
    simp [stores, Call.reaches, reaches, whole]
  · simp [flushed, once, ← answers]

/-- Any call comes to one of these. -/
theorem outcome (c : Call) : c.Outcome := by
  rcases c.receiver.receive_cases c.packet with ⟨⟨fault, result⟩, state, -⟩ |
    ⟨sound, last, result, state⟩ | ⟨awaits, e⟩
  · exact .refused fault result state
  · exact .repeated sound last result state
  have step : c.step = c.receiver.store c.packet := e
  rcases c.receiver.store_cases c.packet with ⟨e, sink, hw, result, state⟩ | ⟨sink, hw, stored⟩
  · rw [← step] at result state
    obtain ⟨breaks, n, part⟩ := breaksOff_of_error hw (congrArg Receiver.sink state)
    exact .cut awaits breaks _ result sink state n part
  · rw [← step] at stored
    rcases stored with ⟨full, result, state⟩ | ⟨final, e, sink', hf, result, state⟩ |
      ⟨final, sink', hf, result, state⟩
    · exact .advanced awaits (stores_of_ok hw full (congrArg Receiver.sink state)) full result sink
        _ state (Sink.stored_of_writeAll_ok hw)
    · obtain ⟨stores, flushed, whole⟩ := stores_of_flush hw hf (congrArg Receiver.sink state)
      exact .unflushed awaits stores final flushed _ result sink' state whole
    · obtain ⟨stores, flushed, whole⟩ := stores_of_flush hw hf (congrArg Receiver.sink state)
      exact .finished awaits stores final flushed result sink' state whole

/-- After an acknowledgment the sink has not failed, and the block stored last has the number that is
acknowledged. -/
theorem of_acknowledged {ack : Acknowledgment} (h : c.step.result = .ok ack) :
    ack.block = c.packet.block ∧ c.step.state.sinkFailed = false ∧
      c.step.state.lastAccepted = some c.packet.block := by
  cases c.outcome with
  | refused _ result | cut _ _ _ result | unflushed _ _ _ _ _ result =>
    rw [result] at h
    cases h
  | repeated sound last result state =>
    rw [result] at h
    cases h
    rw [state]
    exact ⟨rfl, sound, last⟩
  | advanced awaits _ _ result _ _ state | finished awaits _ _ _ result _ state =>
    rw [result] at h
    cases h
    rw [state]
    exact ⟨rfl, awaits.sound, rfl⟩

/-- A short block after which the sink was not flushed is not acknowledged. -/
theorem refused_of_unflushed (stores : c.stores = true) (final : c.packet.isFinal = true)
    (unflushed : c.flushed = false) : ∃ fault, c.step.result = .error fault := by
  cases c.outcome with
  | refused fault result | cut _ _ fault result | unflushed _ _ _ _ fault result =>
    exact ⟨fault, result⟩
  | repeated _ _ _ state =>
    have none := (untouched state).1
    rw [(filter_of_stores stores).1] at none
    cases none
  | advanced _ _ full =>
    rw [final] at full
    cases full
  | finished _ _ _ flushed =>
    rw [unflushed] at flushed
    cases flushed

end Call

/-! ### Runs -/

namespace Receiver

/-- What happens to a receiver. -/
inductive Input where
  /-- A packet arrives. -/
  | packet (p : DataPacket)
  /-- The rules are replaced. -/
  | rules (rules : TransferRules)

/-- The receiver after an input. -/
def take (r : Receiver) : Input → Receiver
  | .packet p => (r.receive p).state
  | .rules rules => r.withRules rules

/-- The call that an input makes, if it makes one. -/
def callOf (r : Receiver) : Input → Option Call
  | .packet p => some ⟨r, p⟩
  | .rules _ => none

/-- The receiver after a run. -/
def after (r : Receiver) (inputs : List Input) : Receiver := inputs.foldl take r

/-- The calls made in a run, in order. -/
def calls (r : Receiver) : List Input → List Call
  | [] => []
  | input :: inputs => (r.callOf input).toList ++ (r.take input).calls inputs

theorem after_concat (r : Receiver) (inputs : List Input) (input : Input) :
    r.after (inputs ++ [input]) = (r.after inputs).take input := by
  simp [after, List.foldl_append]

theorem calls_concat (r : Receiver) (inputs : List Input) (input : Input) :
    r.calls (inputs ++ [input]) = r.calls inputs ++ ((r.after inputs).callOf input).toList := by
  induction inputs generalizing r with
  | nil => simp [calls, after]
  | cons first inputs ih =>
    rw [List.cons_append, calls, calls, ih (r.take first), List.append_assoc]
    rfl

end Receiver
end Tftp
