import Tftp.Proofs.Standstill

/-! # The numbers of a receiver

A receiver tells packets apart by two numbers: that of the block stored last, which may come again,
and that of the block it expects. It looks at the first before the second, so a receiver whose two
numbers were equal would acknowledge the next block without storing it. They never are.

* While nothing is stored, block 1 is expected, and a packet is acknowledged only by being stored
  (`Receiver.expected_of_unstored`).
* While the receiver goes on, the block expected is the one after the block stored last
  (`Receiver.Account.expected_of_last`), and a packet is stored, acknowledged again or refused by
  these two numbers alone.
* The counter is exhausted exactly if the block stored last was a full block 65535 under rules
  without rollover (`Receiver.exhausted_iff`). From then on nothing is stored, whatever the rules
  are: the block expected would be block 0, and no other is.

`Receiver.numbers_apart` puts this together for any point of any run. -/

namespace Tftp

/-- What a sink comes to that is asked to take the content of a packet and, if the packet is short,
to flush. -/
def Sink.put (s : Sink) (p : DataPacket) : Sink :=
  match s.writeAll p.payload with
  | (.ok (), s) => if p.isFinal then s.flush.2 else s
  | (.error _, s) => s

/-! ### One call -/

namespace Call

variable {c : Call}

/-- The call gave the number 65535 to a full block, and the rules do not let the counter start
again. -/
structure UsesUp (c : Call) : Prop where
  number : c.packet.block = 65535
  full : c.packet.isFinal = false
  strict : c.receiver.rules.allowRollover = false

theorem awaits_of_stores (h : c.stores = true) : c.receiver.Awaits c.packet := by
  cases c.outcome with
  | refused _ _ state | repeated _ _ _ state =>
    have none := (untouched state).1
    rw [(filter_of_stores h).1] at none
    cases none
  | cut awaits | advanced awaits | unflushed awaits | finished awaits => exact awaits

theorem reaches_of_awaits (h : c.receiver.Awaits c.packet) : c.reaches = true := by
  cases c.outcome with
  | refused fault result state =>
    have step : c.step = c.receiver.store c.packet := Receiver.receive_of_awaits h
    rcases c.receiver.store_answer c.packet with answered | ⟨-, broken⟩
    · rw [← step, result] at answered
      cases answered
    · rw [← step, state, h.sound] at broken
      cases broken
  | repeated _ last => exact absurd last h.fresh
  | cut _ breaks => exact (Bool.and_eq_true_iff.mp breaks).1
  | advanced _ stores | unflushed _ stores | finished _ stores =>
    exact (Bool.and_eq_true_iff.mp stores).1

/-- A packet that is acknowledged is stored, unless it has the number of the block stored last. -/
theorem stores_of_acknowledged {ack : Acknowledgment} (h : c.step.result = .ok ack)
    (fresh : c.receiver.lastAccepted ≠ some c.packet.block) : c.stores = true := by
  cases c.outcome with
  | refused _ result | cut _ _ _ result | unflushed _ _ _ _ _ result =>
    rw [result] at h
    cases h
  | repeated _ last => exact absurd last fresh
  | advanced _ stores | finished _ stores => exact stores

theorem numbers_of_not_stores (h : c.stores = false) :
    c.step.state.expected = c.receiver.expected ∧
      c.step.state.exhausted = c.receiver.exhausted := by
  cases c.outcome with
  | refused _ _ state | repeated _ _ _ state =>
    rw [state]
    exact ⟨rfl, rfl⟩
  | cut _ _ _ _ _ state =>
    rw [state]
    exact ⟨rfl, rfl⟩
  | advanced _ stores | unflushed _ stores | finished _ stores =>
    rw [stores] at h
    cases h

/-- A call that stores its packet exhausts the counter exactly if it uses up its last number. -/
theorem exhausted_of_stores (h : c.stores = true) : c.step.state.exhausted = true ↔ c.UsesUp := by
  have awaits := awaits_of_stores h
  have step : c.step = c.receiver.store c.packet := Receiver.receive_of_awaits awaits
  have short : c.packet.isFinal = true → ¬ c.UsesUp := by
    intro final uses
    rw [uses.full] at final
    cases final
  cases c.outcome with
  | refused _ _ state | repeated _ _ _ state =>
    have none := (untouched state).1
    rw [(filter_of_stores h).1] at none
    cases none
  | cut _ breaks =>
    have none := (filter_of_breaksOff breaks).1
    rw [(filter_of_stores h).1] at none
    cases none
  | unflushed _ _ final _ _ _ _ state | finished _ _ final _ _ _ state =>
    have kept : c.step.state.exhausted = c.receiver.exhausted := by rw [state]; rfl
    rw [kept, awaits.allowed]
    simp [short final]
  | advanced _ _ full result =>
    rcases c.receiver.store_cases c.packet with ⟨_, _, -, failed, -⟩ |
      ⟨_, -, ⟨-, -, state⟩ | ⟨final, -⟩ | ⟨final, -⟩⟩
    · rw [← step, result] at failed
      cases failed
    · rw [step, state]
      simp only [awaits.allowed, Bool.false_or, Bool.and_eq_true, beq_iff_eq, Bool.not_eq_true']
      constructor
      · rintro ⟨number, strict⟩
        exact ⟨number, full, strict⟩
      · intro uses
        exact ⟨uses.number, uses.strict⟩
    all_goals
      rw [full] at final
      cases final

end Call

namespace Receiver

/-! ### What an account tells of the numbers -/

section

variable {sink : Sink} {stored cut : List Call} {r : Receiver}

theorem Account.number_of_last (h : r.Account sink stored cut) {c : Call}
    (last : stored.getLast? = some c) : c.packet.block = blockNumber stored.length := by
  have some : stored ≠ [] := by
    rintro rfl
    cases last
  have length : stored.length - 1 + 1 = stored.length :=
    Nat.sub_add_cancel (List.length_pos_iff.mpr some)
  rw [List.getLast?_eq_getElem?] at last
  rw [h.numbered _ c last, length]

/-- While the receiver goes on, the block after those stored is expected, and all of them are
full. -/
theorem Account.expected_of_running (h : r.Account sink stored cut) (sound : r.sinkFailed = false)
    (running : r.finished = false) :
    r.expected = blockNumber (stored.length + 1) ∧ ∀ c ∈ stored, c.packet.isFinal = false := by
  cases h.phase with
  | waiting _ _ next full => exact ⟨next, full⟩
  | finished _ ended =>
    rw [running] at ended
    cases ended
  | cut broken | unflushed broken =>
    rw [sound] at broken
    cases broken

theorem Account.expected_of_last (h : r.Account sink stored cut) (sound : r.sinkFailed = false)
    (running : r.finished = false) {c : Call} (last : stored.getLast? = some c) :
    r.expected = c.packet.block + 1 ∧ r.expected ≠ c.packet.block := by
  rw [(h.expected_of_running sound running).1, h.number_of_last last, blockNumber_succ]
  refine ⟨rfl, ?_⟩
  rw [← blockNumber_succ]
  intro same
  have := blockNumber_eq_iff.mp same
  omega

theorem Account.awaits_expected (h : r.Account sink stored cut) (sound : r.sinkFailed = false)
    (running : r.finished = false) (allowed : r.exhausted = false) {p : DataPacket}
    (expected : p.block = r.expected) : r.Awaits p where
  sound := sound
  fresh again := by
    rw [h.last, Option.map_eq_some_iff] at again
    obtain ⟨c, last, same⟩ := again
    exact (h.expected_of_last sound running last).2 (expected.symm.trans same.symm)
  running := running
  expected := expected
  allowed := allowed

end

/-! ### One packet -/

theorem sink_store (r : Receiver) (p : DataPacket) : (r.store p).state.sink = r.sink.put p := by
  unfold Sink.put
  rcases r.store_cases p with ⟨_, _, hw, -, state⟩ |
    ⟨_, hw, ⟨full, -, state⟩ | ⟨final, _, _, hf, -, state⟩ | ⟨final, _, hf, -, state⟩⟩
  · rw [hw, state]
    rfl
  · rw [hw, state, full]
    rfl
  · rw [hw, state, final]
    simp [hf, failed]
  · rw [hw, state, final]
    simp [hf, wrote]

theorem receive_of_last {r : Receiver} {p : DataPacket} (sound : r.sinkFailed = false)
    (last : r.lastAccepted = some p.block) :
    (r.receive p).result = .ok ⟨p.block⟩ ∧ (r.receive p).state = r := by
  rw [receive, if_neg (by simp [sound]), if_pos last]
  exact ⟨rfl, rfl⟩

theorem receive_of_other {r : Receiver} {p : DataPacket} (sound : r.sinkFailed = false)
    (running : r.finished = false) (fresh : r.lastAccepted ≠ some p.block)
    (other : p.block ≠ r.expected) :
    r.receive p = .refuse r (.unexpectedBlock r.expected p.block) := by
  rw [receive, if_neg (by simp [sound]), if_neg fresh, if_neg (by simp [running]), if_pos other]

/-! ### Exhaustion -/

/-- A receiver whose counter is exhausted stores nothing, whatever the rules are. -/
theorem still_of_exhausted {r : Receiver} (ended : r.exhausted = true) : r.Still := by
  intro rules p
  refine (receive_of_not_awaits fun awaits => ?_).1
  have allowed : r.exhausted = false := awaits.allowed
  rw [ended] at allowed
  cases allowed

theorem Still.reaches {r : Receiver} (h : r.Still) (inputs : List Input) :
    ∀ c ∈ r.calls inputs, c.reaches = false := by
  induction inputs using List.reverseRecOn with
  | nil => exact fun c hc => nomatch hc
  | append_singleton inputs input ih =>
    intro c hc
    rw [calls_concat] at hc
    rcases List.mem_append.mp hc with before | last
    · exact ih c before
    · obtain ⟨rules, stands⟩ := h.after inputs
      rw [stands] at last
      cases input with
      | rules => cases last
      | packet p =>
        obtain rfl : c = ⟨r.withRules rules, p⟩ := by simpa [callOf] using last
        have same : Call.after ⟨r.withRules rules, p⟩ = Call.before ⟨r.withRules rules, p⟩ :=
          congrArg sink (h rules p)
        simp [Call.reaches, same]

/-! ### Any run -/

/-- The calls of a run that stored their packet, in order. -/
def storedCalls (r : Receiver) (inputs : List Input) : List Call :=
  (r.calls inputs).filter Call.stores

theorem storedCalls_concat_packet (r : Receiver) (inputs : List Input) (p : DataPacket) :
    r.storedCalls (inputs ++ [.packet p]) =
      r.storedCalls inputs ++ [(⟨r.after inputs, p⟩ : Call)].filter Call.stores := by
  rw [storedCalls, calls_concat, List.filter_append]
  rfl

theorem storedCalls_concat_rules (r : Receiver) (inputs : List Input) (rules : TransferRules) :
    r.storedCalls (inputs ++ [.rules rules]) = r.storedCalls inputs := by
  rw [storedCalls, calls_concat, List.filter_append]
  exact List.append_nil _

theorem expected_of_unstored (sink : Sink) (inputs : List Input)
    (none : (new sink).storedCalls inputs = []) : ((new sink).after inputs).expected = 1 := by
  induction inputs using List.reverseRecOn with
  | nil => rfl
  | append_singleton inputs input ih =>
    rw [after_concat]
    cases input with
    | rules rules =>
      rw [storedCalls_concat_rules] at none
      exact ih none
    | packet p =>
      rw [storedCalls_concat_packet] at none
      obtain ⟨before, last⟩ := List.append_eq_nil_iff.mp none
      have unstored : Call.stores ⟨(new sink).after inputs, p⟩ = false := by simpa using last
      exact (Call.numbers_of_not_stores unstored).1.trans (ih before)

/-- The counter is exhausted exactly if the block stored last used up its last number. -/
theorem exhausted_iff (sink : Sink) (inputs : List Input) :
    ((new sink).after inputs).exhausted = true ↔
      ∃ c, ((new sink).storedCalls inputs).getLast? = some c ∧ c.UsesUp := by
  induction inputs using List.reverseRecOn with
  | nil => simp [new, after, storedCalls, calls]
  | append_singleton inputs input ih =>
    rw [after_concat]
    cases input with
    | rules rules =>
      rw [storedCalls_concat_rules]
      exact ih
    | packet p =>
      rw [storedCalls_concat_packet]
      generalize hc : (⟨(new sink).after inputs, p⟩ : Call) = c
      have step : ((new sink).after inputs).take (.packet p) = c.step.state := by rw [← hc]; rfl
      have before : c.receiver = (new sink).after inputs := by rw [← hc]
      rw [step]
      cases stores : c.stores with
      | true =>
        rw [(Call.filter_of_stores stores).1, List.getLast?_concat]
        simpa using Call.exhausted_of_stores stores
      | false =>
        rw [(Call.numbers_of_not_stores stores).2, before, ih]
        simp [stores]

/-- **The two numbers of a receiver never meet.** At any point of any run, whatever packets arrive,
however the rules change and whatever the sink does:

* if nothing was stored, block 1 is expected, and only a packet that is stored is acknowledged;
* if something was stored, and the receiver has not finished and its sink has not failed, the block
  expected is the one after the block stored last, and carries another number;
* if moreover the counter is not exhausted, a packet with the number expected is put into the sink,
  one with the number of the block stored last is acknowledged again and leaves no mark, and any
  other is refused as out of sequence and leaves no mark;
* the counter is exhausted exactly if the block stored last was a full block 65535 under rules
  without rollover, and then no packet ever reaches the sink again. -/
theorem numbers_apart (sink : Sink) (inputs : List Input) :
    let r := (new sink).after inputs
    let last? := ((new sink).storedCalls inputs).getLast?
    (last? = none → r.expected = 1 ∧
      ∀ p ack, (r.receive p).result = .ok ack → (⟨r, p⟩ : Call).stores = true) ∧
    (∀ c, last? = some c → r.finished = false → r.sinkFailed = false →
      r.expected = c.packet.block + 1 ∧ r.expected ≠ c.packet.block) ∧
    (r.finished = false → r.exhausted = false → r.sinkFailed = false → ∀ p,
      (p.block = r.expected →
        (⟨r, p⟩ : Call).reaches = true ∧ (r.receive p).state.sink = r.sink.put p) ∧
      ((∃ c, last? = some c ∧ c.packet.block = p.block) →
        (r.receive p).result = .ok ⟨p.block⟩ ∧ (r.receive p).state = r) ∧
      (p.block ≠ r.expected → (¬ ∃ c, last? = some c ∧ c.packet.block = p.block) →
        r.receive p = .refuse r (.unexpectedBlock r.expected p.block))) ∧
    (r.exhausted = true ↔ ∃ c, last? = some c ∧ c.packet.block = 65535 ∧
      c.packet.isFinal = false ∧ c.receiver.rules.allowRollover = false) ∧
    (r.exhausted = true → ∀ later, ∀ c ∈ r.calls later, c.reaches = false) := by
  intro r last?
  have account : r.Account sink ((new sink).storedCalls inputs) _ := account_after sink inputs
  have repeated : ∀ p : DataPacket, r.lastAccepted = some p.block ↔
      ∃ c, last? = some c ∧ c.packet.block = p.block := by
    intro p
    rw [account.last, Option.map_eq_some_iff]
  refine ⟨?_, fun c last running sound => account.expected_of_last sound running last, ?_, ?_,
    fun ended => (still_of_exhausted ended).reaches⟩
  · intro none
    refine ⟨expected_of_unstored sink inputs (List.getLast?_eq_none_iff.mp none), ?_⟩
    intro p ack acknowledged
    refine Call.stores_of_acknowledged (c := ⟨r, p⟩) acknowledged ?_
    intro again
    obtain ⟨c, last, -⟩ := (repeated p).mp again
    rw [none] at last
    cases last
  · intro running allowed sound p
    refine ⟨?_, fun again => receive_of_last sound ((repeated p).mpr again), ?_⟩
    · intro expected
      have awaits := account.awaits_expected sound running allowed expected
      refine ⟨Call.reaches_of_awaits (c := ⟨r, p⟩) awaits, ?_⟩
      rw [receive_of_awaits awaits, sink_store]
    · intro other fresh
      exact receive_of_other sound running (mt (repeated p).mp fresh) other
  · rw [exhausted_iff]
    constructor
    · rintro ⟨c, last, uses⟩
      exact ⟨c, last, uses.number, uses.full, uses.strict⟩
    · rintro ⟨c, last, number, full, strict⟩
      exact ⟨c, last, number, full, strict⟩

end Receiver
end Tftp
