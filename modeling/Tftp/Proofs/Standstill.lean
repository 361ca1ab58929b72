import Tftp.Proofs.InOrder

/-! # What leaves a receiver as it is

A packet that is not awaited leaves no mark, neither on the receiver and its sink nor on the counters
(`receive_of_not_awaits`), and only the sink's own faults come from a packet that is
(`not_awaits_of_error`). Two things bring a receiver to a standstill, in which no packet leaves a
mark whatever the rules are (`Still`): the sink has failed, or the last block was stored. From there
on a run can only change the rules (`Still.after`).

`Receiver.stands_still` puts this together for any point of any run. -/

namespace Tftp

namespace Receiver

/-! ### One packet -/

theorem store_answer (r : Receiver) (p : DataPacket) :
    (r.store p).result = .ok ⟨p.block⟩ ∨
      (∃ e, (r.store p).result = .error (.io e)) ∧ (r.store p).state.sinkFailed = true := by
  rcases r.store_cases p with ⟨e, _, -, result, state⟩ |
    ⟨_, -, ⟨-, result, -⟩ | ⟨-, e, _, -, result, state⟩ | ⟨-, _, -, result, -⟩⟩
  · exact Or.inr ⟨⟨e, result⟩, by rw [state]; rfl⟩
  · exact Or.inl result
  · exact Or.inr ⟨⟨e, result⟩, by rw [state]; rfl⟩
  · exact Or.inl result

theorem not_awaits_of_error {r : Receiver} {p : DataPacket} {fault : Fault}
    (refused : (r.receive p).result = .error fault) (own : ∀ e, fault ≠ .io e) :
    ¬ r.Awaits p := by
  intro awaits
  rw [receive_of_awaits awaits] at refused
  rcases r.store_answer p with result | ⟨⟨e, result⟩, -⟩
  · rw [result] at refused
    cases refused
  · rw [result] at refused
    exact own e (Except.error.inj refused).symm

/-- A fault of the sink is taken down. -/
theorem sinkFailed_of_io {r : Receiver} {p : DataPacket} {e : IoFault}
    (broke : (r.receive p).result = .error (.io e)) : (r.receive p).state.sinkFailed = true := by
  by_cases awaits : r.Awaits p
  · rw [receive_of_awaits awaits] at broke ⊢
    rcases r.store_answer p with result | ⟨-, failed⟩
    · rw [result] at broke
      cases broke
    · exact failed
  · obtain ⟨-, -, ⟨-, -, result⟩ | ⟨fault, result, own⟩⟩ := receive_of_not_awaits awaits
    · rw [result] at broke
      cases broke
    · rw [result] at broke
      exact absurd (Except.error.inj broke) (own e)

/-! ### Standstill -/

/-- No packet changes the receiver, whatever the rules are. -/
def Still (r : Receiver) : Prop :=
  ∀ rules p, ((r.withRules rules).receive p).state = r.withRules rules

/-- Only the rules can change from then on. -/
theorem Still.after {r : Receiver} (h : r.Still) (inputs : List Input) :
    ∃ rules, r.after inputs = r.withRules rules := by
  induction inputs using List.reverseRecOn with
  | nil => exact ⟨r.rules, rfl⟩
  | append_singleton inputs input ih =>
    obtain ⟨rules, stands⟩ := ih
    rw [after_concat, stands]
    cases input with
    | packet p => exact ⟨rules, h rules p⟩
    | rules others => exact ⟨others, rfl⟩

theorem receive_of_sinkFailed {r : Receiver} (broken : r.sinkFailed = true) (p : DataPacket) :
    r.receive p = .refuse r (.session .sinkFailed) := by
  rw [receive, if_pos broken]

theorem still_of_sinkFailed {r : Receiver} (broken : r.sinkFailed = true) : r.Still := by
  intro rules p
  rw [receive_of_sinkFailed (r := r.withRules rules) broken]
  rfl

theorem not_awaits_of_finished {r : Receiver} (ended : r.finished = true) (p : DataPacket) :
    ¬ r.Awaits p := by
  intro awaits
  rw [awaits.running] at ended
  cases ended

theorem still_of_finished {r : Receiver} (ended : r.finished = true) : r.Still :=
  fun rules p => (receive_of_not_awaits (not_awaits_of_finished (r := r.withRules rules) ended p)).1

/-- A receiver that has finished acknowledges the last block and refuses any other. -/
theorem result_of_finished {r : Receiver} (sound : r.sinkFailed = false) (ended : r.finished = true)
    {final : UInt16} (last : r.lastAccepted = some final) (p : DataPacket) :
    (r.receive p).result =
      if p.block = final then .ok ⟨final⟩ else .error (.session .finished) := by
  unfold receive
  rw [if_neg (by simp [sound]), last]
  by_cases again : p.block = final
  · rw [if_pos (congrArg some again.symm), if_pos again, again]
  · rw [if_neg (fun same => again (Option.some.inj same).symm), if_pos ended, if_neg again]
    rfl

theorem Account.sound_of_finished {sink : Sink} {stored cut : List Call} {r : Receiver}
    (h : r.Account sink stored cut) (ended : r.finished = true) : r.sinkFailed = false := by
  cases h.phase with
  | finished sound => exact sound
  | waiting _ running | cut _ running | unflushed _ running =>
    rw [running] at ended
    cases ended

/-! ### Any run -/

/-- **Refusals and repeated blocks leave no mark, and the end is the end.** At any point of any run:
a packet that is refused for a reason other than a fault of the sink, or that carries the number of
the block stored last and is acknowledged, changes neither the receiver nor its sink nor the counters.
After a fault of the sink every later packet is refused for it, under any rules, and the sink is left
alone. When the receiver has finished, the last block that it stored was short and the sink was
flushed after it; from then on, under any rules, its number is acknowledged, every other one is
refused, and the sink is left alone. -/
theorem stands_still (sink : Sink) (inputs : List Input) :
    let r := (new sink).after inputs
    (∀ p,
      ((∃ fault, (r.receive p).result = .error fault ∧ ∀ e, fault ≠ .io e) ∨
        ((∃ ack, (r.receive p).result = .ok ack) ∧ r.lastAccepted = some p.block)) →
      (r.receive p).state = r ∧ (r.receive p).counts = 0) ∧
    (∀ p e, (r.receive p).result = .error (.io e) → ∀ later q,
      let s := (r.receive p).state.after later
      s.receive q = .refuse s (.session .sinkFailed) ∧ s.sink = (r.receive p).state.sink) ∧
    (r.finished = true →
      ∃ c, (((new sink).calls inputs).filter Call.stores).getLast? = some c ∧
        c.packet.isFinal = true ∧ c.flushed = true ∧ ∀ later q,
          let s := r.after later
          (s.receive q).result =
            (if q.block = c.packet.block then .ok ⟨c.packet.block⟩
              else .error (.session .finished)) ∧
          (s.receive q).state = s ∧ (s.receive q).counts = 0 ∧ s.sink = r.sink) := by
  intro r
  refine ⟨?_, ?_, ?_⟩
  · rintro p (⟨fault, refused, own⟩ | ⟨-, last⟩)
    · obtain ⟨state, counts, -⟩ := receive_of_not_awaits (not_awaits_of_error refused own)
      exact ⟨state, counts⟩
    · obtain ⟨state, counts, -⟩ := receive_of_not_awaits fun awaits => awaits.fresh last
      exact ⟨state, counts⟩
  · intro p e broke later q s
    have broken := sinkFailed_of_io broke
    obtain ⟨rules, stands⟩ := (still_of_sinkFailed broken).after later
    have stands : s = (r.receive p).state.withRules rules := stands
    rw [stands]
    exact ⟨receive_of_sinkFailed (r := (r.receive p).state.withRules rules) broken q, rfl⟩
  · intro ended
    have account := account_after sink inputs
    obtain ⟨c, stored, final, flushed⟩ := account.finished_iff.mp ended
    have last : r.lastAccepted = some c.packet.block := by
      rw [account.last, stored, Option.map_some]
    have sound : r.sinkFailed = false := account.sound_of_finished ended
    refine ⟨c, stored, final, flushed, fun later q => ?_⟩
    -- Since the end the rules may have changed, and nothing else.
    obtain ⟨rules, stands⟩ := (still_of_finished ended).after later
    obtain ⟨state, counts, -⟩ := receive_of_not_awaits
      (not_awaits_of_finished (r := r.withRules rules) ended q)
    intro s
    have stands : s = r.withRules rules := stands
    rw [stands]
    exact ⟨result_of_finished (r := r.withRules rules) sound ended last q, state, counts, rfl⟩

/-- The sink fails while block 1 is written. The block is refused when it comes again, although the
rules have been replaced. -/
theorem stands_still_broken :
    let block : DataPacket := ⟨1, [7], by decide⟩
    let r := new { writeScript := [.fault (.ofKind .timedOut)] }
    (r.receive block).result = .error (.io (.ofKind .timedOut)) ∧
      (((r.receive block).state.withRules { allowRollover := false }).receive block).result =
        .error (.session .sinkFailed) := by
  intro block r
  have broke : (r.receive block).result = .error (.io (.ofKind .timedOut)) := by decide +kernel
  obtain ⟨-, failed, -⟩ := stands_still { writeScript := [.fault (.ofKind .timedOut)] } []
  obtain ⟨refused, -⟩ := failed block _ broke [.rules { allowRollover := false }] block
  exact ⟨broke, congrArg Step.result refused⟩

/-- A short block, flushed after: its number is acknowledged from then on, and block 2 is refused. -/
example :
    let r := (new {}).after [.packet ⟨1, [7], by decide⟩]
    r.finished = true ∧ (r.receive ⟨1, [], by decide⟩).result = .ok ⟨1⟩ ∧
      (r.receive ⟨2, [], by decide⟩).result = .error (.session .finished) := by
  decide +kernel

end Receiver
end Tftp
