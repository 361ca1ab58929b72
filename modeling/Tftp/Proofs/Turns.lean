import Mathlib.Data.List.Induction
import Tftp.Proofs.Sender

/-! # What an input does to a sender

A caller asks a sender for the next block, tells it of an acknowledgment or replaces its rules, in
any order. A `Turn` is one such input together with the sender that takes it; what the caller sees of
it is the datagram handed out, what is counted, and whether an acknowledgment was taken for the last
block of a transfer (`Turn.confirms`).

`Turn.outcome` says what a turn can come to: nothing happens but a change of the rules, the source
fails, a block is handed out, or an acknowledgment is for the block handed out last. It is said of a
sender that holds back no more than a block, which every turn keeps (`Turn.held_after_lt`). What each
turn keeps holds at any point of a run (`reached_induction`). -/

namespace Tftp

theorem Source.length_held_fill_lt {s : Source} {held : Octets} {e : IoFault}
    (fault : (s.fill held).fault = some e) : (s.fill held).held.length < blockSize := by
  fun_induction fill s held with
  | case1 | case2 => cases fault
  | case3 s held _ b o s' _ ih => exact ih fault
  | case4 s held _ e s' _ _ ih => exact ih fault
  | case5 s held room => exact Nat.lt_of_not_le room

namespace Sender

/-- What happens to a sender. -/
inductive Input where
  /-- The next block is asked for. -/
  | next
  /-- An acknowledgment comes. -/
  | acknowledge (ack : Acknowledgment)
  /-- The rules are replaced. -/
  | rules (rules : TransferRules)

/-- An input and the sender that takes it. -/
structure Turn where
  /-- The sender before the input. -/
  sender : Sender
  input : Input

namespace Turn

/-- The sender after the input. -/
def after (t : Turn) : Sender :=
  match t.input with
  | .next => t.sender.next.state
  | .acknowledge ack => (t.sender.acknowledge ack).state
  | .rules rules => t.sender.withRules rules

/-- The datagram that is handed out. -/
def datagram? (t : Turn) : Option Octets :=
  match t.input with
  | .next => t.sender.next.result.toOption.join
  | .acknowledge _ | .rules _ => none

/-- What is counted. -/
def counts (t : Turn) : Counters :=
  match t.input with
  | .next => t.sender.next.counts
  | .acknowledge ack => (t.sender.acknowledge ack).counts
  | .rules _ => 0

/-- A sender that has finished takes an acknowledgment for the block handed out last. -/
def confirms (t : Turn) : Bool :=
  match t.input with
  | .acknowledge ack => t.sender.finished && (t.sender.acknowledge ack).result.toOption.getD false
  | .next | .rules _ => false

end Turn

/-! ### What is counted -/

theorem next_eq_emit {s : Sender} {d : Octets} (h : s.next.result = .ok (some d)) :
    s.next = s.filled.emit := by
  unfold next at h ⊢
  by_cases ended : s.finished = true
  · rw [if_pos ended] at h
    cases h
  · rw [if_neg ended] at h ⊢
    by_cases stopped : s.isExhausted = true
    · rw [if_pos stopped] at h
      cases h
    · rw [if_neg stopped] at h ⊢
      cases hr : (s.source.fill s.held).fault with
      | some e =>
        simp only [hr] at h
        cases h
      | none =>
        simp only [hr]
        rfl

theorem counts_emit {s : Sender} {d : Octets} (h : s.emit.result = .ok (some d)) :
    s.emit.counts = .sent + .encoded (.ofNat d.length) := by
  unfold emit at h ⊢
  cases hn : DataPacket.encodeNext s.block s.held with
  | error fault =>
    rw [hn] at h
    cases h
  | ok written =>
    rw [hn] at h
    cases h
    rfl

theorem counts_acknowledge_of_stale {s : Sender} {ack : Acknowledgment}
    (stale : s.blocksSent = 0 ∨ ack.block ≠ s.block) : (s.acknowledge ack).counts = 0 := by
  rw [acknowledge, if_pos stale]

theorem counts_acknowledge {s : Sender} {ack : Acknowledgment}
    (current : ¬ (s.blocksSent = 0 ∨ ack.block ≠ s.block)) :
    (s.acknowledge ack).counts = if s.finished && !s.complete then .completed else 0 := by
  rw [acknowledge, if_neg current]
  split <;> rfl

/-! ### What a turn can come to -/

namespace Turn

/-- What a turn can come to. -/
inductive Outcome (t : Turn) : Prop
  /-- Nothing happens, except that the rules may be others. -/
  | idle (rules : TransferRules) (state : t.after = t.sender.withRules rules)
      (silent : t.datagram? = none) (uncounted : t.counts = 0) (unconfirmed : t.confirms = false)
  /-- The source fails; what it delivered before is held back. -/
  | failed (e : IoFault) (fault : (t.sender.source.fill t.sender.held).fault = some e)
      (state : t.after = t.sender.filled)
      (silent : t.datagram? = none) (uncounted : t.counts = 0) (unconfirmed : t.confirms = false)
  /-- The next block is handed out. -/
  | handed (p : DataPacket) (running : t.sender.finished = false)
      (nofault : (t.sender.source.fill t.sender.held).fault = none)
      (block : p.block = t.sender.block + 1)
      (payload : p.payload = (t.sender.source.fill t.sender.held).held)
      (state : t.after = t.sender.handedOut p) (datagram : t.datagram? = some p.encode)
      (counted : t.counts = .sent + .encoded (.ofNat p.encode.length))
      (unconfirmed : t.confirms = false)
  /-- An acknowledgment is for the block handed out last. -/
  | matched (state : t.after =
        { t.sender with complete := t.sender.complete || t.sender.finished })
      (silent : t.datagram? = none)
      (counted : t.counts =
        if t.sender.finished && !t.sender.complete then .completed else 0)
      (confirms : t.confirms = t.sender.finished)

theorem outcome_next (s : Sender) (room : s.held.length ≤ blockSize) : Outcome ⟨s, .next⟩ := by
  rcases s.next_cases room with ⟨-, e⟩ | ⟨-, -, e⟩ | ⟨-, e, fault, step⟩ |
    ⟨running, -, nofault, p, block, payload, result, state⟩
  · refine .idle s.rules ?_ ?_ ?_ rfl
    all_goals simp only [after, datagram?, counts, e]; rfl
  · refine .idle s.rules ?_ ?_ ?_ rfl
    all_goals simp only [after, datagram?, counts, e]; rfl
  · refine .failed e fault ?_ ?_ ?_ rfl
    all_goals simp only [after, datagram?, counts, step]; rfl
  · refine .handed p running nofault block payload state ?_ ?_ rfl
    · simp only [datagram?, result]
      rfl
    · have emitted := next_eq_emit result
      rw [emitted] at result
      exact (congrArg Step.counts emitted).trans (counts_emit result)

theorem outcome_acknowledge (s : Sender) (ack : Acknowledgment) :
    Outcome ⟨s, .acknowledge ack⟩ := by
  rcases s.acknowledge_cases ack with ⟨stale, result, state⟩ | ⟨⟨begun, current⟩, result, state⟩
  · refine .idle s.rules state rfl (counts_acknowledge_of_stale stale) ?_
    simp [confirms, result, Except.toOption]
  · refine .matched state rfl (counts_acknowledge (by simp [begun, current])) ?_
    simp [confirms, result, Except.toOption]

/-- Any turn comes to one of these. -/
theorem outcome (t : Turn) (room : t.sender.held.length ≤ blockSize) : t.Outcome := by
  obtain ⟨s, input⟩ := t
  cases input with
  | next => exact outcome_next s room
  | acknowledge ack => exact outcome_acknowledge s ack
  | rules rules => exact .idle rules rfl rfl rfl rfl

theorem held_after_lt {t : Turn} (room : t.sender.held.length < blockSize) :
    t.after.held.length < blockSize := by
  cases t.outcome (Nat.le_of_lt room) with
  | idle _ state | matched state =>
    rw [state]
    exact room
  | failed _ fault state =>
    rw [state]
    exact Source.length_held_fill_lt fault
  | handed _ _ _ _ _ state =>
    rw [state]
    exact Nat.succ_pos _

end Turn

/-! ### Runs -/

/-- The sender after an input. -/
def take (s : Sender) (input : Input) : Sender := (⟨s, input⟩ : Turn).after

/-- The sender after a run. -/
def reached (s : Sender) (inputs : List Input) : Sender := inputs.foldl take s

/-- The turns of a run, in order. -/
def turns (s : Sender) : List Input → List Turn
  | [] => []
  | input :: inputs => ⟨s, input⟩ :: (s.take input).turns inputs

/-- The datagrams that some turns hand out, in order. -/
def Turn.datagrams (turns : List Turn) : List Octets := turns.filterMap datagram?

theorem Turn.datagrams_concat (turns : List Turn) (t : Turn) :
    datagrams (turns ++ [t]) = datagrams turns ++ t.datagram?.toList := by
  rw [datagrams, List.filterMap_append, datagrams]
  cases h : t.datagram? <;> simp [h]

theorem reached_concat (s : Sender) (inputs : List Input) (input : Input) :
    s.reached (inputs ++ [input]) = (⟨s.reached inputs, input⟩ : Turn).after := by
  simp [reached, List.foldl_append, take]

theorem turns_concat (s : Sender) (inputs : List Input) (input : Input) :
    s.turns (inputs ++ [input]) = s.turns inputs ++ [⟨s.reached inputs, input⟩] := by
  induction inputs generalizing s with
  | nil => rfl
  | cons first inputs ih =>
    rw [List.cons_append, turns, turns, ih (s.take first)]
    rfl

/-- What holds at first and is kept by each turn holds at any point of any run. -/
theorem reached_induction {P : List Turn → Sender → Prop} {s : Sender} (first : P [] s)
    (step : ∀ turns t, P turns t.sender → P (turns ++ [t]) t.after) (inputs : List Input) :
    P (s.turns inputs) (s.reached inputs) := by
  induction inputs using List.reverseRecOn with
  | nil => exact first
  | append_singleton inputs input ih =>
    rw [turns_concat, reached_concat]
    exact step _ ⟨_, input⟩ ih

end Sender
end Tftp
