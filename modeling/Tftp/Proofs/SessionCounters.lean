import Mathlib.Data.Fintype.BigOperators
import Tftp.Proofs.Calls
import Tftp.Proofs.Turns

/-! # What the counters of the sessions tell

A session is judged by what it shows: a sender by the datagrams that it hands out and by whether the
transfer is complete, a receiver by the blocks that its sink took whole and by whether it has
finished. `Sender.tally` and `Receiver.tally` count these. A turn of a sender and a call of a receiver
count what takes the tally before to the tally after (`Sender.tally_turn`, `Receiver.tally_call`), so
a run counts the tally of all that it shows (`counted_eq_tally`, for both).

All sessions count into the same counters. A `Host` has any number of sessions, each a sender or a
receiver (`Role`), and takes their inputs in any order. An input changes and counts for one session
only (`Host.sessions_perform`, `Host.counters_perform`). A session therefore gets on as it would by
itself with the inputs that are its own, and the counters go up by what the sessions count for
themselves (`Host.sessions_after`, `Host.counters_eq_add_sum`). -/

namespace Tftp

/-! ### Adding up -/

instance : AddCommMonoid Counters where
  add_assoc := Counters.add_assoc
  zero_add := Counters.zero_add
  add_zero := Counters.add_zero
  add_comm := Counters.add_comm
  nsmul := nsmulRec

/-! ### Sessions -/

/-- Which half of a transfer a session is. -/
inductive Role where
  | sender
  | receiver

namespace Role

/-- What a session of the role is. -/
def Session : Role → Type
  | sender => Sender
  | receiver => Receiver

/-- What can happen to a session of the role. -/
def Input : Role → Type
  | sender => Sender.Input
  | receiver => Receiver.Input

/-- The session after an input. -/
def take : (role : Role) → role.Session → role.Input → role.Session
  | sender => Sender.take
  | receiver => Receiver.take

/-- What an input counts. -/
def counts : (role : Role) → role.Session → role.Input → Counters
  | sender, s, input => (⟨s, input⟩ : Sender.Turn).counts
  | receiver, r, .packet p => (Receiver.receive r p).counts
  | receiver, _, .rules _ => 0

variable (role : Role)

/-- The session after a run. -/
def after (s : role.Session) (inputs : List role.Input) : role.Session := inputs.foldl role.take s

theorem after_append (s : role.Session) (inputs later : List role.Input) :
    role.after s (inputs ++ later) = role.after (role.after s inputs) later :=
  List.foldl_append

/-- What a run counts. -/
def counted (s : role.Session) : List role.Input → Counters
  | [] => 0
  | input :: inputs => role.counts s input + counted (role.take s input) inputs

theorem counted_append (s : role.Session) (inputs later : List role.Input) :
    role.counted s (inputs ++ later) =
      role.counted s inputs + role.counted (role.after s inputs) later := by
  induction inputs generalizing s with
  | nil => exact (zero_add _).symm
  | cons input inputs ih =>
    rw [List.cons_append, counted, counted, ih, add_assoc]
    rfl

end Role

/-! ### Senders -/

namespace Sender

/-- What handing out the datagrams counts, and the transfer if it is complete. -/
def tally (emitted : List Octets) (complete : Bool) : Counters where
  datagramsEncoded := .ofNat emitted.length
  bytesEncoded := .ofNat emitted.flatten.length
  blocksSent := .ofNat emitted.length
  transfersCompleted := if complete then 1 else 0

theorem tally_concat (emitted : List Octets) (d : Octets) (complete : Bool) :
    tally (emitted ++ [d]) complete =
      tally emitted complete + (.sent + .encoded (.ofNat d.length)) := by
  change _ = Counters.add _ (Counters.add _ _)
  simp [tally, Counters.add, Counters.sent, Counters.encoded, UInt64.ofNat_add]

theorem tally_matched (emitted : List Octets) (complete finished : Bool) :
    tally emitted (complete || finished) =
      tally emitted complete + if finished && !complete then .completed else 0 := by
  cases complete <;> cases finished
  · exact (Counters.add_zero _).symm
  · change _ = Counters.add _ _
    simp [tally, Counters.add, Counters.completed]
  · exact (Counters.add_zero _).symm
  · exact (Counters.add_zero _).symm

theorem tally_turn {t : Turn} (room : t.sender.held.length ≤ blockSize) (emitted : List Octets) :
    tally (emitted ++ t.datagram?.toList) t.after.complete =
      tally emitted t.sender.complete + t.counts := by
  cases t.outcome room with
  | idle _ state silent uncounted | failed _ _ state silent uncounted =>
    rw [state, silent, uncounted, Option.toList_none, List.append_nil]
    exact (Counters.add_zero _).symm
  | handed p _ _ _ _ state datagram counted =>
    rw [state, datagram, counted, Option.toList_some]
    exact tally_concat emitted p.encode t.sender.complete
  | matched state silent counted =>
    rw [state, silent, counted, Option.toList_none, List.append_nil]
    exact tally_matched emitted t.sender.complete t.sender.finished

theorem counted_eq_sum (s : Sender) (inputs : List Input) :
    Role.sender.counted s inputs = ((s.turns inputs).map Turn.counts).sum := by
  induction inputs generalizing s with
  | nil => rfl
  | cons input inputs ih =>
    rw [turns, List.map_cons, List.sum_cons, ← ih]
    rfl

theorem counted_eq_tally (source : Source) (start : UInt16) (inputs : List Input) :
    Role.sender.counted (resume source start) inputs =
      tally (Turn.datagrams ((resume source start).turns inputs))
        ((resume source start).reached inputs).complete := by
  have both := reached_induction (s := resume source start)
    (P := fun turns s => s.held.length < blockSize ∧
      (turns.map Turn.counts).sum = tally (Turn.datagrams turns) s.complete)
    ⟨Nat.succ_pos _, rfl⟩ ?_ inputs
  · rw [counted_eq_sum]
    exact both.2
  · rintro turns t ⟨room, counted⟩
    refine ⟨Turn.held_after_lt room, ?_⟩
    rw [List.map_append, List.sum_append, List.map_singleton, List.sum_singleton, counted,
      Turn.datagrams_concat, tally_turn (Nat.le_of_lt room)]

end Sender

/-! ### Receivers -/

/-- What storing the next block counts can be told from the receiver afterwards. -/
theorem Receiver.counts_store {r : Receiver} {p : DataPacket} (h : r.Awaits p) :
    (r.store p).counts =
      (if (r.store p).state.lastAccepted = some p.block then .received else 0) +
        (if (r.store p).state.finished then .completed else 0) := by
  unfold store
  split
  · simp [Step.refuse, h.fresh, h.running]
  · simp only [finish, advance]
    -- The block is the one stored last before the sink is flushed, whatever the flush answers.
    split
    · split
      · simp [h.running]
      · simp
    · simp [h.running]

namespace Call

variable (c : Call)

/-- What a call can count. -/
inductive Count : Prop
  /-- The content does not get into the sink. -/
  | nothing (unstored : c.stores = false) (counted : c.step.counts = 0)
      (same : c.step.state.finished = c.receiver.finished)
  /-- The content gets into the sink, and the transfer does not end. -/
  | block (stores : c.stores = true) (counted : c.step.counts = .received)
      (same : c.step.state.finished = c.receiver.finished)
      (unflushed : ∀ fault, c.step.result = .error fault →
        c.packet.isFinal = true ∧ c.flushed = false)
  /-- The content gets into the sink, and the transfer ends. -/
  | transfer (stores : c.stores = true) (counted : c.step.counts = .received + .completed)
      (running : c.receiver.finished = false) (ended : c.step.state.finished = true)
      (ack : Acknowledgment) (result : c.step.result = .ok ack)

variable {c}

theorem counts_of_not_awaits (h : ¬ c.receiver.Awaits c.packet) : c.step.counts = 0 :=
  (Receiver.receive_of_not_awaits h).2.1

theorem counts_of_awaits (h : c.receiver.Awaits c.packet) :
    c.step.counts =
      (if c.step.state.lastAccepted = some c.packet.block then .received else 0) +
        (if c.step.state.finished then .completed else 0) := by
  rw [step, Receiver.receive_of_awaits h]
  exact Receiver.counts_store h

theorem counts_of_untouched (state : c.step.state = c.receiver) : c.step.counts = 0 := by
  by_cases awaits : c.receiver.Awaits c.packet
  · rw [counts_of_awaits awaits, state]
    simp [awaits.fresh, awaits.running]
  · exact counts_of_not_awaits awaits

theorem count (c : Call) : c.Count := by
  cases c.outcome with
  | refused _ _ state | repeated _ _ _ state =>
    have unstored : c.stores = false := by simpa using (untouched state).1
    exact .nothing unstored (counts_of_untouched state) (congrArg Receiver.finished state)
  | cut awaits breaks _ _ _ state =>
    have unstored : c.stores = false := by simpa using (filter_of_breaksOff breaks).1
    have same : c.step.state.finished = c.receiver.finished := by rw [state]; rfl
    refine .nothing unstored ?_ same
    rw [counts_of_awaits awaits, same, awaits.running, state]
    simp [Receiver.failed, awaits.fresh]
  | advanced awaits stores _ result _ _ state =>
    have same : c.step.state.finished = c.receiver.finished := by rw [state]; rfl
    refine .block stores ?_ same ?_
    · rw [counts_of_awaits awaits, same, awaits.running, state]
      simp [Receiver.wrote]
    · intro _ failed
      rw [result] at failed
      cases failed
  | unflushed awaits stores final unflushed _ _ _ state =>
    have same : c.step.state.finished = c.receiver.finished := by rw [state]; rfl
    refine .block stores ?_ same fun _ _ => ⟨final, unflushed⟩
    rw [counts_of_awaits awaits, same, awaits.running, state]
    simp [Receiver.wrote]
  | finished awaits stores _ _ result _ state =>
    have ended : c.step.state.finished = true := by rw [state]
    refine .transfer stores ?_ awaits.running ended _ result
    rw [counts_of_awaits awaits, ended, state]
    simp [Receiver.wrote]

theorem counts_of_not_stores (h : c.stores = false) : c.step.counts = 0 := by
  cases c.count with
  | nothing _ counted => exact counted
  | block stores | transfer stores =>
    rw [h] at stores
    cases stores

/-- A call that fails counts nothing, unless its block is stored and then not flushed. -/
theorem counts_of_error {fault : Fault} (h : c.step.result = .error fault) :
    c.step.counts = 0 ∨
      (c.stores = true ∧ c.packet.isFinal = true ∧ c.flushed = false ∧
        c.step.counts = .received) := by
  cases c.count with
  | nothing _ counted => exact Or.inl counted
  | block stores counted _ unflushed =>
    obtain ⟨final, unflushed⟩ := unflushed fault h
    exact Or.inr ⟨stores, final, unflushed, counted⟩
  | transfer _ _ _ _ _ result =>
    rw [result] at h
    cases h

end Call

namespace Receiver

/-- What storing so many blocks counts, and the transfer if the receiver has finished. -/
def tally (stored : Nat) (finished : Bool) : Counters where
  blocksReceived := .ofNat stored
  transfersCompleted := if finished then 1 else 0

theorem tally_succ (stored : Nat) (finished : Bool) :
    tally (stored + 1) finished = tally stored finished + .received := by
  change _ = Counters.add _ _
  simp [tally, Counters.add, Counters.received, UInt64.ofNat_add]

theorem tally_finished (stored : Nat) : tally stored true = tally stored false + .completed := by
  change _ = Counters.add _ _
  simp [tally, Counters.add, Counters.completed]

theorem tally_call (c : Call) (stored : Nat) :
    tally (stored + [c].countP Call.stores) c.step.state.finished =
      tally stored c.receiver.finished + c.step.counts := by
  cases c.count with
  | nothing unstored counted same =>
    rw [same, counted]
    simp [unstored]
  | block stores counted same =>
    rw [same, counted, ← tally_succ]
    simp [stores]
  | transfer stores counted running ended =>
    rw [counted, running, ended, ← add_assoc, ← tally_succ, ← tally_finished]
    simp [stores]

theorem tally_take (r : Receiver) (input : Input) (stored : Nat) :
    tally (stored + (r.callOf input).toList.countP Call.stores) (r.take input).finished =
      tally stored r.finished + Role.receiver.counts r input := by
  cases input with
  | packet p => exact tally_call ⟨r, p⟩ stored
  | rules rules => exact (add_zero _).symm

theorem tally_after (r : Receiver) (inputs : List Input) (stored : Nat) :
    tally (stored + (r.calls inputs).countP Call.stores) (r.after inputs).finished =
      tally stored r.finished + Role.receiver.counted r inputs := by
  induction inputs generalizing r stored with
  | nil => exact (add_zero _).symm
  | cons input inputs ih =>
    -- `rw` does not see the inputs of the role in those of a receiver, so the run is split by hand.
    show _ = _ + (Role.receiver.counts r input + Role.receiver.counted (r.take input) inputs)
    rw [calls, List.countP_append, ← Nat.add_assoc, ← add_assoc, ← tally_take]
    exact ih (r.take input) _

theorem counted_eq_tally (sink : Sink) (inputs : List Input) :
    Role.receiver.counted (new sink) inputs =
      tally (((new sink).calls inputs).countP Call.stores) ((new sink).after inputs).finished := by
  have counted := (new sink).tally_after inputs 0
  rw [Nat.zero_add] at counted
  rw [counted]
  exact (zero_add _).symm

end Receiver

/-! ### Any number of sessions -/

/-- Sessions that count into the same counters. -/
structure Host {ι : Type} (roles : ι → Role) where
  sessions : (i : ι) → (roles i).Session
  counters : Counters

namespace Host

/-- What happens to one of the sessions. -/
structure Input {ι : Type} (roles : ι → Role) where
  session : ι
  input : (roles session).Input

variable {ι : Type} {roles : ι → Role} [DecidableEq ι]

/-- The inputs that are for the session, in order. -/
def own (i : ι) (inputs : List (Input roles)) : List (roles i).Input :=
  inputs.filterMap fun x => if same : x.session = i then some (same ▸ x.input) else none

/-- The host after an input. -/
def perform (h : Host roles) (x : Input roles) : Host roles where
  sessions := Function.update h.sessions x.session
    ((roles x.session).take (h.sessions x.session) x.input)
  counters := h.counters + (roles x.session).counts (h.sessions x.session) x.input

/-- The host after a run. -/
def after (h : Host roles) (inputs : List (Input roles)) : Host roles := inputs.foldl perform h

theorem own_cons (i : ι) (x : Input roles) (inputs : List (Input roles)) :
    own i (x :: inputs) = own i [x] ++ own i inputs :=
  List.filterMap_append (l := [x])

theorem own_singleton_self (i : ι) (input : (roles i).Input) : own i [⟨i, input⟩] = [input] := by
  simp [own]

theorem own_singleton_of_ne {i j : ι} (other : j ≠ i) (input : (roles j).Input) :
    own i [⟨j, input⟩] = [] := by
  simp [own, other]

theorem sessions_perform (h : Host roles) (x : Input roles) (i : ι) :
    (h.perform x).sessions i = (roles i).after (h.sessions i) (own i [x]) := by
  obtain ⟨j, input⟩ := x
  by_cases same : j = i
  · subst same
    rw [own_singleton_self]
    exact Function.update_self ..
  · rw [own_singleton_of_ne same]
    exact Function.update_of_ne (Ne.symm same) ..

/-- A session gets on with its own inputs. -/
theorem sessions_after (h : Host roles) (inputs : List (Input roles)) (i : ι) :
    (h.after inputs).sessions i = (roles i).after (h.sessions i) (own i inputs) := by
  induction inputs generalizing h with
  | nil => rfl
  | cons x inputs ih =>
    rw [own_cons, Role.after_append, ← sessions_perform, ← ih]
    rfl

variable [Fintype ι]

/-- An input counts what its own session counts for it; the others count nothing. -/
theorem counters_perform (h : Host roles) (x : Input roles) :
    (h.perform x).counters =
      h.counters + ∑ i, (roles i).counted (h.sessions i) (own i [x]) := by
  obtain ⟨j, input⟩ := x
  rw [Fintype.sum_eq_single j, own_singleton_self]
  · exact congrArg (h.counters + ·) (add_zero _).symm
  · intro i other
    rw [own_singleton_of_ne other.symm]
    rfl

/-- A run counts what the sessions count for their own inputs. -/
theorem counters_eq_add_sum (h : Host roles) (inputs : List (Input roles)) :
    (h.after inputs).counters =
      h.counters + ∑ i, (roles i).counted (h.sessions i) (own i inputs) := by
  induction inputs generalizing h with
  | nil =>
    have nothing : ∑ i, (roles i).counted (h.sessions i) (own i []) = 0 :=
      Finset.sum_eq_zero fun i _ => rfl
    rw [nothing]
    exact (add_zero _).symm
  | cons x inputs ih =>
    -- What a session counts for its own inputs splits after the first input of the run.
    have split : ∀ i, (roles i).counted (h.sessions i) (own i (x :: inputs)) =
        (roles i).counted (h.sessions i) (own i [x]) +
          (roles i).counted ((h.perform x).sessions i) (own i inputs) := by
      intro i
      rw [own_cons, Role.counted_append, sessions_perform]
    calc (h.after (x :: inputs)).counters
      _ = (h.perform x).counters +
            ∑ i, (roles i).counted ((h.perform x).sessions i) (own i inputs) := ih (h.perform x)
      _ = h.counters + ∑ i, (roles i).counted (h.sessions i) (own i (x :: inputs)) := by
          rw [counters_perform, add_assoc, ← Finset.sum_add_distrib]
          simp only [split]

/-- **The counters of the sessions are exact.** Over any run of a sender, whatever its source does and
whatever is acknowledged or changed, the counters go up, modulo 2 ^ 64, by the datagrams that it hands
out and their octets, and by one transfer if it is complete. Over any run of a receiver they go up by
the blocks that the sink took whole and by one transfer if it has finished. No other counter moves. A
call that does not store its packet counts nothing, whether the packet is repeated, out of sequence or
cut off; a call that fails counts nothing either, except for a last block that is stored and then not
flushed. Any number of sessions whose inputs come in any order get on as each would by itself, and
count what all of them count together. -/
theorem sessions_counted :
    (∀ source start inputs,
      let s := Sender.resume source start
      let emitted := Sender.Turn.datagrams (s.turns inputs)
      Role.sender.counted s inputs =
        { datagramsEncoded := .ofNat emitted.length
          bytesEncoded := .ofNat emitted.flatten.length
          blocksSent := .ofNat emitted.length
          transfersCompleted := if (s.reached inputs).complete then 1 else 0 }) ∧
    (∀ sink inputs,
      let r := Receiver.new sink
      Role.receiver.counted r inputs =
        { blocksReceived := .ofNat ((r.calls inputs).countP Call.stores)
          transfersCompleted := if (r.after inputs).finished then 1 else 0 }) ∧
    (∀ c : Call,
      (c.stores = false → c.step.counts = 0) ∧
      (c.receiver.lastAccepted = some c.packet.block → c.step.counts = 0) ∧
      (c.packet.block ≠ c.receiver.expected → c.step.counts = 0) ∧
      ∀ fault, c.step.result = .error fault →
        c.step.counts = 0 ∨ (c.stores = true ∧ c.packet.isFinal = true ∧ c.flushed = false ∧
          c.step.counts = .received)) ∧
    ∀ (ι : Type) [Fintype ι] [DecidableEq ι] (roles : ι → Role) (h : Host roles)
        (inputs : List (Input roles)),
      (h.after inputs).counters =
        h.counters + ∑ i, (roles i).counted (h.sessions i) (own i inputs) ∧
      ∀ i, (h.after inputs).sessions i = (roles i).after (h.sessions i) (own i inputs) := by
  refine ⟨Sender.counted_eq_tally, Receiver.counted_eq_tally, fun c => ⟨?_, ?_, ?_, ?_⟩, ?_⟩
  · exact Call.counts_of_not_stores
  · intro repeated
    exact Call.counts_of_not_awaits fun awaits => awaits.fresh repeated
  · intro other
    exact Call.counts_of_not_awaits fun awaits => other awaits.expected
  · intro fault failed
    exact Call.counts_of_error failed
  · intro ι _ _ roles h inputs
    exact ⟨h.counters_eq_add_sum inputs, h.sessions_after inputs⟩

/-- The only block arrives twice and is acknowledged twice. It is counted once on either side, and so is
the transfer. -/
example :
    let roles : Bool → Role := fun | true => .sender | false => .receiver
    let h : Host roles :=
      ⟨fun | true => Sender.resume ⟨[.octets [7]], 0⟩ 0 | false => Receiver.new {}, 0⟩
    (h.after [⟨true, Sender.Input.next⟩, ⟨false, Receiver.Input.packet ⟨1, [7], by decide⟩⟩,
      ⟨false, Receiver.Input.packet ⟨1, [7], by decide⟩⟩, ⟨true, Sender.Input.acknowledge ⟨1⟩⟩,
      ⟨true, Sender.Input.acknowledge ⟨1⟩⟩]).counters =
    { datagramsEncoded := 1, bytesEncoded := 5, blocksSent := 1, blocksReceived := 1,
      transfersCompleted := 2 } := by
  decide +kernel

end Host

end Tftp
