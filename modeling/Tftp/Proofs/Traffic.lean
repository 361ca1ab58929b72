import Mathlib.Algebra.GroupWithZero.Nat
import Mathlib.Logic.Function.Basic
import Tftp.Proofs.Codec
import Tftp.Proofs.Refusal

/-! # What the counters of the codecs tell

All codecs count into the same counters. A `Desk` is a number of buffers together with these
counters; its caller has any codec perform any operation on any of the buffers. An `Act` is one
operation on what its buffer held at that time.

The counters are judged by the datagrams and the buffers alone. A buffer that is decoded while it
holds something is an `Arrival`, and whether it is accepted, too short, too long or of no known kind
is said by the grammar, by its length and by its first two octets. What encoding writes is what it
puts behind what the buffer held. `tally` counts both, and `Desk.counters_after` says that the
counters of any run go up by exactly that. -/

namespace Tftp

/-! ### Datagrams by class -/

/-- The number in the first two octets, high octet first. -/
def Octets.leading : Octets → Nat
  | hi :: lo :: _ => 256 * hi.toNat + lo.toNat
  | _ => 0

theorem Frame.leading_of_read {b : Octets} {f : Frame} (h : read b = .ok f) :
    b.leading = f.opcode.toNat := by
  obtain ⟨rfl, -⟩ := read_eq_ok_iff.mp h
  show 256 * (UInt8.ofNat (f.opcode.toNat / 256)).toNat + (UInt8.ofNat (f.opcode.toNat % 256)).toNat
    = f.opcode.toNat
  rw [← Octets.toNat_word, Octets.word_ofWord]

namespace Codec

/-- What a decoded buffer held, and the rules by which it is judged. -/
structure Arrival where
  rules : DecodeRules
  octets : Octets

namespace Arrival

/-- The octets are a datagram by the grammar. -/
def Accepted (a : Arrival) : Prop :=
  (4 ≤ a.octets.length ∧ a.octets.length ≤ 516) ∧ ∃ p, Datagram a.rules a.octets p

/-- The octets are too few for a header. -/
def Undersized (a : Arrival) : Prop := 1 ≤ a.octets.length ∧ a.octets.length ≤ 3

/-- The octets are too many for a datagram. -/
def Oversized (a : Arrival) : Prop := 516 < a.octets.length

/-- The octets are neither too few nor too many, but the first two stand for no kind. -/
def Foreign (a : Arrival) : Prop :=
  (4 ≤ a.octets.length ∧ a.octets.length ≤ 516) ∧ a.octets.leading ∉ [1, 3, 4, 5]

theorem accepted_iff {a : Arrival} :
    a.Accepted ↔ ∃ p, Packet.decode a.rules a.octets = .ok p := by
  simp only [Accepted, Packet.decode_eq_ok_iff_datagram, exists_and_left]

theorem not_accepted_of_error {a : Arrival} {fault : Fault}
    (h : Packet.decode a.rules a.octets = .error fault) : ¬ a.Accepted := by
  rw [accepted_iff, h]
  simp

theorem class_of_read (a : Arrival) {f : Frame} (hf : Frame.read a.octets = .ok f) :
    ¬ a.Undersized ∧ ¬ a.Oversized ∧ (a.Foreign ↔ Opcode.ofWord? f.opcode = none) := by
  have length := Frame.length_of_read hf
  refine ⟨by unfold Undersized; omega, by unfold Oversized; omega, ?_⟩
  rw [Foreign, Frame.leading_of_read hf, Opcode.toNat_mem_iff, Option.eq_none_iff_forall_ne_some]
  simp [length]

instance : DecidablePred Accepted := fun a =>
  match h : Packet.decode a.rules a.octets with
  | .ok p => isTrue (accepted_iff.mpr ⟨p, h⟩)
  | .error _ => isFalse (not_accepted_of_error h)

instance : DecidablePred Undersized := fun _ => inferInstanceAs (Decidable (_ ∧ _))

instance : DecidablePred Oversized := fun _ => inferInstanceAs (Decidable (_ < _))

instance : DecidablePred Foreign := fun _ => inferInstanceAs (Decidable (_ ∧ _))

/-- What the datagram adds to the counters. -/
def count (a : Arrival) : Counters where
  datagramsDecoded := if a.Accepted then 1 else 0
  bytesDecoded := if a.Accepted then .ofNat a.octets.length else 0
  decodeFailures := if a.Accepted then 0 else 1
  undersizedRejected := if a.Undersized then 1 else 0
  oversizedRejected := if a.Oversized then 1 else 0
  unknownTypeRejected := if a.Foreign then 1 else 0

end Arrival

/-! ### Acts -/

/-- An operation on what its buffer holds. -/
structure Act where
  port : Port
  op : Operation

namespace Act

/-- What the operation comes to. -/
def step (a : Act) : Step Port (Option Packet) := a.port.perform a.op

/-- What is decoded, if the buffer holds something. -/
def arrival? (a : Act) : Option Arrival :=
  match a.op with
  | .decode => if a.port.buffer = [] then none else some ⟨a.port.codec.rules, a.port.buffer⟩
  | .push _ | .clear | .encode _ => none

/-- What encoding puts behind what the buffer held. -/
def written? (a : Act) : Option Octets :=
  match a.op with
  | .encode _ => some (a.step.state.buffer.drop a.port.buffer.length)
  | .push _ | .clear | .decode => none

end Act

/-- The datagrams that came and the packets that were written, counted. Nothing is counted for the
sessions. -/
def tally (acts : List Act) : Counters :=
  let arrivals := acts.filterMap Act.arrival?
  let accepted := arrivals.filter fun a => decide a.Accepted
  let written := acts.filterMap Act.written?
  { datagramsEncoded := .ofNat written.length
    bytesEncoded := .ofNat written.flatten.length
    datagramsDecoded := .ofNat accepted.length
    bytesDecoded := .ofNat (accepted.map fun a => a.octets.length).sum
    decodeFailures := .ofNat (arrivals.length - accepted.length)
    undersizedRejected := .ofNat (arrivals.countP fun a => decide a.Undersized)
    oversizedRejected := .ofNat (arrivals.countP fun a => decide a.Oversized)
    unknownTypeRejected := .ofNat (arrivals.countP fun a => decide a.Foreign)
    blocksSent := 0
    blocksReceived := 0
    transfersCompleted := 0 }

theorem tally_append (acts others : List Act) :
    tally (acts ++ others) = tally acts + tally others := by
  have rejected : ∀ a b c d : Nat, b ≤ a → d ≤ c → a + c - (b + d) = (a - b) + (c - d) := by
    intro a b c d _ _
    omega
  change _ = Counters.add _ _
  simp only [tally, Counters.add, List.filterMap_append, List.filter_append, List.length_append,
    List.flatten_append, List.map_append, List.sum_append, List.countP_append,
    rejected _ _ _ _ (List.length_filter_le _ _) (List.length_filter_le _ _), UInt64.ofNat_add]
  rfl

theorem tally_of_idle {a : Act} (unread : a.arrival? = none) (unwritten : a.written? = none) :
    tally [a] = 0 := by
  simp only [tally, List.filterMap_cons, List.filterMap_nil, unread, unwritten]
  rfl

theorem tally_of_written {a : Act} {o : Octets} (unread : a.arrival? = none)
    (h : a.written? = some o) : tally [a] = .encoded (.ofNat o.length) := by
  simp only [tally, List.filterMap_cons, List.filterMap_nil, unread, h, List.flatten_cons,
    List.flatten_nil, List.append_nil]
  rfl

/-- An act that reads a datagram counts it once, in its class. -/
theorem tally_of_arrival {a : Act} {r : Arrival} (h : a.arrival? = some r)
    (unwritten : a.written? = none) : tally [a] = r.count := by
  have once : ∀ (P : Arrival → Prop) [DecidablePred P],
      UInt64.ofNat ([r].countP fun a => decide (P a)) = if P r then 1 else 0 := by
    intro P _
    by_cases hr : P r <;> simp [hr]
  simp only [tally, Arrival.count, List.filterMap_cons, List.filterMap_nil, h, unwritten, once]
  by_cases accepted : r.Accepted <;> simp [accepted]

theorem Arrival.counts_eq (r : Arrival) (some_octets : r.octets ≠ []) :
    (match Packet.decode r.rules r.octets with
      | .ok _ => Counters.decoded (.ofNat r.octets.length)
      | .error fault => .failed fault) = r.count := by
  have positive : 1 ≤ r.octets.length := List.length_pos_iff.mpr some_octets
  cases h : Packet.decode r.rules r.octets with
  | ok p =>
    have accepted : r.Accepted := accepted_iff.mpr ⟨p, h⟩
    obtain ⟨kind, peeked, -⟩ := Reading.bind_eq_ok_iff.mp h
    obtain ⟨f, hf, known⟩ := Packet.peekOpcode_eq_ok_iff.mp peeked
    obtain ⟨few, many, foreign⟩ := r.class_of_read hf
    simp [count, accepted, few, many, foreign, Opcode.ofWord?_eq_some_iff.mpr known,
      Counters.decoded]
  | error fault =>
    have accepted : ¬ r.Accepted := not_accepted_of_error h
    cases Packet.refusal_of_decode h with
    | undersized short =>
      have few : r.Undersized := by unfold Undersized; omega
      have many : ¬ r.Oversized := by unfold Oversized; omega
      have foreign : ¬ r.Foreign := by unfold Foreign; omega
      simp [count, accepted, few, many, foreign, Counters.failed]
    | oversized long =>
      have few : ¬ r.Undersized := by unfold Undersized; omega
      have many : r.Oversized := long
      have foreign : ¬ r.Foreign := by unfold Foreign; omega
      simp [count, accepted, few, many, foreign, Counters.failed]
    | unknown f hf none =>
      obtain ⟨few, many, foreign⟩ := r.class_of_read hf
      simp [count, accepted, few, many, foreign, none, Counters.failed]
    | body f hf kind known _ inBody =>
      obtain ⟨few, many, foreign⟩ := r.class_of_read hf
      have counted : Counters.failed fault = { decodeFailures := 1 } := by
        cases fault <;> simp_all [Fault.isInBody, Counters.failed]
      simp [count, accepted, few, many, foreign, Opcode.ofWord?_eq_some_iff.mpr known, counted]

/-- An act counts what it is. -/
theorem Act.counts_step (a : Act) : a.step.counts = tally [a] := by
  obtain ⟨port, op⟩ := a
  cases op with
  | push o => exact (tally_of_idle rfl rfl).symm
  | clear => exact (tally_of_idle rfl rfl).symm
  | encode packet =>
    have written : (⟨port, .encode packet⟩ : Act).written? = some packet.encode := by
      simp [written?, step, (port.perform_encode packet).2]
    rw [tally_of_written rfl written, packet.length_encode]
    exact Counters.add_zero _
  | decode =>
    by_cases empty : port.buffer = []
    · have unread : (⟨port, .decode⟩ : Act).arrival? = none := by simp [arrival?, empty]
      rw [tally_of_idle unread rfl, step, Port.perform_decode_of_empty empty]
      rfl
    · have read : (⟨port, .decode⟩ : Act).arrival? = some ⟨port.codec.rules, port.buffer⟩ := by
        simp [arrival?, empty]
      rw [tally_of_arrival read rfl, ← Arrival.counts_eq _ empty]
      have filled : port.buffer.isEmpty = false := List.isEmpty_eq_false_iff.mpr empty
      simp only [step, Port.perform, decode, filled, Packet.decodeView_eq, View.octets_whole,
        Bool.false_eq_true, if_false]
      cases Packet.decode port.codec.rules port.buffer with
      | ok packet => rfl
      | error fault => rfl

/-! ### Runs -/

/-- An operation that a codec is asked for on one of several buffers. -/
structure Job (ι : Type) where
  codec : Codec
  buffer : ι
  op : Operation

/-- Several buffers, and the counters that all codecs share. -/
structure Desk (ι : Type) where
  buffers : ι → Octets
  counters : Counters

namespace Desk

variable {ι : Type}

/-- The operation on what its buffer holds now. -/
def act (d : Desk ι) (job : Job ι) : Act := ⟨⟨job.codec, d.buffers job.buffer⟩, job.op⟩

variable [DecidableEq ι]

/-- The desk after an operation. -/
def perform (d : Desk ι) (job : Job ι) : Desk ι where
  buffers := Function.update d.buffers job.buffer (d.act job).step.state.buffer
  counters := d.counters + (d.act job).step.counts

/-- The desk after some operations. -/
def after (d : Desk ι) (jobs : List (Job ι)) : Desk ι := jobs.foldl perform d

/-- The acts of a run, in order. -/
def acts (d : Desk ι) : List (Job ι) → List Act
  | [] => []
  | job :: jobs => d.act job :: (d.perform job).acts jobs

/-- **The counters classify the datagrams.** Over any run of operations, of any codecs on any buffers,
the counters go up, modulo 2 ^ 64, by what the datagrams and the buffers show: the datagrams that the
grammar accepts and their octets; those of one to three octets, those of more than 516, and those
between whose opcode stands for no kind; all that came and were not accepted; and the packets written
and the octets put into the buffers. Decoding an empty buffer counts nothing, and neither do the
sessions' counters move. -/
theorem counters_after (d : Desk ι) (jobs : List (Job ι)) :
    (d.after jobs).counters = d.counters + tally (d.acts jobs) := by
  induction jobs generalizing d with
  | nil => exact (Counters.add_zero d.counters).symm
  | cons job jobs ih =>
    have first : (d.perform job).counters = d.counters + tally [d.act job] :=
      congrArg (d.counters + ·) (d.act job).counts_step
    calc (d.after (job :: jobs)).counters
      _ = (d.perform job).counters + tally ((d.perform job).acts jobs) := ih (d.perform job)
      _ = d.counters + (tally [d.act job] + tally ((d.perform job).acts jobs)) := by
          rw [first, Counters.add_assoc]
      _ = d.counters + tally (d.acts (job :: jobs)) := by
          rw [← tally_append]
          rfl

/-- Two packets in one buffer came as one datagram of eight octets, and no packet was read. -/
example :
    ((⟨fun _ => [], 0⟩ : Desk Unit).after [⟨{}, (), .encode (.acknowledgment ⟨1⟩)⟩,
      ⟨{}, (), .encode (.acknowledgment ⟨2⟩)⟩, ⟨{}, (), .decode⟩]).counters =
      { datagramsEncoded := 2, bytesEncoded := 8, decodeFailures := 1 } := by
  decide +kernel

end Desk
end Codec
end Tftp
