import Mathlib.Data.List.Induction
import Tftp.Proofs.Calls

/-! # The sink is a file in order

Whatever a peer sends, what a receiver has stored are the blocks 1, 2, 3, … of one file.

`Account stored cut r` relates a receiver to the calls that have been made on it: those that stored
their packet, in order, and those that broke off. The packets stored are numbered from 1, and only
the last can be short. Beyond that a receiver is in one of four phases: it waits for the next block;
it has finished with a short block, after which the sink was flushed; its sink has failed within a
block; or its sink has failed when it was flushed after a short block. One call keeps the account
(`Account.call`), so every run does (`account_after`).

* `Receiver.stored_in_order` says what the sink holds at any point of any run.
* `Receiver.acknowledged_is_stored` says that what is acknowledged is in the sink, and that a short
  block is never acknowledged if the flush after it failed. -/

namespace Tftp

/-- The contents of the packets of some calls, joined. -/
def Call.contents (calls : List Call) : Octets := payloads (calls.map Call.packet)

theorem Call.contents_concat (calls : List Call) (c : Call) :
    contents (calls ++ [c]) = contents calls ++ c.packet.payload := by
  rw [contents, contents, List.map_append, payloads_append, List.map_singleton,
    payloads_singleton]

theorem Call.stored_concat {sink sink' : Sink} {calls : List Call} {c : Call}
    (before : c.receiver.sink.stored = sink.stored ++ contents calls)
    (put : sink'.stored = c.receiver.sink.stored ++ c.packet.payload) :
    sink'.stored = sink.stored ++ contents (calls ++ [c]) := by
  rw [contents_concat, ← List.append_assoc, ← before]
  exact put

namespace Receiver

/-! ### The account of a run -/

section

variable (sink : Sink) (stored cut : List Call) (r : Receiver)

/-- How far a receiver has come that began with the given sink. -/
inductive Phase : Prop
  /-- All blocks are full, and the next one is awaited. -/
  | waiting (sound : r.sinkFailed = false) (running : r.finished = false)
      (next : r.expected = blockNumber (stored.length + 1))
      (full : ∀ c ∈ stored, c.packet.isFinal = false)
      (whole : r.sink.stored = sink.stored ++ Call.contents stored) (uncut : cut = [])
  /-- The last block is short, and the sink was flushed after it. -/
  | finished (sound : r.sinkFailed = false) (ended : r.finished = true) (c : Call)
      (last : stored.getLast? = some c) (final : c.packet.isFinal = true)
      (flushed : c.flushed = true)
      (whole : r.sink.stored = sink.stored ++ Call.contents stored) (uncut : cut = [])
  /-- The sink has failed within the block after those stored. -/
  | cut (broken : r.sinkFailed = true) (running : r.finished = false)
      (full : ∀ c ∈ stored, c.packet.isFinal = false) (c : Call) (n : Nat)
      (part : r.sink.stored =
        sink.stored ++ Call.contents stored ++ c.packet.payload.take n) (once : cut = [c])
  /-- The last block is short, and the sink has failed when it was flushed after it. -/
  | unflushed (broken : r.sinkFailed = true) (running : r.finished = false) (c : Call)
      (last : stored.getLast? = some c) (final : c.packet.isFinal = true)
      (unflushed : c.flushed = false)
      (whole : r.sink.stored = sink.stored ++ Call.contents stored) (uncut : cut = [])

/-- What a receiver has come to by calls of which some stored their packet and some broke off. -/
structure Account : Prop where
  numbered : ∀ i c, stored[i]? = some c → c.packet.block = blockNumber (i + 1)
  /-- Only the last block can be short. -/
  full : ∀ c ∈ stored.dropLast, c.packet.isFinal = false
  last : r.lastAccepted = stored.getLast?.map fun c => c.packet.block
  bytes : r.bytesWritten = UInt64.ofNat (Call.contents stored).length
  phase : Phase sink stored cut r

end

theorem account_new (sink : Sink) : (new sink).Account sink [] [] where
  numbered i c h := by simp at h
  full c h := by simp at h
  last := rfl
  bytes := rfl
  phase := .waiting rfl rfl rfl (fun c h => by simp at h) (by simp [new, Call.contents, payloads])
    rfl

namespace Account

variable {sink : Sink} {stored cut : List Call} {r : Receiver}

theorem waiting (h : r.Account sink stored cut) {p : DataPacket} (awaits : r.Awaits p) :
    p.block = blockNumber (stored.length + 1) ∧ (∀ c ∈ stored, c.packet.isFinal = false) ∧
      r.sink.stored = sink.stored ++ Call.contents stored ∧ cut = [] := by
  cases h.phase with
  | waiting _ _ next full whole uncut => exact ⟨awaits.expected.trans next, full, whole, uncut⟩
  | finished _ ended =>
    rw [awaits.running] at ended
    cases ended
  | cut broken =>
    rw [awaits.sound] at broken
    cases broken
  | unflushed broken =>
    rw [awaits.sound] at broken
    cases broken

theorem concat {c : Call} (h : c.receiver.Account sink stored cut)
    (awaits : c.receiver.Awaits c.packet) {r : Receiver}
    (last : r.lastAccepted = some c.packet.block)
    (bytes : r.bytesWritten =
      c.receiver.bytesWritten + UInt64.ofNat c.packet.payload.length)
    (phase : Phase sink (stored ++ [c]) cut r) : r.Account sink (stored ++ [c]) cut where
  numbered i d hd := by
    rcases Nat.lt_or_ge i stored.length with old | new
    · rw [List.getElem?_append_left old] at hd
      exact h.numbered i d hd
    · rw [List.getElem?_append_right new] at hd
      obtain ⟨first, rfl⟩ : i - stored.length = 0 ∧ c = d := by
        simpa [List.getElem?_singleton] using hd
      have here : i = stored.length := by omega
      rw [here]
      exact (h.waiting awaits).1
  full := by
    rw [List.dropLast_concat]
    exact (h.waiting awaits).2.1
  last := by rw [last, List.getLast?_concat, Option.map_some]
  bytes := by
    rw [bytes, h.bytes, Call.contents_concat, List.length_append, UInt64.ofNat_add]
  phase := phase

/-- A call keeps the account. -/
theorem call {c : Call} (h : c.receiver.Account sink stored cut) :
    c.step.state.Account sink (stored ++ [c].filter Call.stores)
      (cut ++ [c].filter Call.breaksOff) := by
  cases c.outcome with
  | refused _ _ state | repeated _ _ _ state =>
    obtain ⟨stores, breaks⟩ := Call.untouched state
    rw [state, stores, breaks, List.append_nil, List.append_nil]
    exact h
  | cut awaits breaks _ _ sink' state n part =>
    obtain ⟨-, full, whole, uncut⟩ := h.waiting awaits
    obtain ⟨stores, breaks⟩ := Call.filter_of_breaksOff breaks
    rw [state, stores, breaks, uncut, List.append_nil, List.nil_append]
    refine ⟨h.numbered, h.full, h.last, h.bytes, ?_⟩
    refine .cut rfl awaits.running full c n ?_ rfl
    rw [← whole]
    exact part
  | advanced awaits stores full' _ sink' exhausted state whole' =>
    obtain ⟨number, full, whole, uncut⟩ := h.waiting awaits
    obtain ⟨stores, breaks⟩ := Call.filter_of_stores stores
    rw [state, stores, breaks, List.append_nil]
    refine h.concat awaits rfl rfl ?_
    refine .waiting awaits.sound awaits.running ?_ ?_ ?_ uncut
    · rw [List.length_append, List.length_singleton, blockNumber_succ, ← number]
    · intro d hd
      rcases List.mem_append.mp hd with old | new
      · exact full d old
      · rwa [List.mem_singleton.mp new]
    · exact Call.stored_concat whole whole'
  | unflushed awaits stores final flushed _ _ sink' state whole' =>
    obtain ⟨-, -, whole, uncut⟩ := h.waiting awaits
    obtain ⟨stores, breaks⟩ := Call.filter_of_stores stores
    rw [state, stores, breaks, List.append_nil]
    refine h.concat awaits rfl rfl ?_
    exact .unflushed rfl awaits.running c List.getLast?_concat final flushed
      (Call.stored_concat whole whole') uncut
  | finished awaits stores final flushed _ sink' state whole' =>
    obtain ⟨-, -, whole, uncut⟩ := h.waiting awaits
    obtain ⟨stores, breaks⟩ := Call.filter_of_stores stores
    rw [state, stores, breaks, List.append_nil]
    refine h.concat awaits rfl rfl ?_
    exact .finished awaits.sound rfl c List.getLast?_concat final flushed
      (Call.stored_concat whole whole') uncut

theorem withRules (h : r.Account sink stored cut) (rules : TransferRules) :
    (r.withRules rules).Account sink stored cut where
  numbered := h.numbered
  full := h.full
  last := h.last
  bytes := h.bytes
  phase := by
    cases h.phase with
    | waiting sound running next full whole uncut =>
      exact .waiting sound running next full whole uncut
    | finished sound ended c last final flushed whole uncut =>
      exact .finished sound ended c last final flushed whole uncut
    | cut broken running full c n part once => exact .cut broken running full c n part once
    | unflushed broken running c last final unflushed whole uncut =>
      exact .unflushed broken running c last final unflushed whole uncut

end Account

/-- The account of any run. -/
theorem account_after (sink : Sink) (inputs : List Input) :
    ((new sink).after inputs).Account sink (((new sink).calls inputs).filter Call.stores)
      (((new sink).calls inputs).filter Call.breaksOff) := by
  induction inputs using List.reverseRecOn with
  | nil => exact account_new sink
  | append_singleton inputs input ih =>
    rw [after_concat, calls_concat, List.filter_append, List.filter_append]
    cases input with
    | packet p => exact Account.call (c := ⟨_, p⟩) ih
    | rules rules =>
      simp only [callOf, Option.toList_none, List.filter_nil, List.append_nil]
      exact ih.withRules rules

/-! ### What an account tells -/

namespace Account

variable {sink : Sink} {stored cut : List Call} {r : Receiver}

/-- A receiver has finished exactly if the last block stored is short and the sink was flushed
after it. -/
theorem finished_iff (h : r.Account sink stored cut) :
    r.finished = true ↔
      ∃ c, stored.getLast? = some c ∧ c.packet.isFinal = true ∧ c.flushed = true := by
  constructor
  · intro ended
    cases h.phase with
    | finished _ _ c last final flushed => exact ⟨c, last, final, flushed⟩
    | waiting _ running | cut _ running | unflushed _ running =>
      rw [running] at ended
      cases ended
  · rintro ⟨c, last, final, flushed⟩
    have mem : c ∈ stored := List.mem_of_getLast? last
    cases h.phase with
    | finished _ ended => exact ended
    | waiting _ _ _ full =>
      rw [full c mem] at final
      cases final
    | cut _ _ full =>
      rw [full c mem] at final
      cases final
    | unflushed _ _ d last' _ unflushed =>
      obtain rfl : c = d := Option.some.inj (last.symm.trans last')
      rw [flushed] at unflushed
      cases unflushed

theorem of_sound (h : r.Account sink stored cut) (sound : r.sinkFailed = false) :
    r.sink.stored = sink.stored ++ Call.contents stored ∧
      ∀ c, stored.getLast? = some c → c.packet.isFinal = true → c.flushed = true := by
  cases h.phase with
  | waiting _ _ _ full whole =>
    refine ⟨whole, ?_⟩
    intro c last final
    rw [full c (List.mem_of_getLast? last)] at final
    cases final
  | finished _ _ d last' _ flushed whole =>
    refine ⟨whole, ?_⟩
    intro c last _
    obtain rfl : c = d := Option.some.inj (last.symm.trans last')
    exact flushed
  | cut broken | unflushed broken =>
    rw [sound] at broken
    cases broken

/-- A short block is the last of those stored. If the sink was not flushed after it, the sink has
failed for good. -/
theorem of_unflushed (h : r.Account sink stored cut) {c : Call} (mem : c ∈ stored)
    (final : c.packet.isFinal = true) (unflushed : c.flushed = false) :
    r.sinkFailed = true ∧ r.lastAccepted = some c.packet.block := by
  have last : stored.getLast? = some c := by
    rcases List.eq_nil_or_concat stored with none | ⟨init, d, rfl⟩
    · rw [none] at mem
      cases mem
    · rw [List.concat_eq_append] at mem ⊢
      rcases List.mem_append.mp mem with before | at_end
      · have := h.full c (by rwa [List.concat_eq_append, List.dropLast_concat])
        rw [final] at this
        cases this
      · rw [List.getLast?_concat, List.mem_singleton.mp at_end]
  constructor
  · cases broken : r.sinkFailed with
    | true => rfl
    | false =>
      have := (h.of_sound broken).2 c last final
      rw [unflushed] at this
      cases this
  · rw [h.last, last, Option.map_some]

end Account

/-! ### Any run -/

/-- **The sink is a file in order.** At any point of any run, whatever packets arrive and whatever the
sink does: the packets whose content the sink has taken whole are numbered 1, 2, 3, … modulo 65536;
all of them but the last are full; the sink holds their contents, one after the other, and after them
at most a beginning of one packet within which it failed; their octets are counted; and the receiver
has finished exactly if the last of them is short and the sink was flushed after it. -/
theorem stored_in_order (sink : Sink) (inputs : List Input) :
    let r := (new sink).after inputs
    let calls := (new sink).calls inputs
    let stored := calls.filter Call.stores
    let blocks := stored.map Call.packet
    (∀ i p, blocks[i]? = some p → p.block.toNat = (i + 1) % 65536) ∧
    (∀ p ∈ blocks.dropLast, p.payload.length = 512) ∧
    (∃ rest, r.sink.stored = sink.stored ++ payloads blocks ++ rest ∧
      ((calls.filter Call.breaksOff = [] ∧ rest = []) ∨
        ∃ c, calls.filter Call.breaksOff = [c] ∧ rest <+: c.packet.payload)) ∧
    ((payloads blocks).length < UInt64.size → r.bytesWritten.toNat = (payloads blocks).length) ∧
    (r.finished = true ↔
      ∃ c, stored.getLast? = some c ∧ c.packet.isFinal = true ∧ c.flushed = true) := by
  intro r calls stored blocks
  have account : r.Account sink stored (calls.filter Call.breaksOff) := account_after sink inputs
  refine ⟨?_, ?_, ?_, ?_, account.finished_iff⟩
  · intro i p hp
    obtain ⟨c, hc, rfl⟩ : ∃ c, stored[i]? = some c ∧ c.packet = p := by
      simpa [blocks, List.getElem?_map] using hp
    rw [account.numbered i c hc, blockNumber, UInt16.toNat_ofNat']
  · intro p hp
    rw [← List.map_dropLast] at hp
    obtain ⟨c, hc, rfl⟩ := List.mem_map.mp hp
    exact c.packet.length_payload_of_full (account.full c hc)
  · cases account.phase with
    | waiting _ _ _ _ whole uncut | finished _ _ _ _ _ _ whole uncut
    | unflushed _ _ _ _ _ _ whole uncut =>
      exact ⟨[], whole.trans (List.append_nil _).symm, Or.inl ⟨uncut, rfl⟩⟩
    | cut _ _ _ c n part once => exact ⟨_, part, Or.inr ⟨c, once, List.take_prefix ..⟩⟩
  · intro small
    have bytes : r.bytesWritten = UInt64.ofNat (payloads blocks).length := account.bytes
    rw [bytes, UInt64.toNat_ofNat', Nat.mod_eq_of_lt small]

/-- **No false acknowledgment.** At any point of any run, an acknowledgment carries the number of the
packet that is answered and of the block stored last; that block is in the sink with all those before
it, and if it is short, the sink was flushed after it. If the flush failed, neither the call that made
it nor any later one is acknowledged, although the block is the one stored last. -/
theorem acknowledged_is_stored (sink : Sink) (inputs : List Input) (p : DataPacket) :
    let r := (new sink).after inputs
    let stored := ((new sink).calls (inputs ++ [.packet p])).filter Call.stores
    (∀ ack, (r.receive p).result = .ok ack →
      ack.block = p.block ∧
      (r.receive p).state.sink.stored = sink.stored ++ payloads (stored.map Call.packet) ∧
      ∃ c, stored.getLast? = some c ∧ c.packet.block = ack.block ∧
        (c.packet.isFinal = true → c.flushed = true)) ∧
    ∀ c ∈ (new sink).calls inputs,
      c.stores = true → c.packet.isFinal = true → c.flushed = false →
        (∃ fault, c.step.result = .error fault) ∧
        r.lastAccepted = some c.packet.block ∧
        (r.receive p).result = .error (.session .sinkFailed) := by
  intro r stored
  constructor
  · intro ack acknowledged
    have account := account_after sink (inputs ++ [.packet p])
    rw [after_concat] at account
    obtain ⟨number, sound, last⟩ := Call.of_acknowledged (c := ⟨r, p⟩) acknowledged
    obtain ⟨whole, flushed⟩ := account.of_sound sound
    obtain ⟨c, hc, same⟩ : ∃ c, stored.getLast? = some c ∧ c.packet.block = p.block :=
      Option.map_eq_some_iff.mp (account.last.symm.trans last)
    exact ⟨number, whole, c, hc, same.trans number.symm, flushed c hc⟩
  · intro c mem stores final unflushed
    have account := account_after sink inputs
    obtain ⟨broken, last⟩ :=
      account.of_unflushed (List.mem_filter.mpr ⟨mem, stores⟩) final unflushed
    refine ⟨c.refused_of_unflushed stores final unflushed, last, ?_⟩
    have failed : r.sinkFailed = true := broken
    rw [receive, if_pos failed]
    rfl

/-- The flush after a short block fails. The block is the one stored last, and yet it is not
acknowledged when it comes again. -/
example :
    let first := (new { flushScript := [.fault (.ofKind .timedOut)] }).receive ⟨1, [7], by decide⟩
    first.state.lastAccepted = some 1 ∧
      (first.state.receive ⟨1, [7], by decide⟩).result = .error (.session .sinkFailed) := by
  decide +kernel

end Receiver
end Tftp
