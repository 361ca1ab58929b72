import Tftp.Proofs.Block
import Tftp.Receiver

/-! # What a receiver has stored

`Receiver.receive_cases` says once what taking a packet can come to: the packet is refused and
leaves no mark, it is the block stored last and is acknowledged again, its content does not get
into the sink, or it is stored.

`Receiver.Holds packets k r` relates a receiver to the blocks of a sender: the first `k` of them are
stored and settled, and the receiver waits for the next one, unless it has finished or its sink has
failed. A packet of the sender keeps this relation (`Holds.receive`), as long as its number is not
mistaken for that of the block stored last or of the block that is expected. -/

namespace Tftp

namespace Receiver

/-! ### One packet -/

/-- The receiver after the content of a packet got into the sink. -/
def wrote (r : Receiver) (p : DataPacket) (sink : Sink) : Receiver :=
  { r with
    sink, bytesWritten := r.bytesWritten + UInt64.ofNat p.payload.length
    lastAccepted := some p.block }

/-- The receiver after its sink failed. -/
def failed (r : Receiver) (sink : Sink) : Receiver := { r with sink, sinkFailed := true }

/-- The packet is the next block, and nothing stands against storing it. -/
structure Awaits (r : Receiver) (p : DataPacket) : Prop where
  sound : r.sinkFailed = false
  fresh : r.lastAccepted ≠ some p.block
  running : r.finished = false
  expected : p.block = r.expected
  allowed : r.exhausted = false

theorem receive_of_awaits {r : Receiver} {p : DataPacket} (h : r.Awaits p) :
    r.receive p = r.store p := by
  rw [receive, if_neg (by simp [h.sound]), if_neg h.fresh, if_neg (by simp [h.running]),
    if_neg (not_not_intro h.expected), if_neg (by simp [h.allowed])]

theorem store_cases (r : Receiver) (p : DataPacket) :
    (∃ e sink, r.sink.writeAll p.payload = (.error e, sink) ∧
      (r.store p).result = .error (.io e) ∧ (r.store p).state = r.failed sink) ∨
    (∃ sink, r.sink.writeAll p.payload = (.ok (), sink) ∧
      ((p.isFinal = false ∧ (r.store p).result = .ok ⟨p.block⟩ ∧
          (r.store p).state = { r.wrote p sink with
            exhausted := r.exhausted || (p.block == 65535 && !r.rules.allowRollover)
            expected := p.block + 1 }) ∨
        (p.isFinal = true ∧ ∃ e sink', sink.flush = (.error e, sink') ∧
          (r.store p).result = .error (.io e) ∧
          (r.store p).state = (r.wrote p sink).failed sink') ∨
        (p.isFinal = true ∧ ∃ sink', sink.flush = (.ok (), sink') ∧
          (r.store p).result = .ok ⟨p.block⟩ ∧
          (r.store p).state = { r.wrote p sink' with finished := true }))) := by
  unfold store
  cases hw : r.sink.writeAll p.payload with
  | mk result sink =>
    cases result with
    | error e => exact Or.inl ⟨e, sink, rfl, rfl, rfl⟩
    | ok =>
      refine Or.inr ⟨sink, rfl, ?_⟩
      cases hp : p.isFinal with
      | false => exact Or.inl ⟨rfl, rfl, rfl⟩
      | true =>
        right
        cases hs : sink.flush with
        | mk result sink' =>
          cases result with
          | error e =>
            refine Or.inl ⟨rfl, e, sink', rfl, ?_⟩
            simp [finish, hs, failed, wrote]
          | ok =>
            refine Or.inr ⟨rfl, sink', rfl, ?_⟩
            simp [finish, hs, wrote]

/-- A packet that is not awaited leaves no mark: it is the block stored last and is acknowledged
again, or it is refused for a reason that is not the sink's. -/
theorem receive_of_not_awaits {r : Receiver} {p : DataPacket} (h : ¬ r.Awaits p) :
    (r.receive p).state = r ∧ (r.receive p).counts = 0 ∧
      ((r.sinkFailed = false ∧ r.lastAccepted = some p.block ∧
          (r.receive p).result = .ok ⟨p.block⟩) ∨
        ∃ fault, (r.receive p).result = .error fault ∧ ∀ e, fault ≠ .io e) := by
  unfold receive
  split
  · exact ⟨rfl, rfl, Or.inr ⟨_, rfl, nofun⟩⟩
  next sound =>
    split
    next again => exact ⟨rfl, rfl, Or.inl ⟨by simpa using sound, again, rfl⟩⟩
    next fresh =>
      split
      · exact ⟨rfl, rfl, Or.inr ⟨_, rfl, nofun⟩⟩
      next running =>
        split
        · exact ⟨rfl, rfl, Or.inr ⟨_, rfl, nofun⟩⟩
        next expected =>
          split
          · exact ⟨rfl, rfl, Or.inr ⟨_, rfl, nofun⟩⟩
          next allowed =>
            exact absurd ⟨by simpa using sound, fresh, by simpa using running,
              by simpa using expected, by simpa using allowed⟩ h

/-- What taking a packet can come to. -/
theorem receive_cases (r : Receiver) (p : DataPacket) :
    ((∃ fault, (r.receive p).result = .error fault) ∧ (r.receive p).state = r ∧ ¬ r.Awaits p) ∨
    (r.sinkFailed = false ∧ r.lastAccepted = some p.block ∧
      (r.receive p).result = .ok ⟨p.block⟩ ∧ (r.receive p).state = r) ∨
    (r.Awaits p ∧ r.receive p = r.store p) := by
  by_cases h : r.Awaits p
  · exact Or.inr (Or.inr ⟨h, receive_of_awaits h⟩)
  · obtain ⟨state, -, ⟨sound, last, result⟩ | ⟨fault, result, -⟩⟩ := receive_of_not_awaits h
    · exact Or.inr (Or.inl ⟨sound, last, result, state⟩)
    · exact Or.inl ⟨⟨fault, result⟩, state, h⟩

/-- The sink takes the content of the packet, and is flushed if the packet is the last. -/
def CanStore (r : Receiver) (p : DataPacket) : Prop :=
  ∃ sink, r.sink.writeAll p.payload = (.ok (), sink) ∧ (p.isFinal = true → sink.flush.1 = .ok ())

theorem receive_of_canStore {r : Receiver} {p : DataPacket} (awaits : r.Awaits p)
    (h : r.CanStore p) :
    (r.receive p).result = .ok ⟨p.block⟩ ∧
      (p.isFinal = true → (r.receive p).state.finished = true) := by
  obtain ⟨sink, written, flushed⟩ := h
  rw [receive_of_awaits awaits]
  rcases r.store_cases p with ⟨e, _, failed, -, -⟩ | ⟨sink', hw, stored⟩
  · rw [written] at failed
    cases failed
  · rw [written] at hw
    obtain rfl : sink = sink' := (Prod.mk.inj hw).2
    rcases stored with ⟨whole, result, -⟩ | ⟨final, e, _, failed, -, -⟩ | ⟨-, _, -, result, state⟩
    · refine ⟨result, ?_⟩
      intro final
      rw [whole] at final
      cases final
    · have := flushed final
      rw [failed] at this
      cases this
    · refine ⟨result, ?_⟩
      intro _
      rw [state]

theorem receive_rules (r : Receiver) (p : DataPacket) : (r.receive p).state.rules = r.rules := by
  rcases r.receive_cases p with ⟨-, e, -⟩ | ⟨-, -, -, e⟩ | ⟨-, e⟩
  · rw [e]
  · rw [e]
  · rw [e]
    rcases r.store_cases p with ⟨_, _, -, -, e⟩ | ⟨_, -, ⟨-, -, e⟩ | ⟨-, _, _, -, -, e⟩ | ⟨-, _, -, -, e⟩⟩
    all_goals rw [e]; rfl

/-! ### All packets -/

/-- The first `k` of the given blocks are stored and settled. -/
structure Holds (packets : List DataPacket) (k : Nat) (r : Receiver) : Prop where
  le : k ≤ packets.length
  stored : r.sinkFailed = false → r.sink.stored = payloads (packets.take k)
  /-- A sink that failed holds a part of the next block, perhaps all of it, but the block does not
  count. -/
  part : r.sinkFailed = true →
    k < packets.length ∧ r.finished = false ∧ r.sink.stored <+: payloads packets
  last : r.sinkFailed = false →
    r.lastAccepted = if k = 0 then none else some (blockNumber k)
  next : r.sinkFailed = false → r.finished = false → r.expected = blockNumber (k + 1)
  full : r.finished = false → ∀ p ∈ packets.take k, p.isFinal = false
  final : r.finished = true → 0 < k ∧ ∃ p, packets[k - 1]? = some p ∧ p.isFinal = true
  /-- The counter stops at its end, and only there. -/
  stopped : r.exhausted = true → r.rules.allowRollover = false ∧ 65535 ≤ k

theorem holds_new {sink : Sink} (h : sink.stored = []) (rules : TransferRules) :
    ((new sink).withRules rules).Holds [] 0 where
  le := Nat.le_refl _
  stored _ := h
  part h := by cases h
  last _ := rfl
  next _ _ := rfl
  full _ p h := by simp at h
  final h := by cases h
  stopped h := by cases h

namespace Holds

variable {packets : List DataPacket} {k : Nat} {r : Receiver}

theorem append (h : r.Holds packets k) (p : DataPacket) : r.Holds (packets ++ [p]) k where
  le := by
    have := h.le
    rw [List.length_append]
    omega
  stored sound := by rw [List.take_append_of_le_length h.le, h.stored sound]
  part broken := by
    obtain ⟨lt, running, some⟩ := h.part broken
    refine ⟨?_, running, some.trans ?_⟩
    · rw [List.length_append]
      omega
    · rw [payloads_append]
      exact List.prefix_append ..
  last := h.last
  next := h.next
  full running := by
    rw [List.take_append_of_le_length h.le]
    exact h.full running
  final ended := by
    obtain ⟨pos, q, hq, final⟩ := h.final ended
    refine ⟨pos, q, ?_, final⟩
    have := h.le
    rw [List.getElem?_append_left (by omega), hq]
  stopped := h.stopped

theorem eq_of_last (h : r.Holds packets k) (sound : r.sinkFailed = false) {w : UInt16}
    (hl : r.lastAccepted = some w) : 0 < k ∧ w = blockNumber k := by
  rw [h.last sound] at hl
  split at hl
  · cases hl
  · exact ⟨by omega, (Option.some.inj hl).symm⟩

/-- A sink that fails settles nothing; what it took is the beginning of the next block. -/
theorem fail (h : r.Holds packets k) (sound : r.sinkFailed = false) {p : DataPacket}
    (hp : packets[k]? = some p) {r' : Receiver} (broken : r'.sinkFailed = true)
    (running : r'.finished = false ∧ r.finished = false)
    (kept : r'.exhausted = r.exhausted ∧ r'.rules = r.rules) {n : Nat}
    (hs : r'.sink.stored = r.sink.stored ++ p.payload.take n) : r'.Holds packets k where
  le := h.le
  stored sound' := by
    rw [broken] at sound'
    cases sound'
  part _ := by
    refine ⟨(List.getElem?_eq_some_iff.mp hp).1, running.1, ?_⟩
    have some : r'.sink.stored <+: payloads (packets.take k) ++ p.payload := by
      rw [hs, h.stored sound]
      exact (List.prefix_append_right_inj _).mpr (List.take_prefix ..)
    rw [← payloads_take_succ hp] at some
    exact some.trans (payloads_take_prefix_payloads ..)
  last sound' := by
    rw [broken] at sound'
    cases sound'
  next sound' := by
    rw [broken] at sound'
    cases sound'
  full _ := h.full running.2
  final ended := by
    rw [running.1] at ended
    cases ended
  stopped := by
    rw [kept.1, kept.2]
    exact h.stopped

theorem full_succ (h : r.Holds packets k) (running : r.finished = false) {p : DataPacket}
    (hp : packets[k]? = some p) (whole : p.isFinal = false) :
    ∀ q ∈ packets.take (k + 1), q.isFinal = false := by
  intro q hq
  rw [List.take_add_one, hp, Option.toList_some] at hq
  rcases List.mem_append.mp hq with old | new
  · exact h.full running q old
  · rwa [List.mem_singleton.mp new]

/-- A full block is settled when it got into the sink. -/
theorem advance (h : r.Holds packets k) {p : DataPacket} (awaits : r.Awaits p)
    (hp : packets[k]? = some p) (whole : p.isFinal = false) {sink : Sink}
    (hs : sink.stored = r.sink.stored ++ p.payload) :
    Holds packets (k + 1) { r.wrote p sink with
      exhausted := r.exhausted || (p.block == 65535 && !r.rules.allowRollover)
      expected := p.block + 1 } where
  le := (List.getElem?_eq_some_iff.mp hp).1
  stored _ := by rw [payloads_take_succ hp, ← h.stored awaits.sound, ← hs]; rfl
  part broken := by
    have : r.sinkFailed = true := broken
    rw [awaits.sound] at this
    cases this
  last _ := by
    rw [if_neg (Nat.succ_ne_zero k), ← h.next awaits.sound awaits.running, ← awaits.expected]
    rfl
  next _ _ := by
    rw [blockNumber_succ, ← h.next awaits.sound awaits.running, ← awaits.expected]
  full _ := h.full_succ awaits.running hp whole
  final ended := by
    have : r.finished = true := ended
    rw [awaits.running] at this
    cases this
  stopped ended := by
    rw [awaits.allowed, Bool.false_or, Bool.and_eq_true, beq_iff_eq, Bool.not_eq_true'] at ended
    refine ⟨ended.2, ?_⟩
    have number : blockNumber (k + 1) = blockNumber 65535 := by
      rw [← h.next awaits.sound awaits.running, ← awaits.expected, ended.1]
      rfl
    have := blockNumber_eq_iff.mp number
    omega

/-- A short block is settled when it got into the sink and the sink was flushed. -/
theorem finish (h : r.Holds packets k) {p : DataPacket} (awaits : r.Awaits p)
    (hp : packets[k]? = some p) (final : p.isFinal = true) {sink : Sink}
    (hs : sink.stored = r.sink.stored ++ p.payload) :
    Holds packets (k + 1) { r.wrote p sink with finished := true } where
  le := (List.getElem?_eq_some_iff.mp hp).1
  stored _ := by rw [payloads_take_succ hp, ← h.stored awaits.sound, ← hs]; rfl
  part broken := by
    have : r.sinkFailed = true := broken
    rw [awaits.sound] at this
    cases this
  last _ := by
    rw [if_neg (Nat.succ_ne_zero k), ← h.next awaits.sound awaits.running, ← awaits.expected]
    rfl
  next _ running := by cases running
  full running := by cases running
  final _ := ⟨Nat.succ_pos k, p, hp, final⟩
  stopped ended := by
    have : r.exhausted = true := ended
    rw [awaits.allowed] at this
    cases this

/-- Storing the next block settles it, or the sink fails. -/
theorem store (h : r.Holds packets k) {p : DataPacket} (awaits : r.Awaits p)
    (hp : packets[k]? = some p) :
    ((∃ fault, (r.store p).result = .error fault) ∧ (r.store p).state.Holds packets k) ∨
    ((r.store p).result = .ok ⟨p.block⟩ ∧ (r.store p).state.Holds packets (k + 1)) := by
  have running := awaits.running
  rcases r.store_cases p with ⟨e, sink, hw, result, state⟩ | ⟨sink, hw, hp'⟩
  · obtain ⟨n, -, hs⟩ := Sink.stored_of_writeAll_error hw
    refine Or.inl ⟨⟨_, result⟩, ?_⟩
    rw [state]
    exact h.fail awaits.sound hp rfl ⟨running, running⟩ ⟨rfl, rfl⟩ hs
  · have hs := Sink.stored_of_writeAll_ok hw
    rcases hp' with ⟨whole, result, state⟩ | ⟨final, e, sink', hf, result, state⟩ |
      ⟨final, sink', hf, result, state⟩
    · rw [result, state]
      exact Or.inr ⟨rfl, h.advance awaits hp whole hs⟩
    · refine Or.inl ⟨⟨_, result⟩, ?_⟩
      rw [state]
      refine h.fail awaits.sound hp rfl ⟨running, running⟩ ⟨rfl, rfl⟩ (n := p.payload.length) ?_
      rw [List.take_length, ← hs, ← Sink.stored_flush sink, hf]
      rfl
    · rw [result, state]
      refine Or.inr ⟨rfl, h.finish awaits hp final ?_⟩
      rw [← hs, ← Sink.stored_flush sink, hf]

theorem finished_iff (h : r.Holds packets packets.length) :
    r.finished = true ↔ ∃ p ∈ packets, p.isFinal = true := by
  constructor
  · intro ended
    obtain ⟨-, p, hp, short⟩ := h.final ended
    exact ⟨p, List.mem_of_getElem? hp, short⟩
  · rintro ⟨p, hp, short⟩
    cases running : r.finished with
    | true => rfl
    | false =>
      have := h.full running p (by rwa [List.take_length])
      rw [short] at this
      cases this

theorem receive_last (h : r.Holds packets k) (sound : r.sinkFailed = false) (pos : 0 < k)
    {p : DataPacket} (hb : p.block = blockNumber k) :
    (r.receive p).result = .ok ⟨p.block⟩ ∧ (r.receive p).state = r := by
  have last : r.lastAccepted = some p.block := by
    rw [h.last sound, if_neg (Nat.ne_of_gt pos), hb]
  rcases r.receive_cases p with ⟨⟨fault, refused⟩, -, -⟩ | ⟨-, -, result, state⟩ | ⟨awaits, -⟩
  · unfold receive at refused
    rw [if_neg (by simp [sound]), if_pos last] at refused
    cases refused
  · exact ⟨result, state⟩
  · exact absurd last awaits.fresh

theorem awaits_next (h : r.Holds packets k) (sound : r.sinkFailed = false)
    (running : r.finished = false) (allowed : r.rules.allowRollover = true ∨ k < 65535)
    {p : DataPacket} (hb : p.block = blockNumber (k + 1)) : r.Awaits p where
  sound := sound
  fresh last := by
    obtain ⟨-, same⟩ := h.eq_of_last sound last
    have := blockNumber_eq_iff.mp (hb.symm.trans same)
    omega
  running := running
  expected := by rw [hb, h.next sound running]
  allowed := by
    cases ended : r.exhausted with
    | false => rfl
    | true =>
      obtain ⟨strict, stands⟩ := h.stopped ended
      rw [strict] at allowed
      rcases allowed with rollover | below
      · cases rollover
      · omega

/-- A block of the sender whose number is not mistaken for another is settled, acknowledged again,
or leaves no more than a failed sink. -/
theorem receive (h : r.Holds packets k) {p : DataPacket} {n : Nat} (pos : 0 < n)
    (hp : packets[n - 1]? = some p) (hb : p.block = blockNumber n)
    (again : blockNumber n = blockNumber k → n = k)
    (next : blockNumber n = blockNumber (k + 1) → n = k + 1) :
    ((∃ fault, (r.receive p).result = .error fault) ∧ (r.receive p).state.Holds packets k) ∨
    ((n = k ∨ n = k + 1) ∧ (r.receive p).result = .ok ⟨blockNumber n⟩ ∧
      (r.receive p).state.Holds packets n) := by
  rcases r.receive_cases p with ⟨refused, state, -⟩ | ⟨sound, last, result, state⟩ | ⟨awaits, e⟩
  · rw [state]
    exact Or.inl ⟨refused, h⟩
  · have same : n = k := again (hb ▸ (h.eq_of_last sound last).2)
    rw [state, result, hb]
    exact Or.inr ⟨Or.inl same, rfl, same ▸ h⟩
  · have succ : n = k + 1 := next (by rw [← hb, awaits.expected, h.next awaits.sound awaits.running])
    subst succ
    rw [e, ← hb]
    rcases h.store awaits hp with refused | accepted
    · exact Or.inl refused
    · exact Or.inr ⟨Or.inr rfl, accepted⟩

end Holds
end Receiver
end Tftp
