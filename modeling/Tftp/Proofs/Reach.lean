import Tftp.Proofs.Lossless
import Tftp.Proofs.Turns
import Tftp.Settings

/-! # Bounds that can be reached

Settings are refused if they bound a transfer by a number of blocks that no transfer can come to.
Whether that is so depends on what a sender does in a run of up to 2^32 blocks, and the validation
looks only at two of its rules.

* However it is used, a sender that keeps its rules hands out no more datagrams than they allow
  (`Sender.length_emitted_le`). `Sender.Within` is the invariant: it adds to the history of the
  sender that its blocks are counted and within the capacity of the rules.
* A sender whose source does not fail and holds enough hands out one datagram in each call, until
  the capacity is reached (`Sender.length_handed`).

So a number of datagrams can be reached exactly if it is within the capacity
(`TransferRules.reaches_iff`), and validating settings asks whether the bound itself can be reached
(`Settings.validate_iff_reaches`). -/

namespace Tftp

namespace Sender

/-! ### Calls and runs -/

/-- The datagrams that a run hands out. -/
def emitted (s : Sender) (inputs : List Input) : List Octets := Turn.datagrams (s.turns inputs)

theorem emitted_concat (s : Sender) (inputs : List Input) (input : Input) :
    s.emitted (inputs ++ [input]) =
      s.emitted inputs ++ (⟨s.reached inputs, input⟩ : Turn).datagram?.toList := by
  rw [emitted, turns_concat, Turn.datagrams_concat]
  rfl

theorem reached_replicate_next (s : Sender) (k : Nat) :
    s.reached (List.replicate k .next) = s.after k := by
  induction k with
  | zero => rfl
  | succ k ih =>
    rw [List.replicate_succ', reached_concat, ih]
    rfl

theorem emitted_replicate_next (s : Sender) (k : Nat) :
    s.emitted (List.replicate k .next) = s.handed k := by
  induction k with
  | zero => rfl
  | succ k ih =>
    rw [List.replicate_succ', emitted_concat, ih, reached_replicate_next]
    rfl

/-! ### No more than the rules allow -/

/-- The sender has handed out the given blocks under the given rules and has counted them. -/
structure Within (content : Octets) (rules : TransferRules) (packets : List DataPacket)
    (s : Sender) : Prop where
  history : s.History content packets
  count : s.blocksSent.toNat = min packets.length (UInt64.size - 1)
  /-- The rules allow all of the blocks. -/
  bound : ∀ cap ∈ rules.capacity, packets.length ≤ cap
  rules : s.rules = rules

theorem within_new (source : Source) (rules : TransferRules) :
    ((new source).withRules rules).Within source.content rules [] where
  history := history_new source rules
  count := rfl
  bound _ _ := Nat.zero_le _
  rules := rfl

namespace Within

variable {content : Octets} {rules : TransferRules} {packets : List DataPacket} {s : Sender}

theorem isExhausted_eq_false_iff (h : s.Within content rules packets) :
    s.isExhausted = false ↔ ∀ cap ∈ rules.capacity, packets.length < cap :=
  h.rules ▸ h.history.isExhausted_eq_false_iff h.count

theorem handedOut (h : s.Within content rules packets) (running : s.finished = false)
    (allowed : s.isExhausted = false) (nofault : (s.source.fill s.held).fault = none)
    {p : DataPacket} (block : p.block = s.block + 1)
    (payload : p.payload = (s.source.fill s.held).held) :
    (s.handedOut p).Within content rules (packets ++ [p]) where
  history := h.history.handedOut running allowed nofault block payload
  count := toNat_countUp_concat h.count p
  bound cap mem := by
    rw [List.length_append, List.length_singleton]
    exact h.isExhausted_eq_false_iff.mp allowed cap mem
  rules := h.rules

theorem next (h : s.Within content rules packets) :
    ∃ more, s.next.state.Within content rules (packets ++ more) ∧
      more.map DataPacket.encode = s.next.result.toOption.join.toList := by
  rcases s.next_cases h.history.room with ⟨-, e⟩ | ⟨-, -, e⟩ | ⟨running, _, fault, e⟩ |
    ⟨running, allowed, nofault, p, block, payload, result, state⟩
  · rw [e]
    exact ⟨[], (List.append_nil packets).symm ▸ h, rfl⟩
  · rw [e]
    exact ⟨[], (List.append_nil packets).symm ▸ h, rfl⟩
  · have within : s.filled.Within content rules packets :=
      ⟨h.history.filled running fault, h.count, h.bound, h.rules⟩
    rw [e]
    exact ⟨[], (List.append_nil packets).symm ▸ within, rfl⟩
  · rw [result, state]
    exact ⟨[p], h.handedOut running allowed nofault block payload, rfl⟩

theorem acknowledge (h : s.Within content rules packets) (ack : Acknowledgment) :
    (s.acknowledge ack).state.Within content rules packets := by
  have history := h.history.acknowledge ack
  rcases s.acknowledge_cases ack with ⟨-, -, e⟩ | ⟨-, -, e⟩
  all_goals
    rw [e] at history ⊢
    exact ⟨history, h.count, h.bound, h.rules⟩

/-- A turn that leaves the rules as they are keeps the sender within them. -/
theorem turn {t : Turn} (h : t.sender.Within content rules packets)
    (kept : ∀ other, t.input ≠ .rules other) :
    ∃ more, t.after.Within content rules (packets ++ more) ∧
      more.map DataPacket.encode = t.datagram?.toList := by
  obtain ⟨s, input⟩ := t
  cases input with
  | next => exact h.next
  | acknowledge ack => exact ⟨[], (List.append_nil packets).symm ▸ h.acknowledge ack, rfl⟩
  | rules other => exact absurd rfl (kept other)

end Within

/-- What a run hands out under the rules that the sender began with. -/
theorem within_reached (source : Source) (rules : TransferRules) {inputs : List Input}
    (kept : ∀ other, .rules other ∉ inputs) :
    ∃ packets, (((new source).withRules rules).reached inputs).Within source.content rules packets ∧
      packets.map DataPacket.encode = ((new source).withRules rules).emitted inputs := by
  induction inputs using List.reverseRecOn with
  | nil => exact ⟨[], within_new source rules, rfl⟩
  | append_singleton inputs input ih =>
    obtain ⟨packets, within, written⟩ :=
      ih fun other mem => kept other (List.mem_append_left _ mem)
    have last : ∀ other, input ≠ .rules other := by
      rintro other rfl
      exact kept other List.mem_concat_self
    obtain ⟨more, within', written'⟩ :=
      within.turn (t := ⟨((new source).withRules rules).reached inputs, input⟩) last
    refine ⟨packets ++ more, ?_, ?_⟩
    · rw [reached_concat]
      exact within'
    · rw [emitted_concat, List.map_append, written, written']

variable {rules : TransferRules}

theorem length_emitted_le (source : Source) {inputs : List Input}
    (kept : ∀ other, .rules other ∉ inputs) {cap : Nat} (mem : cap ∈ rules.capacity) :
    (((new source).withRules rules).emitted inputs).length ≤ cap := by
  obtain ⟨packets, within, written⟩ := within_reached source rules kept
  rw [← written, List.length_map]
  exact within.bound cap mem

/-! ### As many as the rules allow -/

/-- As long as there is content, the rules allow it and the source does not fail, a call hands out a
further block. -/
theorem Within.next_of_room {content : Octets} {packets : List DataPacket} {s : Sender}
    (h : s.Within content rules packets) (sound : s.finished = false → s.source.failures = 0)
    (needed : packets.length < content.length / 512 + 1)
    (room : ∀ cap ∈ rules.capacity, packets.length < cap) :
    (∃ d, s.next.result = .ok (some d)) ∧
      (s.next.state.finished = false → s.next.state.source.failures = 0) := by
  rcases s.next_cases h.history.room with ⟨ended, -⟩ | ⟨-, stopped, -⟩ | ⟨running, e, fault, -⟩ |
    ⟨running, -, nofault, p, block, payload, result, state⟩
  · have all := h.history.finished_iff_length.mp ended
    omega
  · rw [h.isExhausted_eq_false_iff.mpr room] at stopped
    cases stopped
  · have failed : (s.source.fill s.held).fault ≠ none := by simp [fault]
    have failures := Source.failures_fill (Or.inl failed)
    rw [sound running, fault] at failures
    cases failures
  · rw [result, state]
    refine ⟨⟨p.encode, rfl⟩, ?_⟩
    intro full
    exact (owed_full running nofault block payload full).2.trans (sound running)

theorem length_handed {source : Source} (reliable : source.failures = 0) {k : Nat}
    (needed : k ≤ source.content.length / 512 + 1) (room : ∀ cap ∈ rules.capacity, k ≤ cap) :
    let s := (new source).withRules rules
    (s.handed k).length = k ∧
      ((s.after k).finished = false → (s.after k).source.failures = 0) := by
  intro s
  induction k with
  | zero => exact ⟨rfl, fun _ => reliable⟩
  | succ k ih =>
    obtain ⟨length, sound⟩ :=
      ih (Nat.le_of_succ_le needed) fun cap mem => Nat.le_of_succ_le (room cap mem)
    have kept : ∀ other, Input.rules other ∉ List.replicate k Input.next := by simp
    obtain ⟨packets, within, written⟩ := within_reached source rules kept
    rw [reached_replicate_next] at within
    rw [emitted_replicate_next] at written
    have count : packets.length = k := by rw [← length, ← written, List.length_map]
    obtain ⟨⟨d, result⟩, sound'⟩ := within.next_of_room sound (count ▸ needed) (count ▸ room)
    refine ⟨?_, sound'⟩
    rw [handed, List.length_append, length, result]
    rfl

end Sender

/-! ### What can be reached -/

namespace TransferRules

variable {rules : TransferRules}

theorem le_capacity_iff {k : Nat} :
    (∀ cap ∈ rules.capacity, k ≤ cap) ↔
      (rules.allowRollover = false → k ≤ 65535) ∧
      (0 < rules.maxBlocks → k ≤ rules.maxBlocks.toNat) := by
  cases k with
  | zero => simp
  | succ k => exact lt_capacity_iff

/-- Some new sender under the rules hands out so many datagrams. -/
def Reaches (rules : TransferRules) (count : Nat) : Prop :=
  ∃ (source : Source) (k : Nat), (((Sender.new source).withRules rules).handed k).length = count

/-- What can be reached is what is within the capacity. -/
theorem reaches_iff {count : Nat} :
    rules.Reaches count ↔ ∀ cap ∈ rules.capacity, count ≤ cap := by
  constructor
  · rintro ⟨source, k, rfl⟩ cap mem
    rw [← Sender.emitted_replicate_next]
    exact Sender.length_emitted_le source (by simp) mem
  · intro room
    let source : Source := { script := [.fill 0 (512 * count)] }
    have content : source.content.length = 512 * count := by
      simp [source, Source.content, Supply.delivered]
    exact ⟨source, count, (Sender.length_handed rfl (by omega) room).1⟩

theorem problems_eq_nil_iff :
    rules.problems = [] ↔ (rules.allowRollover = false → rules.maxBlocks.toNat ≤ 65535) := by
  have big : 65535 < rules.maxBlocks ↔ 65535 < rules.maxBlocks.toNat := UInt32.lt_iff_toNat_lt
  unfold problems
  cases rules.allowRollover with
  | true => simp
  | false => simp [big]

/-- Nothing is wrong with a bound exactly if it can be reached. -/
theorem problems_eq_nil_iff_reaches :
    rules.problems = [] ↔ rules.Reaches rules.maxBlocks.toNat := by
  rw [problems_eq_nil_iff, reaches_iff, le_capacity_iff]
  exact (and_iff_left fun _ => Nat.le_refl _).symm

theorem capacity_of_problems (wrong : rules.problems ≠ []) :
    65535 < rules.maxBlocks.toNat ∧ 65535 ∈ rules.capacity := by
  obtain ⟨strict, big⟩ : rules.allowRollover = false ∧ 65535 < rules.maxBlocks.toNat := by
    simpa [problems_eq_nil_iff] using wrong
  have bounded : 0 < rules.maxBlocks := UInt32.lt_iff_toNat_lt.mpr (Nat.zero_lt_of_lt big)
  refine ⟨big, ?_⟩
  simp [capacity, strict, bounded, Nat.min_eq_left (Nat.le_of_lt big)]

end TransferRules

/-! ### Validation -/

theorem LoggingSettings.problems_eq_nil_iff {logging : LoggingSettings} :
    logging.problems = [] ↔
      1 ≤ logging.appName.utf8ByteSize ∧ logging.appName.utf8ByteSize ≤ 64 := by
  have limit : maxNameLength = 64 := rfl
  rw [problems, limit]
  generalize logging.appName.utf8ByteSize = length
  by_cases empty : length = 0
  · simp [empty]
  · by_cases long : 64 < length
    · simp [empty, long, Nat.not_le.mpr long]
    · simp [empty, long]
      omega

namespace Settings

theorem validate_eq_ok_iff {settings : Settings} :
    settings.validate = .ok () ↔
      settings.transfer.problems = [] ∧ settings.logging.problems = [] := by
  rw [← List.append_eq_nil_iff, ← problems, ← List.isEmpty_iff, validate]
  split <;> simp [*]

/-- **Validation means reachability.** Nothing is wrong with a bound on blocks exactly if there is a
source with which a new sender, asked again and again, hands out as many datagrams. If something is
wrong with the bound, it is above 65535, and no new sender that keeps the rules hands out more than
65535 datagrams, whatever its source does and whatever acknowledgments come. Without a bound nothing
is wrong. Settings are taken exactly if nothing is wrong with the bound and the name has 1 to 64
octets. -/
theorem validate_iff_reaches (settings : Settings) :
    let rules := settings.transfer
    let name := settings.logging.appName
    (rules.problems = [] ↔ rules.Reaches rules.maxBlocks.toNat) ∧
    (rules.problems ≠ [] →
      65535 < rules.maxBlocks.toNat ∧
      ∀ source inputs, (∀ other, .rules other ∉ inputs) →
        (((Sender.new source).withRules rules).emitted inputs).length ≤ 65535) ∧
    (rules.maxBlocks = 0 → rules.problems = []) ∧
    (settings.validate = .ok () ↔
      rules.problems = [] ∧ 1 ≤ name.utf8ByteSize ∧ name.utf8ByteSize ≤ 64) := by
  intro rules name
  refine ⟨TransferRules.problems_eq_nil_iff_reaches, ?_, ?_, ?_⟩
  · intro wrong
    obtain ⟨big, capacity⟩ := TransferRules.capacity_of_problems wrong
    exact ⟨big, fun source inputs kept => Sender.length_emitted_le source kept capacity⟩
  · intro unbounded
    rw [TransferRules.problems_eq_nil_iff, unbounded]
    intro _
    decide
  · rw [validate_eq_ok_iff, LoggingSettings.problems_eq_nil_iff]

/-- The greatest bound that can be reached without rollover, and the one after it. -/
theorem validate_iff_reaches_edge :
    (∃ source k, (((Sender.new source).withRules ⟨false, 65535⟩).handed k).length = 65535) ∧
      ∀ source k, (((Sender.new source).withRules ⟨false, 65536⟩).handed k).length ≤ 65535 := by
  constructor
  · exact (validate_iff_reaches { transfer := ⟨false, 65535⟩ }).1.mp (by decide)
  · intro source k
    obtain ⟨-, fewer⟩ := (validate_iff_reaches { transfer := ⟨false, 65536⟩ }).2.1 (by decide)
    rw [← Sender.emitted_replicate_next]
    exact fewer source _ (by simp)

end Settings
end Tftp
