import Tftp.Proofs.Refusal

/-! # Dispatch by opcode

A datagram can be read as any packet, or as a packet of one kind (`Packet.decodeAs`). Reading it as
any packet looks at its length and its opcode and then hands the whole datagram to the decoder of
that kind, which looks at both once more. So the five ways to read a datagram agree:

* The decoder of a kind accepts what is read as a packet of that kind, and nothing else
  (`Packet.decodeAs_eq_ok_iff`); hence at most one of the four accepts.
* A datagram with the opcode of a kind is read as that kind's decoder reads it, with the same packet
  or the same fault (`Packet.decode_eq_decodeAs`).
* A length out of range is the same fault everywhere (`Packet.decodeAs_of_read_error`).
* A foreign opcode is an unknown type to the one and an invalid opcode to the others. Only the
  decoder of acknowledgments has something to say before that: it asks for the exact length first
  (`Packet.decodeAs_of_foreign`). -/

namespace Tftp

/-! ### Readers in sequence -/

namespace Reading

variable {α β : Type} {x : Except Fault α} {wrap : α → β}

theorem map_eq_ok_iff {b : β} : x.map wrap = .ok b ↔ ∃ a, x = .ok a ∧ wrap a = b := by
  cases x with
  | error fault => simp [Except.map]
  | ok a => simp [Except.map]

theorem map_eq_error_iff {fault : Fault} : x.map wrap = .error fault ↔ x = .error fault := by
  cases x with
  | error e => simp [Except.map]
  | ok a => simp [Except.map]

end Reading

open Reading

/-! ### The opcode of a datagram -/

theorem Octets.ofWord_injective {v w : UInt16} (h : ofWord v = ofWord w) : v = w := by
  obtain ⟨hi, lo⟩ : _ ∧ _ := by simpa [ofWord] using h
  rw [← word_ofWord v, hi, lo, word_ofWord]

theorem Frame.opcode_eq_iff {b : Octets} {f : Frame} (hf : read b = .ok f) {w : UInt16} :
    f.opcode = w ↔ b.take 2 = Octets.ofWord w := by
  have first : b.take 2 = Octets.ofWord f.opcode := by
    rw [(read_eq_ok_iff.mp hf).1]
    rfl
  rw [first]
  exact ⟨congrArg _, Octets.ofWord_injective⟩

namespace Packet

variable {rules : DecodeRules} {b : Octets} {kind : Opcode}

/-! ### One kind -/

/-- Reads a datagram that should be of the given kind. -/
def decodeAs (rules : DecodeRules) (kind : Opcode) (b : Octets) : Except Fault Packet :=
  match kind with
  | .readRequest => (ReadRequest.decode rules b).map readRequest
  | .data => (DataPacket.decode b).map data
  | .acknowledgment => (Acknowledgment.decode b).map acknowledgment
  | .error => (ErrorPacket.decode rules b).map error

/-- The decoder of a kind accepts exactly what is read as a packet of that kind. -/
theorem decodeAs_eq_ok_iff {p : Packet} :
    decodeAs rules kind b = .ok p ↔ p.opcode = kind ∧ decode rules b = .ok p := by
  rw [decode_eq_ok_iff]
  constructor
  · intro h
    cases kind with
    | readRequest | data | acknowledgment | error =>
      obtain ⟨_, read, rfl⟩ := map_eq_ok_iff.mp h
      exact ⟨rfl, read⟩
  · rintro ⟨rfl, h⟩
    cases p with
    | readRequest | data | acknowledgment | error => exact map_eq_ok_iff.mpr ⟨_, h, rfl⟩

theorem decode_eq_peekOpcode_bind :
    decode rules b = peekOpcode b >>= fun kind => decodeAs rules kind b := by
  unfold decode
  refine congrArg (peekOpcode b >>= ·) (funext fun kind => ?_)
  cases kind with
  | readRequest => cases h : ReadRequest.decode rules b <;> simp [decodeAs, h] <;> rfl
  | data => cases h : DataPacket.decode b <;> simp [decodeAs, h] <;> rfl
  | acknowledgment => cases h : Acknowledgment.decode b <;> simp [decodeAs, h] <;> rfl
  | error => cases h : ErrorPacket.decode rules b <;> simp [decodeAs, h] <;> rfl

theorem decodeAs_of_read_error {fault : Fault} (h : Frame.read b = .error fault) :
    decodeAs rules kind b = .error fault := by
  cases kind with
  | readRequest => exact map_eq_error_iff.mpr (ReadRequest.decode_eq_error_iff.mpr (Or.inl h))
  | data => exact map_eq_error_iff.mpr (DataPacket.decode_eq_error_iff.mpr (Or.inl h))
  | acknowledgment =>
    exact map_eq_error_iff.mpr (Acknowledgment.decode_eq_error_iff.mpr (Or.inl h))
  | error => exact map_eq_error_iff.mpr (ErrorPacket.decode_eq_error_iff.mpr (Or.inl h))

theorem decode_of_read_error {fault : Fault} (h : Frame.read b = .error fault) :
    decode rules b = .error fault := by
  rw [decode_eq_peekOpcode_bind, peekOpcode_eq_error_iff.mpr (Or.inl h)]
  rfl

/-- A datagram with the opcode of a kind is read as the decoder of that kind reads it. -/
theorem decode_eq_decodeAs (h : b.take 2 = Octets.ofWord kind.toWord) :
    decode rules b = decodeAs rules kind b := by
  cases hf : Frame.read b with
  | error fault => rw [decode_of_read_error hf, decodeAs_of_read_error hf]
  | ok f =>
    have peeked : peekOpcode b = .ok kind :=
      peekOpcode_eq_ok_iff.mpr ⟨f, hf, (Frame.opcode_eq_iff hf).mpr h⟩
    rw [decode_eq_peekOpcode_bind, peeked]
    rfl

/-- A datagram of another kind is refused for its opcode, unless it should be an acknowledgment and
is too long for one. -/
theorem decodeAs_of_foreign {f : Frame} (hf : Frame.read b = .ok f)
    (foreign : f.opcode ≠ kind.toWord) :
    decodeAs rules kind b = .error (if kind = .acknowledgment ∧ f.rest ≠ []
      then .malformedFraming .acknowledgmentLength else .invalidOpcode f.opcode) := by
  have expected : f.expect kind = .error (.invalidOpcode f.opcode) :=
    Frame.expect_eq_error_iff.mpr ⟨foreign, rfl⟩
  cases kind with
  | readRequest =>
    rw [if_neg (by simp)]
    exact map_eq_error_iff.mpr (ReadRequest.decode_eq_error_iff.mpr
      (Or.inr ⟨f, hf, Or.inl expected⟩))
  | data =>
    rw [if_neg (by simp)]
    exact map_eq_error_iff.mpr (DataPacket.decode_eq_error_iff.mpr (Or.inr ⟨f, hf, expected⟩))
  | acknowledgment =>
    refine map_eq_error_iff.mpr (Acknowledgment.decode_eq_error_iff.mpr (Or.inr ⟨f, hf, ?_⟩))
    by_cases whole : f.rest = []
    · rw [if_neg (by simp [whole])]
      exact Or.inr ⟨whole, expected⟩
    · rw [if_pos ⟨rfl, whole⟩]
      exact Or.inl ⟨whole, rfl⟩
  | error =>
    rw [if_neg (by simp)]
    exact map_eq_error_iff.mpr (ErrorPacket.decode_eq_error_iff.mpr
      (Or.inr ⟨f, hf, Or.inl expected⟩))

theorem decodeAs_ne_unknownType (w : UInt16) :
    decodeAs rules kind b ≠ .error (.unknownType w) := by
  intro h
  cases hf : Frame.read b with
  | error fault =>
    rw [decodeAs_of_read_error hf] at h
    obtain rfl := Except.error.inj h
    rcases Frame.read_eq_error_iff.mp hf with ⟨-, unknown⟩ | ⟨-, unknown⟩
    · cases unknown
    · cases unknown
  | ok f =>
    by_cases known : f.opcode = kind.toWord
    · rw [← decode_eq_decodeAs ((Frame.opcode_eq_iff hf).mp known)] at h
      have := isInBody_of_decode hf known h
      cases this
    · rw [decodeAs_of_foreign hf known] at h
      split at h
      · cases h
      · cases h

theorem decode_ne_invalidOpcode (w : UInt16) : decode rules b ≠ .error (.invalidOpcode w) := by
  intro h
  cases refusal_of_decode h with
  | body f hf kind known fault inBody => cases inBody

/-! ### All kinds -/

/-- **The five ways to read a datagram agree.** At most one decoder of a kind accepts it, and it is
read exactly if one does, as the same packet. If its opcode is that of a kind, reading it comes to
what that kind's decoder comes to, with the same fault if there is one. If its length is out of
range, all five find the same fault. A shared buffer is read as the octets in it. An opcode is never
invalid where any packet may come, and never unknown where one kind is asked for. Another opcode than
the one asked for is invalid, but an acknowledgment is judged by its length first. -/
theorem decode_dispatches (rules : DecodeRules) (b : Octets) :
    (∀ kind kind' p p', decodeAs rules kind b = .ok p → decodeAs rules kind' b = .ok p' →
      kind = kind') ∧
    (∀ p, decode rules b = .ok p ↔ ∃ kind, decodeAs rules kind b = .ok p) ∧
    (∀ kind : Opcode, b.take 2 = Octets.ofWord kind.toWord →
      decode rules b = decodeAs rules kind b) ∧
    (b.length < 4 → decode rules b = .error (.undersizedDatagram b.length) ∧
      ∀ kind, decodeAs rules kind b = .error (.undersizedDatagram b.length)) ∧
    (516 < b.length → decode rules b = .error (.oversizedDatagram b.length) ∧
      ∀ kind, decodeAs rules kind b = .error (.oversizedDatagram b.length)) ∧
    (∀ w, decode rules b ≠ .error (.invalidOpcode w)) ∧
    (∀ v : View, v.octets = b →
      DataPacket.decodeView v = DataPacket.decode b ∧ decodeView rules v = decode rules b ∧
        ∀ w, decodeView rules v ≠ .error (.invalidOpcode w)) ∧
    (∀ kind w, decodeAs rules kind b ≠ .error (.unknownType w)) ∧
    (4 ≤ b.length → b.length ≤ 516 → ∀ (kind : Opcode) (w : UInt16),
      b.take 2 = Octets.ofWord w → w ≠ kind.toWord →
        (kind ≠ .acknowledgment → decodeAs rules kind b = .error (.invalidOpcode w)) ∧
        (kind = .acknowledgment → decodeAs rules kind b = .error (if b.length = 4
          then .invalidOpcode w else .malformedFraming .acknowledgmentLength))) := by
  refine ⟨?_, ?_, fun kind => decode_eq_decodeAs, ?_, ?_, decode_ne_invalidOpcode, ?_,
    fun kind => decodeAs_ne_unknownType, ?_⟩
  · intro kind kind' p p' h h'
    obtain ⟨rfl, read⟩ := decodeAs_eq_ok_iff.mp h
    obtain ⟨rfl, read'⟩ := decodeAs_eq_ok_iff.mp h'
    rw [Except.ok.inj (read.symm.trans read')]
  · intro p
    constructor
    · intro h
      exact ⟨p.opcode, decodeAs_eq_ok_iff.mpr ⟨rfl, h⟩⟩
    · rintro ⟨kind, h⟩
      exact (decodeAs_eq_ok_iff.mp h).2
  · intro short
    have failed := Frame.read_of_short short
    exact ⟨decode_of_read_error failed, fun kind => decodeAs_of_read_error failed⟩
  · intro long
    have failed := Frame.read_of_long long
    exact ⟨decode_of_read_error failed, fun kind => decodeAs_of_read_error failed⟩
  · rintro v rfl
    rw [decodeView_eq]
    exact ⟨DataPacket.decodeView_eq v, rfl, decode_ne_invalidOpcode⟩
  · intro least most kind w first other
    obtain ⟨f, hf, hb⟩ := Frame.exists_read ⟨least, most⟩
    obtain rfl := (Frame.opcode_eq_iff hf).mpr first
    have length : b.length = 4 ↔ f.rest = [] := by
      rw [hb, ← List.length_eq_zero_iff, List.length_append, Octets.length_ofWord, Frame.body,
        List.length_cons, List.length_cons]
      omega
    constructor
    · intro longer
      rw [decodeAs_of_foreign hf other, if_neg fun both => longer both.1]
    · rintro rfl
      rw [decodeAs_of_foreign hf other]
      by_cases whole : f.rest = []
      · rw [if_neg fun both => both.2 whole, if_pos (length.mpr whole)]
      · rw [if_pos ⟨rfl, whole⟩, if_neg (mt length.mp whole)]

/-- A data packet with content is no read request for its opcode, and no acknowledgment for its
length. -/
example :
    decodeAs {} .readRequest [0, 3, 0, 1, 7] = .error (.invalidOpcode 3) ∧
      decodeAs {} .acknowledgment [0, 3, 0, 1, 7] =
        .error (.malformedFraming .acknowledgmentLength) ∧
      decodeAs {} .acknowledgment [0, 3, 0, 1] = .error (.invalidOpcode 3) :=
  ⟨rfl, rfl, rfl⟩

end Packet
end Tftp
