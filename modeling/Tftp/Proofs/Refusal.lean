import Tftp.Proofs.Grammar

/-! # Why a datagram is refused

A datagram that is not read is refused for one of four reasons, in this order: it is shorter than a
header, it is longer than the largest datagram, its opcode stands for no kind, or something is wrong
behind the opcode (`Packet.Refusal`). Which one it is can be told from the length and the first two
octets, except for the last (`Packet.refusal_of_decode`).

The stages of the reader have a lemma each about their failures, beside those about their success in
the grammar. -/

namespace Tftp

/-! ### Readers in sequence -/

namespace Reading

variable {α β : Type}

theorem bind_eq_error_iff {x : Except Fault α} {f : α → Except Fault β} {fault : Fault} :
    x >>= f = .error fault ↔ x = .error fault ∨ ∃ a, x = .ok a ∧ f a = .error fault := by
  cases x with
  | error e => simp [bind, Except.bind]
  | ok a => simp [bind, Except.bind]

/-- A check that throws fails if its condition is met, or hands on the failure of what follows. -/
theorem ifThrow_eq_error_iff {c : Bool} {e : Fault} {f : α → Except Fault β} {x : Except Fault β}
    {fault : Fault} :
    (if c = true then throw e >>= f else x) = .error fault ↔
      (c = true ∧ e = fault) ∨ (c = false ∧ x = .error fault) := by
  cases c with
  | false => simp
  | true => simp [throw, throwThe, MonadExceptOf.throw, bind, Except.bind]

theorem ifCheck_eq_error_iff {c : Bool} {x : Except Fault α} {y : Except Fault β} {fault : Fault} :
    (if c = true then x >>= fun _ => y else y) = .error fault ↔
      (c = true ∧ x = .error fault) ∨ ((c = true → ∃ a, x = .ok a) ∧ y = .error fault) := by
  cases c with
  | false => simp
  | true => simp only [if_true, bind_eq_error_iff, exists_and_right, true_and, forall_const]

theorem pure_ne_error {a : α} {fault : Fault} : (pure a : Except Fault α) ≠ .error fault := by
  simp [pure, Except.pure]

end Reading

open Reading

/-! ### Stages -/

theorem Frame.read_of_short {b : Octets} (short : b.length < 4) :
    read b = .error (.undersizedDatagram b.length) := by
  match b with
  | [] | [_] | [_, _] | [_, _, _] => rfl
  | _ :: _ :: _ :: _ :: rest =>
    simp only [List.length_cons] at short
    omega

theorem Frame.read_of_long {b : Octets} (long : 516 < b.length) :
    read b = .error (.oversizedDatagram b.length) := by
  match b with
  | [] | [_] | [_, _] | [_, _, _] => simp at long
  | hi :: lo :: c :: d :: rest =>
    have beyond : ¬ rest.length ≤ blockSize := by
      show ¬ rest.length ≤ 512
      simp only [List.length_cons] at long
      omega
    have length : headerSize + rest.length = (hi :: lo :: c :: d :: rest).length := by
      simp only [headerSize, List.length_cons]
      omega
    rw [read, if_neg beyond, length]

theorem Frame.read_eq_error_iff {b : Octets} {fault : Fault} :
    read b = .error fault ↔
      (b.length < 4 ∧ fault = .undersizedDatagram b.length) ∨
      (516 < b.length ∧ fault = .oversizedDatagram b.length) := by
  by_cases short : b.length < 4
  · have small : ¬ 516 < b.length := by omega
    simp [read_of_short short, short, small, eq_comm]
  · by_cases long : 516 < b.length
    · simp [read_of_long long, short, long, eq_comm]
    · obtain ⟨f, hf, -⟩ := exists_read ⟨Nat.le_of_not_lt short, Nat.le_of_not_lt long⟩
      simp [hf, short, long]

theorem Frame.expect_eq_error_iff {f : Frame} {kind : Opcode} {fault : Fault} :
    f.expect kind = .error fault ↔ f.opcode ≠ kind.toWord ∧ fault = .invalidOpcode f.opcode := by
  unfold expect
  split <;> simp [*, eq_comm]

theorem TextPart.split_eq_error_iff {part : TextPart} {o : Octets} {fault : Fault} :
    part.split o = .error fault ↔ 0 ∉ o ∧ fault = .malformedFraming (.unterminated part) := by
  rw [← Octets.splitAtNul_eq_none_iff]
  unfold split
  cases o.splitAtNul <;> simp [eq_comm]

theorem TextPart.decode_eq_error_iff {part : TextPart} {o : Octets} {fault : Fault} :
    part.decode o = .error fault ↔
      ¬ Utf8.Valid o ∧ fault = .malformedFraming (.notUtf8 part) := by
  unfold decode
  cases h : Utf8.decode? o with
  | some text =>
    have valid : Utf8.Valid o := ⟨text, Utf8.decode?_eq_some_iff.mp h⟩
    simp [valid]
  | none =>
    have invalid : ¬ Utf8.Valid o := by
      rintro ⟨text, rfl⟩
      rw [Utf8.decode?_encode] at h
      cases h
    simp [invalid, eq_comm]

/-! ### What lies behind the opcode -/

/-- The fault lies in what follows the opcode of a datagram. -/
def Fault.isInBody : Fault → Bool
  | malformedFraming _ | unsupportedMode _ | emptyFilename => true
  | _ => false

theorem TextPart.isInBody_of_split {part : TextPart} {o : Octets} {fault : Fault}
    (h : part.split o = .error fault) : fault.isInBody = true := by
  rw [(split_eq_error_iff.mp h).2]
  rfl

theorem TextPart.isInBody_of_decode {part : TextPart} {o : Octets} {fault : Fault}
    (h : part.decode o = .error fault) : fault.isInBody = true := by
  rw [(decode_eq_error_iff.mp h).2]
  rfl

theorem ReadRequest.isInBody_of_ofBody {rules : DecodeRules} {body : Octets} {fault : Fault}
    (h : ofBody rules body = .error fault) : fault.isInBody = true := by
  unfold ofBody at h
  simp only [bind_eq_error_iff, ifThrow_eq_error_iff, pure_ne_error, and_false, or_false] at h
  rcases h with name | ⟨_, -, ⟨-, rfl⟩ | ⟨-, text | ⟨_, -, mode | ⟨_, -, text | ⟨_, -, h⟩⟩⟩⟩⟩
  · exact TextPart.isInBody_of_split name
  · rfl
  · exact TextPart.isInBody_of_decode text
  · exact TextPart.isInBody_of_split mode
  · exact TextPart.isInBody_of_decode text
  · rcases h with ⟨-, rfl⟩ | ⟨-, -, rfl⟩
    · rfl
    · rfl

theorem ErrorPacket.isInBody_of_ofFrame {rules : DecodeRules} {f : Frame} {fault : Fault}
    (h : ofFrame rules f = .error fault) : fault.isInBody = true := by
  unfold ofFrame at h
  simp only [bind_eq_error_iff, ifCheck_eq_error_iff, pure_ne_error, and_false, or_false] at h
  rcases h with message | ⟨_, -, -, text⟩
  · exact TextPart.isInBody_of_split message
  · exact TextPart.isInBody_of_decode text

/-! ### Whole datagrams -/

theorem ReadRequest.decode_eq_error_iff {rules : DecodeRules} {b : Octets} {fault : Fault} :
    decode rules b = .error fault ↔ Frame.read b = .error fault ∨
      ∃ f, Frame.read b = .ok f ∧ (f.expect .readRequest = .error fault ∨
        f.opcode = Opcode.readRequest.toWord ∧ ofBody rules f.body = .error fault) := by
  simp only [decode, bind_eq_error_iff, Frame.expect_eq_ok_iff, exists_const]

theorem DataPacket.decode_eq_error_iff {b : Octets} {fault : Fault} :
    decode b = .error fault ↔ Frame.read b = .error fault ∨
      ∃ f, Frame.read b = .ok f ∧ f.expect .data = .error fault := by
  simp only [decode, bind_eq_error_iff, Frame.expect_eq_ok_iff, exists_const]
  refine or_congr_right (exists_congr fun f => and_congr_right fun hf => ?_)
  -- The content of a frame fits into a block, so there is nothing left to refuse.
  have fits := (Frame.read_eq_ok_iff.mp hf).2
  simp [ofPayload, fits]

theorem Acknowledgment.decode_eq_error_iff {b : Octets} {fault : Fault} :
    decode b = .error fault ↔ Frame.read b = .error fault ∨
      ∃ f, Frame.read b = .ok f ∧
        ((f.rest ≠ [] ∧ fault = .malformedFraming .acknowledgmentLength) ∨
          (f.rest = [] ∧ f.expect .acknowledgment = .error fault)) := by
  simp only [decode, bind_eq_error_iff, ifThrow_eq_error_iff, pure_ne_error, and_false,
    exists_false, or_false]
  refine or_congr_right (exists_congr fun f => and_congr_right fun _ => ?_)
  cases f.rest <;> simp [eq_comm]

theorem ErrorPacket.decode_eq_error_iff {rules : DecodeRules} {b : Octets} {fault : Fault} :
    decode rules b = .error fault ↔ Frame.read b = .error fault ∨
      ∃ f, Frame.read b = .ok f ∧ (f.expect .error = .error fault ∨
        f.opcode = Opcode.error.toWord ∧ ofFrame rules f = .error fault) := by
  simp only [decode, bind_eq_error_iff, Frame.expect_eq_ok_iff, exists_const]

namespace Packet

theorem peekOpcode_eq_error_iff {b : Octets} {fault : Fault} :
    peekOpcode b = .error fault ↔ Frame.read b = .error fault ∨
      ∃ f, Frame.read b = .ok f ∧ Opcode.ofWord? f.opcode = none ∧
        fault = .unknownType f.opcode := by
  simp only [peekOpcode, bind_eq_error_iff]
  refine or_congr_right (exists_congr fun f => and_congr_right fun _ => ?_)
  cases Opcode.ofWord? f.opcode with
  | none => simp [throw, throwThe, MonadExceptOf.throw, eq_comm]
  | some kind => simp [pure_ne_error]

theorem decode_eq_error_iff {rules : DecodeRules} {b : Octets} {fault : Fault} :
    decode rules b = .error fault ↔ peekOpcode b = .error fault ∨
      ∃ kind, peekOpcode b = .ok kind ∧
        match kind with
        | .readRequest => ReadRequest.decode rules b = .error fault
        | .data => DataPacket.decode b = .error fault
        | .acknowledgment => Acknowledgment.decode b = .error fault
        | .error => ErrorPacket.decode rules b = .error fault := by
  simp only [decode, bind_eq_error_iff]
  refine or_congr_right (exists_congr fun kind => and_congr_right fun _ => ?_)
  cases kind <;> simp only [bind_eq_error_iff, pure_ne_error, and_false, exists_false, or_false]

/-- Why a datagram is refused. -/
inductive Refusal (b : Octets) : Fault → Prop
  | undersized (short : b.length < 4) : Refusal b (.undersizedDatagram b.length)
  | oversized (long : 516 < b.length) : Refusal b (.oversizedDatagram b.length)
  /-- The opcode stands for no kind. -/
  | unknown (f : Frame) (hf : Frame.read b = .ok f) (foreign : Opcode.ofWord? f.opcode = none) :
      Refusal b (.unknownType f.opcode)
  /-- The opcode stands for a kind, but something behind it is wrong. -/
  | body (f : Frame) (hf : Frame.read b = .ok f) (kind : Opcode) (known : f.opcode = kind.toWord)
      (fault : Fault) (inBody : fault.isInBody = true) : Refusal b fault

/-- A datagram of a known kind is refused only for what lies behind its opcode: the decoder of that
kind finds its length and its opcode good once more. -/
theorem isInBody_of_decode {rules : DecodeRules} {b : Octets} {f : Frame} {kind : Opcode}
    {fault : Fault} (hf : Frame.read b = .ok f) (known : f.opcode = kind.toWord)
    (h : decode rules b = .error fault) : fault.isInBody = true := by
  have peeked : peekOpcode b = .ok kind := peekOpcode_eq_ok_iff.mpr ⟨f, hf, known⟩
  have expected : f.expect kind = .ok () := Frame.expect_eq_ok_iff.mpr known
  rw [decode_eq_error_iff, peeked] at h
  simp only [reduceCtorEq, false_or, Except.ok.injEq, exists_eq_left'] at h
  cases kind with
  | readRequest =>
    simp only [ReadRequest.decode_eq_error_iff, hf, reduceCtorEq, false_or, Except.ok.injEq,
      exists_eq_left', expected] at h
    exact ReadRequest.isInBody_of_ofBody h.2
  | data =>
    simp [DataPacket.decode_eq_error_iff, hf, expected] at h
  | acknowledgment =>
    simp only [Acknowledgment.decode_eq_error_iff, hf, reduceCtorEq, false_or, Except.ok.injEq,
      exists_eq_left', expected, and_false, or_false] at h
    rw [h.2]
    rfl
  | error =>
    simp only [ErrorPacket.decode_eq_error_iff, hf, reduceCtorEq, false_or, Except.ok.injEq,
      exists_eq_left', expected] at h
    exact ErrorPacket.isInBody_of_ofFrame h.2

/-- A datagram that is not read is refused for one of the four reasons. -/
theorem refusal_of_decode {rules : DecodeRules} {b : Octets} {fault : Fault}
    (h : decode rules b = .error fault) : Refusal b fault := by
  cases peeked : peekOpcode b with
  | ok kind =>
    obtain ⟨f, hf, known⟩ := peekOpcode_eq_ok_iff.mp peeked
    exact .body f hf kind known fault (isInBody_of_decode hf known h)
  | error e =>
    obtain rfl : e = fault := by
      rw [decode, peeked] at h
      exact Except.error.inj h
    rcases peekOpcode_eq_error_iff.mp peeked with length | ⟨f, hf, foreign, rfl⟩
    · rcases Frame.read_eq_error_iff.mp length with ⟨short, rfl⟩ | ⟨long, rfl⟩
      · exact .undersized short
      · exact .oversized long
    · exact .unknown f hf foreign

end Packet
end Tftp
