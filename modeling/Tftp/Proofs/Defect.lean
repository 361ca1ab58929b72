import Tftp.Proofs.Dispatch

/-! # Defects of datagrams

The grammar says which octets stand for a packet; this module says what can be wrong with the others.
`Defect rules b fault` has one rule for each defect, with the conditions on the length, the opcode,
the places of the NULs and the texts under which the datagram has that defect and none before it.
Like the grammar, it never mentions a reader.

* What follows the opcode of a read request (`RequestDefect`) is judged from left to right: the NUL
  that ends the filename, the filename, the NUL that ends the mode, the mode, the end.
* What follows the header of an error (`MessageDefect`) is judged in the same way: the NUL that ends
  the message, the message.
* An acknowledgment can only be too long, and a data packet has no defect beyond its length.

A datagram may have several defects, but the rules exclude each other, so one of them is the first:
reading refuses a datagram exactly for that one (`Packet.decode_eq_error_iff_defect`). -/

namespace Tftp

open Reading

/-! ### Defects -/

/-- The octets can name a file: they are a text, there are some, and none is NUL. -/
structure Octets.IsFilename (name : Octets) : Prop where
  named : name ≠ []
  noNul : 0 ∉ name
  text : Utf8.Valid name

/-- What is wrong with the octets after the opcode of a read request. -/
inductive RequestDefect (rules : DecodeRules) : Octets → Fault → Prop
  /-- There is no NUL. -/
  | unterminatedName (x : Octets) (noNul : 0 ∉ x) :
      RequestDefect rules x (.malformedFraming (.unterminated .filename))
  /-- The first octet is NUL. -/
  | emptyName (x : Octets) : RequestDefect rules (0 :: x) .emptyFilename
  /-- What comes before the first NUL is no text. -/
  | illFormedName (name x : Octets) (named : name ≠ []) (noNul : 0 ∉ name)
      (noText : ¬ Utf8.Valid name) :
      RequestDefect rules (name ++ 0 :: x) (.malformedFraming (.notUtf8 .filename))
  /-- There is a filename, and no second NUL. -/
  | unterminatedMode (name x : Octets) (good : name.IsFilename) (single : 0 ∉ x) :
      RequestDefect rules (name ++ 0 :: x) (.malformedFraming (.unterminated .mode))
  /-- What comes between the filename and the second NUL is no text. -/
  | illFormedMode (name mode x : Octets) (good : name.IsFilename) (noNul : 0 ∉ mode)
      (noText : ¬ Utf8.Valid mode) :
      RequestDefect rules (name ++ 0 :: (mode ++ 0 :: x)) (.malformedFraming (.notUtf8 .mode))
  /-- What comes between the filename and the second NUL is a text, but does not spell the one mode,
  in whatever case. -/
  | unsupportedMode (name : Octets) (mode : String) (x : Octets) (good : name.IsFilename)
      (noNul : 0 ∉ Utf8.encode mode)
      (other : (Utf8.encode mode).map Octets.lower ≠ Utf8.encode octetMode) :
      RequestDefect rules (name ++ 0 :: (Utf8.encode mode ++ 0 :: x)) (.unsupportedMode mode)
  /-- Something follows a good request, and the rules forbid it. -/
  | trailingOctets (name mode x : Octets) (good : name.IsFilename) (noNul : 0 ∉ mode)
      (octet : mode.map Octets.lower = Utf8.encode octetMode) (more : x ≠ [])
      (strict : rules.rejectRequestOptions = true) :
      RequestDefect rules (name ++ 0 :: (mode ++ 0 :: x)) (.malformedFraming .trailingOctets)

/-- What is wrong with the octets after the header of an error. -/
inductive MessageDefect (rules : DecodeRules) : Octets → Fault → Prop
  /-- There is no NUL. -/
  | unterminated (x : Octets) (noNul : 0 ∉ x) :
      MessageDefect rules x (.malformedFraming (.unterminated .message))
  /-- What comes before the first NUL is no text, and the rules ask for one. -/
  | illFormed (message x : Octets) (noNul : 0 ∉ message) (noText : ¬ Utf8.Valid message)
      (strict : rules.strictText = true) :
      MessageDefect rules (message ++ 0 :: x) (.malformedFraming (.notUtf8 .message))

/-- The first thing that is wrong with a datagram. -/
inductive Defect (rules : DecodeRules) (b : Octets) : Fault → Prop
  | undersized (short : b.length < 4) : Defect rules b (.undersizedDatagram b.length)
  | oversized (long : 516 < b.length) : Defect rules b (.oversizedDatagram b.length)
  /-- The opcode is none of the four. -/
  | unknownType (inRange : 4 ≤ b.length ∧ b.length ≤ 516) (w : UInt16) (x : Octets)
      (octets : b = Octets.ofWord w ++ x) (foreign : w.toNat ∉ [1, 3, 4, 5]) :
      Defect rules b (.unknownType w)
  /-- 00 01, and something wrong behind it. -/
  | readRequest (inRange : 4 ≤ b.length ∧ b.length ≤ 516) (x : Octets)
      (octets : b = [0, 1] ++ x) (fault : Fault) (defect : RequestDefect rules x fault) :
      Defect rules b fault
  /-- 00 04, a block number, and something more. -/
  | acknowledgment (inRange : 4 ≤ b.length ∧ b.length ≤ 516) (hi lo : UInt8) (x : Octets)
      (octets : b = [0, 4, hi, lo] ++ x) (more : x ≠ []) :
      Defect rules b (.malformedFraming .acknowledgmentLength)
  /-- 00 05, a code, and something wrong behind it. -/
  | error (inRange : 4 ≤ b.length ∧ b.length ≤ 516) (hi lo : UInt8) (x : Octets)
      (octets : b = [0, 5, hi, lo] ++ x) (fault : Fault) (defect : MessageDefect rules x fault) :
      Defect rules b fault

/-! ### The kinds -/

/-- A body is refused as a read request exactly for its first defect. -/
theorem ReadRequest.ofBody_eq_error_iff {rules : DecodeRules} {body : Octets} {fault : Fault} :
    ofBody rules body = .error fault ↔ RequestDefect rules body fault := by
  unfold ofBody
  -- First the order of the checks, then what each of them says.
  simp only [bind_eq_error_iff, ifThrow_eq_error_iff, pure_ne_error, and_false, or_false]
  simp only [TextPart.split_eq_error_iff, TextPart.split_eq_ok_iff, TextPart.decode_eq_error_iff,
    TextPart.decode_eq_ok_iff, Prod.exists, List.isEmpty_iff, Bool.not_eq_true', Bool.and_eq_true,
    ← Bool.not_eq_true, Text.equalIgnoringCase_iff_map_lower, Classical.not_not]
  constructor
  · rintro (⟨noNul, rfl⟩ | ⟨name, x, ⟨rfl, noNul⟩, ⟨rfl, rfl⟩ | ⟨named, h⟩⟩)
    · exact .unterminatedName body noNul
    · exact .emptyName x
    rcases h with ⟨noText, rfl⟩ | ⟨filename, text, h⟩
    · exact .illFormedName name x named noNul noText
    have good : name.IsFilename := ⟨named, noNul, filename, text⟩
    rcases h with ⟨single, rfl⟩ | ⟨mode, x, ⟨rfl, modeNoNul⟩, ⟨noText, rfl⟩ | ⟨spelled, rfl, h⟩⟩
    · exact .unterminatedMode name x good single
    · exact .illFormedMode name mode x good modeNoNul noText
    rcases h with ⟨other, rfl⟩ | ⟨octet, ⟨strict, more⟩, rfl⟩
    · exact .unsupportedMode name spelled x good modeNoNul other
    · exact .trailingOctets name _ x good modeNoNul octet more strict
  · intro defect
    cases defect with
    | unterminatedName _ noNul => exact Or.inl ⟨noNul, rfl⟩
    | emptyName x => exact Or.inr ⟨[], x, ⟨rfl, List.not_mem_nil⟩, Or.inl ⟨rfl, rfl⟩⟩
    | illFormedName name x named noNul noText =>
      exact Or.inr ⟨name, x, ⟨rfl, noNul⟩, Or.inr ⟨named, Or.inl ⟨noText, rfl⟩⟩⟩
    | unterminatedMode name x good single =>
      obtain ⟨named, noNul, filename, text⟩ := good
      exact Or.inr ⟨name, x, ⟨rfl, noNul⟩, Or.inr ⟨named, Or.inr ⟨filename, text,
        Or.inl ⟨single, rfl⟩⟩⟩⟩
    | illFormedMode name mode x good modeNoNul noText =>
      obtain ⟨named, noNul, filename, text⟩ := good
      exact Or.inr ⟨name, _, ⟨rfl, noNul⟩, Or.inr ⟨named, Or.inr ⟨filename, text,
        Or.inr ⟨mode, x, ⟨rfl, modeNoNul⟩, Or.inl ⟨noText, rfl⟩⟩⟩⟩⟩
    | unsupportedMode name mode x good modeNoNul other =>
      obtain ⟨named, noNul, filename, text⟩ := good
      exact Or.inr ⟨name, _, ⟨rfl, noNul⟩, Or.inr ⟨named, Or.inr ⟨filename, text,
        Or.inr ⟨_, x, ⟨rfl, modeNoNul⟩, Or.inr ⟨mode, rfl, Or.inl ⟨other, rfl⟩⟩⟩⟩⟩⟩
    | trailingOctets name mode x good modeNoNul octet more strict =>
      obtain ⟨named, noNul, filename, text⟩ := good
      obtain ⟨spelled, rfl⟩ := Utf8.valid_of_map_lower octet
      exact Or.inr ⟨name, _, ⟨rfl, noNul⟩, Or.inr ⟨named, Or.inr ⟨filename, text,
        Or.inr ⟨_, x, ⟨rfl, modeNoNul⟩, Or.inr ⟨spelled, rfl,
          Or.inr ⟨octet, ⟨strict, more⟩, rfl⟩⟩⟩⟩⟩⟩

theorem ErrorPacket.ofFrame_eq_error_iff {rules : DecodeRules} {f : Frame} {fault : Fault} :
    ofFrame rules f = .error fault ↔ MessageDefect rules f.rest fault := by
  unfold ofFrame
  simp only [bind_eq_error_iff, ifCheck_eq_error_iff, pure_ne_error, and_false, or_false,
    TextPart.split_eq_error_iff, TextPart.split_eq_ok_iff, TextPart.decode_eq_error_iff,
    Prod.exists]
  constructor
  · rintro (⟨noNul, rfl⟩ | ⟨message, x, ⟨octets, noNul⟩, strict, noText, rfl⟩)
    · exact .unterminated f.rest noNul
    · rw [octets]
      exact .illFormed message x noNul noText strict
  · generalize f.rest = rest
    intro defect
    cases defect with
    | unterminated _ noNul => exact Or.inl ⟨noNul, rfl⟩
    | illFormed message x noNul noText strict =>
      exact Or.inr ⟨message, x, ⟨rfl, noNul⟩, strict, noText, rfl⟩

/-! ### Whole datagrams -/

theorem Frame.exists_read_of_kind (kind : Opcode) {b x : Octets}
    (inRange : 4 ≤ b.length ∧ b.length ≤ 516) (octets : b = Octets.ofWord kind.toWord ++ x) :
    ∃ f, read b = .ok f ∧ f.opcode = kind.toWord ∧ f.body = x := by
  obtain ⟨f, hf, hb⟩ := exists_read inRange
  exact ⟨f, hf, eq_of_octets kind x (octets.symm.trans hb)⟩

namespace Packet

variable {rules : DecodeRules} {b x : Octets} {hi lo : UInt8} {fault : Fault}

theorem decode_readRequest_eq_error_iff (inRange : 4 ≤ b.length ∧ b.length ≤ 516)
    (octets : b = [0, 1] ++ x) : decode rules b = .error fault ↔ RequestDefect rules x fault := by
  obtain ⟨f, hf, known, rfl⟩ := Frame.exists_read_of_kind .readRequest inRange octets
  rw [decode_eq_decodeAs ((Frame.opcode_eq_iff hf).mp known), decodeAs, map_eq_error_iff,
    ReadRequest.decode_eq_error_iff, ← ReadRequest.ofBody_eq_error_iff]
  simp [hf, known, Frame.expect_eq_error_iff]

theorem decode_data_ne_error (inRange : 4 ≤ b.length ∧ b.length ≤ 516)
    (octets : b = [0, 3] ++ x) : decode rules b ≠ .error fault := by
  obtain ⟨f, hf, known, rfl⟩ := Frame.exists_read_of_kind .data inRange octets
  rw [decode_eq_decodeAs ((Frame.opcode_eq_iff hf).mp known), decodeAs, Ne, map_eq_error_iff,
    DataPacket.decode_eq_error_iff]
  simp [hf, known, Frame.expect_eq_error_iff]

theorem decode_acknowledgment_eq_error_iff (inRange : 4 ≤ b.length ∧ b.length ≤ 516)
    (octets : b = [0, 4, hi, lo] ++ x) :
    decode rules b = .error fault ↔
      x ≠ [] ∧ fault = .malformedFraming .acknowledgmentLength := by
  obtain ⟨f, hf, known, body⟩ := Frame.exists_read_of_kind .acknowledgment inRange octets
  obtain ⟨-, -, rfl⟩ : _ ∧ _ ∧ f.rest = x := by simpa [Frame.body] using body
  rw [decode_eq_decodeAs ((Frame.opcode_eq_iff hf).mp known), decodeAs, map_eq_error_iff,
    Acknowledgment.decode_eq_error_iff]
  simp [hf, known, Frame.expect_eq_error_iff]

theorem decode_error_eq_error_iff (inRange : 4 ≤ b.length ∧ b.length ≤ 516)
    (octets : b = [0, 5, hi, lo] ++ x) :
    decode rules b = .error fault ↔ MessageDefect rules x fault := by
  obtain ⟨f, hf, known, body⟩ := Frame.exists_read_of_kind .error inRange octets
  obtain ⟨-, -, rfl⟩ : _ ∧ _ ∧ f.rest = x := by simpa [Frame.body] using body
  rw [decode_eq_decodeAs ((Frame.opcode_eq_iff hf).mp known), decodeAs, map_eq_error_iff,
    ErrorPacket.decode_eq_error_iff, ← ErrorPacket.ofFrame_eq_error_iff]
  simp [hf, known, Frame.expect_eq_error_iff]

theorem decode_eq_unknownType (inRange : 4 ≤ b.length ∧ b.length ≤ 516) {w : UInt16}
    (octets : b = Octets.ofWord w ++ x) (foreign : w.toNat ∉ [1, 3, 4, 5]) :
    decode rules b = .error (.unknownType w) := by
  obtain ⟨f, hf, -⟩ := Frame.exists_read inRange
  have first : b.take 2 = Octets.ofWord w := by
    rw [octets]
    rfl
  obtain rfl := (Frame.opcode_eq_iff hf).mpr first
  have none : Opcode.ofWord? f.opcode = none := by
    rw [Option.eq_none_iff_forall_ne_some]
    intro kind known
    exact foreign (Opcode.toNat_mem_iff.mpr ⟨kind, known⟩)
  rw [decode_eq_peekOpcode_bind, peekOpcode_eq_error_iff.mpr (Or.inr ⟨f, hf, none, rfl⟩)]
  rfl

/-- What is refused has a defect. -/
theorem defect_of_decode (h : decode rules b = .error fault) : Defect rules b fault := by
  cases hf : Frame.read b with
  | error e =>
    obtain rfl : e = fault := Except.error.inj ((decode_of_read_error hf).symm.trans h)
    rcases Frame.read_eq_error_iff.mp hf with ⟨short, rfl⟩ | ⟨long, rfl⟩
    · exact .undersized short
    · exact .oversized long
  | ok f =>
    have inRange := Frame.length_of_read hf
    have octets := (Frame.read_eq_ok_iff.mp hf).1
    by_cases known : f.opcode.toNat ∈ [1, 3, 4, 5]
    · obtain ⟨kind, known⟩ := Opcode.toNat_mem_iff.mp known
      rw [Opcode.ofWord?_eq_some_iff.mp known, Octets.ofWord_opcode] at octets
      cases kind with
      | readRequest =>
        exact .readRequest inRange f.body octets fault
          ((decode_readRequest_eq_error_iff inRange octets).mp h)
      | data => exact absurd h (decode_data_ne_error inRange octets)
      | acknowledgment =>
        obtain ⟨more, rfl⟩ := (decode_acknowledgment_eq_error_iff inRange octets).mp h
        exact .acknowledgment inRange f.hi f.lo f.rest octets more
      | error =>
        exact .error inRange f.hi f.lo f.rest octets fault
          ((decode_error_eq_error_iff inRange octets).mp h)
    · obtain rfl := Except.error.inj ((decode_eq_unknownType inRange octets known).symm.trans h)
      exact .unknownType inRange f.opcode f.body octets known

/-- What has a defect is refused for it. -/
theorem decode_of_defect (h : Defect rules b fault) : decode rules b = .error fault := by
  cases h with
  | undersized short => exact decode_of_read_error (Frame.read_of_short short)
  | oversized long => exact decode_of_read_error (Frame.read_of_long long)
  | unknownType inRange w x octets foreign => exact decode_eq_unknownType inRange octets foreign
  | readRequest inRange x octets _ defect =>
    exact (decode_readRequest_eq_error_iff inRange octets).mpr defect
  | acknowledgment inRange hi lo x octets more =>
    exact (decode_acknowledgment_eq_error_iff inRange octets).mpr ⟨more, rfl⟩
  | error inRange hi lo x octets _ defect =>
    exact (decode_error_eq_error_iff inRange octets).mpr defect

theorem exists_defect_iff : (∃ fault, Defect rules b fault) ↔ ¬ ∃ p, decode rules b = .ok p := by
  cases h : decode rules b with
  | error fault => simpa using ⟨fault, defect_of_decode h⟩
  | ok p =>
    simp only [Except.ok.injEq, exists_eq', not_true, iff_false, not_exists]
    intro fault defect
    rw [decode_of_defect defect] at h
    cases h

end Packet

theorem Defect.isDecodeFault {rules : DecodeRules} {b : Octets} {fault : Fault}
    (h : Defect rules b fault) : fault.isDecodeFault = true := by
  cases h with
  | undersized | oversized | unknownType | acknowledgment => rfl
  | readRequest _ _ _ _ defect => cases defect <;> rfl
  | error _ _ _ _ _ _ defect => cases defect <;> rfl

/-- **A datagram is refused for its first defect.** The fault that reading finds is told by the octets
alone: it is the defect that they have and that no other defect comes before, and it counts as a fault
of the datagram. A datagram has one such defect if its length is out of range or the grammar does not
derive it, and otherwise none. -/
theorem Packet.decode_eq_error_iff_defect (rules : DecodeRules) (b : Octets) :
    (∀ fault, decode rules b = .error fault ↔ Defect rules b fault) ∧
    (∀ fault, Defect rules b fault →
      fault.isDecodeFault = true ∧ ∀ other, Defect rules b other → other = fault) ∧
    ((∃ fault, Defect rules b fault) ↔
      ¬ ((4 ≤ b.length ∧ b.length ≤ 516) ∧ ∃ p, Datagram rules b p)) := by
  refine ⟨fun fault => ⟨defect_of_decode, decode_of_defect⟩, ?_, ?_⟩
  · intro fault defect
    refine ⟨defect.isDecodeFault, ?_⟩
    intro other second
    exact Except.error.inj ((decode_of_defect second).symm.trans (decode_of_defect defect))
  · rw [exists_defect_iff]
    refine not_congr ⟨?_, ?_⟩
    · rintro ⟨p, read⟩
      exact ⟨(datagram_of_decode read).1, p, (datagram_of_decode read).2⟩
    · rintro ⟨inRange, p, derived⟩
      exact ⟨p, decode_of_datagram inRange derived⟩

/-- The filename is empty, and no NUL ends the mode: the filename comes first. -/
example : Packet.decode {} [0, 1, 0, 0x6F] = .error .emptyFilename := rfl

end Tftp
