import Tftp.Proofs.RoundTrip

/-! # Writing back what was read

A packet that was read from a datagram need not be written as that datagram: what follows the text
of a read request or of an error is ignored by the reader, and the case of a mode is not kept. The
lemmas on the grammar say what is kept of each layout: all of a data packet and of an acknowledgment
(`Datagram.encode_data`, `Datagram.encode_acknowledgment`), a read request up to the NUL after its
mode and an error up to the NUL after its message (`Datagram.encode_readRequest`,
`Datagram.encode_error`).

So reading and writing back is a normalisation (`Packet.decode_normalizes`): it ends in a datagram
that reads back as the same packet, it never adds to the datagram, and it changes at most the case
of the mode. An error comes back whole exactly if its datagram ends with the first NUL of its
message (`Packet.encode_decoded_error`). -/

namespace Tftp

/-- What a datagram becomes when it is read and written back. -/
def Packet.normalize (rules : DecodeRules) (b : Octets) : Except Fault Octets :=
  (decode rules b).map encode

/-- The octets of a read request that ends with its mode, the mode in small letters: the five octets
before the last one. -/
def Octets.lowerMode (o : Octets) : Octets :=
  o.take (o.length - 6) ++ ((o.drop (o.length - 6)).take 5).map lower ++ o.drop (o.length - 1)

theorem Octets.lowerMode_append {start mode : Octets} {last : UInt8} (five : mode.length = 5) :
    lowerMode (start ++ mode ++ [last]) = start ++ mode.map lower ++ [last] := by
  have length : (start ++ mode ++ [last]).length = start.length + 6 := by simp [five]
  have cut : start.length + 6 - 6 = start.length := by omega
  have ending : start.length + 6 - 1 = (start ++ mode).length := by simp [five]
  rw [lowerMode, length, cut, ending, List.drop_left, List.append_assoc start,
    List.take_left, List.drop_left, List.take_left' five]

theorem Octets.ofWord_eq {hi lo : UInt8} {w : UInt16} (h : w.toNat = 256 * hi.toNat + lo.toNat) :
    ofWord w = [hi, lo] := by
  rw [word_eq_iff.mpr h, ofWord_word]

/-! ### What is kept of each layout -/

namespace Datagram

variable {rules : DecodeRules} {b : Octets}

theorem encode_data {d : DataPacket} (h : Datagram rules b (.data d)) : d.encode = b := by
  cases h with
  | data hi lo packet block =>
    rw [DataPacket.encode, Octets.ofWord_eq block]
    rfl

theorem encode_acknowledgment {a : Acknowledgment} (h : Datagram rules b (.acknowledgment a)) :
    a.encode = b := by
  cases h with
  | acknowledgment hi lo block number =>
    rw [Acknowledgment.encode, Octets.ofWord_eq number]
    rfl

theorem encode_readRequest {r : ReadRequest} (h : Datagram rules b (.readRequest r)) :
    ∃ kept rest, b = kept ++ rest ∧ r.encode = kept.lowerMode ∧ r.encode.length = kept.length := by
  cases h with
  | readRequest filename mode rest named noNul modeNoNul octet ends =>
    have five := Octets.length_of_map_lower octet
    have written : (ReadRequest.mk filename octetMode).encode =
        ([0, 1] ++ Utf8.encode filename ++ [0]) ++ mode.map Octets.lower ++ [0] := by
      rw [octet, ReadRequest.encode, Octets.ofWord_opcode]
      simp [ReadRequest.wireMode]
    refine ⟨([0, 1] ++ Utf8.encode filename ++ [0]) ++ mode ++ [0], rest, by simp, ?_, ?_⟩
    · rw [written, Octets.lowerMode_append five]
    · rw [written]
      simp

/-- An error is kept up to the NUL after its message. -/
theorem encode_error {e : ErrorPacket} (h : Datagram rules b (.error e)) :
    0 ∉ e.message ∧ ∃ rest, b = e.encode ++ rest := by
  cases h with
  | error hi lo code message rest number noNul text =>
    refine ⟨noNul, rest, ?_⟩
    rw [ErrorPacket.encode, ErrorCode.toWord_ofWord, Octets.ofWord_eq number]
    simp [Octets.ofWord_opcode]

theorem length_encode_le {p : Packet} (h : Datagram rules b p) : p.encode.length ≤ b.length := by
  cases p with
  | readRequest r =>
    obtain ⟨kept, rest, hb, -, length⟩ := h.encode_readRequest
    rw [hb, List.length_append]
    exact length ▸ Nat.le_add_right _ _
  | data d => exact Nat.le_of_eq (congrArg List.length h.encode_data)
  | acknowledgment a => exact Nat.le_of_eq (congrArg List.length h.encode_acknowledgment)
  | error e =>
    obtain ⟨-, rest, hb⟩ := h.encode_error
    rw [hb, List.length_append]
    exact Nat.le_add_right _ _

end Datagram

namespace Packet

/-! ### Errors -/

/-- **A decoded error is written back up to the NUL after its message**, whatever its code and its
octets. So the datagram comes back whole exactly if no octet follows the first NUL of its message. -/
theorem encode_decoded_error {rules : DecodeRules} {b : Octets} {e : ErrorPacket}
    (h : ErrorPacket.decode rules b = .ok e ∨ decode rules b = .ok (.error e)) :
    (error e).encode <+: b ∧
      ((error e).encode = b ↔ 0 ∉ (b.drop headerSize).dropLast) := by
  have read : decode rules b = .ok (.error e) := by
    rcases h with alone | any
    · exact decode_eq_ok_iff.mpr alone
    · exact any
  obtain ⟨noNul, rest, hb⟩ := (datagram_of_decode read).2.encode_error
  have text : b.drop headerSize = e.message ++ 0 :: rest := by
    rw [hb]
    simp [ErrorPacket.encode, Octets.ofWord, headerSize]
  refine ⟨⟨rest, hb.symm⟩, ?_⟩
  rw [text]
  show e.encode = b ↔ _
  cases rest with
  | nil => simp [hb, noNul]
  | cons x rest => simp [hb]

/-- A message that is no text, under a code without a meaning, comes back whole. -/
theorem encode_decoded_error_illFormed :
    decode {} [0, 5, 1, 0, 0xC3, 0x28, 0] = .ok (.error ⟨.unassigned 256, [0xC3, 0x28]⟩) ∧
    (error ⟨.unassigned 256, [0xC3, 0x28]⟩).encode = [0, 5, 1, 0, 0xC3, 0x28, 0] := by
  have read : decode {} [0, 5, 1, 0, 0xC3, 0x28, 0] =
      .ok (.error ⟨.unassigned 256, [0xC3, 0x28]⟩) := rfl
  exact ⟨read, (encode_decoded_error (Or.inr read)).2.mpr (by decide)⟩

/-- What follows the message is lost. -/
theorem encode_decoded_error_padded :
    ErrorPacket.decode {} [0, 5, 0, 1, 0x78, 0, 0xFF] = .ok ⟨.notFound, [0x78]⟩ ∧
    decode {} [0, 5, 0, 1, 0x78, 0, 0xFF] = .ok (.error ⟨.notFound, [0x78]⟩) ∧
    (error ⟨.notFound, [0x78]⟩).encode ≠ [0, 5, 0, 1, 0x78, 0, 0xFF] :=
  ⟨rfl, rfl, by decide⟩

/-! ### All kinds -/

variable {rules : DecodeRules} {b o : Octets}

theorem normalize_eq_ok_iff :
    normalize rules b = .ok o ↔ ∃ p, decode rules b = .ok p ∧ p.encode = o := by
  unfold normalize
  cases decode rules b with
  | error fault => simp [Except.map]
  | ok p => simp [Except.map]

/-- A datagram that was written back is left as it is. -/
theorem normalize_of_normalize (h : normalize rules b = .ok o) : normalize rules o = .ok o := by
  obtain ⟨p, read, rfl⟩ := normalize_eq_ok_iff.mp h
  exact normalize_eq_ok_iff.mpr ⟨p, (canonical_of_decode read).decode_encode, rfl⟩

/-- **Reading and writing back is a normalisation.** What is written back reads as the same packet,
also by a reader that refuses options; it is no longer than the datagram; and it differs from the
start of the datagram at most in the case of a mode. Doing it again changes nothing. -/
theorem decode_normalizes (rules : DecodeRules) (b : Octets) :
    (∀ p, decode rules b = .ok p →
      decode rules p.encode = .ok p ∧
      decode { rules with rejectRequestOptions := true } p.encode = .ok p ∧
      (4 ≤ p.encode.length ∧ p.encode.length ≤ b.length ∧ b.length ≤ 516) ∧
      match p with
      | .readRequest r => r.encode = Octets.lowerMode (b.take r.encode.length)
      | .data d => d.encode = b
      | .acknowledgment a => a.encode = b
      | .error e => e.encode <+: b) ∧
    ∀ o, normalize rules b = .ok o → normalize rules o = .ok o ∧ o.length ≤ b.length := by
  constructor
  · intro p read
    have canonical := canonical_of_decode read
    have again := canonical.decode_encode
    obtain ⟨⟨-, fits⟩, derived⟩ := datagram_of_decode read
    obtain ⟨⟨long, -⟩, -⟩ := datagram_of_decode again
    have strict : p.Canonical { rules with rejectRequestOptions := true } :=
      canonical.of_strictText rfl
    refine ⟨again, strict.decode_encode, ⟨long, derived.length_encode_le, fits⟩, ?_⟩
    cases p with
    | readRequest r =>
      obtain ⟨kept, rest, hb, written, length⟩ := derived.encode_readRequest
      show r.encode = Octets.lowerMode (b.take r.encode.length)
      rw [length, hb, List.take_left, written]
    | data d => exact derived.encode_data
    | acknowledgment a => exact derived.encode_acknowledgment
    | error e =>
      obtain ⟨-, rest, hb⟩ := derived.encode_error
      exact ⟨rest, hb.symm⟩
  · intro o h
    refine ⟨normalize_of_normalize h, ?_⟩
    obtain ⟨p, read, rfl⟩ := normalize_eq_ok_iff.mp h
    exact (datagram_of_decode read).2.length_encode_le

/-- A request for `x` in a mode of mixed case, with an option: neither is kept. -/
theorem decode_normalizes_mixedCase :
    decode {} [0, 1, 0x78, 0, 0x4F, 0x63, 0x74, 0x65, 0x54, 0, 0x61, 0] =
      .ok (.readRequest ⟨"x", octetMode⟩) ∧
    normalize {} [0, 1, 0x78, 0, 0x4F, 0x63, 0x74, 0x65, 0x54, 0, 0x61, 0] =
      .ok [0, 1, 0x78, 0, 0x6F, 0x63, 0x74, 0x65, 0x74, 0] ∧
    normalize {} [0, 1, 0x78, 0, 0x6F, 0x63, 0x74, 0x65, 0x74, 0] =
      .ok [0, 1, 0x78, 0, 0x6F, 0x63, 0x74, 0x65, 0x74, 0] ∧
    decode ⟨false, true⟩ [0, 1, 0x78, 0, 0x6F, 0x63, 0x74, 0x65, 0x74, 0] =
      .ok (.readRequest ⟨"x", octetMode⟩) := by
  have read : decode {} [0, 1, 0x78, 0, 0x4F, 0x63, 0x74, 0x65, 0x54, 0, 0x61, 0] =
      .ok (.readRequest ⟨"x", octetMode⟩) :=
    decode_of_datagram (by decide) (.readRequest "x" [0x4F, 0x63, 0x74, 0x65, 0x54] [0x61, 0]
      (by decide) (by decide) (by decide) (by decide) (by decide))
  have written : (readRequest ⟨"x", octetMode⟩).encode =
      [0, 1, 0x78, 0, 0x6F, 0x63, 0x74, 0x65, 0x74, 0] := by decide
  obtain ⟨packets, octets⟩ :=
    decode_normalizes {} [0, 1, 0x78, 0, 0x4F, 0x63, 0x74, 0x65, 0x54, 0, 0x61, 0]
  have normal := normalize_eq_ok_iff.mpr ⟨_, read, written⟩
  obtain ⟨-, strict, -⟩ := packets _ read
  rw [written] at strict
  exact ⟨read, normal, (octets _ normal).1, strict⟩

end Packet
end Tftp
