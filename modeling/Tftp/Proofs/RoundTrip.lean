import Tftp.Proofs.Block

/-! # Packets that read back

Writing a packet never fails and checks nothing, so not every packet survives being written and
read. `Packet.Canonical rules p` singles out those that do, field by field:

* a read request whose name can be carried (`IsWireName`) and whose mode is spelled `octet`;
* every data packet and every acknowledgment;
* an error whose message and code have one wire form only (`ErrorPacket.Canonical`).

The wire form of a canonical packet is a datagram of the grammar that stands for it, of a length in
range, so it reads back as that packet (`Packet.Canonical.decode_encode`). Conversely, whatever any
datagram is read as is canonical (`Packet.canonical_of_decode`). So exactly the canonical packets
read back as they are (`Packet.decode_encode_eq_ok_iff`). -/

namespace Tftp

/-! ### Texts and their octets -/

theorem Utf8.length_encode (text : String) : (encode text).length = text.utf8ByteSize := by
  rw [← String.size_toByteArray, ← String.utf8Encode_toList]
  exact List.size_toByteArray.symm

theorem Utf8.encode_eq_nil_iff {text : String} : encode text = [] ↔ text = "" := by
  rw [← List.length_eq_zero_iff, length_encode, String.utf8ByteSize_eq_zero_iff]

theorem Utf8.zero_mem_encodeChar_iff {c : Char} :
    0 ∈ String.utf8EncodeChar c ↔ c = '\x00' := by
  have ascii : ∀ n < 0x80, 0 ∈ String.utf8EncodeChar (Char.ofNat n) → Char.ofNat n = '\x00' := by
    decide +kernel
  constructor
  · intro h
    rcases Nat.lt_or_ge c.toNat 0x80 with low | high
    · have := ascii c.toNat low
      rw [Char.ofNat_toNat] at this
      exact this h
    · exact absurd (le_of_mem_encodeChar high h) (by decide)
  · rintro rfl
    decide

theorem Utf8.zero_mem_encode_iff {text : String} : 0 ∈ encode text ↔ '\x00' ∈ text.toList := by
  rw [encode, encodeChars, List.mem_flatMap]
  constructor
  · rintro ⟨c, mem, zero⟩
    rwa [zero_mem_encodeChar_iff.mp zero] at mem
  · intro mem
    exact ⟨_, mem, zero_mem_encodeChar_iff.mpr rfl⟩

theorem Utf8.encode_octetMode : encode octetMode = [0x6F, 0x63, 0x74, 0x65, 0x74] := by decide

theorem Octets.zero_notMem_of_map_lower {o : Octets} (h : o.map lower = Utf8.encode octetMode) :
    0 ∉ o := by
  intro zero
  have mem : lower 0 ∈ Utf8.encode octetMode := h ▸ List.mem_map_of_mem zero
  exact absurd mem (by decide)

theorem Octets.length_of_map_lower {o : Octets} (h : o.map lower = Utf8.encode octetMode) :
    o.length = 5 := by
  rw [← List.length_map (f := lower), h, Utf8.encode_octetMode]
  rfl

theorem ReadRequest.map_lower_wireMode (name : String) {mode : String}
    (h : mode = "" ∨ Text.equalIgnoringCase mode octetMode = true) :
    (Utf8.encode (wireMode ⟨name, mode⟩)).map Octets.lower = Utf8.encode octetMode := by
  rw [← Text.equalIgnoringCase_iff_map_lower]
  by_cases empty : mode = ""
  · subst empty
    show Text.equalIgnoringCase octetMode octetMode = true
    decide
  · have kept : wireMode ⟨name, mode⟩ = mode := by simp [wireMode, empty]
    rw [kept]
    exact h.resolve_left empty

/-! ### Codes -/

theorem ErrorCode.lt_of_ofWord_eq_unassigned {w n : UInt16} (h : ofWord w = .unassigned n) :
    7 < n := by
  unfold ofWord at h
  repeat' split at h
  all_goals cases h
  grind

theorem ErrorCode.ofWord_unassigned {n : UInt16} (h : 7 < n) : ofWord n = .unassigned n := by
  unfold ofWord
  grind

theorem ErrorCode.ofWord_toWord {c : ErrorCode} (h : ∀ n, c = .unassigned n → 7 < n) :
    ofWord c.toWord = c := by
  cases c with
  | unassigned n => exact ofWord_unassigned (h n rfl)
  | _ => rfl

/-! ### Canonical packets -/

/-- A name that a peer reads as it was written. -/
structure IsWireName (name : String) : Prop where
  named : name ≠ ""
  noNul : '\x00' ∉ name.toList
  /-- The largest datagram has room for the name beside opcode, mode and two NULs. -/
  short : name.utf8ByteSize ≤ 507

/-- An error whose wire form is read as that error. -/
structure ErrorPacket.Canonical (rules : DecodeRules) (e : ErrorPacket) : Prop where
  noNul : 0 ∉ e.message
  short : e.message.length ≤ 511
  /-- A number with a meaning is given by its meaning. -/
  code : ∀ n, e.code = .unassigned n → 7 < n
  text : rules.strictText = true → Utf8.Valid e.message

namespace Packet

/-- A packet whose wire form is read as that packet. -/
def Canonical (rules : DecodeRules) : Packet → Prop
  | .readRequest r => IsWireName r.filename ∧ r.mode = octetMode
  | .data _ | .acknowledgment _ => True
  | .error e => e.Canonical rules

/-- Of the rules only the one on texts decides which packets are canonical. -/
theorem Canonical.of_strictText {rules rules' : DecodeRules} {p : Packet} (h : p.Canonical rules)
    (same : rules'.strictText = rules.strictText) : p.Canonical rules' := by
  cases p with
  | readRequest | data | acknowledgment => exact h
  | error e => exact { h with text := fun strict => h.text (same ▸ strict) }

end Packet

variable {rules : DecodeRules} {b : Octets} {p : Packet}

/-! ### What is read is canonical -/

theorem Datagram.canonical (h : Datagram rules b p) (fits : b.length ≤ 516) :
    p.Canonical rules := by
  cases h with
  | readRequest filename mode rest named noNul modeNoNul octet ends =>
    refine ⟨⟨mt Utf8.encode_eq_nil_iff.mpr named, mt Utf8.zero_mem_encode_iff.mpr noNul, ?_⟩, rfl⟩
    show filename.utf8ByteSize ≤ 507
    have five := Octets.length_of_map_lower octet
    simp only [List.length_append, List.length_cons, List.length_nil, five] at fits
    rw [← Utf8.length_encode]
    omega
  | data | acknowledgment => trivial
  | error hi lo code message rest number noNul text =>
    refine ⟨noNul, ?_, fun n => ErrorCode.lt_of_ofWord_eq_unassigned, text⟩
    show message.length ≤ 511
    simp only [List.length_append, List.length_cons, List.length_nil] at fits
    omega

namespace Packet

/-- Whatever a datagram is read as is canonical, also where the datagram is not. -/
theorem canonical_of_decode (h : decode rules b = .ok p) : p.Canonical rules := by
  obtain ⟨⟨-, fits⟩, derived⟩ := datagram_of_decode h
  exact derived.canonical fits

/-! ### What is canonical is read -/

/-- A request for such a name reads back with its mode in small letters, if its mode spells `octet`
in whatever case or is left out. -/
theorem decode_encode_readRequest {name mode : String} (hn : IsWireName name)
    (hm : mode = "" ∨ Text.equalIgnoringCase mode octetMode = true) :
    decode rules (readRequest ⟨name, mode⟩).encode = .ok (.readRequest ⟨name, octetMode⟩) := by
  have octet := ReadRequest.map_lower_wireMode name hm
  have five := Octets.length_of_map_lower octet
  have short : (Utf8.encode name).length ≤ 507 := Utf8.length_encode name ▸ hn.short
  apply decode_of_datagram
  · rw [Packet.length_encode]
    simp only [encodedLength, ReadRequest.encodedLength, five]
    omega
  · rw [encode, ReadRequest.encode, Octets.ofWord_opcode]
    exact .readRequest name _ [] (mt Utf8.encode_eq_nil_iff.mp hn.named)
      (mt Utf8.zero_mem_encode_iff.mp hn.noNul) (Octets.zero_notMem_of_map_lower octet) octet
      fun _ => rfl

theorem decode_encode_error {e : ErrorPacket} (h : e.Canonical rules) :
    decode rules (error e).encode = .ok (.error e) := by
  have short := h.short
  apply decode_of_datagram
  · rw [Packet.length_encode]
    simp only [encodedLength, ErrorPacket.encodedLength, headerSize]
    omega
  · have number := Octets.word_eq_iff.mp (Octets.word_ofWord e.code.toWord).symm
    have derived : Datagram rules e.encode (.error ⟨.ofWord e.code.toWord, e.message⟩) :=
      .error _ _ e.code.toWord e.message [] number h.noNul h.text
    rwa [ErrorCode.ofWord_toWord h.code] at derived

theorem Canonical.decode_encode (h : p.Canonical rules) : decode rules p.encode = .ok p := by
  cases p with
  | readRequest r =>
    obtain ⟨name, mode⟩ := r
    obtain ⟨hn, rfl⟩ : IsWireName name ∧ mode = octetMode := h
    exact decode_encode_readRequest hn (Or.inr (by decide))
  | data d => exact decode_encode_data rules d
  | acknowledgment a => exact decode_encode_acknowledgment rules a
  | error e => exact decode_encode_error h

/-- **Exactly the canonical packets read back as they are.** A read request whose mode is left out
or spelled with capitals reads back as the same request in the canonical spelling. -/
theorem decode_encode_eq_ok_iff (rules : DecodeRules) :
    (∀ p : Packet, decode rules p.encode = .ok p ↔ p.Canonical rules) ∧
    ∀ name mode, IsWireName name → (mode = "" ∨ Text.equalIgnoringCase mode octetMode = true) →
      decode rules (readRequest ⟨name, mode⟩).encode = .ok (.readRequest ⟨name, octetMode⟩) :=
  ⟨fun _ => ⟨canonical_of_decode, Canonical.decode_encode⟩,
    fun _ _ => decode_encode_readRequest⟩

/-- A mode in mixed case, under the strictest rules. -/
theorem decode_encode_eq_ok_iff_mixedCase :
    IsWireName "pxelinux.0" ∧ Text.equalIgnoringCase "OcTeT" octetMode = true ∧
    decode ⟨true, true⟩ (readRequest ⟨"pxelinux.0", "OcTeT"⟩).encode =
      .ok (.readRequest ⟨"pxelinux.0", octetMode⟩) := by
  have name : IsWireName "pxelinux.0" := ⟨by decide, by decide, by decide⟩
  have mode : Text.equalIgnoringCase "OcTeT" octetMode = true := by decide
  exact ⟨name, mode, (decode_encode_eq_ok_iff ⟨true, true⟩).2 _ _ name (Or.inr mode)⟩

end Packet
end Tftp
