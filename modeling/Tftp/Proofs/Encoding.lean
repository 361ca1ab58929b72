import Tftp.Proofs.Block

/-! # One wire form, written in several ways

The layout of a data packet is written down twice, once for a packet and once for the next block of a
session, which is never made a packet; and each of the two judges the length of the content. An
acknowledgment is written as octets and as an array of fixed size. Every kind is also written field by
field behind what a buffer holds, and its length is computed without writing it.

* Writing the next block is making a packet of it and writing that, also where the content does not
  fit (`DataPacket.encodeNext_eq_map`).
* What was written is read back as the packet by everything that reads data packets
  (`DataPacket.readsBack`).
* The array of an acknowledgment holds its wire form (`Acknowledgment.toList_toArray`).

Together with `Packet.appendTo_eq` and `Packet.length_encode` they leave one wire form for each packet
(`Packet.encoders_agree`). -/

namespace Tftp

/-! ### Data packets -/

namespace DataPacket

variable {current block : UInt16} {content : Octets}

theorem ofPayload_of_fits (fits : content.length ≤ blockSize) :
    ofPayload block content = .ok ⟨block, content, fits⟩ := dif_pos fits

theorem ofPayload_of_long (long : blockSize < content.length) :
    ofPayload block content = .error (.oversizedPayload content.length) :=
  dif_neg (Nat.not_le_of_lt long)

/-- The next block is written as the packet of its number, and refused where that is refused. -/
theorem encodeNext_eq_map (current : UInt16) (content : Octets) :
    encodeNext current content =
      (ofPayload (current + 1) content).map fun d => (d.encode, d.block) := by
  rcases Nat.lt_or_ge blockSize content.length with long | fits
  · rw [ofPayload_of_long long, encodeNext, if_neg (Nat.not_le_of_lt long)]
    rfl
  · rw [ofPayload_of_fits fits, encodeNext_of_fits fits]
    rfl

/-- Everything that reads data packets reads the wire form as the packet: from octets or from a
shared buffer, as a data packet or as any packet, under any rules. -/
structure ReadsBack (d : DataPacket) : Prop where
  alone : decode d.encode = .ok d
  any : ∀ rules, Packet.decode rules d.encode = .ok (.data d)
  view : ∀ v : View, v.octets = d.encode → decodeView v = .ok d
  anyView : ∀ (v : View) rules, v.octets = d.encode → Packet.decodeView rules v = .ok (.data d)

theorem readsBack (d : DataPacket) : d.ReadsBack := by
  have any := fun rules => Packet.decode_encode_data rules d
  have alone : decode d.encode = .ok d := Packet.decode_eq_ok_iff.mp (any {})
  refine ⟨alone, any, ?_, ?_⟩
  · intro v shows
    rw [decodeView_eq, shows, alone]
  · intro v rules shows
    rw [Packet.decodeView_eq, shows, any]

end DataPacket

/-! ### Acknowledgments -/

theorem Octets.ofWord_eq_halves (w : UInt16) : ofWord w = [(w >>> 8).toUInt8, w.toUInt8] := by
  have upper : UInt8.ofNat (w.toNat / 256) = (w >>> 8).toUInt8 := by
    apply UInt8.toNat_inj.mp
    rw [UInt16.toNat_toUInt8, UInt16.toNat_shiftRight, UInt8.toNat_ofNat']
    show _ = (w.toNat >>> 8) % 256
    rw [Nat.shiftRight_eq_div_pow]
  have lower : UInt8.ofNat (w.toNat % 256) = w.toUInt8 := by
    apply UInt8.toNat_inj.mp
    rw [UInt16.toNat_toUInt8, UInt8.toNat_ofNat']
    omega
  rw [ofWord, upper, lower]

theorem Acknowledgment.toList_toArray (a : Acknowledgment) : a.toArray.toList = a.encode := by
  rw [encode, Octets.ofWord_eq_halves, Octets.ofWord_eq_halves]
  rfl

/-! ### All kinds -/

namespace Packet

/-- **However a packet is written, it is the same octets.** The next block of a session and the packet
with its number and content are refused together, exactly if the content is longer than a block and
for its length; otherwise the next block comes out as the wire form of that packet, under the number
that follows the current one and goes round after 65535, and is read back as that packet by everything
that reads data packets. Writing any packet behind what a buffer holds leaves that as it is and puts
the wire form behind it, which is as long as was computed. The array of an acknowledgment holds its
wire form. -/
theorem encoders_agree :
    (∀ (current : UInt16) (content : Octets),
      (512 < content.length →
        DataPacket.encodeNext current content = .error (.oversizedPayload content.length) ∧
        DataPacket.ofPayload (current + 1) content = .error (.oversizedPayload content.length)) ∧
      (content.length ≤ 512 → ∃ d : DataPacket,
        DataPacket.ofPayload (current + 1) content = .ok d ∧
        DataPacket.encodeNext current content = .ok ((data d).encode, d.block) ∧
        d.block.toNat = (current.toNat + 1) % 65536 ∧ d.payload = content ∧ d.ReadsBack)) ∧
    (∀ (p : Packet) (buffer : Octets),
      p.appendTo buffer = buffer ++ p.encode ∧ p.appendTo [] = p.encode ∧
        p.encodedLength = p.encode.length) ∧
    ∀ a : Acknowledgment, a.toArray.toList = a.encode := by
  refine ⟨fun current content => ⟨?_, ?_⟩, fun p buffer => ⟨p.appendTo_eq buffer, p.appendTo_eq [],
    p.length_encode.symm⟩, Acknowledgment.toList_toArray⟩
  · intro long
    have refused : DataPacket.ofPayload (current + 1) content = _ :=
      DataPacket.ofPayload_of_long long
    rw [DataPacket.encodeNext_eq_map, refused]
    exact ⟨rfl, rfl⟩
  · intro fits
    have made : DataPacket.ofPayload (current + 1) content = _ := DataPacket.ofPayload_of_fits fits
    refine ⟨_, made, ?_, UInt16.toNat_add current 1, rfl, DataPacket.readsBack _⟩
    rw [DataPacket.encodeNext_eq_map, made]
    rfl

/-- A full block after block 65535 fits and has number 0; with one octet more it does not fit. -/
theorem encoders_agree_edge :
    let full : Octets := List.replicate 512 7
    full.length ≤ 512 ∧ 512 < (7 :: full).length ∧
    (∃ d : DataPacket, DataPacket.encodeNext 65535 full = .ok ((data d).encode, d.block) ∧
      d.block.toNat = 0 ∧ d.ReadsBack) ∧
    DataPacket.encodeNext 65535 (7 :: full) = .error (.oversizedPayload 513) := by
  intro full
  have length : full.length = 512 := List.length_replicate
  have fits : full.length ≤ 512 := Nat.le_of_eq length
  have long : 512 < (7 :: full).length := Nat.lt_succ_of_le (Nat.le_of_eq length.symm)
  obtain ⟨d, -, next, number, -, reads⟩ := (encoders_agree.1 65535 full).2 fits
  have refused := ((encoders_agree.1 65535 (7 :: full)).1 long).1
  rw [List.length_cons, length] at refused
  exact ⟨fits, long, ⟨d, next, number, reads⟩, refused⟩

end Packet
end Tftp
