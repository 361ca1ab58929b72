import Tftp.Proofs.Grammar

/-! # The blocks of a transfer

The blocks of a transfer are counted from 1 without an end, but a datagram carries only the last
sixteen bits of the count (`blockNumber`). Two counts are told apart by their numbers as long as
they are less than 65536 apart (`blockNumber_eq_iff`, `blockNumber_inj`).

The datagrams of a transfer read back as what they were written from (`Packet.decode_encode_data`,
`Packet.decode_encode_acknowledgment`), under any rules. -/

namespace Tftp

/-! ### Numbers -/

/-- The number that the `n`-th block of a transfer carries. -/
def blockNumber (n : Nat) : UInt16 := UInt16.ofNat n

theorem blockNumber_succ (n : Nat) : blockNumber (n + 1) = blockNumber n + 1 := by
  apply UInt16.toNat_inj.mp
  simp [blockNumber, UInt16.toNat_add]

theorem blockNumber_eq_iff {m n : Nat} : blockNumber m = blockNumber n ↔ m % 65536 = n % 65536 := by
  rw [← UInt16.toNat_inj, blockNumber, blockNumber, UInt16.toNat_ofNat', UInt16.toNat_ofNat']

/-- Counts that are less than a full turn of the counter apart are told apart. -/
theorem blockNumber_inj {m n : Nat} (h : m < n + 65536) (h' : n < m + 65536)
    (eq : blockNumber m = blockNumber n) : m = n := by
  have := blockNumber_eq_iff.mp eq
  omega

/-! ### Contents -/

/-- The contents of some blocks, joined. -/
def payloads (packets : List DataPacket) : Octets := packets.flatMap DataPacket.payload

theorem payloads_append (a b : List DataPacket) :
    payloads (a ++ b) = payloads a ++ payloads b := List.flatMap_append

theorem payloads_singleton (p : DataPacket) : payloads [p] = p.payload := List.append_nil _

theorem payloads_take_prefix_payloads (packets : List DataPacket) (k : Nat) :
    payloads (packets.take k) <+: payloads packets :=
  ⟨payloads (packets.drop k), by rw [← payloads_append, List.take_append_drop]⟩

theorem payloads_take_succ {packets : List DataPacket} {k : Nat} {p : DataPacket}
    (h : packets[k]? = some p) :
    payloads (packets.take (k + 1)) = payloads (packets.take k) ++ p.payload := by
  rw [List.take_add_one, h, payloads_append, Option.toList_some, payloads_singleton]

theorem DataPacket.length_payload_of_full {p : DataPacket} (full : p.isFinal = false) :
    p.payload.length = 512 :=
  Nat.le_antisymm p.fits (Nat.le_of_not_lt (of_decide_eq_false full))

theorem length_payloads_of_full {packets : List DataPacket}
    (full : ∀ p ∈ packets, p.isFinal = false) :
    (payloads packets).length = 512 * packets.length := by
  induction packets with
  | nil => rfl
  | cons p packets ih =>
    obtain ⟨first, others⟩ := List.forall_mem_cons.mp full
    have head := p.length_payload_of_full first
    have tail : (packets.flatMap DataPacket.payload).length = _ := ih others
    rw [payloads, List.flatMap_cons, List.length_append, List.length_cons]
    omega

/-! ### Datagrams -/

/-- The wire form of the next block is that of a data packet with the number after the last. -/
theorem DataPacket.encodeNext_of_fits {current : UInt16} {content : Octets}
    (fits : content.length ≤ blockSize) :
    encodeNext current content = .ok ((⟨current + 1, content, fits⟩ : DataPacket).encode,
      current + 1) := by
  rw [encodeNext, if_pos fits]
  rfl

theorem DataPacket.payload_eq_drop (p : DataPacket) : p.encode.drop headerSize = p.payload := rfl

theorem Packet.decode_encode_data (rules : DecodeRules) (p : DataPacket) :
    decode rules p.encode = .ok (.data p) := by
  have hf : Frame.read p.encode = .ok ⟨Opcode.data.toWord, _, _, p.payload⟩ :=
    Frame.read_eq_ok_iff.mpr ⟨List.append_assoc _ _ _, p.fits⟩
  refine decode_eq_ok_iff.mpr (DataPacket.decode_eq_ok_iff.mpr ⟨_, hf, rfl, ?_⟩)
  exact DataPacket.ofPayload_eq_ok_iff.mpr ⟨(Octets.word_ofWord p.block).symm, rfl⟩

theorem DataPacket.decodeView_encode (p : DataPacket) : decodeView (.whole p.encode) = .ok p := by
  rw [decodeView_eq, View.octets_whole]
  exact Packet.decode_eq_ok_iff.mp (Packet.decode_encode_data {} p)

theorem Packet.decode_encode_acknowledgment (rules : DecodeRules) (a : Acknowledgment) :
    decode rules a.encode = .ok (.acknowledgment a) := by
  have hf : Frame.read a.encode = .ok ⟨Opcode.acknowledgment.toWord, _, _, []⟩ :=
    Frame.read_eq_ok_iff.mpr ⟨rfl, Nat.zero_le _⟩
  refine decode_eq_ok_iff.mpr (Acknowledgment.decode_eq_ok_iff.mpr ⟨_, hf, rfl, rfl, ?_⟩)
  exact congrArg Acknowledgment.mk (Octets.word_ofWord a.block).symm

end Tftp
