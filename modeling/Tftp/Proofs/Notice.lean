import Tftp.Proofs.Dispatch
import Tftp.Proofs.RoundTrip

/-! # Telling a peer of a fault

Why a file cannot be served is told by an error packet: by the code and the description of the
fault's kind if the kind has a code of its own, and by the whole text of the fault otherwise
(`ErrorPacket.ofIoFault`). A packet arrives (`Packet.Arrives`) if its datagram is not too long and
is read as that packet whatever rules the peer has.

* The description of every code is short and holds no NUL, so a packet that says only its code
  arrives (`ErrorPacket.arrives_ofCode`).
* A text arrives exactly if it is at most 511 octets long and holds no NUL
  (`ErrorPacket.arrives_ofMessage_iff`).
* A longer text makes a datagram that is refused by its length alone
  (`ErrorPacket.decode_ofMessage_of_long`); one that holds a NUL is read as if it ended there
  (`ErrorPacket.decode_ofMessage_of_short`).

Nothing bounds the text of a fault, so some faults do not reach the peer
(`ErrorPacket.ofIoFault_lost`). `ErrorPacket.ofIoFault_reaches` tells those that do. -/

namespace Tftp

/-! ### Texts before a NUL -/

namespace Text

/-- The text before its first NUL, all of it if there is none. -/
def beforeNul (text : String) : String := String.ofList (text.toList.takeWhile (· ≠ '\x00'))

theorem nul_notMem_beforeNul (text : String) : '\x00' ∉ (beforeNul text).toList := by
  intro mem
  rw [beforeNul, String.toList_ofList] at mem
  simpa using List.all_eq_true.mp List.all_takeWhile _ mem

end Text

theorem Utf8.exists_encodeChars_append_nul (text : List Char) :
    ∃ rest, encodeChars text ++ [0] = encodeChars (text.takeWhile (· ≠ '\x00')) ++ 0 :: rest := by
  induction text with
  | nil => exact ⟨[], rfl⟩
  | cons c text ih =>
    by_cases nul : c = '\x00'
    · subst nul
      exact ⟨encodeChars text ++ [0], rfl⟩
    · obtain ⟨rest, parts⟩ := ih
      have kept : (c :: text).takeWhile (· ≠ '\x00') = c :: text.takeWhile (· ≠ '\x00') :=
        List.takeWhile_cons_of_pos (decide_eq_true nul)
      refine ⟨rest, ?_⟩
      rw [kept, encodeChars, encodeChars, List.flatMap_cons, List.flatMap_cons, List.append_assoc,
        List.append_assoc]
      exact congrArg (String.utf8EncodeChar c ++ ·) parts

theorem Utf8.exists_encode_append_nul (text : String) :
    ∃ rest, encode text ++ [0] = encode (Text.beforeNul text) ++ 0 :: rest := by
  rw [encode, encode, Text.beforeNul, String.toList_ofList]
  exact exists_encodeChars_append_nul text.toList

/-! ### Packets that arrive -/

namespace Packet

/-- The datagram of the packet is not too long, and any peer reads it as that packet. -/
def Arrives (p : Packet) : Prop :=
  p.encode.length ≤ 516 ∧ ∀ rules : DecodeRules, decode rules p.encode = .ok p

theorem arrives_iff_canonical {p : Packet} :
    p.Arrives ↔ ∀ rules : DecodeRules, p.Canonical rules := by
  constructor
  · rintro ⟨-, read⟩ rules
    exact canonical_of_decode (read rules)
  · intro canonical
    have read rules := (canonical rules).decode_encode
    exact ⟨(datagram_of_decode (read {})).1.2, read⟩

end Packet

namespace ErrorPacket

variable {code : ErrorCode} {text : String}

/-- Whatever the rules, a text is canonical if it is short and holds no NUL. -/
theorem canonical_ofMessage_iff {rules : DecodeRules}
    (assigned : ∀ n, code = .unassigned n → 7 < n) :
    (ofMessage code text).Canonical rules ↔ text.utf8ByteSize ≤ 511 ∧ '\x00' ∉ text.toList := by
  rw [← Utf8.length_encode, ← Utf8.zero_mem_encode_iff]
  constructor
  · intro canonical
    exact ⟨canonical.short, canonical.noNul⟩
  · rintro ⟨short, noNul⟩
    exact ⟨noNul, short, assigned, fun _ => ⟨text, rfl⟩⟩

theorem arrives_ofMessage_iff (assigned : ∀ n, code = .unassigned n → 7 < n) :
    (Packet.error (ofMessage code text)).Arrives ↔
      text.utf8ByteSize ≤ 511 ∧ '\x00' ∉ text.toList := by
  rw [Packet.arrives_iff_canonical]
  exact ⟨fun all => (canonical_ofMessage_iff assigned).mp (all {}),
    fun fits _ => (canonical_ofMessage_iff assigned).mpr fits⟩

theorem description_fits (code : ErrorCode) :
    code.description.utf8ByteSize ≤ 511 ∧ '\x00' ∉ code.description.toList := by
  cases code with
  | unknown | notFound | accessViolation | diskFull | illegalOperation | unknownTransfer
    | fileExists | noSuchUser => decide
  | unassigned n =>
    rw [ErrorCode.description]
    decide

theorem arrives_ofCode (assigned : ∀ n, code = .unassigned n → 7 < n) :
    (Packet.error (ofCode code)).Arrives :=
  (arrives_ofMessage_iff assigned).mpr (description_fits code)

/-! ### Texts that do not arrive -/

theorem length_encode_ofMessage :
    (Packet.error (ofMessage code text)).encode.length = text.utf8ByteSize + 5 := by
  rw [Packet.length_encode, ← Utf8.length_encode]
  show 4 + (Utf8.encode text).length + 1 = _
  omega

/-- A text without room in a datagram makes one that every reader refuses. -/
theorem decode_ofMessage_of_long (rules : DecodeRules) (long : 511 < text.utf8ByteSize) :
    Packet.decode rules (Packet.error (ofMessage code text)).encode =
      .error (.oversizedDatagram (text.utf8ByteSize + 5)) := by
  have length : (Packet.error (ofMessage code text)).encode.length = text.utf8ByteSize + 5 :=
    length_encode_ofMessage
  have failed := Frame.read_of_long (b := (Packet.error (ofMessage code text)).encode) (by omega)
  rw [Packet.decode_of_read_error failed, length]

/-- A text with room in a datagram is read up to its first NUL. -/
theorem decode_ofMessage_of_short (rules : DecodeRules)
    (assigned : ∀ n, code = .unassigned n → 7 < n) (short : text.utf8ByteSize ≤ 511) :
    Packet.decode rules (Packet.error (ofMessage code text)).encode =
      .ok (.error (ofMessage code (Text.beforeNul text))) := by
  obtain ⟨rest, parts⟩ := Utf8.exists_encode_append_nul text
  have whole : (Packet.error (ofMessage code text)).encode =
      Octets.ofWord Opcode.error.toWord ++ Octets.ofWord code.toWord ++
        Utf8.encode (Text.beforeNul text) ++ 0 :: rest := by
    show Octets.ofWord _ ++ Octets.ofWord code.toWord ++ Utf8.encode text ++ [0] = _
    rw [List.append_assoc _ (Utf8.encode text), parts, ← List.append_assoc]
  have number := Octets.word_eq_iff.mp (Octets.word_ofWord code.toWord).symm
  have noNul : 0 ∉ Utf8.encode (Text.beforeNul text) :=
    mt Utf8.zero_mem_encode_iff.mp (Text.nul_notMem_beforeNul text)
  have derived : Datagram rules _ _ := .error _ _ code.toWord
    (Utf8.encode (Text.beforeNul text)) rest number noNul fun _ => ⟨_, rfl⟩
  rw [ErrorCode.ofWord_toWord assigned] at derived
  apply Packet.decode_of_datagram
  · rw [length_encode_ofMessage]
    omega
  · rw [whole]
    exact derived

/-! ### Faults -/

/-- The kinds of faults that have a code of their own. -/
def ownCodes : List (IoKind × ErrorCode) :=
  [(.notFound, .notFound), (.permissionDenied, .accessViolation), (.alreadyExists, .fileExists),
    (.writeZero, .diskFull)]

theorem codeOf?_eq_some_iff {kind : IoKind} :
    codeOf? kind = some code ↔ (kind, code) ∈ ownCodes := by
  constructor
  · intro found
    unfold codeOf? at found
    split at found
    all_goals cases found
    all_goals decide
  · intro own
    simp only [ownCodes, List.mem_cons, Prod.mk.injEq, List.not_mem_nil, or_false] at own
    rcases own with ⟨rfl, rfl⟩ | ⟨rfl, rfl⟩ | ⟨rfl, rfl⟩ | ⟨rfl, rfl⟩
    all_goals rfl

variable {e : IoFault}

theorem ofIoFault_of_own (own : (e.kind, code) ∈ ownCodes) : ofIoFault e = ofCode code := by
  rw [ofIoFault, codeOf?_eq_some_iff.mpr own]

theorem ofIoFault_of_foreign (foreign : ∀ code, (e.kind, code) ∉ ownCodes) :
    ofIoFault e = ofMessage .unknown e.text := by
  have without : codeOf? e.kind = none :=
    Option.eq_none_iff_forall_ne_some.mpr fun code found =>
      foreign code (codeOf?_eq_some_iff.mp found)
  rw [ofIoFault, without]

theorem arrives_ofIoFault_of_own (own : (e.kind, code) ∈ ownCodes) :
    (Packet.error (ofIoFault e)).Arrives := by
  rw [ofIoFault_of_own own]
  apply arrives_ofCode
  rintro n rfl
  simp [ownCodes] at own

/-- **Which faults reach a peer.** A fault of a kind that has a code of its own is told by that code
and what it means, and arrives. Any other fault is told by its whole text. It arrives exactly if
the text is at most 511 octets long and holds no NUL. A longer text makes a datagram of more than
516 octets, which every peer refuses; a text that is not longer is read by every peer up to its
first NUL. -/
theorem ofIoFault_reaches (e : IoFault) :
    (∀ code, (e.kind, code) ∈ ownCodes →
      ofIoFault e = ofMessage code code.description ∧ (Packet.error (ofIoFault e)).Arrives) ∧
    ((∀ code, (e.kind, code) ∉ ownCodes) →
      ofIoFault e = ofMessage .unknown e.text ∧
      ((Packet.error (ofIoFault e)).Arrives ↔
        e.text.utf8ByteSize ≤ 511 ∧ '\x00' ∉ e.text.toList) ∧
      (511 < e.text.utf8ByteSize →
        (Packet.error (ofIoFault e)).encode.length = e.text.utf8ByteSize + 5 ∧
        ∀ rules, Packet.decode rules (Packet.error (ofIoFault e)).encode =
          .error (.oversizedDatagram (e.text.utf8ByteSize + 5))) ∧
      (e.text.utf8ByteSize ≤ 511 →
        ∀ rules, Packet.decode rules (Packet.error (ofIoFault e)).encode =
          .ok (.error (ofMessage .unknown (Text.beforeNul e.text))))) := by
  constructor
  · intro code own
    exact ⟨ofIoFault_of_own own, arrives_ofIoFault_of_own own⟩
  · intro foreign
    have assigned : ∀ n, ErrorCode.unknown = .unassigned n → 7 < n := nofun
    rw [ofIoFault_of_foreign foreign]
    exact ⟨rfl, arrives_ofMessage_iff assigned,
      fun long => ⟨length_encode_ofMessage, fun rules => decode_ofMessage_of_long rules long⟩,
      fun short rules => decode_ofMessage_of_short rules assigned short⟩

/-- A full disk and a disk on fire. -/
theorem ofIoFault_reaches_disk :
    (Packet.error (ofIoFault ⟨.writeZero, "failed to write whole buffer"⟩)).Arrives ∧
      (Packet.error (ofIoFault ⟨.other, "disk on fire"⟩)).Arrives := by
  constructor
  · exact ((ofIoFault_reaches ⟨.writeZero, "failed to write whole buffer"⟩).1 .diskFull
      (by decide)).2
  · refine ((ofIoFault_reaches ⟨.other, "disk on fire"⟩).2 ?_).2.1.mpr (by decide)
    simp [ownCodes]

/-- A text of 512 octets is lost, and one with a NUL is cut. -/
theorem ofIoFault_lost :
    (∃ e, ofIoFault e = ofMessage .unknown (String.ofList (List.replicate 512 'x')) ∧
      ¬ (Packet.error (ofIoFault e)).Arrives ∧
      ∀ rules, Packet.decode rules (Packet.error (ofIoFault e)).encode =
        .error (.oversizedDatagram 517)) ∧
    (∃ e, ofIoFault e = ofMessage .unknown "a\x00b" ∧
      ¬ (Packet.error (ofIoFault e)).Arrives ∧
      ∀ rules, Packet.decode rules (Packet.error (ofIoFault e)).encode =
        .ok (.error (ofMessage .unknown "a"))) := by
  have assigned : ∀ n, ErrorCode.unknown = .unassigned n → 7 < n := nofun
  constructor
  · have length : (String.ofList (List.replicate 512 'x')).utf8ByteSize = 512 := by
      rw [← Utf8.length_encode, Utf8.encode, String.toList_ofList]
      decide +kernel
    have long : 511 < (String.ofList (List.replicate 512 'x')).utf8ByteSize := by omega
    refine ⟨⟨.other, String.ofList (List.replicate 512 'x')⟩, rfl, ?_, ?_⟩
    · intro arrives
      exact absurd ((arrives_ofMessage_iff assigned).mp arrives).1 (Nat.not_le.mpr long)
    · intro rules
      have refused : Packet.decode rules (Packet.error (ofMessage .unknown _)).encode = _ :=
        decode_ofMessage_of_long rules long
      rwa [length] at refused
  · refine ⟨⟨.other, "a\x00b"⟩, rfl, ?_, ?_⟩
    · intro arrives
      exact absurd ((arrives_ofMessage_iff assigned).mp arrives).2 (by decide)
    · intro rules
      exact decode_ofMessage_of_short rules assigned (by decide)

end ErrorPacket
end Tftp
