import Tftp.Packet.Decode
import Tftp.Text.Utf8.Validity

/-! # The grammar of datagrams

`Datagram rules b p` says that the octets `b` stand for the packet `p`: one rule for each of the
four layouts, with the conditions on its texts. The grammar never mentions a reader; a mode is
compared octet by octet, and a text is valid if it encodes some string.

The reader follows the grammar in both directions. Each of its stages accepts exactly one part of a
layout (`Frame.read_eq_ok_iff`, `TextPart.split_eq_ok_iff`, `ReadRequest.ofBody_eq_ok_iff`,
`ErrorPacket.ofFrame_eq_ok_iff`), and `Packet.decode_eq_ok_iff_datagram` puts them together:
exactly the datagrams of 4 to 516 octets that the grammar derives are read, each as the packet that
it stands for. -/

namespace Tftp

/-! ### The grammar -/

/-- The small letter of an ASCII capital; any other octet unchanged. -/
def Octets.lower (b : UInt8) : UInt8 := if 0x41 ≤ b ∧ b ≤ 0x5A then b + 0x20 else b

/-- The octets are valid UTF-8: they encode a text. -/
def Utf8.Valid (o : Octets) : Prop := ∃ text, o = Utf8.encode text

/-- The octets of a datagram that stand for a packet. -/
inductive Datagram (rules : DecodeRules) : Octets → Packet → Prop
  /-- 00 01, a filename, NUL, a mode, NUL, and what the rules let follow. -/
  | readRequest (filename : String) (mode rest : Octets) (named : Utf8.encode filename ≠ [])
      (name_noNul : 0 ∉ Utf8.encode filename) (mode_noNul : 0 ∉ mode)
      (octet : mode.map Octets.lower = Utf8.encode octetMode)
      (ends : rules.rejectRequestOptions = true → rest = []) :
      Datagram rules ([0, 1] ++ Utf8.encode filename ++ 0 :: (mode ++ 0 :: rest))
        (.readRequest ⟨filename, octetMode⟩)
  /-- 00 03, a block number, and the content. -/
  | data (hi lo : UInt8) (packet : DataPacket)
      (block : packet.block.toNat = 256 * hi.toNat + lo.toNat) :
      Datagram rules ([0, 3, hi, lo] ++ packet.payload) (.data packet)
  /-- 00 04, a block number, and nothing more. -/
  | acknowledgment (hi lo : UInt8) (block : UInt16)
      (number : block.toNat = 256 * hi.toNat + lo.toNat) :
      Datagram rules [0, 4, hi, lo] (.acknowledgment ⟨block⟩)
  /-- 00 05, a code, a message, NUL, and anything. -/
  | error (hi lo : UInt8) (code : UInt16) (message rest : Octets)
      (number : code.toNat = 256 * hi.toNat + lo.toNat) (noNul : 0 ∉ message)
      (text : rules.strictText = true → Utf8.Valid message) :
      Datagram rules ([0, 5, hi, lo] ++ message ++ 0 :: rest) (.error ⟨.ofWord code, message⟩)

/-! ### Readers in sequence -/

namespace Reading

variable {α β : Type}

theorem bind_eq_ok_iff {x : Except Fault α} {f : α → Except Fault β} {b : β} :
    x >>= f = .ok b ↔ ∃ a, x = .ok a ∧ f a = .ok b := by
  cases x with
  | error e => simp [bind, Except.bind]
  | ok a => simp [bind, Except.bind]

theorem pure_eq_ok_iff {a b : α} : (pure a : Except Fault α) = .ok b ↔ a = b := by
  simp [pure, Except.pure]

theorem ifThrow_eq_ok_iff {c : Bool} {e : Fault} {f : α → Except Fault β} {x : Except Fault β}
    {b : β} : (if c = true then throw e >>= f else x) = .ok b ↔ c = false ∧ x = .ok b := by
  cases c with
  | false => simp
  | true => simp [throw, throwThe, MonadExceptOf.throw, bind, Except.bind]

theorem ifCheck_eq_ok_iff {c : Bool} {x : Except Fault α} {y : Except Fault β} {b : β} :
    (if c = true then x >>= fun _ => y else y) = .ok b ↔
      (c = true → ∃ a, x = .ok a) ∧ y = .ok b := by
  cases c with
  | false => simp
  | true => simp only [if_true, bind_eq_ok_iff, exists_and_right, forall_const]

end Reading

open Reading

/-! ### Frames -/

namespace Frame

/-- A datagram is taken apart exactly if its length is in range, and nothing of it is lost. -/
theorem read_eq_ok_iff {b : Octets} {f : Frame} :
    read b = .ok f ↔ b = Octets.ofWord f.opcode ++ f.body ∧ f.rest.length ≤ blockSize := by
  constructor
  · intro h
    unfold read at h
    split at h
    · split at h
      next fits =>
        obtain rfl := Except.ok.inj h
        exact ⟨by rw [Octets.ofWord_word]; rfl, fits⟩
      · cases h
    · cases h
  · rintro ⟨rfl, fits⟩
    obtain ⟨opcode, hi, lo, rest⟩ := f
    have fits : rest.length ≤ blockSize := fits
    simp [read, Octets.ofWord, body, fits, Octets.word_ofWord]

theorem expect_eq_ok_iff {f : Frame} {kind : Opcode} {u : Unit} :
    f.expect kind = .ok u ↔ f.opcode = kind.toWord := by
  unfold expect
  split <;> simp [*]

end Frame

/-! ### Texts -/

theorem TextPart.split_eq_ok_iff {part : TextPart} {o : Octets} {parts : Octets × Octets} :
    part.split o = .ok parts ↔ o = parts.1 ++ 0 :: parts.2 ∧ 0 ∉ parts.1 := by
  rw [← Octets.splitAtNul_eq_some_iff]
  unfold split
  cases o.splitAtNul <;> simp

theorem TextPart.decode_eq_ok_iff {part : TextPart} {o : Octets} {text : String} :
    part.decode o = .ok text ↔ o = Utf8.encode text := by
  rw [← Utf8.decode?_eq_some_iff]
  unfold decode
  cases Utf8.decode? o <;> simp

/-! ### Modes -/

theorem Octets.lower_of_le {b : UInt8} (h : 0x80 ≤ b.toNat) : lower b = b := by
  unfold lower
  rw [if_neg]
  simp only [UInt8.le_iff_toNat_le, UInt8.reduceToNat]
  omega

theorem Utf8.le_of_mem_encodeChar {c : Char} (hc : 0x80 ≤ c.toNat) {b : UInt8}
    (hb : b ∈ String.utf8EncodeChar c) : 0x80 ≤ b.toNat := by
  have valid := c.valid
  simp only [UInt32.isValidChar, Nat.isValidChar] at valid
  have hv : c.toNat = c.val.toNat := rfl
  rw [hv] at hc
  unfold String.utf8EncodeChar at hb
  dsimp only at hb
  generalize c.val.toNat = v at valid hc hb
  rw [if_neg (by omega)] at hb
  repeat' split at hb
  all_goals
    simp only [List.mem_cons, List.not_mem_nil, or_false] at hb
    rcases hb with rfl | rfl | hb
    all_goals try rcases hb with rfl | rfl
  all_goals
    rw [toNat_octet (by omega)]
    omega

theorem Utf8.map_lower_encodeChar (c : Char) :
    (String.utf8EncodeChar c).map Octets.lower = String.utf8EncodeChar (Text.lowerChar c) := by
  have ascii : ∀ n < 0x80, (String.utf8EncodeChar (Char.ofNat n)).map Octets.lower =
      String.utf8EncodeChar (Text.lowerChar (Char.ofNat n)) := by decide +kernel
  by_cases hc : c.toNat < 0x80
  · have := ascii c.toNat hc
    rwa [Char.ofNat_toNat] at this
  · have beyond : Text.lowerChar c = c := by
      unfold Text.lowerChar
      rw [if_neg]
      rintro ⟨-, h⟩
      exact hc (Nat.lt_of_le_of_lt h (by decide))
    rw [beyond]
    calc (String.utf8EncodeChar c).map Octets.lower
      _ = (String.utf8EncodeChar c).map id := List.map_congr_left fun b hb =>
          Octets.lower_of_le (le_of_mem_encodeChar (Nat.le_of_not_lt hc) hb)
      _ = String.utf8EncodeChar c := List.map_id _

theorem Utf8.map_lower_encodeChars (text : List Char) :
    (encodeChars text).map Octets.lower = encodeChars (Text.lower text) := by
  induction text with
  | nil => rfl
  | cons c text ih =>
    simp only [encodeChars, Text.lower, List.flatMap_cons, List.map_append, List.map_cons] at ih ⊢
    rw [map_lower_encodeChar, ih]

theorem Utf8.encodeChars_injective {a b : List Char} (h : encodeChars a = encodeChars b) :
    a = b := by
  have ha : pieces (encodeChars b) = a.map .char := pieces_eq_map_char_iff.mpr h.symm
  have hb : pieces (encodeChars b) = b.map .char := pieces_eq_map_char_iff.mpr rfl
  have inj : Function.Injective Piece.char := fun _ _ => Piece.char.inj
  exact (List.map_inj_right fun _ _ => @inj _ _).mp (ha.symm.trans hb)

/-- A text spells the mode, in whatever case, exactly if its octets do. -/
theorem Text.equalIgnoringCase_iff_map_lower {text : String} :
    equalIgnoringCase text octetMode = true ↔
      (Utf8.encode text).map Octets.lower = Utf8.encode octetMode := by
  have small : lower octetMode.toList = octetMode.toList := by decide
  rw [equalIgnoringCase_iff, small, Utf8.encode, Utf8.map_lower_encodeChars, Utf8.encode]
  exact ⟨fun h => by rw [h], Utf8.encodeChars_injective⟩

theorem Utf8.encodeChars_ofAscii {o : Octets} (h : ∀ b ∈ o, b.toNat < 0x80) :
    encodeChars (o.map fun b => Char.ofNat b.toNat) = o := by
  have ascii : ∀ n < 0x80, String.utf8EncodeChar (Char.ofNat n) = [UInt8.ofNat n] := by
    decide +kernel
  induction o with
  | nil => rfl
  | cons b o ih =>
    have hb := h b (List.mem_cons_self ..)
    have ho := ih fun x hx => h x (List.mem_cons_of_mem _ hx)
    simp only [encodeChars, List.map_cons, List.flatMap_cons] at ho ⊢
    rw [ascii _ hb, ho, UInt8.ofNat_toNat]
    rfl

/-- Octets that spell the one accepted mode, in whatever case, are a text. -/
theorem Utf8.valid_of_map_lower {o : Octets} (h : o.map Octets.lower = encode octetMode) :
    Valid o := by
  have small : ∀ x ∈ encode octetMode, x.toNat < 0x80 := by decide +kernel
  refine ⟨String.ofList (o.map fun b => Char.ofNat b.toNat), ?_⟩
  rw [encode, String.toList_ofList]
  refine (encodeChars_ofAscii ?_).symm
  intro b hb
  apply Nat.lt_of_not_le
  intro big
  have mem : Octets.lower b ∈ encode octetMode := h ▸ List.mem_map_of_mem hb
  rw [Octets.lower_of_le big] at mem
  exact Nat.not_lt_of_le big (small b mem)

/-! ### The kinds -/

/-- A body is a read request exactly if it is a good filename and a mode that spells `octet`, each
ended by NUL, and goes on only if the rules let it. -/
theorem ReadRequest.ofBody_eq_ok_iff {rules : DecodeRules} {body : Octets} {r : ReadRequest} :
    ofBody rules body = .ok r ↔
      ∃ mode rest, body = Utf8.encode r.filename ++ 0 :: (mode ++ 0 :: rest) ∧
        Utf8.encode r.filename ≠ [] ∧ 0 ∉ Utf8.encode r.filename ∧ 0 ∉ mode ∧
        mode.map Octets.lower = Utf8.encode octetMode ∧
        (rules.rejectRequestOptions = true → rest = []) ∧ r.mode = octetMode := by
  unfold ofBody
  simp only [bind_eq_ok_iff, pure_eq_ok_iff, ifThrow_eq_ok_iff, TextPart.split_eq_ok_iff,
    TextPart.decode_eq_ok_iff, Prod.exists, Bool.not_eq_false', Bool.and_eq_false_iff,
    List.isEmpty_eq_false_iff, Text.equalIgnoringCase_iff_map_lower]
  constructor
  · rintro ⟨name, rest, ⟨rfl, noNul⟩, named, filename, rfl, mode, options, ⟨rfl, modeNoNul⟩,
      text, rfl, octet, ends, rfl⟩
    refine ⟨_, options, rfl, named, noNul, modeNoNul, octet, ?_, rfl⟩
    intro strict
    simpa [strict] using ends
  · rintro ⟨mode, options, rfl, named, noNul, modeNoNul, octet, ends, hr⟩
    obtain ⟨text, rfl⟩ := Utf8.valid_of_map_lower octet
    refine ⟨_, _, ⟨rfl, noNul⟩, named, _, rfl, _, options, ⟨rfl, modeNoNul⟩, text, rfl, octet, ?_,
      by rw [← hr]⟩
    cases strict : rules.rejectRequestOptions with
    | false => exact Or.inl rfl
    | true => simp [ends strict]

/-- A frame is an error exactly if its message is ended by NUL and, where the rules ask for it,
valid UTF-8. -/
theorem ErrorPacket.ofFrame_eq_ok_iff {rules : DecodeRules} {f : Frame} {e : ErrorPacket} :
    ofFrame rules f = .ok e ↔
      ∃ rest, f.rest = e.message ++ 0 :: rest ∧ 0 ∉ e.message ∧
        (rules.strictText = true → Utf8.Valid e.message) ∧ e.code = .ofWord f.word := by
  unfold ofFrame
  simp only [bind_eq_ok_iff, ifCheck_eq_ok_iff, pure_eq_ok_iff, TextPart.split_eq_ok_iff,
    TextPart.decode_eq_ok_iff, Prod.exists]
  constructor
  · rintro ⟨message, rest, ⟨hf, noNul⟩, text, rfl⟩
    exact ⟨rest, hf, noNul, text, rfl⟩
  · rintro ⟨rest, hf, noNul, text, hc⟩
    exact ⟨e.message, rest, ⟨hf, noNul⟩, text, by rw [← hc]⟩

/-! ### Whole datagrams -/

theorem ReadRequest.decode_eq_ok_iff {rules : DecodeRules} {b : Octets} {r : ReadRequest} :
    decode rules b = .ok r ↔
      ∃ f, Frame.read b = .ok f ∧ f.opcode = Opcode.readRequest.toWord ∧
        ofBody rules f.body = .ok r := by
  simp only [decode, bind_eq_ok_iff, Frame.expect_eq_ok_iff, exists_const]

theorem DataPacket.decode_eq_ok_iff {b : Octets} {d : DataPacket} :
    decode b = .ok d ↔
      ∃ f, Frame.read b = .ok f ∧ f.opcode = Opcode.data.toWord ∧ ofPayload f.word f.rest = .ok d := by
  simp only [decode, bind_eq_ok_iff, Frame.expect_eq_ok_iff, exists_const]

theorem Acknowledgment.decode_eq_ok_iff {b : Octets} {a : Acknowledgment} :
    decode b = .ok a ↔
      ∃ f, Frame.read b = .ok f ∧ f.opcode = Opcode.acknowledgment.toWord ∧ f.rest = [] ∧
        a = ⟨f.word⟩ := by
  simp only [decode, bind_eq_ok_iff, ifThrow_eq_ok_iff, pure_eq_ok_iff, Frame.expect_eq_ok_iff,
    exists_const, Bool.not_eq_false', List.isEmpty_iff]
  constructor
  · rintro ⟨f, hf, hr, ho, rfl⟩
    exact ⟨f, hf, ho, hr, rfl⟩
  · rintro ⟨f, hf, ho, hr, rfl⟩
    exact ⟨f, hf, hr, ho, rfl⟩

theorem ErrorPacket.decode_eq_ok_iff {rules : DecodeRules} {b : Octets} {e : ErrorPacket} :
    decode rules b = .ok e ↔
      ∃ f, Frame.read b = .ok f ∧ f.opcode = Opcode.error.toWord ∧ ofFrame rules f = .ok e := by
  simp only [decode, bind_eq_ok_iff, Frame.expect_eq_ok_iff, exists_const]

theorem Packet.peekOpcode_eq_ok_iff {b : Octets} {kind : Opcode} :
    peekOpcode b = .ok kind ↔ ∃ f, Frame.read b = .ok f ∧ f.opcode = kind.toWord := by
  simp only [peekOpcode, bind_eq_ok_iff, ← Opcode.ofWord?_eq_some_iff]
  refine exists_congr fun f => and_congr_right fun _ => ?_
  cases Opcode.ofWord? f.opcode with
  | none => simp [throw, throwThe, MonadExceptOf.throw]
  | some k => simp [pure_eq_ok_iff]

theorem Packet.decode_eq_ok_iff {rules : DecodeRules} {b : Octets} {p : Packet} :
    decode rules b = .ok p ↔
      match p with
      | .readRequest r => ReadRequest.decode rules b = .ok r
      | .data d => DataPacket.decode b = .ok d
      | .acknowledgment a => Acknowledgment.decode b = .ok a
      | .error e => ErrorPacket.decode rules b = .ok e := by
  simp only [decode, bind_eq_ok_iff]
  constructor
  · rintro ⟨kind, -, h⟩
    cases kind with
    | readRequest | data | acknowledgment | error =>
      obtain ⟨x, hx, h⟩ := bind_eq_ok_iff.mp h
      obtain rfl := pure_eq_ok_iff.mp h
      exact hx
  · intro h
    cases p with
    | readRequest r =>
      obtain ⟨f, hf, ho, -⟩ := ReadRequest.decode_eq_ok_iff.mp h
      exact ⟨.readRequest, peekOpcode_eq_ok_iff.mpr ⟨f, hf, ho⟩, bind_eq_ok_iff.mpr ⟨r, h, rfl⟩⟩
    | data d =>
      obtain ⟨f, hf, ho, -⟩ := DataPacket.decode_eq_ok_iff.mp h
      exact ⟨.data, peekOpcode_eq_ok_iff.mpr ⟨f, hf, ho⟩, bind_eq_ok_iff.mpr ⟨d, h, rfl⟩⟩
    | acknowledgment a =>
      obtain ⟨f, hf, ho, -⟩ := Acknowledgment.decode_eq_ok_iff.mp h
      exact ⟨.acknowledgment, peekOpcode_eq_ok_iff.mpr ⟨f, hf, ho⟩,
        bind_eq_ok_iff.mpr ⟨a, h, rfl⟩⟩
    | error e =>
      obtain ⟨f, hf, ho, -⟩ := ErrorPacket.decode_eq_ok_iff.mp h
      exact ⟨.error, peekOpcode_eq_ok_iff.mpr ⟨f, hf, ho⟩, bind_eq_ok_iff.mpr ⟨e, h, rfl⟩⟩

/-! ### The reader follows the grammar -/

theorem DataPacket.ofPayload_eq_ok_iff {block : UInt16} {payload : Octets} {d : DataPacket} :
    ofPayload block payload = .ok d ↔ d.block = block ∧ d.payload = payload := by
  obtain ⟨block', payload', fits⟩ := d
  unfold ofPayload
  split
  · simp [eq_comm]
  next long =>
    simp only [reduceCtorEq, false_iff, not_and]
    rintro - rfl
    exact long fits

theorem Octets.word_eq_iff {hi lo : UInt8} {w : UInt16} :
    w = word hi lo ↔ w.toNat = 256 * hi.toNat + lo.toNat := by
  rw [← UInt16.toNat_inj, toNat_word]

theorem Octets.ofWord_opcode (kind : Opcode) : ofWord kind.toWord = [0,
    match kind with | .readRequest => 1 | .data => 3 | .acknowledgment => 4 | .error => 5] := by
  cases kind <;> decide

theorem Frame.length_of_read {b : Octets} {f : Frame} (h : read b = .ok f) :
    4 ≤ b.length ∧ b.length ≤ 516 := by
  obtain ⟨rfl, fits⟩ := read_eq_ok_iff.mp h
  have : f.rest.length ≤ 512 := fits
  simp only [Octets.ofWord, body, List.cons_append, List.nil_append, List.length_cons]
  omega

theorem Frame.exists_read {b : Octets} (h : 4 ≤ b.length ∧ b.length ≤ 516) :
    ∃ f, read b = .ok f ∧ b = Octets.ofWord f.opcode ++ f.body := by
  match b with
  | hi :: lo :: c :: d :: rest =>
    have fits : rest.length ≤ blockSize := by
      show rest.length ≤ 512
      simp only [List.length_cons] at h
      omega
    refine ⟨⟨Octets.word hi lo, c, d, rest⟩, ?_⟩
    rw [read_eq_ok_iff, Octets.ofWord_word]
    exact ⟨⟨rfl, fits⟩, rfl⟩
  | [] | [_] | [_, _] | [_, _, _] => simp at h

theorem Frame.eq_of_octets {f : Frame} (kind : Opcode) (body : Octets)
    (h : Octets.ofWord kind.toWord ++ body = Octets.ofWord f.opcode ++ f.body) :
    f.opcode = kind.toWord ∧ f.body = body := by
  obtain ⟨hw, hb⟩ := List.append_inj h rfl
  obtain ⟨h₁, h₂⟩ : _ ∧ _ := by simpa [Octets.ofWord] using hw
  refine ⟨?_, hb.symm⟩
  rw [← Octets.word_ofWord f.opcode, ← h₁, ← h₂, Octets.word_ofWord]

/-- What is read is of a length in range and derived by the grammar. -/
theorem Packet.datagram_of_decode {rules : DecodeRules} {b : Octets} {p : Packet}
    (h : decode rules b = .ok p) : (4 ≤ b.length ∧ b.length ≤ 516) ∧ Datagram rules b p := by
  have h := decode_eq_ok_iff.mp h
  cases p with
  | readRequest r =>
    obtain ⟨f, hf, ho, hr⟩ := ReadRequest.decode_eq_ok_iff.mp h
    refine ⟨Frame.length_of_read hf, ?_⟩
    obtain ⟨mode, rest, hb, named, noNul, modeNoNul, octet, ends, hm⟩ :=
      ReadRequest.ofBody_eq_ok_iff.mp hr
    obtain ⟨filename, _⟩ := r
    obtain rfl : _ = octetMode := hm
    rw [(Frame.read_eq_ok_iff.mp hf).1, ho, Octets.ofWord_opcode, hb, ← List.append_assoc]
    exact .readRequest filename mode rest named noNul modeNoNul octet ends
  | data d =>
    obtain ⟨f, hf, ho, hd⟩ := DataPacket.decode_eq_ok_iff.mp h
    refine ⟨Frame.length_of_read hf, ?_⟩
    obtain ⟨hb, hp⟩ := DataPacket.ofPayload_eq_ok_iff.mp hd
    rw [(Frame.read_eq_ok_iff.mp hf).1, ho, Octets.ofWord_opcode, Frame.body, ← hp]
    exact .data f.hi f.lo d (Octets.word_eq_iff.mp hb)
  | acknowledgment a =>
    obtain ⟨f, hf, ho, hr, rfl⟩ := Acknowledgment.decode_eq_ok_iff.mp h
    refine ⟨Frame.length_of_read hf, ?_⟩
    rw [(Frame.read_eq_ok_iff.mp hf).1, ho, Octets.ofWord_opcode, Frame.body, hr]
    exact .acknowledgment f.hi f.lo f.word (Octets.word_eq_iff.mp rfl)
  | error e =>
    obtain ⟨f, hf, ho, he⟩ := ErrorPacket.decode_eq_ok_iff.mp h
    refine ⟨Frame.length_of_read hf, ?_⟩
    obtain ⟨rest, hr, noNul, text, hc⟩ := ErrorPacket.ofFrame_eq_ok_iff.mp he
    obtain ⟨_, message⟩ := e
    obtain rfl : _ = ErrorCode.ofWord f.word := hc
    rw [(Frame.read_eq_ok_iff.mp hf).1, ho, Octets.ofWord_opcode, Frame.body, hr]
    exact .error f.hi f.lo f.word message rest (Octets.word_eq_iff.mp rfl) noNul text

/-- What the grammar derives is read, if its length is in range. -/
theorem Packet.decode_of_datagram {rules : DecodeRules} {b : Octets} {p : Packet}
    (hb : 4 ≤ b.length ∧ b.length ≤ 516) (h : Datagram rules b p) : decode rules b = .ok p := by
  obtain ⟨f, hf, hfb⟩ := Frame.exists_read hb
  apply decode_eq_ok_iff.mpr
  cases h with
  | readRequest filename mode rest named noNul modeNoNul octet ends =>
    rw [List.append_assoc] at hfb
    obtain ⟨ho, hbody⟩ := Frame.eq_of_octets .readRequest _ hfb
    refine ReadRequest.decode_eq_ok_iff.mpr ⟨f, hf, ho, ?_⟩
    exact ReadRequest.ofBody_eq_ok_iff.mpr
      ⟨mode, rest, hbody, named, noNul, modeNoNul, octet, ends, rfl⟩
  | data hi lo packet block =>
    obtain ⟨ho, hbody⟩ := Frame.eq_of_octets .data (hi :: lo :: _) hfb
    obtain ⟨rfl, htail⟩ := List.cons.inj hbody
    obtain ⟨rfl, hrest⟩ := List.cons.inj htail
    refine DataPacket.decode_eq_ok_iff.mpr ⟨f, hf, ho, ?_⟩
    exact DataPacket.ofPayload_eq_ok_iff.mpr ⟨Octets.word_eq_iff.mpr block, hrest.symm⟩
  | acknowledgment hi lo block number =>
    obtain ⟨ho, hbody⟩ := Frame.eq_of_octets .acknowledgment [hi, lo] hfb
    obtain ⟨rfl, htail⟩ := List.cons.inj hbody
    obtain ⟨rfl, hrest⟩ := List.cons.inj htail
    refine Acknowledgment.decode_eq_ok_iff.mpr ⟨f, hf, ho, hrest, ?_⟩
    rw [Octets.word_eq_iff.mpr number, Frame.word]
  | error hi lo code message rest number noNul text =>
    obtain ⟨ho, hbody⟩ := Frame.eq_of_octets .error (hi :: lo :: _) hfb
    obtain ⟨rfl, htail⟩ := List.cons.inj hbody
    obtain ⟨rfl, hrest⟩ := List.cons.inj htail
    refine ErrorPacket.decode_eq_ok_iff.mpr ⟨f, hf, ho, ?_⟩
    refine ErrorPacket.ofFrame_eq_ok_iff.mpr ⟨rest, hrest, noNul, text, ?_⟩
    rw [Octets.word_eq_iff.mpr number, Frame.word]

/-- **The reader accepts exactly the grammar.** -/
theorem Packet.decode_eq_ok_iff_datagram (rules : DecodeRules) (b : Octets) (p : Packet) :
    decode rules b = .ok p ↔ (4 ≤ b.length ∧ b.length ≤ 516) ∧ Datagram rules b p := by
  constructor
  · exact datagram_of_decode
  · rintro ⟨hb, h⟩
    exact decode_of_datagram hb h

end Tftp
