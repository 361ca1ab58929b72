import Tftp.Proofs.Codec
import Tftp.Proofs.Defect

/-! # Stricter rules only refuse more

Some rules are stricter than others if they ask for all that the others ask for (`lenient ≤ strict`).
What they refuse in addition is said by `Excess`: a read request that goes on behind its mode, and an
error whose message is no text, each under its own rule.

The grammar settles the rest. What it derives under strict rules it derives under lenient ones
(`Datagram.of_le`), a defect under lenient rules is the same defect under strict ones
(`Defect.of_le`), and what it derives under lenient rules it derives under any others too, unless
that is an excess (`Datagram.strict_or_excess`). So a reader that is told to be stricter gives up some
packets and changes nothing else (`Tightens`), and `Packet.stricter_only_refuses` says so of the plain
decoder, of the one for shared buffers and of the codec. -/

namespace Tftp

/-! ### The order of the rules -/

/-- The second rules ask for all that the first ask for. -/
structure DecodeRules.AtMost (lenient strict : DecodeRules) : Prop where
  text : lenient.strictText = true → strict.strictText = true
  options : lenient.rejectRequestOptions = true → strict.rejectRequestOptions = true

instance : LE DecodeRules := ⟨DecodeRules.AtMost⟩

/-- A datagram that one kind of rules lets pass as a packet and another refuses, and the reason. -/
inductive Excess (lenient strict : DecodeRules) : Octets → Packet → FramingFault → Prop
  /-- A good read request goes on behind the NUL of its mode. -/
  | options (filename : String) (mode rest : Octets) (named : Utf8.encode filename ≠ [])
      (name_noNul : 0 ∉ Utf8.encode filename) (mode_noNul : 0 ∉ mode)
      (octet : mode.map Octets.lower = Utf8.encode octetMode) (more : rest ≠ [])
      (ignored : lenient.rejectRequestOptions = false)
      (refused : strict.rejectRequestOptions = true) :
      Excess lenient strict ([0, 1] ++ Utf8.encode filename ++ 0 :: (mode ++ 0 :: rest))
        (.readRequest ⟨filename, octetMode⟩) .trailingOctets
  /-- The message of an error is no text. -/
  | message (hi lo : UInt8) (code : UInt16) (message rest : Octets)
      (number : code.toNat = 256 * hi.toNat + lo.toNat) (noNul : 0 ∉ message)
      (noText : ¬ Utf8.Valid message) (kept : lenient.strictText = false)
      (refused : strict.strictText = true) :
      Excess lenient strict ([0, 5, hi, lo] ++ message ++ 0 :: rest)
        (.error ⟨.ofWord code, message⟩) (.notUtf8 .message)

/-! ### The grammar under two rules -/

section

variable {lenient strict : DecodeRules} {b : Octets} {p : Packet}

theorem Datagram.of_le (h : lenient ≤ strict) (derived : Datagram strict b p) :
    Datagram lenient b p := by
  cases derived with
  | readRequest filename mode rest named nameNoNul modeNoNul octet ends =>
    exact .readRequest filename mode rest named nameNoNul modeNoNul octet
      fun asked => ends (h.options asked)
  | data hi lo packet block => exact .data hi lo packet block
  | acknowledgment hi lo block number => exact .acknowledgment hi lo block number
  | error hi lo code message rest number noNul text =>
    exact .error hi lo code message rest number noNul fun asked => text (h.text asked)

theorem RequestDefect.of_le (h : lenient ≤ strict) {x : Octets} {fault : Fault}
    (defect : RequestDefect lenient x fault) : RequestDefect strict x fault := by
  cases defect with
  | unterminatedName _ noNul => exact .unterminatedName x noNul
  | emptyName x => exact .emptyName x
  | illFormedName name x named noNul noText => exact .illFormedName name x named noNul noText
  | unterminatedMode name x good single => exact .unterminatedMode name x good single
  | illFormedMode name mode x good noNul noText => exact .illFormedMode name mode x good noNul noText
  | unsupportedMode name mode x good noNul other =>
    exact .unsupportedMode name mode x good noNul other
  | trailingOctets name mode x good noNul octet more asked =>
    exact .trailingOctets name mode x good noNul octet more (h.options asked)

theorem MessageDefect.of_le (h : lenient ≤ strict) {x : Octets} {fault : Fault}
    (defect : MessageDefect lenient x fault) : MessageDefect strict x fault := by
  cases defect with
  | unterminated _ noNul => exact .unterminated x noNul
  | illFormed message x noNul noText asked =>
    exact .illFormed message x noNul noText (h.text asked)

/-- What is wrong under lenient rules is wrong under strict ones, and comes first there too. -/
theorem Defect.of_le (h : lenient ≤ strict) {fault : Fault} (defect : Defect lenient b fault) :
    Defect strict b fault := by
  cases defect with
  | undersized short => exact .undersized short
  | oversized long => exact .oversized long
  | unknownType inRange w x octets foreign => exact .unknownType inRange w x octets foreign
  | readRequest inRange x octets _ defect =>
    exact .readRequest inRange x octets fault (defect.of_le h)
  | acknowledgment inRange hi lo x octets more => exact .acknowledgment inRange hi lo x octets more
  | error inRange hi lo x octets _ defect =>
    exact .error inRange hi lo x octets fault (defect.of_le h)

variable (strict) in
/-- What some rules let pass, any other rules let pass too, unless it is an excess under them. -/
theorem Datagram.strict_or_excess (derived : Datagram lenient b p) :
    Datagram strict b p ∨ ∃ cause, Excess lenient strict b p cause := by
  cases derived with
  | readRequest filename mode rest named nameNoNul modeNoNul octet ends =>
    by_cases good : strict.rejectRequestOptions = true → rest = []
    · exact Or.inl (.readRequest filename mode rest named nameNoNul modeNoNul octet good)
    · obtain ⟨refused, more⟩ := Classical.not_imp.mp good
      have ignored : lenient.rejectRequestOptions = false :=
        Bool.eq_false_iff.mpr fun asked => more (ends asked)
      exact Or.inr ⟨_, .options filename mode rest named nameNoNul modeNoNul octet more ignored
        refused⟩
  | data hi lo packet block => exact Or.inl (.data hi lo packet block)
  | acknowledgment hi lo block number => exact Or.inl (.acknowledgment hi lo block number)
  | error hi lo code message rest number noNul text =>
    by_cases good : strict.strictText = true → Utf8.Valid message
    · exact Or.inl (.error hi lo code message rest number noNul good)
    · obtain ⟨refused, noText⟩ := Classical.not_imp.mp good
      have kept : lenient.strictText = false :=
        Bool.eq_false_iff.mpr fun asked => noText (text asked)
      exact Or.inr ⟨_, .message hi lo code message rest number noNul noText kept refused⟩

namespace Excess

variable {cause : FramingFault}

theorem defect (h : Excess lenient strict b p cause) (inRange : 4 ≤ b.length ∧ b.length ≤ 516) :
    Defect strict b (.malformedFraming cause) := by
  cases h with
  | options filename mode rest named nameNoNul modeNoNul octet more _ refused =>
    have good : (Utf8.encode filename).IsFilename := ⟨named, nameNoNul, filename, rfl⟩
    exact .readRequest inRange _ (List.append_assoc ..) _
      (.trailingOctets _ mode rest good modeNoNul octet more refused)
  | message hi lo code message rest number noNul noText _ refused =>
    exact .error inRange hi lo _ (List.append_assoc ..) _
      (.illFormed message rest noNul noText refused)

end Excess

/-! ### Reading under two rules -/

/-- A reader of the octets `b`, which answers a packet `p` with `wrap p`, gives up some packets under
strict rules and does all else as under lenient ones. -/
structure Tightens {α : Type} (lenient strict : DecodeRules) (b : Octets) (wrap : Packet → α)
    (read : DecodeRules → Except Fault α) : Prop where
  accepted : ∀ a, read strict = .ok a → read lenient = .ok a
  refused : ∀ fault, read lenient = .error fault → read strict = .error fault
  /-- Where the two differ, the rules differ, and the datagram is in excess of the strict ones. -/
  given_up : ∀ a fault, read lenient = .ok a → read strict = .error fault →
    ∃ p cause, a = wrap p ∧ fault = .malformedFraming cause ∧ Excess lenient strict b p cause

theorem Packet.tightens_decode (h : lenient ≤ strict) (b : Octets) :
    Tightens lenient strict b id fun rules => decode rules b where
  accepted p read := by
    obtain ⟨inRange, derived⟩ := datagram_of_decode read
    exact decode_of_datagram inRange (derived.of_le h)
  refused fault read := decode_of_defect ((defect_of_decode read).of_le h)
  given_up p fault read refused := by
    obtain ⟨inRange, derived⟩ := datagram_of_decode read
    rcases derived.strict_or_excess strict with same | ⟨cause, excess⟩
    · rw [decode_of_datagram inRange same] at refused
      cases refused
    · have found := decode_of_defect (excess.defect inRange)
      exact ⟨p, cause, rfl, Except.error.inj (refused.symm.trans found), excess⟩

theorem Codec.result_decode (rules : DecodeRules) {b : Octets} (some_octets : b ≠ []) :
    ((⟨rules⟩ : Codec).decode b).result = (Packet.decode rules b).map some :=
  (Port.perform_decode (p := ⟨⟨rules⟩, b⟩) some_octets).1

theorem Codec.tightens_decode (h : lenient ≤ strict) (b : Octets) :
    Tightens lenient strict b some fun rules => ((⟨rules⟩ : Codec).decode b).result := by
  by_cases empty : b = []
  · subst empty
    exact ⟨fun _ read => read, fun _ read => (nomatch read), fun _ _ _ read => (nomatch read)⟩
  · have plain := Packet.tightens_decode h b
    simp only [result_decode _ empty]
    constructor
    · intro a read
      obtain ⟨p, got, rfl⟩ := Reading.map_eq_ok_iff.mp read
      exact Reading.map_eq_ok_iff.mpr ⟨p, plain.accepted p got, rfl⟩
    · intro fault read
      exact Reading.map_eq_error_iff.mpr (plain.refused fault (Reading.map_eq_error_iff.mp read))
    · intro a fault read refused
      obtain ⟨p, got, rfl⟩ := Reading.map_eq_ok_iff.mp read
      obtain ⟨_, cause, rfl, found, excess⟩ :=
        plain.given_up p fault got (Reading.map_eq_error_iff.mp refused)
      exact ⟨p, cause, rfl, found, excess⟩

end

/-! ### Data packets and acknowledgments -/

theorem Packet.decodeAs_congr {kind : Opcode} (h : kind = .data ∨ kind = .acknowledgment)
    (rules rules' : DecodeRules) (b : Octets) : decodeAs rules kind b = decodeAs rules' kind b := by
  rcases h with rfl | rfl
  · rfl
  · rfl

/-- A datagram with the opcode of a data packet or of an acknowledgment is read alike under any
rules. -/
theorem Packet.decode_congr {b : Octets} (h : b.take 2 = [0, 3] ∨ b.take 2 = [0, 4])
    (rules rules' : DecodeRules) : decode rules b = decode rules' b := by
  obtain ⟨kind, first, named⟩ : ∃ kind : Opcode, b.take 2 = Octets.ofWord kind.toWord ∧
      (kind = .data ∨ kind = .acknowledgment) := by
    rcases h with data | acknowledgment
    · exact ⟨.data, data, Or.inl rfl⟩
    · exact ⟨.acknowledgment, acknowledgment, Or.inr rfl⟩
  rw [decode_eq_decodeAs first, decode_eq_decodeAs first, decodeAs_congr named]

/-- **Stricter rules only refuse more.** Let one codec be at least as strict as another. What the
strict one reads, the lenient one reads as the same packet; what the lenient one refuses, the strict
one refuses for the same fault; and what the lenient one reads and the strict one refuses is a read
request with octets behind its mode, or an error whose message is no text, where only one of the two
rules forbids it, and the fault says so. That holds of the plain decoder, of a shared buffer and of a
codec. Data packets and acknowledgments are read alike under any rules whatsoever. -/
theorem Packet.stricter_only_refuses (lenient strict : DecodeRules) (h : lenient ≤ strict)
    (b : Octets) :
    Tightens lenient strict b id (fun rules => decode rules b) ∧
    (∀ v : View, v.octets = b → Tightens lenient strict b id fun rules => decodeView rules v) ∧
    Tightens lenient strict b some (fun rules => ((⟨rules⟩ : Codec).decode b).result) ∧
    (b.take 2 = [0, 3] ∨ b.take 2 = [0, 4] → ∀ rules rules',
      decode rules b = decode rules' b ∧
      (∀ v : View, v.octets = b → decodeView rules v = decodeView rules' v) ∧
      (⟨rules⟩ : Codec).decode b = (⟨rules'⟩ : Codec).decode b) := by
  refine ⟨tightens_decode h b, ?_, Codec.tightens_decode h b, ?_⟩
  · rintro v rfl
    simp only [decodeView_eq]
    exact tightens_decode h v.octets
  · intro first rules rules'
    have alike : decode rules b = decode rules' b := decode_congr first rules rules'
    refine ⟨alike, ?_, ?_⟩
    · rintro v rfl
      rw [decodeView_eq, decodeView_eq, alike]
    · simp only [Codec.decode, decodeView_eq, View.octets_whole, alike]

/-- A request for `f` with an octet behind its mode is in excess of rules that forbid it. -/
theorem Packet.stricter_only_refuses_option :
    let strict : DecodeRules := { rejectRequestOptions := true }
    let b : Octets := [0, 1, 0x66, 0, 0x6F, 0x63, 0x74, 0x65, 0x74, 0, 0x61]
    ({} : DecodeRules) ≤ strict ∧ decode {} b = .ok (.readRequest ⟨"f", octetMode⟩) ∧
      decode strict b = .error (.malformedFraming .trailingOctets) ∧
      Excess {} strict b (.readRequest ⟨"f", octetMode⟩) .trailingOctets := by
  intro strict b
  have order : ({} : DecodeRules) ≤ strict := ⟨id, nofun⟩
  have read : decode {} b = .ok (.readRequest ⟨"f", octetMode⟩) :=
    decode_of_datagram (by decide) (.readRequest "f" [0x6F, 0x63, 0x74, 0x65, 0x74] [0x61]
      (by decide) (by decide) (by decide) (by decide) (by decide))
  have refused : decode strict b = .error (.malformedFraming .trailingOctets) := by
    decide +kernel
  obtain ⟨_, _, rfl, found, excess⟩ :=
    (stricter_only_refuses {} strict order b).1.given_up _ _ read refused
  cases found
  exact ⟨order, read, refused, excess⟩

end Tftp
