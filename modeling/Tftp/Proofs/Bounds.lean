import Tftp.Codec
import Tftp.Proofs.Refusal

/-! # No octet out of reach

A datagram can be read by position: the word at an index, the octets from an index on, a text up to
the first NUL and what comes after it. Such an access finds something only inside of the datagram;
out of bounds, the whole reading breaks off without an answer (`ByPosition`).

* An access breaks off for no other reason (`octet_eq_none_iff`, `slice_eq_none_iff`,
  `narrow_eq_none_iff`). So the two words of a header are in reach exactly if the datagram has two
  and four octets (`word_eq_none_iff`), and something has to make sure of that beforehand.
* A NUL that was found is an octet itself. So a text can be cut out before it and the rest after it,
  even if it is the last octet (`split_eq`).
* What passes the check of its length is a frame: there are an opcode, a word after it, and a rest,
  which may be empty (`checked_bind`, `opcode_of_read`, `word_of_read`, `rest_of_read`).

The decoders by position make their accesses one by one, in the order in which they judge. None of
them ever breaks off, and each answers as the decoder that takes the datagram apart
(`decoders_in_bounds`). -/

namespace Tftp

/-- Reading by position. It answers, or refuses with a fault, or breaks off (`none`) at an access
out of bounds. -/
abbrev ByPosition := ExceptT Fault Option

namespace ByPosition

variable {α β : Type} {b : Octets} {i n first stop : Nat} {v : View}

/-- What makes no access does not break off. -/
theorem run_liftM (x : Except Fault α) : (liftM x : ByPosition α).run = some x := rfl

theorem liftM_throw (fault : Fault) :
    (liftM (throw fault : Except Fault α) : ByPosition α) = throw fault := rfl

theorem wrap_liftM {x : ByPosition α} {y : Except Fault α} (same : x = liftM y) (wrap : α → β) :
    (x >>= fun a => pure (wrap a)) = liftM (y >>= fun a => pure (wrap a)) := by
  simp only [same, liftM_bind, liftM_pure]

/-! ### Accesses -/

/-- The octet at an index. -/
def octet (b : Octets) (i : Nat) : ByPosition UInt8 := ExceptT.lift b[i]?

/-- The octets from one index up to another. -/
def slice (b : Octets) (first stop : Nat) : ByPosition Octets :=
  ExceptT.lift (if first ≤ stop ∧ stop ≤ b.length then some ((b.take stop).drop first) else none)

/-- The octets from an index on. -/
def after (b : Octets) (first : Nat) : ByPosition Octets := slice b first b.length

/-- The octets up to an index. -/
def before (b : Octets) (stop : Nat) : ByPosition Octets := slice b 0 stop

/-- What a view shows from an index on. -/
def narrow (v : View) (n : Nat) : ByPosition View :=
  ExceptT.lift (if h : n ≤ v.length then some (v.after n h) else none)

/-- The word that begins at an index. -/
def word (b : Octets) (i : Nat) : ByPosition UInt16 :=
  return Octets.word (← octet b i) (← octet b (i + 1))

theorem octet_eq_none_iff : (octet b i).run = none ↔ b.length ≤ i := by
  simp [octet]

theorem slice_eq_none_iff :
    (slice b first stop).run = none ↔ ¬ (first ≤ stop ∧ stop ≤ b.length) := by
  simp [slice]

theorem narrow_eq_none_iff : (narrow v n).run = none ↔ v.length < n := by
  simp [narrow]

theorem octet_of_lt (h : i < b.length) : octet b i = pure b[i] := by
  rw [octet, List.getElem?_eq_getElem h]
  rfl

theorem after_of_le (h : n ≤ b.length) : after b n = pure (b.drop n) := by
  rw [after, slice, if_pos ⟨h, Nat.le_refl _⟩, List.take_length]
  rfl

theorem before_of_le (h : n ≤ b.length) : before b n = pure (b.take n) := by
  rw [before, slice, if_pos ⟨Nat.zero_le n, h⟩, List.drop_zero]
  rfl

theorem narrow_of_le (h : n ≤ v.length) : narrow v n = pure (v.after n h) := by
  rw [narrow, dif_pos h]
  rfl

theorem word_of_lt (h : i + 1 < b.length) : word b i = pure (Octets.word b[i] b[i + 1]) := by
  rw [word, octet_of_lt (Nat.lt_of_succ_lt h), octet_of_lt h]
  rfl

/-- A word is out of reach exactly if its second octet is. -/
theorem word_eq_none_iff : (word b i).run = none ↔ b.length < i + 2 := by
  by_cases inside : i + 1 < b.length
  · have long : ¬ b.length < i + 2 := Nat.not_lt.mpr inside
    simp [word_of_lt inside, long]
  · have short : b.length < i + 2 := Nat.lt_succ_of_le (Nat.le_of_not_lt inside)
    have second : octet b (i + 1) = ExceptT.lift none := by
      rw [octet, List.getElem?_eq_none (Nat.le_of_not_lt inside)]
    rw [word, second]
    -- The first octet may be there or not.
    cases h : b[i]? with
    | none => simp [octet, h, short]
    | some hi => simp [octet, h, short]

/-! ### Texts -/

/-- The octets of a text up to the first NUL, and what follows it. -/
def split (part : TextPart) (b : Octets) : ByPosition (Octets × Octets) := do
  match b.findIdx? (· == 0) with
  | some i => return (← before b i, ← after b (i + 1))
  | none => throw (.malformedFraming (.unterminated part))

theorem splitAtNul_eq_findIdx? (b : Octets) :
    b.splitAtNul = (b.findIdx? (· == 0)).map fun i => (b.take i, b.drop (i + 1)) := by
  induction b with
  | nil => rfl
  | cons x b ih =>
    by_cases nul : x = 0
    · simp [Octets.splitAtNul, List.findIdx?_cons, nul]
    · simp [Octets.splitAtNul, List.findIdx?_cons, nul, ih, Function.comp_def]

theorem split_eq (part : TextPart) (b : Octets) : split part b = liftM (part.split b) := by
  unfold split TextPart.split
  rw [splitAtNul_eq_findIdx?]
  cases found : b.findIdx? (· == 0) with
  | none => rfl
  | some i =>
    obtain ⟨inside, -⟩ := List.findIdx?_eq_some_iff_getElem.mp found
    show (before b i >>= fun text => after b (i + 1) >>= fun rest => pure (text, rest)) = _
    rw [before_of_le (Nat.le_of_lt inside), after_of_le inside]
    rfl

/-! ### Headers -/

/-- Refuses a datagram for its length, without a look at its octets. -/
def checkLength (b : Octets) : Except Fault Unit := do
  if b.length < headerSize then throw (.undersizedDatagram b.length)
  if datagramSize < b.length then throw (.oversizedDatagram b.length)

/-- Refuses a datagram of another kind. The length should have been checked before. -/
def expect (b : Octets) (kind : Opcode) : ByPosition Unit := do
  let opcode ← word b 0
  if opcode ≠ kind.toWord then throw (.invalidOpcode opcode)

theorem checkLength_of_read_error {fault : Fault} (h : Frame.read b = .error fault) :
    checkLength b = .error fault := by
  obtain ⟨short, rfl⟩ | ⟨long, rfl⟩ := Frame.read_eq_error_iff.mp h
  · rw [checkLength, if_pos (show b.length < headerSize from short)]
    rfl
  · have least : ¬ b.length < headerSize := by
      show ¬ b.length < 4
      omega
    rw [checkLength, if_neg least, if_pos (show datagramSize < b.length from long)]
    rfl

theorem checkLength_of_read {f : Frame} (h : Frame.read b = .ok f) : checkLength b = .ok () := by
  obtain ⟨least, most⟩ := Frame.length_of_read h
  rw [checkLength, if_neg (show ¬ b.length < headerSize from Nat.not_lt.mpr least),
    if_neg (show ¬ datagramSize < b.length from Nat.not_lt.mpr most)]
  rfl

/-- Behind the check of the length, a reader by position may take the datagram to be a frame. -/
theorem checked_bind {next : ByPosition α} {next' : Frame → Except Fault α}
    (same : ∀ f, Frame.read b = .ok f → next = liftM (next' f)) :
    (liftM (checkLength b) >>= fun _ => next) = liftM (Frame.read b >>= next') := by
  cases read : Frame.read b with
  | error fault =>
    rw [checkLength_of_read_error read]
    rfl
  | ok f =>
    rw [checkLength_of_read read]
    exact same f read

section

variable {f : Frame} (read : Frame.read b = .ok f)
include read

theorem opcode_of_read : word b 0 = pure f.opcode := by
  obtain ⟨rfl, -⟩ := Frame.read_eq_ok_iff.mp read
  rw [word_of_lt (by simp [Octets.ofWord, Frame.body])]
  exact congrArg pure (Octets.word_ofWord f.opcode)

theorem word_of_read : word b 2 = pure f.word := by
  obtain ⟨rfl, -⟩ := Frame.read_eq_ok_iff.mp read
  rw [word_of_lt (by simp [Octets.ofWord, Frame.body])]
  rfl

theorem body_of_read : after b 2 = pure f.body := by
  obtain ⟨rfl, -⟩ := Frame.read_eq_ok_iff.mp read
  rw [after_of_le (by simp [Octets.ofWord])]
  rfl

theorem rest_of_read : after b headerSize = pure f.rest := by
  obtain ⟨long, rest⟩ := Frame.rest_of_read read
  rw [after_of_le long, rest]

theorem expect_of_read (kind : Opcode) : expect b kind = liftM (f.expect kind) := by
  rw [expect, opcode_of_read read, pure_bind, Frame.expect]
  by_cases same : f.opcode = kind.toWord
  · rw [if_neg (not_not_intro same), if_pos same]
    rfl
  · rw [if_pos same, if_neg same]
    rfl

end

end ByPosition

open ByPosition

/-! ### The kinds -/

namespace ReadRequest

/-- Reads a datagram that should be a read request. -/
def decodeByPosition (rules : DecodeRules) (b : Octets) : ByPosition ReadRequest := do
  checkLength b
  expect b .readRequest
  let (name, rest) ← split .filename (← after b 2)
  if name.isEmpty then throw .emptyFilename
  let filename ← TextPart.filename.decode name
  let (mode, rest) ← split .mode rest
  let mode ← TextPart.mode.decode mode
  if !Text.equalIgnoringCase mode octetMode then throw (.unsupportedMode mode)
  if rules.rejectRequestOptions && !rest.isEmpty then
    throw (.malformedFraming .trailingOctets)
  return ⟨filename, octetMode⟩

theorem decodeByPosition_eq (rules : DecodeRules) (b : Octets) :
    decodeByPosition rules b = liftM (decode rules b) := by
  refine checked_bind fun f read => ?_
  simp only [expect_of_read read, body_of_read read, split_eq, pure_bind, ofBody, liftM_bind,
    liftM_throw, liftM_pure, apply_ite liftM]

end ReadRequest

namespace DataPacket

/-- The block number in the header of a datagram that should be a data packet. -/
def headerByPosition (b : Octets) : ByPosition UInt16 := do
  checkLength b
  expect b .data
  word b 2

/-- Reads a datagram that should be a data packet. -/
def decodeByPosition (b : Octets) : ByPosition DataPacket := do
  let block ← headerByPosition b
  ofPayload block (← after b headerSize)

/-- Reads a datagram that should be a data packet, and takes its content from the same buffer. -/
def decodeViewByPosition (v : View) : ByPosition DataPacket := do
  let block ← headerByPosition v.octets
  ofPayload block (← narrow v headerSize).octets

theorem headerByPosition_eq (b : Octets) : headerByPosition b = liftM (header b) := by
  refine checked_bind fun f read => ?_
  rw [expect_of_read read, word_of_read read, liftM_bind, liftM_pure]

theorem decodeByPosition_eq (b : Octets) : decodeByPosition b = liftM (decode b) := by
  rw [decodeByPosition, headerByPosition_eq, decode_eq_header]
  cases h : header b with
  | error fault => rfl
  | ok block =>
    rw [after_of_le (headerSize_le_of_header h)]
    rfl

theorem decodeViewByPosition_eq (v : View) : decodeViewByPosition v = liftM (decodeView v) := by
  rw [decodeViewByPosition, headerByPosition_eq, decodeView_eq, decode_eq_header]
  cases h : header v.octets with
  | error fault => rfl
  | ok block =>
    have long : headerSize ≤ v.length := v.length_octets ▸ headerSize_le_of_header h
    rw [narrow_of_le long, ← v.octets_after headerSize long]
    rfl

end DataPacket

namespace Acknowledgment

/-- Reads a datagram that should be an acknowledgment. -/
def decodeByPosition (b : Octets) : ByPosition Acknowledgment := do
  checkLength b
  if b.length ≠ headerSize then throw (.malformedFraming .acknowledgmentLength)
  expect b .acknowledgment
  return ⟨← word b 2⟩

theorem decodeByPosition_eq (b : Octets) : decodeByPosition b = liftM (decode b) := by
  refine checked_bind fun f read => ?_
  have exact_length : b.length = headerSize ↔ f.rest = [] := by
    obtain ⟨long, rest⟩ := Frame.rest_of_read read
    rw [rest, List.drop_eq_nil_iff]
    omega
  by_cases bare : f.rest = []
  · rw [if_neg (not_not_intro (exact_length.mpr bare))]
    simp [expect_of_read read, word_of_read read, bare]
  · rw [if_pos (mt exact_length.mp bare), if_pos (by simp [bare])]
    rfl

end Acknowledgment

namespace ErrorPacket

/-- Reads a datagram that should be an error. -/
def decodeByPosition (rules : DecodeRules) (b : Octets) : ByPosition ErrorPacket := do
  checkLength b
  expect b .error
  let code ← word b 2
  let (message, _) ← split .message (← after b headerSize)
  if rules.strictText then
    let _ ← TextPart.message.decode message
  return ⟨.ofWord code, message⟩

theorem decodeByPosition_eq (rules : DecodeRules) (b : Octets) :
    decodeByPosition rules b = liftM (decode rules b) := by
  refine checked_bind fun f read => ?_
  simp only [expect_of_read read, word_of_read read, rest_of_read read, split_eq, pure_bind,
    ofFrame, liftM_bind, liftM_pure, apply_ite liftM]

end ErrorPacket

/-! ### Any packet -/

namespace Packet

/-- Reads the opcode of a datagram. -/
def peekOpcodeByPosition (b : Octets) : ByPosition Opcode := do
  checkLength b
  let opcode ← word b 0
  match Opcode.ofWord? opcode with
  | some kind => return kind
  | none => throw (.unknownType opcode)

/-- Reads a datagram by the decoder of the kind that its opcode names. -/
def decodeByPosition (rules : DecodeRules) (b : Octets) : ByPosition Packet := do
  match ← peekOpcodeByPosition b with
  | .readRequest => return .readRequest (← ReadRequest.decodeByPosition rules b)
  | .data => return .data (← DataPacket.decodeByPosition b)
  | .acknowledgment => return .acknowledgment (← Acknowledgment.decodeByPosition b)
  | .error => return .error (← ErrorPacket.decodeByPosition rules b)

/-- Reads a datagram in a shared buffer by the decoder of the kind that its opcode names. -/
def decodeViewByPosition (rules : DecodeRules) (v : View) : ByPosition Packet := do
  match ← peekOpcodeByPosition v.octets with
  | .data => return .data (← DataPacket.decodeViewByPosition v)
  | _ => decodeByPosition rules v.octets

theorem peekOpcodeByPosition_eq (b : Octets) :
    peekOpcodeByPosition b = liftM (peekOpcode b) := by
  refine checked_bind fun f read => ?_
  rw [opcode_of_read read, pure_bind]
  cases Opcode.ofWord? f.opcode with
  | some kind => rfl
  | none => rfl

theorem decodeByPosition_eq (rules : DecodeRules) (b : Octets) :
    decodeByPosition rules b = liftM (decode rules b) := by
  unfold decodeByPosition decode
  rw [peekOpcodeByPosition_eq, liftM_bind]
  refine bind_congr fun kind => ?_
  cases kind with
  | readRequest => exact wrap_liftM (ReadRequest.decodeByPosition_eq rules b) readRequest
  | data => exact wrap_liftM (DataPacket.decodeByPosition_eq b) data
  | acknowledgment => exact wrap_liftM (Acknowledgment.decodeByPosition_eq b) acknowledgment
  | error => exact wrap_liftM (ErrorPacket.decodeByPosition_eq rules b) error

theorem decodeViewByPosition_eq (rules : DecodeRules) (v : View) :
    decodeViewByPosition rules v = liftM (decodeView rules v) := by
  unfold decodeViewByPosition decodeView
  rw [peekOpcodeByPosition_eq, liftM_bind]
  refine bind_congr fun kind => ?_
  cases kind with
  | data => exact wrap_liftM (DataPacket.decodeViewByPosition_eq v) data
  | readRequest | acknowledgment | error => exact decodeByPosition_eq rules v.octets

end Packet

/-! ### The codec -/

namespace Codec

/-- Reads the datagram in the buffer, if there is one, and empties the buffer. -/
def decodeByPosition (c : Codec) (buffer : Octets) : Option (Step Octets (Option Packet)) :=
  if buffer.isEmpty then some (.answer buffer none)
  else
    let datagram := View.whole buffer
    (Packet.decodeViewByPosition c.rules datagram).run.map fun
      | .ok packet =>
        { result := .ok (some packet), state := []
          counts := .decoded (.ofNat datagram.length), events := [.decoded packet datagram.length] }
      | .error fault =>
        { result := .error fault, state := []
          counts := .failed fault, events := [.rejected fault datagram.length] }

theorem decodeByPosition_eq (c : Codec) (buffer : Octets) :
    c.decodeByPosition buffer = some (c.decode buffer) := by
  have read : (Packet.decodeViewByPosition c.rules (.whole buffer)).run =
      some (Packet.decodeView c.rules (.whole buffer)) := by
    rw [Packet.decodeViewByPosition_eq, run_liftM]
  unfold decodeByPosition decode
  by_cases empty : buffer.isEmpty = true
  · rw [if_pos empty, if_pos empty]
  · rw [if_neg empty, if_neg empty]
    cases answer : Packet.decodeView c.rules (.whole buffer) with
    | ok packet => simp only [read, answer, Option.map_some]
    | error fault => simp only [read, answer, Option.map_some]

end Codec

namespace ByPosition

/-- **No decoder reads out of bounds.** Whatever octets it is given, and however strict it is, a
decoder by position never breaks off: it answers, with a packet or with a fault, as the decoder does
that takes the datagram apart. This goes for the decoders of the four kinds, for that of any packet,
for the two that read a view of a shared buffer, and for the codec. -/
theorem decoders_in_bounds (rules : DecodeRules) (b : Octets) (v : View) :
    (ReadRequest.decodeByPosition rules b).run = some (ReadRequest.decode rules b) ∧
    (DataPacket.decodeByPosition b).run = some (DataPacket.decode b) ∧
    (DataPacket.decodeViewByPosition v).run = some (DataPacket.decodeView v) ∧
    (Acknowledgment.decodeByPosition b).run = some (Acknowledgment.decode b) ∧
    (ErrorPacket.decodeByPosition rules b).run = some (ErrorPacket.decode rules b) ∧
    (Packet.decodeByPosition rules b).run = some (Packet.decode rules b) ∧
    (Packet.decodeViewByPosition rules v).run = some (Packet.decodeView rules v) ∧
    Codec.decodeByPosition ⟨rules⟩ b = some (Codec.decode ⟨rules⟩ b) := by
  refine ⟨?_, ?_, ?_, ?_, ?_, ?_, ?_, Codec.decodeByPosition_eq ⟨rules⟩ b⟩
  · rw [ReadRequest.decodeByPosition_eq, run_liftM]
  · rw [DataPacket.decodeByPosition_eq, run_liftM]
  · rw [DataPacket.decodeViewByPosition_eq, run_liftM]
  · rw [Acknowledgment.decodeByPosition_eq, run_liftM]
  · rw [ErrorPacket.decodeByPosition_eq, run_liftM]
  · rw [Packet.decodeByPosition_eq, run_liftM]
  · rw [Packet.decodeViewByPosition_eq, run_liftM]

/-- A single octet is refused for its length. Without that check, its opcode would be out of
reach. -/
example :
    (DataPacket.decodeByPosition [0]).run = some (.error (.undersizedDatagram 1)) ∧
      (expect [0] .data).run = none :=
  ⟨rfl, rfl⟩

end ByPosition
end Tftp
