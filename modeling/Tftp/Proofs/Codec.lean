import Mathlib.Data.List.DropRight
import Mathlib.Data.List.Induction
import Tftp.Codec

/-! # A codec at work

A port is a codec together with the one buffer that it works on. Its caller pushes received octets
into the buffer, clears it, has packets encoded into it and has it decoded, in any order.

* What the buffer holds is what was pushed and encoded since it was last emptied, and the rules are
  those of the beginning (`Port.after_start`): so nothing else is remembered.
* Decoding a buffer that holds something answers as `Packet.decode` does for the octets in it, with
  the packet or with the same fault, and empties the buffer either way (`Port.perform_decode`),
  although the codec reads a view of the buffer and not a copy.
* Encoding a packet leaves what the buffer holds and puts the wire form behind it
  (`Port.perform_encode`). -/

namespace Tftp.Codec

/-- What a caller asks of a codec and its buffer. -/
inductive Operation where
  /-- Octets are put behind what the buffer holds. -/
  | push (o : Octets)
  /-- The buffer is emptied. -/
  | clear
  | encode (packet : Packet)
  | decode

/-- A codec and its buffer. -/
structure Port where
  codec : Codec
  buffer : Octets := []

namespace Operation

/-- The operation adds to what the buffer holds; any other leaves the buffer empty. -/
def adds : Operation → Bool
  | push _ | encode _ => true
  | clear | decode => false

/-- What the operation adds. -/
def octets : Operation → Octets
  | push o => o
  | encode packet => packet.encode
  | clear | decode => []

end Operation

/-- What was added to the buffer since it was last emptied. -/
def held (history : List Operation) : Octets :=
  (history.rtakeWhile Operation.adds).flatMap Operation.octets

theorem held_concat_of_adds (history : List Operation) {op : Operation} (h : op.adds = true) :
    held (history ++ [op]) = held history ++ op.octets := by
  rw [held, List.rtakeWhile_concat_pos _ _ _ h, List.flatMap_append, List.flatMap_singleton, held]

theorem held_concat_of_empties (history : List Operation) {op : Operation}
    (h : op.adds = false) : held (history ++ [op]) = [] := by
  rw [held, List.rtakeWhile_concat_neg _ _ _ (by simp [h]), List.flatMap_nil]

namespace Port

/-- The port before anything was done. -/
def start (rules : DecodeRules) : Port := { codec := { rules } }

/-- One operation. Only decoding answers with a packet. -/
def perform (p : Port) : Operation → Step Port (Option Packet)
  | .push o => .answer { p with buffer := p.buffer ++ o } none
  | .clear => .answer { p with buffer := [] } none
  | .encode packet =>
    ((p.codec.encode packet p.buffer).within fun buffer => { p with buffer }).andThen
      fun p _ => .answer p none
  | .decode => (p.codec.decode p.buffer).within fun buffer => { p with buffer }

/-- The port after some operations. -/
def after (p : Port) (history : List Operation) : Port :=
  history.foldl (fun p op => (p.perform op).state) p

theorem after_concat (p : Port) (history : List Operation) (op : Operation) :
    p.after (history ++ [op]) = ((p.after history).perform op).state := by
  simp [after, List.foldl_append]

theorem perform_encode (p : Port) (packet : Packet) :
    (p.perform (.encode packet)).result = .ok none ∧
      (p.perform (.encode packet)).state = { p with buffer := p.buffer ++ packet.encode } := by
  refine ⟨rfl, ?_⟩
  rw [← packet.appendTo_eq]
  rfl

theorem perform_decode_of_empty {p : Port} (empty : p.buffer = []) :
    p.perform .decode = .answer p none := by
  obtain ⟨codec, buffer⟩ := p
  obtain rfl : buffer = [] := empty
  rfl

theorem perform_decode {p : Port} (some_octets : p.buffer ≠ []) :
    (p.perform .decode).result = (Packet.decode p.codec.rules p.buffer).map some ∧
      (p.perform .decode).state = { p with buffer := [] } := by
  have filled : p.buffer.isEmpty = false := List.isEmpty_eq_false_iff.mpr some_octets
  have read : Packet.decodeView p.codec.rules (.whole p.buffer) =
      Packet.decode p.codec.rules p.buffer := by
    rw [Packet.decodeView_eq, View.octets_whole]
  simp only [perform, decode, filled, read, Bool.false_eq_true, if_false]
  cases Packet.decode p.codec.rules p.buffer with
  | ok packet => exact ⟨rfl, rfl⟩
  | error fault => exact ⟨rfl, rfl⟩

/-- One operation keeps the rules, and adds to the buffer or empties it. -/
theorem state_perform (p : Port) (op : Operation) :
    (p.perform op).state =
      { p with buffer := if op.adds then p.buffer ++ op.octets else [] } := by
  cases op with
  | push o => rfl
  | clear => rfl
  | encode packet => exact (p.perform_encode packet).2
  | decode =>
    by_cases empty : p.buffer = []
    · rw [perform_decode_of_empty empty]
      obtain ⟨codec, buffer⟩ := p
      obtain rfl : buffer = [] := empty
      rfl
    · exact (perform_decode empty).2

/-- Whatever was done before, the port holds its rules and what was added since the buffer was last
emptied. -/
theorem after_start (rules : DecodeRules) (history : List Operation) :
    (start rules).after history = ⟨⟨rules⟩, held history⟩ := by
  induction history using List.reverseRecOn with
  | nil => rfl
  | append_singleton history op ih =>
    rw [after_concat, ih, state_perform]
    cases h : op.adds with
    | true => rw [held_concat_of_adds history h, if_pos rfl]
    | false => rw [held_concat_of_empties history h, if_neg Bool.false_ne_true]

/-- **A codec has no history.** Whatever was done with a codec and its buffer: decoding an empty
buffer answers with nothing and changes nothing; decoding a buffer that holds something answers as
the plain decoder does for these octets, and leaves the rules and an empty buffer; encoding leaves
what the buffer holds and puts behind it the wire form, whose length is the one computed beforehand. -/
theorem perform_historyFree (rules : DecodeRules) (history : List Operation) :
    let p := (start rules).after history
    p = ⟨⟨rules⟩, held history⟩ ∧
    (p.buffer = [] → p.perform .decode = .answer p none) ∧
    (p.buffer ≠ [] →
      (p.perform .decode).result = (Packet.decode rules p.buffer).map some ∧
      (p.perform .decode).state = ⟨⟨rules⟩, []⟩) ∧
    ∀ packet : Packet,
      (p.perform (.encode packet)).result = .ok none ∧
      (p.perform (.encode packet)).state = ⟨⟨rules⟩, p.buffer ++ packet.encode⟩ ∧
      packet.encode.length = packet.encodedLength := by
  intro p
  have now : p = ⟨⟨rules⟩, held history⟩ := after_start rules history
  have codec : p.codec = ⟨rules⟩ := by rw [now]
  refine ⟨now, perform_decode_of_empty, fun some_octets => ?_, fun packet => ?_⟩
  · obtain ⟨result, state⟩ := perform_decode some_octets
    rw [codec] at result state
    exact ⟨result, state⟩
  · obtain ⟨result, state⟩ := p.perform_encode packet
    rw [codec] at state
    exact ⟨result, state, packet.length_encode⟩

/-- Two datagrams in one buffer are judged as one. -/
example :
    (((start {}).after [.encode (.acknowledgment ⟨1⟩), .encode (.acknowledgment ⟨2⟩)]).perform
      .decode).result = .error (.malformedFraming .acknowledgmentLength) := by
  rfl

end Port
end Tftp.Codec
