import Tftp.Proofs.Defect

/-! # Error messages as texts

The message of an error may be any octets. It is shown as text all the same: characters as they are,
and U+FFFD once for each place where the octets break off. `Utf8.Shows` says this without reading in
pieces. At a place where no character is encoded, the octets break off after the longest part that
begins the encoding of some character, or after one octet if not even that begins one
(`Utf8.BreaksOff`). `Utf8.shows_iff` says that the lenient reading shows exactly this text, and
`Utf8.Shows.encodes_or_replaces` that a text without U+FFFD encodes the octets.

So the text gives the octets back exactly if they are valid (`Utf8.encode_lossy_eq_iff`), which is what
strict rules ask of a message: `ErrorPacket.strict_iff_lossless`. -/

namespace Tftp

namespace Utf8

/-! ### What a lenient reading shows -/

/-- The octets begin the encoding of some character, or are all of it. -/
def Begins (s : Octets) : Prop := ∃ c : Char, s <+: String.utf8EncodeChar c

/-- Before `rest` the octets `s` break off. -/
structure BreaksOff (s rest : Octets) : Prop where
  /-- No character is encoded here. -/
  unconvertible : ∀ c : Char, ¬ String.utf8EncodeChar c <+: s ++ rest
  some_octets : s ≠ []
  begun : Begins s ∨ s.length = 1
  longest : ∀ t, Begins t → t <+: s ++ rest → t.length ≤ s.length

/-- The text shows the octets, with U+FFFD for each part that breaks off. -/
inductive Shows : Octets → List Char → Prop
  | nil : Shows [] []
  | char (c : Char) {rest : Octets} {text : List Char} (more : Shows rest text) :
      Shows (String.utf8EncodeChar c ++ rest) (c :: text)
  | broken (s : Octets) {rest : Octets} {text : List Char} (off : BreaksOff s rest)
      (more : Shows rest text) : Shows (s ++ rest) ('\uFFFD' :: text)

/-! ### Following octets -/

theorem length_takeFollowing_le (more : Nat) (least greatest : UInt8) (o : Octets) :
    (takeFollowing more least greatest o).1.length ≤ more := by
  induction more generalizing least greatest o with
  | zero => exact Nat.le_refl 0
  | succ more ih =>
    cases o with
    | nil => exact Nat.zero_le _
    | cons x o =>
      rw [takeFollowing]
      split
      · exact Nat.succ_le_succ (ih 0x80 0xBF o)
      · exact Nat.zero_le _

theorem takeFollowing_cons {more : Nat} {least greatest x : UInt8} {o f rest : Octets}
    (h : takeFollowing more least greatest o = (x :: f, rest)) :
    (least ≤ x ∧ x ≤ greatest) ∧ f.length < more ∧ Continues f := by
  cases more with
  | zero => cases h
  | succ more =>
    cases o with
    | nil => cases h
    | cons y o =>
      rw [takeFollowing] at h
      split at h
      next hy =>
        obtain ⟨taken, rfl⟩ := Prod.mk.inj h
        obtain ⟨rfl, rfl⟩ := List.cons.inj taken
        have short := length_takeFollowing_le more 0x80 0xBF o
        exact ⟨hy, Nat.lt_succ_of_le short, continues_takeFollowing more o⟩
      · cases h

theorem takeFollowing_stops {more : Nat} {least greatest x : UInt8} {f rest : Octets}
    (h : takeFollowing more least greatest (f ++ x :: rest) = (f, x :: rest))
    (short : f.length < more) (other : Octets) :
    takeFollowing more least greatest (f ++ x :: other) = (f, x :: other) := by
  induction f generalizing more least greatest with
  | nil =>
    cases more with
    | zero => cases short
    | succ more =>
      rw [List.nil_append, takeFollowing] at h ⊢
      split at h
      · cases h
      next out => rw [if_neg out]
  | cons y f ih =>
    cases more with
    | zero => cases short
    | succ more =>
      rw [List.cons_append, takeFollowing] at h ⊢
      split at h
      next hy =>
        obtain ⟨taken, left⟩ := Prod.mk.inj h
        have again := ih (Prod.ext (List.cons.inj taken).2 left) (Nat.lt_of_succ_lt_succ short)
        rw [if_pos hy, again]
      · cases h

/-! ### Beginnings of characters -/

theorem Begins.of_prefix {s t : Octets} (h : s <+: t) (begins : Begins t) : Begins s := by
  obtain ⟨c, ht⟩ := begins
  exact ⟨c, h.trans ht⟩

/-- A first octet and some of what it promises begin a character: what is missing can be filled up
with octets 80. -/
theorem begins_of_promises {b x : UInt8} {f : Octets} {bits more : Nat}
    (hb : Promises b.toNat bits (more + 1)) (hx : Second b.toNat x.toNat) (hf : Continues f)
    (short : f.length ≤ more) : Begins (b :: x :: f) := by
  let o := f ++ List.replicate (more - f.length) 0x80
  have length : o.length = more := by
    simp only [o, List.length_append, List.length_replicate]
    omega
  have ho : Continues o := by
    intro y hy
    rcases List.mem_append.mp hy with old | new
    · exact hf y old
    · rw [List.eq_of_mem_replicate new]
      decide
  rw [← length] at hb
  have encoded := encodeChar_of_promises hb hx ho (toNat_charOfNat (isValidChar_codePoint hb hx ho))
  refine ⟨Char.ofNat (codePoint bits (x :: o)), ?_⟩
  rw [encoded]
  exact ⟨_, List.append_assoc [b, x] f _⟩

theorem exists_second (b : Nat) : ∃ x : UInt8, Second b x.toNat := by
  by_cases e0 : b = 0xE0
  · exact ⟨0xA0, by simp [Second, e0]⟩
  by_cases f0 : b = 0xF0
  · exact ⟨0x90, by simp [Second, f0]⟩
  · exact ⟨0x80, by simp [Second, e0, f0]⟩

theorem begins_of_takeFollowing {b : UInt8} {lead : Lead} {o f rest : Octets}
    (hl : Lead.of? b = some lead)
    (ht : takeFollowing lead.more lead.least lead.greatest o = (f, rest)) : Begins (b :: f) := by
  obtain ⟨hb, hs⟩ := Lead.of?_eq_some hl
  obtain ⟨more, hm⟩ : ∃ more, lead.more = more + 1 := by
    unfold Promises at hb
    exact ⟨lead.more - 1, by omega⟩
  cases f with
  | nil =>
    obtain ⟨x, hx⟩ := exists_second b.toNat
    rw [hm] at hb
    have begins := begins_of_promises hb hx (f := []) (by simp [Continues]) (Nat.zero_le _)
    exact begins.of_prefix ⟨[x], rfl⟩
  | cons x f =>
    obtain ⟨hx, short, hf⟩ := takeFollowing_cons ht
    rw [hm] at hb short
    exact begins_of_promises hb ((hs x).mp hx) hf (Nat.le_of_lt_succ short)

/-! ### Ill-formed pieces break off -/

section

variable {b : UInt8} {o s rest : Octets}

/-- An ill-formed piece is an octet that promises nothing, or one that is not followed by all that it
promises. -/
theorem firstPiece_illFormed (h : firstPiece b o = (.illFormed s, rest)) :
    ¬ b < 0x80 ∧ ((Lead.of? b = none ∧ s = [b] ∧ o = rest) ∨
      ∃ lead f, Lead.of? b = some lead ∧ s = b :: f ∧ f.length ≠ lead.more ∧
        takeFollowing lead.more lead.least lead.greatest o = (f, rest)) := by
  unfold firstPiece at h
  split at h
  · cases h
  next high =>
    refine ⟨high, ?_⟩
    split at h
    next unknown =>
      obtain ⟨rfl, rfl⟩ : [b] = s ∧ o = rest := by simpa using h
      exact Or.inl ⟨unknown, rfl, rfl⟩
    next lead known =>
      cases ht : takeFollowing lead.more lead.least lead.greatest o with
      | mk f left =>
        simp only [ht] at h
        split at h
        · cases h
        next short =>
          obtain ⟨rfl, rfl⟩ : b :: f = s ∧ left = rest := by simpa using h
          exact Or.inr ⟨lead, f, known, rfl, short, ht⟩

theorem append_of_illFormed (h : firstPiece b o = (.illFormed s, rest)) : b :: o = s ++ rest := by
  rcases (firstPiece_illFormed h).2 with ⟨-, rfl, rfl⟩ | ⟨lead, f, -, rfl, -, taken⟩
  · rfl
  · have all := takeFollowing_append lead.more lead.least lead.greatest o
    rw [taken] at all
    rw [← all]
    rfl

theorem firstPiece_stops {x : UInt8} (h : firstPiece b o = (.illFormed s, x :: rest))
    (other : Octets) :
    ∃ f, s = b :: f ∧ firstPiece b (f ++ x :: other) = (.illFormed s, x :: other) := by
  obtain ⟨high, ⟨unknown, rfl, rfl⟩ | ⟨lead, f, known, rfl, short, taken⟩⟩ :=
    firstPiece_illFormed h
  · exact ⟨[], rfl, by simp [firstPiece, high, unknown]⟩
  · refine ⟨f, rfl, ?_⟩
    have most := length_takeFollowing_le lead.more lead.least lead.greatest o
    have all := takeFollowing_append lead.more lead.least lead.greatest o
    rw [taken] at all most
    rw [← all] at taken
    have stops := takeFollowing_stops taken (Nat.lt_of_le_of_ne most short) other
    simp only [firstPiece, if_neg high, known, stops, if_neg short]

theorem breaksOff_of_illFormed (h : firstPiece b o = (.illFormed s, rest)) : BreaksOff s rest := by
  have front := append_of_illFormed h
  constructor
  · rintro c ⟨left, whole⟩
    obtain ⟨b', o', encoded, first⟩ := firstPiece_encodeChar c left
    rw [encoded, ← front, List.cons_append] at whole
    obtain ⟨rfl, rfl⟩ := List.cons.inj whole
    rw [first] at h
    cases h
  · rcases (firstPiece_illFormed h).2 with ⟨-, rfl, -⟩ | ⟨_, f, -, rfl, -⟩
    · exact List.cons_ne_nil b []
    · exact List.cons_ne_nil b f
  · rcases (firstPiece_illFormed h).2 with ⟨-, rfl, -⟩ | ⟨lead, f, known, rfl, -, taken⟩
    · exact Or.inr rfl
    · exact Or.inl (begins_of_takeFollowing known taken)
  · rintro t ⟨c, begins⟩ part
    apply Nat.le_of_not_lt
    intro longer
    -- The octet after the piece would have its place in the encoding of a character.
    obtain ⟨u, rfl⟩ : s <+: t := List.prefix_of_prefix_length_le ⟨rest, rfl⟩ part (by omega)
    cases u with
    | nil => simp at longer
    | cons x u =>
      obtain ⟨left, rest_eq⟩ := (List.prefix_append_right_inj s).mp part
      obtain ⟨w, whole⟩ := begins
      obtain rfl : x :: (u ++ left) = rest := rest_eq
      obtain ⟨f, rfl, stops⟩ := firstPiece_stops h (u ++ w)
      obtain ⟨b', o', encoded, first⟩ := firstPiece_encodeChar c []
      rw [encoded, List.append_assoc, List.cons_append] at whole
      obtain ⟨rfl, rfl⟩ := List.cons.inj whole
      rw [List.append_nil] at first
      cases first.symm.trans stops

end

/-! ### The lenient reading shows the octets -/

theorem shows_pieces (o : Octets) : Shows o ((pieces o).map Piece.shown) := by
  induction o using pieces.induct with
  | case1 =>
    rw [pieces]
    exact .nil
  | case2 b o ih =>
    rw [pieces_cons]
    cases h : firstPiece b o with
    | mk piece rest =>
      rw [h] at ih
      cases piece with
      | char c =>
        rw [encodeChar_of_firstPiece h]
        exact .char c ih
      | illFormed s =>
        rw [append_of_illFormed h]
        exact .broken s (breaksOff_of_illFormed h) ih

/-- Octets break off at one place only. -/
theorem BreaksOff.length_le {s s' rest rest' : Octets} (h : BreaksOff s rest)
    (h' : BreaksOff s' rest') (same : s ++ rest = s' ++ rest') : s.length ≤ s'.length := by
  rcases h.begun with begins | one
  · exact h'.longest s begins ⟨rest, same⟩
  · rw [one]
    exact List.length_pos_iff.mpr h'.some_octets

theorem Shows.eq_pieces {o : Octets} {text : List Char} (h : Shows o text) :
    text = (pieces o).map Piece.shown := by
  induction h with
  | nil =>
    rw [pieces]
    rfl
  | char c more ih =>
    have read := pieces_encodeChars [c]
    simp only [encodeChars, List.flatMap_singleton] at read
    rw [read, ih]
    rfl
  | @broken s rest text off more ih =>
    cases s with
    | nil => exact absurd rfl off.some_octets
    | cons b s =>
      rw [List.cons_append, pieces_cons]
      cases h : firstPiece b (s ++ rest) with
      | mk piece left =>
        cases piece with
        | char c =>
          have encoded := encodeChar_of_firstPiece h
          exact absurd ⟨left, encoded.symm⟩ (off.unconvertible c)
        | illFormed s' =>
          have front := append_of_illFormed h
          have off' := breaksOff_of_illFormed h
          have length : (b :: s).length = s'.length :=
            Nat.le_antisymm (off.length_le off' front) (off'.length_le off front.symm)
          obtain ⟨-, rfl⟩ := List.append_inj front length
          rw [ih]
          rfl

/-- The lenient reading is the one text that shows the octets. -/
theorem shows_iff {o : Octets} {text : String} : Shows o text.toList ↔ text = lossy o := by
  constructor
  · intro h
    rw [lossy, ← h.eq_pieces, String.ofList_toList]
  · rintro rfl
    rw [lossy, String.toList_ofList]
    exact shows_pieces o

theorem Shows.encodes_or_replaces {o : Octets} {text : List Char} (h : Shows o text) :
    o = encodeChars text ∨ '\uFFFD' ∈ text := by
  induction h with
  | nil => exact Or.inl rfl
  | char c more ih =>
    rcases ih with encodes | replaced
    · left
      rw [encodes, encodeChars, encodeChars, List.flatMap_cons]
    · exact Or.inr (List.mem_cons_of_mem c replaced)
  | broken => exact Or.inr (List.mem_cons_self ..)

/-- The text gives the octets back exactly if they are valid. -/
theorem encode_lossy_eq_iff {o : Octets} : encode (lossy o) = o ↔ Valid o := by
  constructor
  · intro same
    exact ⟨lossy o, same.symm⟩
  · rintro ⟨text, rfl⟩
    rw [lossy_encode]

/-- A text that does not give the octets back contains U+FFFD. -/
theorem mem_lossy_of_ne {o : Octets} (h : encode (lossy o) ≠ o) : '\uFFFD' ∈ (lossy o).toList := by
  rcases (shows_iff.mpr (rfl : lossy o = lossy o)).encodes_or_replaces with encodes | replaced
  · exact absurd encodes.symm h
  · exact replaced

end Utf8

/-! ### Messages under lenient and strict rules -/

namespace ErrorPacket

variable {lenient strict : DecodeRules} {b : Octets} {e : ErrorPacket}

theorem decode_of_valid (read : decode lenient b = .ok e) (valid : Utf8.Valid e.message) :
    decode strict b = .ok e := by
  obtain ⟨f, hf, opcode, taken⟩ := decode_eq_ok_iff.mp read
  obtain ⟨rest, octets, noNul, -, code⟩ := ofFrame_eq_ok_iff.mp taken
  exact decode_eq_ok_iff.mpr
    ⟨f, hf, opcode, ofFrame_eq_ok_iff.mpr ⟨rest, octets, noNul, fun _ => valid, code⟩⟩

theorem decode_of_not_valid (on : strict.strictText = true) (read : decode lenient b = .ok e)
    (invalid : ¬ Utf8.Valid e.message) :
    decode strict b = .error (.malformedFraming (.notUtf8 .message)) := by
  obtain ⟨f, hf, opcode, taken⟩ := decode_eq_ok_iff.mp read
  obtain ⟨rest, octets, noNul, -, -⟩ := ofFrame_eq_ok_iff.mp taken
  have defect : MessageDefect strict f.rest (.malformedFraming (.notUtf8 .message)) := by
    rw [octets]
    exact .illFormed e.message rest noNul invalid on
  exact decode_eq_error_iff.mpr
    (Or.inr ⟨f, hf, Or.inr ⟨opcode, ofFrame_eq_error_iff.mpr defect⟩⟩)

theorem decode_strict_iff (on : strict.strictText = true) (read : decode lenient b = .ok e) :
    (∃ e', decode strict b = .ok e') ↔ Utf8.encode e.text = e.message := by
  rw [text, Utf8.encode_lossy_eq_iff]
  constructor
  · rintro ⟨e', strictly⟩
    by_cases valid : Utf8.Valid e.message
    · exact valid
    · rw [decode_of_not_valid on read valid] at strictly
      cases strictly
  · intro valid
    exact ⟨e, decode_of_valid read valid⟩

theorem octets_of_decode (read : decode lenient b = .ok e) :
    ∃ hi lo rest, b = [0, 5, hi, lo] ++ e.message ++ 0 :: rest ∧ 0 ∉ e.message ∧
      e.code = .ofWord (Octets.word hi lo) := by
  obtain ⟨f, hf, opcode, taken⟩ := decode_eq_ok_iff.mp read
  obtain ⟨rest, octets, noNul, -, code⟩ := ofFrame_eq_ok_iff.mp taken
  refine ⟨f.hi, f.lo, rest, ?_, noNul, code⟩
  rw [(Frame.read_eq_ok_iff.mp hf).1, opcode, Octets.ofWord_opcode, Frame.body, octets]
  rfl

/-- **Strict rules accept the messages that their text gives back.** Take an error that was read under
some rules. Under rules that ask for a text it is read too exactly if the octets of its text are the
octets of its message, and then as the same packet; otherwise it is refused for that, its text contains
U+FFFD, and the packet still holds the octets between the header and the first NUL. The text shows
these octets with one U+FFFD for each place where they break off. A packet made from the code and the
text is the packet that was read exactly if strict rules accept the datagram. Reading any packet comes
to the same as reading an error here. -/
theorem strict_iff_lossless (on : strict.strictText = true) (read : decode lenient b = .ok e) :
    ((∃ e', decode strict b = .ok e') ↔ Utf8.encode e.text = e.message) ∧
    (Utf8.encode e.text = e.message → decode strict b = .ok e) ∧
    (Utf8.encode e.text ≠ e.message →
      decode strict b = .error (.malformedFraming (.notUtf8 .message)) ∧
        '\uFFFD' ∈ e.text.toList) ∧
    (∃ hi lo rest, b = [0, 5, hi, lo] ++ e.message ++ 0 :: rest ∧ 0 ∉ e.message ∧
      e.code = .ofWord (Octets.word hi lo)) ∧
    Utf8.Shows e.message e.text.toList ∧
    (ofMessage e.code e.text = e ↔ ∃ e', decode strict b = .ok e') ∧
    ∀ rules, Packet.decode rules b = (decode rules b).map .error := by
  have accepted := decode_strict_iff on read
  obtain ⟨hi, lo, rest, octets, inMessage⟩ := octets_of_decode read
  refine ⟨accepted, ?_, ?_, ⟨hi, lo, rest, octets, inMessage⟩, ?_, ?_, ?_⟩
  · intro same
    exact decode_of_valid read (Utf8.encode_lossy_eq_iff.mp same)
  · intro differs
    have invalid : ¬ Utf8.Valid e.message := mt Utf8.encode_lossy_eq_iff.mpr differs
    exact ⟨decode_of_not_valid on read invalid, Utf8.mem_lossy_of_ne differs⟩
  · exact Utf8.shows_iff.mpr rfl
  · rw [accepted]
    constructor
    · intro same
      exact congrArg message same
    · intro same
      rw [ofMessage, same]
  · intro rules
    have first : b.take 2 = Octets.ofWord Opcode.error.toWord := by
      rw [octets]
      rfl
    rw [Packet.decode_eq_decodeAs first]
    rfl

/-- A cut-off sequence of four octets breaks off once, and a surrogate at each of its octets. -/
theorem strict_iff_lossless_cut :
    let b : Octets := [0, 5, 0, 0, 0xF0, 0x9F, 0x98, 0x21, 0xED, 0xA0, 0x80, 0]
    let e : ErrorPacket := ⟨.unknown, [0xF0, 0x9F, 0x98, 0x21, 0xED, 0xA0, 0x80]⟩
    decode {} b = .ok e ∧ e.text = "\uFFFD!\uFFFD\uFFFD\uFFFD" ∧
      decode { strictText := true } b = .error (.malformedFraming (.notUtf8 .message)) ∧
      ofMessage e.code e.text ≠ e := by
  intro b e
  have read : decode {} b = .ok e := rfl
  have shown : e.text = "\uFFFD!\uFFFD\uFFFD\uFFFD" := by decide +kernel
  have differs : Utf8.encode e.text ≠ e.message := by
    rw [shown]
    decide
  have on : ({ strictText := true } : DecodeRules).strictText = true := rfl
  obtain ⟨accepted, -, refused, -, -, same, -⟩ := strict_iff_lossless on read
  refine ⟨read, shown, (refused differs).1, ?_⟩
  rw [Ne, same, accepted]
  exact differs

end ErrorPacket
end Tftp
