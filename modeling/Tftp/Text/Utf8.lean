import Tftp.Octets

/-! # UTF-8

An octet string is read as text in pieces: a well-formed piece is the one encoding of a character,
an ill-formed piece is a longest start of one that the next octet (or the end) breaks off, or a
single octet that starts none. A string is valid when all its pieces are well formed (`decode?`);
read leniently (`lossy`), each ill-formed piece shows as one U+FFFD.

The pieces follow one another without a gap: what one leaves is where the next begins
(`takeFollowing_append`, `length_firstPiece`). -/

namespace Tftp.Utf8

/-! ### Encoding -/

/-- The octets of a text. -/
def encodeChars (text : List Char) : Octets := text.flatMap String.utf8EncodeChar

/-- The octets of a string. -/
def encode (text : String) : Octets := encodeChars text.toList

/-! ### Sequences of octets -/

/-- What the first octet of a longer sequence promises. -/
structure Lead where
  /-- The bits of the character that the octet carries. -/
  bits : Nat
  /-- How many octets follow. -/
  more : Nat
  /-- The least value of the octet that follows first. -/
  least : UInt8
  /-- The greatest value of the octet that follows first. -/
  greatest : UInt8

/-- The first octets of sequences of two to four octets. The narrower ranges after E0 and F0 shut
out overlong forms, the one after ED surrogates, and the one after F4 what lies above U+10FFFF. -/
def Lead.of? (b : UInt8) : Option Lead :=
  if 0xC2 ≤ b ∧ b ≤ 0xDF then some ⟨b.toNat - 0xC0, 1, 0x80, 0xBF⟩
  else if b = 0xE0 then some ⟨0x0, 2, 0xA0, 0xBF⟩
  else if b = 0xED then some ⟨0xD, 2, 0x80, 0x9F⟩
  else if 0xE1 ≤ b ∧ b ≤ 0xEF then some ⟨b.toNat - 0xE0, 2, 0x80, 0xBF⟩
  else if b = 0xF0 then some ⟨0, 3, 0x90, 0xBF⟩
  else if b = 0xF4 then some ⟨4, 3, 0x80, 0x8F⟩
  else if 0xF1 ≤ b ∧ b ≤ 0xF3 then some ⟨b.toNat - 0xF0, 3, 0x80, 0xBF⟩
  else none

/-- Takes at most `more` octets, the first between `least` and `greatest`, the others between 80
and BF; gives them and the rest. -/
def takeFollowing : (more : Nat) → (least greatest : UInt8) → Octets → Octets × Octets
  | 0, _, _, rest => ([], rest)
  | _ + 1, _, _, [] => ([], [])
  | more + 1, least, greatest, b :: rest =>
    if least ≤ b ∧ b ≤ greatest then
      let following := takeFollowing more 0x80 0xBF rest
      (b :: following.1, following.2)
    else ([], b :: rest)

theorem takeFollowing_append (more : Nat) (least greatest : UInt8) (o : Octets) :
    (takeFollowing more least greatest o).1 ++ (takeFollowing more least greatest o).2 = o := by
  induction more generalizing least greatest o with
  | zero => simp [takeFollowing]
  | succ more ih =>
    cases o with
    | nil => simp [takeFollowing]
    | cons b rest =>
      by_cases h : least ≤ b ∧ b ≤ greatest
      · simp [takeFollowing, h, ih]
      · simp [takeFollowing, h]

/-- The code point whose leading bits and following octets are given. -/
def codePoint (bits : Nat) (following : Octets) : Nat :=
  following.foldl (fun n b => 64 * n + (b.toNat - 0x80)) bits

/-! ### Pieces -/

/-- A piece of an octet string that is read as text. -/
inductive Piece where
  /-- The encoding of a character. -/
  | char (c : Char)
  /-- Octets that encode no character. -/
  | illFormed (octets : Octets)
  deriving DecidableEq, Repr

/-- The first piece of a string that starts with `b`, and what follows the piece. -/
def firstPiece (b : UInt8) (o : Octets) : Piece × Octets :=
  if b < 0x80 then (.char (Char.ofNat b.toNat), o)
  else match Lead.of? b with
    | none => (.illFormed [b], o)
    | some lead =>
      let following := takeFollowing lead.more lead.least lead.greatest o
      if following.1.length = lead.more then
        (.char (Char.ofNat (codePoint lead.bits following.1)), following.2)
      else (.illFormed (b :: following.1), following.2)

theorem length_firstPiece (b : UInt8) (o : Octets) : (firstPiece b o).2.length ≤ o.length := by
  unfold firstPiece
  split
  · exact Nat.le_refl _
  · split
    · exact Nat.le_refl _
    · next lead _ =>
      have h := congrArg List.length (takeFollowing_append lead.more lead.least lead.greatest o)
      rw [List.length_append] at h
      dsimp only
      split <;> dsimp only <;> omega

/-- The pieces of an octet string, in order. -/
def pieces : Octets → List Piece
  | [] => []
  | b :: o => (firstPiece b o).1 :: pieces (firstPiece b o).2
termination_by o => o.length
decreasing_by
  have := length_firstPiece b o
  simp only [List.length_cons]
  omega

/-! ### Decoding -/

/-- The character of a well-formed piece. -/
def Piece.char? : Piece → Option Char
  | .char c => some c
  | .illFormed _ => none

/-- The character that a piece shows as. -/
def Piece.shown : Piece → Char
  | .char c => c
  | .illFormed _ => '\uFFFD'

/-- The text of a valid octet string; `none` if any piece of it is ill formed. -/
def decode? (o : Octets) : Option String := ((pieces o).mapM Piece.char?).map String.ofList

/-- The text of an octet string, with U+FFFD for each ill-formed piece. -/
def lossy (o : Octets) : String := String.ofList ((pieces o).map Piece.shown)

end Tftp.Utf8
