import Tftp.Text.Utf8

/-! # Valid octet strings are the encodings of texts

Reading an octet string in pieces undoes encoding: the pieces of an encoded text are its characters
(`pieces_encodeChars`), and a string all of whose pieces are characters encodes them
(`encodeChars_of_pieces`). So the valid strings are the encodings of texts, each of exactly one
(`decode?_eq_some_iff`). -/

namespace Tftp.Utf8

/-! ### First octets in numbers -/

theorem Lead.of?_eq (b : UInt8) : Lead.of? b =
    if 0xC2 ≤ b.toNat ∧ b.toNat ≤ 0xDF then some ⟨b.toNat - 0xC0, 1, 0x80, 0xBF⟩
    else if b.toNat = 0xE0 then some ⟨0x0, 2, 0xA0, 0xBF⟩
    else if b.toNat = 0xED then some ⟨0xD, 2, 0x80, 0x9F⟩
    else if 0xE1 ≤ b.toNat ∧ b.toNat ≤ 0xEF then some ⟨b.toNat - 0xE0, 2, 0x80, 0xBF⟩
    else if b.toNat = 0xF0 then some ⟨0, 3, 0x90, 0xBF⟩
    else if b.toNat = 0xF4 then some ⟨4, 3, 0x80, 0x8F⟩
    else if 0xF1 ≤ b.toNat ∧ b.toNat ≤ 0xF3 then some ⟨b.toNat - 0xF0, 3, 0x80, 0xBF⟩
    else none := by
  simp only [Lead.of?, UInt8.le_iff_toNat_le, ← UInt8.toNat_inj]
  rfl

/-- An octet after `b` that may be the second of a sequence. -/
def Second (b x : Nat) : Prop :=
  0x80 ≤ x ∧ x ≤ 0xBF ∧ (b = 0xE0 → 0xA0 ≤ x) ∧ (b = 0xED → x ≤ 0x9F) ∧ (b = 0xF0 → 0x90 ≤ x) ∧
    (b = 0xF4 → x ≤ 0x8F)

/-- What `b` carries and how many octets it promises. -/
def Promises (b bits more : Nat) : Prop :=
  (0xC2 ≤ b ∧ b ≤ 0xDF ∧ bits = b - 0xC0 ∧ more = 1) ∨
  (0xE0 ≤ b ∧ b ≤ 0xEF ∧ bits = b - 0xE0 ∧ more = 2) ∨
  (0xF0 ≤ b ∧ b ≤ 0xF4 ∧ bits = b - 0xF0 ∧ more = 3)

theorem Lead.of?_eq_some {b : UInt8} {lead : Lead} (h : Lead.of? b = some lead) :
    Promises b.toNat lead.bits lead.more ∧
      ∀ x : UInt8, lead.least ≤ x ∧ x ≤ lead.greatest ↔ Second b.toNat x.toNat := by
  rw [Lead.of?_eq] at h
  repeat' split at h
  all_goals simp only [Option.some.injEq, reduceCtorEq] at h
  all_goals
    subst h
    simp only [Promises, Second, UInt8.le_iff_toNat_le, UInt8.reduceToNat, and_true]
    exact ⟨by omega, fun x => by omega⟩

theorem Lead.of?_of_promises {b : UInt8} {bits more : Nat} (h : Promises b.toNat bits more) :
    ∃ lead, Lead.of? b = some lead ∧ lead.bits = bits ∧ lead.more = more := by
  have known : (Lead.of? b).isSome := by
    rw [Lead.of?_eq]
    unfold Promises at h
    grind
  obtain ⟨lead, hl⟩ := Option.isSome_iff_exists.mp known
  refine ⟨lead, hl, ?_⟩
  have := (Lead.of?_eq_some hl).1
  unfold Promises at this h
  omega

/-! ### Following octets in numbers -/

/-- The octets of a sequence after its second. -/
def Continues (o : Octets) : Prop := ∀ x ∈ o, 0x80 ≤ x.toNat ∧ x.toNat ≤ 0xBF

theorem takeFollowing_of_continues {o : Octets} (h : Continues o) (rest : Octets) :
    takeFollowing o.length 0x80 0xBF (o ++ rest) = (o, rest) := by
  induction o with
  | nil => rfl
  | cons x o ih =>
    have hx := h x (List.mem_cons_self ..)
    rw [List.length_cons, List.cons_append, takeFollowing,
      if_pos ⟨UInt8.le_iff_toNat_le.mpr hx.1, UInt8.le_iff_toNat_le.mpr hx.2⟩,
      ih fun y hy => h y (List.mem_cons_of_mem _ hy)]

theorem continues_takeFollowing (more : Nat) (o : Octets) :
    Continues (takeFollowing more 0x80 0xBF o).1 := by
  induction more generalizing o with
  | zero => simp [takeFollowing, Continues]
  | succ more ih =>
    cases o with
    | nil => simp [takeFollowing, Continues]
    | cons x o =>
      rw [takeFollowing]
      split
      next hx =>
        intro y hy
        rcases List.mem_cons.mp hy with rfl | hy
        · exact ⟨UInt8.le_iff_toNat_le.mp hx.1, UInt8.le_iff_toNat_le.mp hx.2⟩
        · exact ih o y hy
      · simp [Continues]

theorem takeFollowing_full {more : Nat} {least greatest : UInt8} {o following rest : Octets}
    (h : takeFollowing (more + 1) least greatest o = (following, rest))
    (full : following.length = more + 1) :
    ∃ x f, following = x :: f ∧ (least ≤ x ∧ x ≤ greatest) ∧ f.length = more ∧ Continues f := by
  cases o with
  | nil =>
    obtain ⟨rfl, rfl⟩ := Prod.mk.inj h
    cases full
  | cons x o =>
    rw [takeFollowing] at h
    split at h
    next hx =>
      obtain ⟨rfl, rfl⟩ := Prod.mk.inj h
      exact ⟨x, _, rfl, hx, Nat.succ.inj full, continues_takeFollowing more o⟩
    · obtain ⟨rfl, rfl⟩ := Prod.mk.inj h
      cases full

/-! ### Characters are pieces -/

theorem toNat_octet {n : Nat} (h : n < 256) : (UInt8.ofNat n).toNat = n :=
  UInt8.toNat_ofNat_of_lt' h

theorem toNat_charOfNat {n : Nat} (h : n.isValidChar) : (Char.ofNat n).toNat = n := by
  rw [Char.ofNat, dif_pos h]
  rfl

theorem firstPiece_of_promises {b x : UInt8} {o : Octets} (c : Char) (bits : Nat) (rest : Octets)
    (hb : Promises b.toNat bits (o.length + 1)) (hx : Second b.toNat x.toNat) (ho : Continues o)
    (hc : codePoint bits (x :: o) = c.toNat) :
    firstPiece b (x :: o ++ rest) = (.char c, rest) := by
  obtain ⟨lead, hl, rfl, hm⟩ := Lead.of?_of_promises hb
  have long : ¬ b < 0x80 := by
    unfold Promises at hb
    grind [UInt8.lt_iff_toNat_lt]
  have following : takeFollowing lead.more lead.least lead.greatest (x :: o ++ rest) =
      (x :: o, rest) := by
    rw [hm, List.cons_append, takeFollowing, if_pos (((Lead.of?_eq_some hl).2 x).mpr hx),
      takeFollowing_of_continues ho]
  simp only [firstPiece, if_neg long, hl, following]
  rw [List.length_cons, if_pos hm.symm, hc, Char.ofNat_toNat]

/-- The first piece of a string that begins with an encoded character is that character. -/
theorem firstPiece_encodeChar (c : Char) (rest : Octets) :
    ∃ b o, String.utf8EncodeChar c = b :: o ∧ firstPiece b (o ++ rest) = (.char c, rest) := by
  have valid := c.valid
  simp only [UInt32.isValidChar, Nat.isValidChar] at valid
  unfold String.utf8EncodeChar
  dsimp only
  have hc : c.toNat = c.val.toNat := rfl
  generalize c.val.toNat = v at valid hc ⊢
  by_cases h₁ : v ≤ 0x7F
  · refine ⟨_, _, if_pos h₁, ?_⟩
    have hb : (UInt8.ofNat v).toNat = v := toNat_octet (by omega)
    have lt : UInt8.ofNat v < 0x80 := by
      rw [UInt8.lt_iff_toNat_lt, hb]
      exact Nat.lt_succ_of_le h₁
    rw [firstPiece, if_pos lt, hb, ← hc, Char.ofNat_toNat]
    rfl
  rw [if_neg h₁]
  have fourth : (UInt8.ofNat (v % 64 + 128)).toNat = v % 64 + 128 := toNat_octet (by omega)
  have third : (UInt8.ofNat (v / 64 % 64 + 128)).toNat = v / 64 % 64 + 128 :=
    toNat_octet (by omega)
  have second : (UInt8.ofNat (v / 4096 % 64 + 128)).toNat = v / 4096 % 64 + 128 :=
    toNat_octet (by omega)
  by_cases h₂ : v ≤ 0x7FF
  · have first : (UInt8.ofNat (v / 64 % 32 + 192)).toNat = v / 64 % 32 + 192 :=
      toNat_octet (by omega)
    refine ⟨_, [_], if_pos h₂, firstPiece_of_promises c (v / 64) rest ?_ ?_ ?_ ?_⟩
    · rw [first]; unfold Promises; grind
    · rw [first, fourth]; unfold Second; grind
    · simp [Continues]
    · simp only [codePoint, List.foldl, fourth, hc]; omega
  rw [if_neg h₂]
  by_cases h₃ : v ≤ 0xFFFF
  · have first : (UInt8.ofNat (v / 4096 % 16 + 224)).toNat = v / 4096 % 16 + 224 :=
      toNat_octet (by omega)
    refine ⟨_, [_, _], if_pos h₃, firstPiece_of_promises c (v / 4096) rest ?_ ?_ ?_ ?_⟩
    · rw [first]; simp [Promises]; omega
    · rw [first, third]; unfold Second; omega
    · simp [Continues]; omega
    · simp only [codePoint, List.foldl, third, fourth, hc]; omega
  rw [if_neg h₃]
  have first : (UInt8.ofNat (v / 262144 % 8 + 240)).toNat = v / 262144 % 8 + 240 :=
    toNat_octet (by omega)
  refine ⟨_, [_, _, _], rfl, firstPiece_of_promises c (v / 262144) rest ?_ ?_ ?_ ?_⟩
  · rw [first]; simp [Promises]; omega
  · rw [first, second]; unfold Second; omega
  · simp [Continues]; omega
  · simp only [codePoint, List.foldl, second, third, fourth, hc]; omega

theorem isValidChar_codePoint {b x : UInt8} {o : Octets} {bits : Nat}
    (hb : Promises b.toNat bits (o.length + 1)) (hx : Second b.toNat x.toNat) (ho : Continues o) :
    (codePoint bits (x :: o)).isValidChar := by
  unfold Promises Second at *
  match o with
  | [] => simp [codePoint, Nat.isValidChar] at *; omega
  | [y] => simp [codePoint, Nat.isValidChar, Continues] at *; omega
  | [y, z] => simp [codePoint, Nat.isValidChar, Continues] at *; omega
  | _ :: _ :: _ :: _ => simp at hb

theorem encodeChar_of_promises {b x : UInt8} {o : Octets} {bits : Nat} {c : Char}
    (hb : Promises b.toNat bits (o.length + 1)) (hx : Second b.toNat x.toNat) (ho : Continues o)
    (hc : c.toNat = codePoint bits (x :: o)) : String.utf8EncodeChar c = b :: x :: o := by
  unfold String.utf8EncodeChar
  dsimp only
  have hv : c.val.toNat = codePoint bits (x :: o) := hc
  generalize c.val.toNat = v at hv ⊢
  unfold Promises Second at *
  rcases o with _ | ⟨y, _ | ⟨z, _ | _⟩⟩
  · simp [codePoint] at hb hv
    rw [if_neg (by omega), if_pos (by omega)]
    simp [← UInt8.toNat_inj]
    omega
  · simp [codePoint, Continues] at hb hv ho
    rw [if_neg (by omega), if_neg (by omega), if_pos (by omega)]
    simp [← UInt8.toNat_inj]
    omega
  · simp [codePoint, Continues] at hb hv ho
    rw [if_neg (by omega), if_neg (by omega), if_neg (by omega)]
    simp [← UInt8.toNat_inj]
    omega
  · simp at hb

/-- The octets of a well-formed first piece encode its character. -/
theorem encodeChar_of_firstPiece {b : UInt8} {o rest : Octets} {c : Char}
    (h : firstPiece b o = (.char c, rest)) : b :: o = String.utf8EncodeChar c ++ rest := by
  unfold firstPiece at h
  split at h
  next low =>
    have small : b.toNat < 0x80 := UInt8.lt_iff_toNat_lt.mp low
    obtain ⟨rfl, rfl⟩ : Char.ofNat b.toNat = c ∧ o = rest := by simpa using h
    have hv : (Char.ofNat b.toNat).val.toNat = b.toNat :=
      toNat_charOfNat (Or.inl (Nat.lt_trans small (by decide)))
    simp only [String.utf8EncodeChar, hv]
    rw [if_pos (Nat.le_of_lt_succ small), UInt8.ofNat_toNat]
    rfl
  · split at h
    · simp at h
    next lead hl =>
      obtain ⟨hb, hs⟩ := Lead.of?_eq_some hl
      obtain ⟨more, hm⟩ : ∃ more, lead.more = more + 1 := by
        unfold Promises at hb
        exact ⟨lead.more - 1, by omega⟩
      have all := takeFollowing_append lead.more lead.least lead.greatest o
      cases ht : takeFollowing lead.more lead.least lead.greatest o with
      | mk following left =>
        simp only [ht] at h all
        split at h
        next full =>
          obtain ⟨rfl, rfl⟩ : Char.ofNat (codePoint lead.bits following) = c ∧ left = rest := by
            simpa using h
          rw [hm] at ht full
          obtain ⟨x, f, rfl, hx, rfl, hf⟩ := takeFollowing_full ht full
          rw [hm] at hb
          have hx := (hs x).mp hx
          rw [encodeChar_of_promises hb hx hf (toNat_charOfNat (isValidChar_codePoint hb hx hf)),
            ← all]
          rfl
        · simp at h

/-! ### Texts are the valid strings -/

theorem pieces_cons (b : UInt8) (o : Octets) :
    pieces (b :: o) = (firstPiece b o).1 :: pieces (firstPiece b o).2 := by
  rw [pieces]

theorem pieces_encodeChars (text : List Char) (rest : Octets) :
    pieces (encodeChars text ++ rest) = text.map .char ++ pieces rest := by
  induction text with
  | nil => rfl
  | cons c text ih =>
    obtain ⟨b, o, hc, hp⟩ := firstPiece_encodeChar c (encodeChars text ++ rest)
    have : encodeChars (c :: text) ++ rest = b :: (o ++ (encodeChars text ++ rest)) := by
      simp [encodeChars, hc]
    rw [this, pieces_cons, hp, ih]
    rfl

theorem encodeChars_of_pieces {text : List Char} {o : Octets} (h : pieces o = text.map .char) :
    o = encodeChars text := by
  induction text generalizing o with
  | nil =>
    cases o with
    | nil => rfl
    | cons b o => simp [pieces_cons] at h
  | cons c text ih =>
    cases o with
    | nil => simp [pieces] at h
    | cons b o =>
      rw [pieces_cons, List.map_cons, List.cons.injEq] at h
      have tail : (firstPiece b o).2 = encodeChars text := ih h.2
      exact encodeChar_of_firstPiece (Prod.ext h.1 tail)

theorem pieces_eq_map_char_iff {text : List Char} {o : Octets} :
    pieces o = text.map .char ↔ o = encodeChars text := by
  refine ⟨encodeChars_of_pieces, ?_⟩
  rintro rfl
  simpa [pieces] using pieces_encodeChars text []

theorem mapM_char?_eq_some_iff {ps : List Piece} {text : List Char} :
    ps.mapM Piece.char? = some text ↔ ps = text.map .char := by
  induction ps generalizing text with
  | nil => cases text <;> simp
  | cons p ps ih =>
    cases text <;> cases p <;> simp [List.mapM_cons, Piece.char?, Option.bind_eq_some_iff, ih]
    exact and_comm

/-- A string decodes to a text exactly if it is the text's encoding. -/
theorem decode?_eq_some_iff {o : Octets} {text : String} :
    decode? o = some text ↔ o = encode text := by
  rw [decode?, Option.map_eq_some_iff, encode, ← pieces_eq_map_char_iff]
  constructor
  · rintro ⟨cs, h, rfl⟩
    rw [String.toList_ofList]
    exact mapM_char?_eq_some_iff.mp h
  · intro h
    exact ⟨text.toList, mapM_char?_eq_some_iff.mpr h, String.ofList_toList⟩

theorem decode?_encode (text : String) : decode? (encode text) = some text :=
  decode?_eq_some_iff.mpr rfl

theorem lossy_encode (text : String) : lossy (encode text) = text := by
  rw [lossy, encode, pieces_eq_map_char_iff.mpr rfl, List.map_map,
    show Piece.shown ∘ Piece.char = id from rfl, List.map_id, String.ofList_toList]

end Tftp.Utf8
