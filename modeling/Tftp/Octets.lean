/-! # Octet strings

Datagrams, payloads and the raw bytes of texts are lists of octets. Two readings of them recur in
the protocol: a 16-bit word is written high octet first (`ofWord`, read back by `word`), and a text
ends at the first NUL (`splitAtNul`). The laws below fix both: `word_ofWord` says that a word reads
back, and `splitAtNul_eq_some_iff` that a string splits in exactly one way. -/

namespace Tftp

/-- A string of octets. -/
abbrev Octets := List UInt8

namespace Octets

/-! ### Words -/

/-- The two octets of a word, high octet first. -/
def ofWord (w : UInt16) : Octets :=
  [UInt8.ofNat (w.toNat / 256), UInt8.ofNat (w.toNat % 256)]

/-- The word whose high and low octets are given. -/
def word (hi lo : UInt8) : UInt16 := UInt16.ofNat (256 * hi.toNat + lo.toNat)

theorem length_ofWord (w : UInt16) : (ofWord w).length = 2 := rfl

theorem toNat_word (hi lo : UInt8) : (word hi lo).toNat = 256 * hi.toNat + lo.toNat := by
  have h := hi.toNat_lt
  have l := lo.toNat_lt
  simp only [word, UInt16.toNat_ofNat']
  omega

theorem word_ofWord (w : UInt16) :
    word (UInt8.ofNat (w.toNat / 256)) (UInt8.ofNat (w.toNat % 256)) = w := by
  have h := w.toNat_lt
  apply UInt16.toNat_inj.mp
  rw [toNat_word, UInt8.toNat_ofNat', UInt8.toNat_ofNat']
  omega

theorem ofWord_word (hi lo : UInt8) : ofWord (word hi lo) = [hi, lo] := by
  have h := hi.toNat_lt
  have l := lo.toNat_lt
  have e₁ : (256 * hi.toNat + lo.toNat) / 256 = hi.toNat := by omega
  have e₂ : (256 * hi.toNat + lo.toNat) % 256 = lo.toNat := by omega
  rw [ofWord, toNat_word, e₁, e₂, UInt8.ofNat_toNat, UInt8.ofNat_toNat]

/-! ### Texts ended by NUL -/

/-- The octets before the first NUL and those after it; `none` if there is no NUL. -/
def splitAtNul : Octets → Option (Octets × Octets)
  | [] => none
  | b :: rest =>
    if b = 0 then some ([], rest)
    else (splitAtNul rest).map fun parts => (b :: parts.1, parts.2)

theorem splitAtNul_eq_some_iff {b text rest : Octets} :
    splitAtNul b = some (text, rest) ↔ b = text ++ 0 :: rest ∧ 0 ∉ text := by
  induction b generalizing text with
  | nil => simp [splitAtNul]
  | cons x b ih =>
    by_cases hx : x = 0
    · cases text with
      | nil => simp [splitAtNul, hx, eq_comm]
      | cons y text =>
        constructor
        · simp [splitAtNul, hx]
        · rintro ⟨h, h0⟩
          have hy : x = y := (List.cons.inj h).1
          exact absurd (by simp [← hy, hx]) h0
    · cases text with
      | nil => simp [splitAtNul, hx]
      | cons y text =>
        simp only [splitAtNul, hx, if_false, Option.map_eq_some_iff, Prod.exists, Prod.mk.injEq,
          List.cons.injEq, List.cons_append, List.mem_cons, not_or]
        constructor
        · rintro ⟨t, r, h, ⟨rfl, rfl⟩, rfl⟩
          exact ⟨⟨rfl, (ih.mp h).1⟩, fun h0 => hx h0.symm, (ih.mp h).2⟩
        · rintro ⟨⟨rfl, h⟩, _, h0⟩
          exact ⟨text, rest, ih.mpr ⟨h, h0⟩, ⟨rfl, rfl⟩, rfl⟩

theorem splitAtNul_eq_none_iff {b : Octets} : splitAtNul b = none ↔ 0 ∉ b := by
  induction b with
  | nil => simp [splitAtNul]
  | cons x b ih =>
    by_cases hx : x = 0
    · simp [splitAtNul, hx]
    · simp [splitAtNul, hx, ih, Ne.symm hx]

end Octets
end Tftp
