import Mathlib.Data.List.Basic
import Mathlib.Data.List.TakeWhile
import Tftp.Toml.Scalar

/-! # Numerals read back

A number is written with its decimal digits. The reader of words tries everything else first: truth
values, points in time, numbers with a fraction. None of them consists of digits alone, because each
needs a mark among them (`skipChar_of_digits`), so the digits are read as the number that they stand
for (`ofWord?_toDigits`). -/

namespace Tftp.Toml

/-! ### Digits -/

theorem ne_of_isDigit {c mark : Char} (digit : Text.isDigit c = true)
    (notDigit : Text.isDigit mark = false) : c ≠ mark := by
  rintro rfl
  rw [digit] at notDigit
  cases notDigit

theorem isDigit_toDigits {n : Nat} {c : Char} (h : c ∈ Nat.toDigits 10 n) :
    Text.isDigit c = true := by
  have := Nat.isDigit_of_mem_toDigits (by decide) (by decide) h
  rw [Text.isDigit_iff]
  simpa [Char.isDigit, UInt32.le_iff_toNat_le] using this

theorem exists_head_toDigits {n : Nat} (h : 0 < n) :
    ∃ c digits, Nat.toDigits 10 n = c :: digits ∧ c ≠ '0' := by
  induction n using Nat.strongRecOn with
  | ind n ih =>
    rw [Nat.toDigits_eq_if (by decide)]
    split
    · next small =>
      have table : ∀ m < 10, 0 < m → m.digitChar ≠ '0' := by decide
      exact ⟨_, _, rfl, table n small h⟩
    · obtain ⟨c, digits, e, first⟩ := ih (n / 10) (by omega) (by omega)
      rw [e]
      exact ⟨c, _, rfl, first⟩

/-! ### What digits are not -/

section

variable {word : List Char} (digits : ∀ c ∈ word, Text.isDigit c = true)
include digits

theorem skipChar_of_digits {mark : Char} (notDigit : Text.isDigit mark = false) :
    skipChar mark word = none := by
  rcases word with - | ⟨c, word⟩
  · rfl
  · rw [skipChar, if_neg (ne_of_isDigit (digits c (List.mem_cons_self ..)) notDigit)]

theorem skipDate_of_digits : skipDate word = none := by
  have year : skipChar '-' (word.drop 4) = none :=
    skipChar_of_digits (fun c mem => digits c (List.mem_of_mem_drop mem)) rfl
  simp only [skipDate, year]
  split <;> rfl

theorem skipTime_of_digits : skipTime word = none := by
  rw [skipTime]
  cases h : readTwo 0 23 word with
  | none => rfl
  | some read =>
    obtain ⟨hour, rest⟩ := read
    have suffix : rest <:+ word := by
      unfold readTwo at h
      split at h
      · next a b rest' =>
        dsimp only at h
        split at h
        · cases h
          exact ⟨[a, b], rfl⟩
        · cases h
      · cases h
    have colon : skipChar ':' rest = none :=
      skipChar_of_digits (fun c mem => digits c (suffix.mem mem)) rfl
    simp [colon]

theorem isMoment_of_digits : isMoment word = false := by
  rw [isMoment, skipDate_of_digits digits, skipTime_of_digits digits]
  rfl

theorem splitSign_of_digits : splitSign word = (false, word) := by
  rcases word with - | ⟨c, word⟩
  · rfl
  · have digit := digits c (List.mem_cons_self ..)
    unfold splitSign
    split
    · next h => cases h; cases digit
    · next h => cases h; cases digit
    · rfl

theorem isFloat_of_digits : isFloat word = false := by
  have whole : (word.takeWhile fun c => decide (c ≠ '.' ∧ c ≠ 'e' ∧ c ≠ 'E')) = word := by
    rw [List.takeWhile_eq_self_iff]
    intro c mem
    have mark (d : Char) (notDigit : Text.isDigit d = false) : c ≠ d :=
      ne_of_isDigit (digits c mem) notDigit
    rw [decide_eq_true_iff]
    exact ⟨mark '.' rfl, mark 'e' rfl, mark 'E' rfl⟩
  have named : ¬(word = ['i', 'n', 'f'] ∨ word = ['n', 'a', 'n']) := by
    rintro (rfl | rfl)
    · exact absurd (digits 'i' (by simp)) (by decide)
    · exact absurd (digits 'n' (by simp)) (by decide)
  -- Nothing follows the whole digits, neither a fraction nor an exponent.
  simp only [isFloat, splitSign_of_digits digits, if_neg named, whole, List.drop_length]
  split <;> rfl

/-! ### What digits are -/

theorem digits?_of_digits (some : word ≠ []) : digits? Text.isDigit word = .some word := by
  induction word with
  | nil => exact absurd rfl some
  | cons c word ih =>
    rw [List.forall_mem_cons] at digits
    rcases word with - | ⟨d, word⟩
    · rw [digits?, if_pos digits.1]
    · have : d ≠ '_' := ne_of_isDigit (digits.2 d (List.mem_cons_self ..)) rfl
      rw [digits?, if_pos digits.1, ih digits.2 (List.cons_ne_nil _ _)]
      · rfl
      · exact this

theorem ofBase_of_digits : ofBase 10 word = Nat.ofDigitChars 10 word 0 := by
  have value : ∀ c ∈ word, (Text.hexValue? c).getD 0 = c.toNat - '0'.toNat := by
    intro c mem
    have digit := digits c mem
    rw [Text.isDigit, decide_eq_true_iff] at digit
    rw [Text.hexValue?, if_pos digit, Option.getD_some]
  rw [ofBase, Nat.ofDigitChars_eq_foldl]
  exact List.foldl_ext _ _ 0 fun n c mem => by rw [value c mem]

end

theorem integer?_toDigits {n : Nat} (h : n < 0x8000000000000000) :
    integer? (Nat.toDigits 10 n) = some (n : Int) := by
  rcases Nat.eq_zero_or_pos n with rfl | positive
  · decide
  obtain ⟨c, tail, word, first⟩ := exists_head_toDigits positive
  have digits : ∀ c ∈ Nat.toDigits 10 n, Text.isDigit c = true := fun c => isDigit_toDigits
  have size : (Nat.toDigits 10 n).length ≤ 64 := by
    rw [Nat.length_toDigits_le_iff (by decide) (by decide)]
    exact Nat.lt_trans h (by decide)
  have value : ofBase 10 (Nat.toDigits 10 n) = n := by
    rw [ofBase_of_digits digits, Nat.ofDigitChars_toDigits (by decide) (by decide)]
  have significant : (Nat.toDigits 10 n).dropWhile (· == '0') = Nat.toDigits 10 n := by
    rw [word, List.dropWhile_cons, if_neg (by simpa using first)]
  have whole : wholeDigits? (Nat.toDigits 10 n) = some (Nat.toDigits 10 n) := by
    rw [← digits?_of_digits digits Nat.toDigits_ne_nil, word]
    unfold wholeDigits?
    split
    · next e => cases e; exact absurd rfl first
    · next e => cases e; exact absurd rfl first
    · rfl
  have range : inRange? false 10 (Nat.toDigits 10 n) = some (n : Int) := by
    simp only [inRange?, significant, value, Bool.false_eq_true, if_false]
    rw [if_neg (by omega), if_pos (by omega)]
  -- The other bases begin with a zero, which these digits do not.
  unfold integer?
  split
  · next e => rw [word] at e; cases e; exact absurd rfl first
  · next e => rw [word] at e; cases e; exact absurd rfl first
  · next e => rw [word] at e; cases e; exact absurd rfl first
  · rw [splitSign_of_digits digits]
    simp [whole, range]

/-- The digits of a number are the word of this number. -/
theorem ofWord?_toDigits {n : Nat} (h : n < 0x8000000000000000) :
    ofWord? (Nat.toDigits 10 n) = some (.integer n) := by
  have digits : ∀ c ∈ Nat.toDigits 10 n, Text.isDigit c = true := fun c => isDigit_toDigits
  have notTrue : Nat.toDigits 10 n ≠ "true".toList := by
    intro e
    rw [e] at digits
    exact absurd (digits 't' (by decide)) (by decide)
  have notFalse : Nat.toDigits 10 n ≠ "false".toList := by
    intro e
    rw [e] at digits
    exact absurd (digits 'f' (by decide)) (by decide)
  rw [ofWord?, if_neg notTrue, if_neg notFalse, isMoment_of_digits digits, isFloat_of_digits digits,
    integer?_toDigits h]
  rfl

end Tftp.Toml
