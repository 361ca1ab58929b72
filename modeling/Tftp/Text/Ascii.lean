/-! # ASCII letters

Modes, log levels and flags are compared without regard to the case of the letters A to Z; every
other character stands for itself alone. -/

namespace Tftp.Text

/-- The small letter of an ASCII capital; any other character unchanged. -/
def lowerChar (c : Char) : Char :=
  if 'A' ≤ c ∧ c ≤ 'Z' then Char.ofNat (c.toNat + 32) else c

/-- A text with its ASCII capitals made small. -/
def lower (text : List Char) : List Char := text.map lowerChar

theorem lowerChar_of_toNat {c : Char} (h : c.toNat < 65 ∨ 90 < c.toNat) : lowerChar c = c := by
  have small : ¬('A' ≤ c ∧ c ≤ 'Z') := by
    rw [Char.le_def, Char.le_def, UInt32.le_iff_toNat_le, UInt32.le_iff_toNat_le]
    change ¬(65 ≤ c.toNat ∧ c.toNat ≤ 90)
    omega
  rw [lowerChar, if_neg small]

theorem lowerChar_lowerChar (c : Char) : lowerChar (lowerChar c) = lowerChar c := by
  by_cases capital : 65 ≤ c.toNat ∧ c.toNat ≤ 90
  · have table : ∀ n ∈ List.range' 65 26,
        lowerChar (lowerChar (Char.ofNat n)) = lowerChar (Char.ofNat n) := by decide
    have := table c.toNat (by rw [List.mem_range'_1]; omega)
    rwa [Char.ofNat_toNat] at this
  · have same : lowerChar c = c := lowerChar_of_toNat (by omega)
    rw [same, same]

theorem lower_lower (text : List Char) : lower (lower text) = lower text := by
  rw [lower, lower, List.map_map]
  exact List.map_congr_left fun c _ => lowerChar_lowerChar c

/-- The two texts differ at most in the case of ASCII letters. -/
def equalIgnoringCase (a b : String) : Bool := lower a.toList == lower b.toList

theorem equalIgnoringCase_iff (a b : String) :
    equalIgnoringCase a b = true ↔ lower a.toList = lower b.toList := by
  simp [equalIgnoringCase]

/-- A decimal digit. -/
def isDigit (c : Char) : Bool := decide ('0' ≤ c ∧ c ≤ '9')

theorem isDigit_iff (c : Char) : isDigit c = true ↔ 48 ≤ c.toNat ∧ c.toNat ≤ 57 := by
  rw [isDigit, decide_eq_true_iff, Char.le_def, Char.le_def, UInt32.le_iff_toNat_le,
    UInt32.le_iff_toNat_le]
  exact Iff.rfl

/-- The number whose decimal digits are those of `n` and one more. -/
def addDigit (n : Nat) (c : Char) : Nat := 10 * n + (c.toNat - '0'.toNat)

/-- The number that a run of decimal digits stands for; zero if it is empty. -/
def ofDigits (digits : List Char) : Nat := digits.foldl addDigit 0

/-- The value of a hexadecimal digit. -/
def hexValue? (c : Char) : Option Nat :=
  if '0' ≤ c ∧ c ≤ '9' then some (c.toNat - '0'.toNat)
  else if 'a' ≤ c ∧ c ≤ 'f' then some (c.toNat - 'a'.toNat + 10)
  else if 'A' ≤ c ∧ c ≤ 'F' then some (c.toNat - 'A'.toNat + 10)
  else none

end Tftp.Text
