/-! # Classes of characters given by ranges

A property of characters is stored as the list of its maximal ranges of code points, in ascending
order, both ends included. -/

namespace Tftp.Text

/-- Ranges of code points, both ends included. -/
abbrev Ranges := List (Nat × Nat)

/-- The character lies in one of the ranges. -/
def Ranges.contains (table : Ranges) (c : Char) : Bool :=
  table.any fun range => decide (range.1 ≤ c.toNat ∧ c.toNat ≤ range.2)

theorem Ranges.contains_iff (table : Ranges) (c : Char) :
    table.contains c = true ↔ ∃ range ∈ table, range.1 ≤ c.toNat ∧ c.toNat ≤ range.2 := by
  simp [Ranges.contains]

end Tftp.Text
