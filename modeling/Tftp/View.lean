import Tftp.Octets

/-! # Views of a buffer

A view shows a part of a buffer without copying it. It can be narrowed from the front (`View.after`),
which moves its start and leaves the buffer alone, but only by octets that it shows. -/

namespace Tftp

/-- A part of a buffer. -/
structure View where
  buffer : Octets
  start : Nat
  stop : Nat
  ordered : start ≤ stop
  /-- The part lies inside of the buffer. -/
  inside : stop ≤ buffer.length

namespace View

/-- The view of a whole buffer. -/
def whole (buffer : Octets) : View := ⟨buffer, 0, buffer.length, Nat.zero_le _, Nat.le_refl _⟩

/-- How many octets the view shows. -/
def length (v : View) : Nat := v.stop - v.start

/-- The octets that the view shows. -/
def octets (v : View) : Octets := (v.buffer.take v.stop).drop v.start

/-- The view of what comes after the first `n` octets. -/
def after (v : View) (n : Nat) (h : n ≤ v.length) : View where
  buffer := v.buffer
  start := v.start + n
  stop := v.stop
  ordered := by
    have := v.ordered
    unfold length at h
    omega
  inside := v.inside

@[simp] theorem octets_whole (buffer : Octets) : (whole buffer).octets = buffer :=
  List.take_length

theorem length_octets (v : View) : v.octets.length = v.length := by
  rw [octets, length, List.length_drop, List.length_take, Nat.min_eq_left v.inside]

theorem octets_after (v : View) (n : Nat) (h : n ≤ v.length) :
    (v.after n h).octets = v.octets.drop n := by
  rw [octets, octets, List.drop_drop]
  rfl

end View
end Tftp
