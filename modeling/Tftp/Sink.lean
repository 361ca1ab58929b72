import Tftp.IoFault
import Tftp.Octets

/-! # Sinks

A sink answers writes and flushes from two scripts, and keeps what it has accepted. As with
sources, any behaviour that a writer can see in finitely many calls is some pair of scripts; after
its script every call succeeds.

`Sink.writeAll` writes until nothing remains: the rest is written again after a short write, the
same octets after an interruption, and a sink that takes nothing counts as failed. -/

namespace Tftp

/-- The answer of a sink to one write. -/
inductive WriteReply where
  /-- Accepts at most so many octets. -/
  | accept (limit : Nat)
  /-- Accepts all octets. -/
  | acceptAll
  /-- Accepts none and fails. -/
  | fault (e : IoFault)
  deriving Repr

/-- The answer of a sink to one flush. -/
inductive FlushReply where
  | done
  | fault (e : IoFault)
  deriving Repr

/-- A sink: what is left of its scripts, what it has accepted, and how often it was called. -/
structure Sink where
  writeScript : List WriteReply := []
  flushScript : List FlushReply := []
  /-- The octets accepted by each write, in order. -/
  chunks : Array Octets := #[]
  writes : Nat := 0
  flushes : Nat := 0
  deriving Repr

namespace Sink

/-- The octets accepted so far. -/
def stored (s : Sink) : Octets := s.chunks.toList.flatten

/-- The number of octets accepted so far. -/
def size (s : Sink) : Nat := s.chunks.foldl (fun n chunk => n + chunk.length) 0

/-- Folds over the octets accepted so far, without joining them first. -/
def fold {α : Type} (s : Sink) (f : α → UInt8 → α) (a : α) : α :=
  s.chunks.foldl (fun a chunk => chunk.foldl f a) a

theorem fold_eq {α : Type} (s : Sink) (f : α → UInt8 → α) (a : α) :
    s.fold f a = s.stored.foldl f a := by
  rw [fold, stored, List.foldl_flatten, Array.foldl_toList]

/-- One write: how many octets were accepted. -/
def write (s : Sink) (o : Octets) : Except IoFault Nat × Sink :=
  match s.writeScript with
  | [] | .acceptAll :: _ =>
    (.ok o.length, { s with
      writeScript := s.writeScript.tail, chunks := s.chunks.push o, writes := s.writes + 1 })
  | .accept limit :: rest =>
    (.ok (min limit o.length), { s with
      writeScript := rest, chunks := s.chunks.push (o.take limit), writes := s.writes + 1 })
  | .fault e :: rest => (.error e, { s with writeScript := rest, writes := s.writes + 1 })

/-- One flush. -/
def flush (s : Sink) : Except IoFault Unit × Sink :=
  match s.flushScript with
  | [] => (.ok (), { s with flushes := s.flushes + 1 })
  | .done :: rest => (.ok (), { s with flushScript := rest, flushes := s.flushes + 1 })
  | .fault e :: rest => (.error e, { s with flushScript := rest, flushes := s.flushes + 1 })

/-- Each write uses up a step of the script, or, when there is none, accepts everything. -/
theorem write_lt (s : Sink) (o : Octets) :
    (s.write o).2.writeScript.length < s.writeScript.length ∨
      (s.write o).1 = .ok o.length ∧ s.writeScript = [] ∧ (s.write o).2.writeScript = [] := by
  unfold write
  split <;> simp_all

/-- Writes all octets, retrying after short and interrupted writes. -/
def writeAll (s : Sink) (o : Octets) : Except IoFault Unit × Sink :=
  if o.isEmpty then (.ok (), s)
  else
    match _h : s.write o with
    | (.ok 0, s') => (.error .nothingTaken, s')
    | (.ok (n + 1), s') => writeAll s' (o.drop (n + 1))
    | (.error e, s') => if e.isInterrupted then writeAll s' o else (.error e, s')
termination_by s.writeScript.length + o.length
decreasing_by
  · have := List.length_pos_iff.mpr (show o ≠ [] by simp_all)
    have step := write_lt s o
    simp only [_h] at step
    simp only [List.length_drop]
    rcases step with step | ⟨_, old, new⟩
    · omega
    · rw [old, new]
      omega
  · have step := write_lt s o
    simp only [_h, reduceCtorEq, false_and, or_false] at step
    omega

/-! ### What is stored -/

theorem stored_push (s : Sink) (o : Octets) (script : List WriteReply) (n : Nat) :
    stored { s with writeScript := script, chunks := s.chunks.push o, writes := n } =
      s.stored ++ o := by
  simp [stored]

theorem stored_of_write_ok {s s' : Sink} {o : Octets} {n : Nat} (h : s.write o = (.ok n, s')) :
    n ≤ o.length ∧ s'.stored = s.stored ++ o.take n := by
  unfold write at h
  split at h
  · obtain ⟨hn, rfl⟩ := Prod.mk.inj h
    obtain rfl := Except.ok.inj hn
    exact ⟨Nat.le_refl _, by rw [stored_push, List.take_length]⟩
  · obtain ⟨hn, rfl⟩ := Prod.mk.inj h
    obtain rfl := Except.ok.inj hn
    exact ⟨Nat.le_refl _, by rw [stored_push, List.take_length]⟩
  · obtain ⟨hn, rfl⟩ := Prod.mk.inj h
    obtain rfl := Except.ok.inj hn
    refine ⟨Nat.min_le_right _ _, ?_⟩
    rw [stored_push, ← List.take_eq_take_min]
  · exact nomatch (Prod.mk.inj h).1

theorem stored_of_write_error {s s' : Sink} {o : Octets} {e : IoFault}
    (h : s.write o = (.error e, s')) : s'.stored = s.stored := by
  unfold write at h
  split at h
  iterate 3 exact nomatch (Prod.mk.inj h).1
  · obtain ⟨_, rfl⟩ := Prod.mk.inj h
    rfl

theorem stored_flush (s : Sink) : s.flush.2.stored = s.stored := by
  unfold flush
  split <;> rfl

/-- Writing all octets stores them, once and in order. -/
theorem stored_of_writeAll_ok {s s' : Sink} {o : Octets} (h : s.writeAll o = (.ok (), s')) :
    s'.stored = s.stored ++ o := by
  fun_induction writeAll s o with
  | case1 s o ho =>
    obtain ⟨_, rfl⟩ := Prod.mk.inj h
    simp_all
  | case2 => exact nomatch (Prod.mk.inj h).1
  | case3 s o _ n t hw ih =>
    rw [ih h, (stored_of_write_ok hw).2, List.append_assoc, List.take_append_drop]
  | case4 s o _ e t hw _ ih => rw [ih h, stored_of_write_error hw]
  | case5 => exact nomatch (Prod.mk.inj h).1

/-- If writing fails, the sink holds a part of the octets, from the front, and not all. -/
theorem stored_of_writeAll_error {s s' : Sink} {o : Octets} {e : IoFault}
    (h : s.writeAll o = (.error e, s')) :
    ∃ n < o.length, s'.stored = s.stored ++ o.take n := by
  fun_induction writeAll s o with
  | case1 => exact nomatch (Prod.mk.inj h).1
  | case2 s o ho t hw =>
    obtain ⟨_, rfl⟩ := Prod.mk.inj h
    exact ⟨0, List.length_pos_iff.mpr (by simp_all), (stored_of_write_ok hw).2⟩
  | case3 s o _ n t hw ih =>
    obtain ⟨k, hk, hs⟩ := ih h
    obtain ⟨hn, ht⟩ := stored_of_write_ok hw
    rw [List.length_drop] at hk
    refine ⟨n + 1 + k, by omega, ?_⟩
    rw [hs, ht, List.append_assoc, ← List.take_add]
  | case4 s o _ e' t hw _ ih =>
    obtain ⟨k, hk, hs⟩ := ih h
    exact ⟨k, hk, by rw [hs, stored_of_write_error hw]⟩
  | case5 s o ho e' t hw _ =>
    obtain ⟨_, rfl⟩ := Prod.mk.inj h
    exact ⟨0, List.length_pos_iff.mpr (by simp_all), by simp [stored_of_write_error hw]⟩

end Sink
end Tftp
