import Tftp.Source

/-! # The content of a source

A sender reads its source until a read finds the end, and never again. So of a script only what
comes before that read counts: its `content`. Faults and interruptions between the octets leave the
content as it is.

A read takes octets from the front of the content, or fails, or finds that nothing is left
(`delivered_read`, `nothing_left_of_read_nil`). Filling a block holds all of the content when it
stops short without a fault (`held_fill_of_short`), and otherwise leaves the rest of it in the source
(`held_fill_content`).

The reads that fail for good before the end are counted by `failures`. Each of them stops one filling
and none is met twice (`failures_fill`), so a caller that tries again comes to the end. -/

namespace Tftp

namespace Supply

/-- What a script delivers before its first read that finds the end. -/
def delivered : List Supply → Octets
  | [] => []
  | octets o :: rest => o ++ delivered rest
  | fill octet count :: rest => List.replicate count octet ++ delivered rest
  | endOfFile :: _ => []
  | fault _ :: rest => delivered rest

/-- How many reads of a script fail for good before the first one that finds the end. -/
def failures : List Supply → Nat
  | [] => 0
  | octets _ :: rest => failures rest
  | fill _ _ :: rest => failures rest
  | endOfFile :: _ => 0
  | fault e :: rest => failures rest + if e.isInterrupted then 0 else 1

theorem nothing_left_of_read_nil {want : Nat} {script : List Supply} (hw : 0 < want)
    (h : (read want script).1 = .ok []) : delivered script = [] ∧ failures script = 0 := by
  fun_induction read want script with
  | case1 => exact ⟨rfl, rfl⟩
  | case2 rest ih => simpa [delivered, failures] using ih h
  | case3 b o rest =>
    have := Except.ok.inj h
    simp only [List.take_eq_nil_iff, reduceCtorEq, or_false] at this
    omega
  | case4 octet rest ih => simpa [delivered, failures] using ih h
  | case5 octet n rest =>
    have := congrArg List.length (Except.ok.inj h)
    simp only [List.length_replicate, List.length_nil] at this
    omega
  | case6 rest => exact ⟨rfl, rfl⟩
  | case7 e rest => cases h

theorem delivered_read (want : Nat) (script : List Supply) (h : (read want script).1 ≠ .ok []) :
    ((read want script).1.toOption.getD []) ++ delivered (read want script).2 =
      delivered script := by
  fun_induction read want script with
  | case1 => exact absurd rfl h
  | case2 rest ih => simpa [delivered] using ih h
  | case3 b o rest =>
    simp [Except.toOption, delivered, ← List.append_assoc, List.take_append_drop]
  | case4 octet rest ih => simpa [delivered] using ih h
  | case5 octet n rest =>
    have sum : min want (n + 1) + (n + 1 - want) = n + 1 := by omega
    simp [Except.toOption, delivered, ← List.append_assoc, List.replicate_append_replicate, sum]
  | case6 rest => exact absurd rfl h
  | case7 e rest => rfl

theorem failures_of_read_ok {want : Nat} {script : List Supply} {b : UInt8} {o : Octets}
    (h : (read want script).1 = .ok (b :: o)) : failures (read want script).2 = failures script := by
  fun_induction read want script with
  | case1 => rfl
  | case2 rest ih => exact ih h
  | case3 b o rest => rfl
  | case4 octet rest ih => exact ih h
  | case5 octet n rest => rfl
  | case6 rest => cases h
  | case7 e rest => cases h

theorem failures_of_read_error {want : Nat} {script : List Supply} {e : IoFault}
    (h : (read want script).1 = .error e) :
    failures script = failures (read want script).2 + if e.isInterrupted then 0 else 1 := by
  fun_induction read want script with
  | case2 rest ih => exact ih h
  | case4 octet rest ih => exact ih h
  | case7 e' rest =>
    obtain rfl := Except.error.inj h
    rfl
  | _ => cases h

end Supply

namespace Source

/-- What the source delivers before its first read that finds the end. -/
def content (s : Source) : Octets := Supply.delivered s.script

/-- How many reads fail for good before the first one that finds the end. -/
def failures (s : Source) : Nat := Supply.failures s.script

variable {s s' : Source} {held : Octets} {want : Nat}

theorem content_of_read_nil (hw : 0 < want) (h : s.read want = (.ok [], s')) : s.content = [] :=
  (Supply.nothing_left_of_read_nil hw (congrArg Prod.fst h)).1

theorem content_of_read_ok {b : UInt8} {o : Octets} (h : s.read want = (.ok (b :: o), s')) :
    b :: o ++ s'.content = s.content := by
  obtain ⟨h₁, rfl⟩ := Prod.mk.inj h
  have := Supply.delivered_read want s.script (by simp [h₁])
  rwa [h₁] at this

theorem content_of_read_error {e : IoFault} (h : s.read want = (.error e, s')) :
    s'.content = s.content := by
  obtain ⟨h₁, rfl⟩ := Prod.mk.inj h
  have := Supply.delivered_read want s.script (by simp [h₁])
  rwa [h₁] at this

/-- A filling that stopped short without a fault found the end, and holds all that was left. -/
theorem held_fill_of_short (nofault : (s.fill held).fault = none)
    (short : (s.fill held).held.length < blockSize) : (s.fill held).held = held ++ s.content := by
  fun_induction fill s held with
  | case1 s held full => exact absurd full (Nat.not_le_of_lt short)
  | case2 s held room s' h =>
    rw [content_of_read_nil (by omega) h, List.append_nil]
  | case3 s held room b o s' h ih =>
    rw [ih nofault short, List.append_assoc, content_of_read_ok h]
  | case4 s held room e s' h _ ih => rw [ih nofault short, content_of_read_error h]
  | case5 => cases nofault

/-- A filling that holds a block, or stopped for a fault, leaves in the source all that it does not
hold. -/
theorem held_fill_content
    (h : (s.fill held).fault ≠ none ∨ blockSize ≤ (s.fill held).held.length) :
    (s.fill held).held ++ (s.fill held).source.content = held ++ s.content := by
  fun_induction fill s held with
  | case1 => rfl
  | case2 s held room s' hr =>
    rcases h with nofault | full
    · exact absurd rfl nofault
    · exact absurd full room
  | case3 s held room b o s' hr ih => rw [ih h, List.append_assoc, content_of_read_ok hr]
  | case4 s held room e s' hr _ ih => rw [ih h, content_of_read_error hr]
  | case5 s held room e s' hr _ => rw [content_of_read_error hr]

/-! ### Failures -/

theorem failures_of_read_nil (hw : 0 < want) (h : s.read want = (.ok [], s')) : s.failures = 0 :=
  (Supply.nothing_left_of_read_nil hw (congrArg Prod.fst h)).2

theorem failures_of_read_ok {b : UInt8} {o : Octets} (h : s.read want = (.ok (b :: o), s')) :
    s'.failures = s.failures := by
  obtain ⟨h₁, rfl⟩ := Prod.mk.inj h
  exact Supply.failures_of_read_ok h₁

theorem failures_of_read_error {e : IoFault} (h : s.read want = (.error e, s')) :
    s.failures = s'.failures + if e.isInterrupted then 0 else 1 := by
  obtain ⟨h₁, rfl⟩ := Prod.mk.inj h
  exact Supply.failures_of_read_error h₁

/-- A filling that stops for a fault has met one failure; one that holds a block has met none. -/
theorem failures_fill (h : (s.fill held).fault ≠ none ∨ blockSize ≤ (s.fill held).held.length) :
    s.failures = (s.fill held).source.failures +
      if (s.fill held).fault.isSome then 1 else 0 := by
  fun_induction fill s held with
  | case1 => rfl
  | case2 s held room s' hr =>
    rcases h with nofault | full
    · exact absurd rfl nofault
    · exact absurd full room
  | case3 s held room b o s' hr ih => rw [← failures_of_read_ok hr, ih h]
  | case4 s held room e s' hr interrupted ih =>
    rw [failures_of_read_error hr, if_pos interrupted, Nat.add_zero, ih h]
  | case5 s held room e s' hr lasting => rw [failures_of_read_error hr, if_neg lasting]; rfl

theorem failures_of_short (nofault : (s.fill held).fault = none)
    (short : (s.fill held).held.length < blockSize) : s.failures = 0 := by
  fun_induction fill s held with
  | case1 s held full => exact absurd full (Nat.not_le_of_lt short)
  | case2 s held room s' h => exact failures_of_read_nil (by omega) h
  | case3 s held room b o s' h ih => rw [← failures_of_read_ok h, ih nofault short]
  | case4 s held room e s' h interrupted ih =>
    rw [failures_of_read_error h, if_pos interrupted, ih nofault short]
  | case5 => cases nofault

end Source
end Tftp
