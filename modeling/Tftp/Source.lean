import Tftp.IoFault
import Tftp.Limits
import Tftp.Octets

/-! # Sources

A source answers reads from a script. Any behaviour that a reader can see in finitely many reads is
some script: a short read is a supply that ends early, an end of file or a fault is a step of its
own, and after the script every read finds the end.

* `Source.read` makes one read of at most the wanted number of octets;
* `Source.fill` reads until one block is held, the end is found or a fault other than an
  interruption comes; it makes progress with every read (`read_lt`), so it ends on every script. -/

namespace Tftp

/-- One step of a source's script. -/
inductive Supply where
  /-- These octets, over as many reads as it takes. -/
  | octets (o : Octets)
  /-- So many copies of one octet. -/
  | fill (octet : UInt8) (count : Nat)
  /-- One read that finds the end. -/
  | endOfFile
  /-- One read that fails. -/
  | fault (e : IoFault)
  deriving Repr

namespace Supply

/-- The octets that the step supplies. -/
def content : Supply → Octets
  | octets o => o
  | fill octet count => List.replicate count octet
  | endOfFile | fault _ => []

/-- The number of octets that the step supplies. -/
def size : Supply → Nat
  | octets o => o.length
  | fill _ count => count
  | endOfFile | fault _ => 0

/-- The number of octets that all steps of a script supply. -/
def total : List Supply → Nat
  | [] => 0
  | s :: rest => s.size + total rest

/-- What a script answers to a read of at most `want` octets, and the script that is left. A
supply that is used up is passed over without an answer, and no read goes beyond a supply. -/
def read (want : Nat) : List Supply → Except IoFault Octets × List Supply
  | [] => (.ok [], [])
  | octets [] :: rest => read want rest
  | octets (b :: o) :: rest => (.ok ((b :: o).take want), octets ((b :: o).drop want) :: rest)
  | fill _ 0 :: rest => read want rest
  | fill octet (n + 1) :: rest =>
    (.ok (List.replicate (min want (n + 1)) octet), fill octet (n + 1 - want) :: rest)
  | endOfFile :: rest => (.ok [], rest)
  | fault e :: rest => (.error e, rest)

/-- A read takes octets from the front of what the script holds; one that fails takes none. -/
theorem content_read (want : Nat) (script : List Supply) :
    ((read want script).1.toOption.getD []) ++ (read want script).2.flatMap content =
      script.flatMap content := by
  fun_induction read want script with
  | case1 => rfl
  | case2 rest ih => simpa [content] using ih
  | case3 b o rest =>
    simp [Except.toOption, content, ← List.append_assoc, List.take_append_drop]
  | case4 octet rest ih => simpa [content] using ih
  | case5 octet n rest =>
    have sum : min want (n + 1) + (n + 1 - want) = n + 1 := by omega
    simp [Except.toOption, content, ← List.append_assoc, List.replicate_append_replicate, sum]
  | case6 rest => simp [Except.toOption, content]
  | case7 e rest => simp [Except.toOption, content]

theorem length_of_read_ok {want : Nat} {script : List Supply} {o : Octets}
    (h : (read want script).1 = .ok o) : o.length ≤ want := by
  fun_induction read want script with
  | case2 rest ih => exact ih h
  | case3 b o rest =>
    obtain rfl := Except.ok.inj h
    exact List.length_take_le ..
  | case4 octet rest ih => exact ih h
  | case5 octet n rest =>
    obtain rfl := Except.ok.inj h
    rw [List.length_replicate]
    exact Nat.min_le_left ..
  | case7 e rest => exact nomatch h
  | _ =>
    obtain rfl := Except.ok.inj h
    exact Nat.zero_le _

end Supply

/-- A source: the rest of its script, and how many reads it has answered. -/
structure Source where
  script : List Supply
  reads : Nat := 0
  deriving Repr

namespace Source

/-- The octets that the script still holds, in order. -/
def rest (s : Source) : Octets := s.script.flatMap Supply.content

/-- The number of octets that the script still holds. -/
def remaining (s : Source) : Nat := Supply.total s.script

/-- The work that the script can still give to a reader: its octets and its steps. -/
def weight (s : Source) : Nat := s.remaining + s.script.length

/-- Reads at most `want` octets; an empty answer means the end. -/
def read (s : Source) (want : Nat) : Except IoFault Octets × Source :=
  let answer := Supply.read want s.script
  (answer.1, ⟨answer.2, s.reads + 1⟩)

/-- A read that delivers octets or fails leaves less to read. -/
theorem read_lt (s : Source) (want : Nat) (hw : 0 < want) (h : (s.read want).1 ≠ .ok []) :
    (s.read want).2.weight < s.weight := by
  have key : ∀ script : List Supply, (Supply.read want script).1 ≠ .ok [] →
      Supply.total (Supply.read want script).2 + (Supply.read want script).2.length <
        Supply.total script + script.length := by
    intro script
    fun_induction Supply.read want script with
    | case1 => simp
    | case2 rest ih => intro h; have := ih h; simp [Supply.total, Supply.size]; omega
    | case3 b o rest => intro _; simp [Supply.total, Supply.size]; omega
    | case4 octet rest ih => intro h; have := ih h; simp [Supply.total, Supply.size]; omega
    | case5 octet n rest => intro _; simp [Supply.total, Supply.size]; omega
    | case6 rest => simp [Supply.total, Supply.size]
    | case7 e rest => intro _; simp [Supply.total, Supply.size]
  exact key s.script h

/-! ### Filling a block -/

/-- What comes of filling a block. -/
structure Filling where
  /-- The fault that stopped the reading. -/
  fault : Option IoFault
  /-- The octets held. -/
  held : Octets
  /-- The source afterwards. -/
  source : Source

/-- Reads until a block is held, the end is found or a fault comes; an interrupted read is made
again. Each read asks for what is still missing of the block. -/
def fill (s : Source) (held : Octets) : Filling :=
  if blockSize ≤ held.length then ⟨none, held, s⟩
  else
    match _h : s.read (blockSize - held.length) with
    | (.ok [], s') => ⟨none, held, s'⟩
    | (.ok (b :: o), s') => fill s' (held ++ (b :: o))
    | (.error e, s') => if e.isInterrupted then fill s' held else ⟨some e, held, s'⟩
termination_by s.weight
decreasing_by
  · have := read_lt s (blockSize - held.length) (by omega) (by simp [_h])
    rwa [_h] at this
  · have := read_lt s (blockSize - held.length) (by omega) (by simp [_h])
    rwa [_h] at this

theorem length_held_fill_le (s : Source) (held : Octets) (h : held.length ≤ blockSize) :
    (s.fill held).held.length ≤ blockSize := by
  fun_induction fill s held with
  | case3 s held _ b o s' h' ih =>
    apply ih
    have := Supply.length_of_read_ok (congrArg Prod.fst h')
    rw [List.length_append]
    omega
  | case4 s held _ e s' _ _ ih => exact ih h
  | _ => exact h

end Source
end Tftp
