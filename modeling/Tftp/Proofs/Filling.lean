import Tftp.Source

/-! # Filling a block terminates and is economical

A `Provider` is a source of any kind, a script or not: it may never come to an end, and its answers
may depend on all that was wanted before. Two things are asked of it: no read gives more than was
wanted, and reads are not interrupted forever.

`Provider.fill` fills a block from such a source and keeps the reads that it makes. It terminates by
a lexicographic measure: a read that delivers leaves less to read, and one that is interrupted
leaves as much, but that happens only so often in a row (`Provider.wellFounded_progress`). The reads
are as few as they can be and never go beyond the block (`Provider.Economical`). On scripts this is
the filling of senders (`Source.fill_eq_provider`). -/

namespace Tftp

/-! ### Sources of any kind -/

/-- A source of any kind: what a read gives depends on the state of the source and on how much is
wanted. -/
structure Provider where
  State : Type
  read : State → Nat → Except IoFault Octets × State
  /-- No read gives more than was wanted. -/
  length_le : ∀ {s want o s'}, read s want = (.ok o, s') → o.length ≤ want
  /-- Reads of one size are interrupted only finitely often in a row. -/
  patience : ∀ want, 0 < want →
    WellFounded fun s' s => ∃ e : IoFault, e.isInterrupted = true ∧ read s want = (.error e, s')

/-- A read that was made: how much was wanted, and what came of it. -/
structure Query where
  want : Nat
  answer : Except IoFault Octets

namespace Query

/-- The octets that the read delivered. -/
def content (q : Query) : Octets := q.answer.toOption.getD []

/-- The fault that the read met. -/
def fault? (q : Query) : Option IoFault :=
  match q.answer with
  | .ok _ => none
  | .error e => some e

/-- The read was interrupted. -/
def isInterrupted (q : Query) : Bool :=
  match q.answer with
  | .ok _ => false
  | .error e => e.isInterrupted

/-- The read found the end, or met a fault other than an interruption. -/
def isLast (q : Query) : Bool :=
  match q.answer with
  | .ok o => o.isEmpty
  | .error e => !e.isInterrupted

theorem isInterrupted_or_content {q : Query} (more : q.isLast = false) :
    q.isInterrupted = true ∨ 0 < q.content.length := by
  obtain ⟨want, answer⟩ := q
  cases answer with
  | error e => exact .inl (by simpa [isLast, isInterrupted] using more)
  | ok o => exact .inr (by simpa [isLast, content, Except.toOption, List.length_pos_iff] using more)

theorem content_of_isLast {q : Query} (last : q.isLast = true) : q.content = [] := by
  obtain ⟨want, answer⟩ := q
  cases answer with
  | error e => rfl
  | ok o => exact List.isEmpty_iff.mp last

/-- The octets that some reads delivered, in order. -/
def joined (queries : List Query) : Octets := queries.flatMap content

theorem joined_cons (q : Query) (queries : List Query) :
    joined (q :: queries) = q.content ++ joined queries := rfl

end Query

namespace Provider

variable {p : Provider}

/-- The state after some reads. -/
def after (p : Provider) (s : p.State) (queries : List Query) : p.State :=
  queries.foldl (fun s q => (p.read s q.want).2) s

section

variable {s s' : p.State} {q : Query} (read : p.read s q.want = (q.answer, s'))
include read

theorem after_cons (queries : List Query) : p.after s (q :: queries) = p.after s' queries := by
  rw [after, List.foldl_cons, read]
  rfl

end

/-! ### Filling -/

/-- How far a filling is: how much is wanted, and the state of the source. -/
structure Progress (p : Provider) where
  want : Nat
  state : p.State

/-- Less is wanted than before, or as much, after a read that was interrupted. -/
def Progress.Next (b a : p.Progress) : Prop :=
  b.want < a.want ∨
    b.want = a.want ∧ 0 < a.want ∧
      ∃ e : IoFault, e.isInterrupted = true ∧ p.read a.state a.want = (.error e, b.state)

theorem wellFounded_progress (p : Provider) : WellFounded (Progress.Next (p := p)) := by
  refine ⟨fun ⟨want, s⟩ => ?_⟩
  -- First by what is wanted, and for the same want by the interruptions that are left.
  induction want using Nat.strongRecOn generalizing s with
  | ind want shorter =>
    rcases Nat.eq_zero_or_pos want with rfl | pos
    · refine ⟨_, fun b next => ?_⟩
      rcases next with less | ⟨-, pos, -⟩
      · exact absurd less (Nat.not_lt_zero _)
      · exact absurd pos (Nat.lt_irrefl 0)
    · induction s using (p.patience want pos).induction with
      | _ s again =>
        refine ⟨_, fun ⟨want', s'⟩ next => ?_⟩
        rcases next with less | ⟨same, -, interrupted⟩
        · exact shorter want' less s'
        · obtain rfl : want' = want := same
          exact again s' interrupted

instance : WellFoundedRelation p.Progress := ⟨Progress.Next, p.wellFounded_progress⟩

/-- What comes of filling a block, with the reads that were made. -/
structure Filling (p : Provider) where
  fault : Option IoFault
  held : Octets
  state : p.State
  queries : List Query

/-- The same after one more read at first. -/
def Filling.after (f : p.Filling) (q : Query) : p.Filling := { f with queries := q :: f.queries }

/-- Reads until a block is held, the end is found or a fault comes; an interrupted read is made
again. Each read asks for what is still missing of the block. -/
def fill (p : Provider) (s : p.State) (held : Octets) : p.Filling :=
  if blockSize ≤ held.length then ⟨none, held, s, []⟩
  else
    match _h : p.read s (blockSize - held.length) with
    | (.ok [], s') => ⟨none, held, s', [⟨blockSize - held.length, .ok []⟩]⟩
    | (.ok (b :: o), s') =>
      (p.fill s' (held ++ (b :: o))).after ⟨blockSize - held.length, .ok (b :: o)⟩
    | (.error e, s') =>
      if e.isInterrupted then (p.fill s' held).after ⟨blockSize - held.length, .error e⟩
      else ⟨some e, held, s', [⟨blockSize - held.length, .error e⟩]⟩
termination_by Progress.mk (blockSize - held.length) s
decreasing_by
  · left
    simp only [List.length_append, List.length_cons]
    omega
  · exact .inr ⟨rfl, by simp only []; omega, e, by assumption, _h⟩

/-! ### Economy -/

/-- What is asked of filling a block from `held` on, from the state `s`. -/
structure Economical (p : Provider) (s : p.State) (held : Octets) (f : p.Filling) : Prop where
  /-- Each read wants exactly what is missing of the block at that time, which is something. It is
  answered by the source in the state that the reads before it left, and no read follows one that
  found the end or a fault. -/
  query : ∀ before q after, f.queries = before ++ q :: after →
    q.answer = (p.read (p.after s before) q.want).1 ∧ 0 < q.want ∧
      (held ++ Query.joined before).length + q.want = blockSize ∧ (q.isLast = true → after = [])
  /-- All that was delivered is held, and nothing else is. -/
  held_eq : f.held = held ++ Query.joined f.queries
  /-- Nothing is taken that belongs to the next block. -/
  room : f.held.length ≤ blockSize
  state_eq : f.state = p.after s f.queries
  /-- The reads stop because the block is full, or for what the last of them met. -/
  stop : f.held.length = blockSize ∧ f.fault = none ∨
    ∃ before q, f.queries = before ++ [q] ∧ q.isLast = true ∧ f.fault = q.fault?
  /-- There are at most one read more than interruptions and octets that were missing. -/
  few : f.queries.length ≤
    f.queries.countP Query.isInterrupted + (blockSize - held.length) + 1

namespace Economical

variable {s s' : p.State} {held : Octets} {answer : Except IoFault Octets}

theorem full (enough : held.length = blockSize) : p.Economical s held ⟨none, held, s, []⟩ where
  query before q after e := by simp at e
  held_eq := (List.append_nil held).symm
  room := Nat.le_of_eq enough
  state_eq := rfl
  stop := .inl ⟨enough, rfl⟩
  few := Nat.zero_le _

theorem last {q : Query} (read : p.read s q.want = (q.answer, s')) (stops : q.isLast = true)
    (missing : 0 < q.want) (want : held.length + q.want = blockSize) :
    p.Economical s held ⟨q.fault?, held, s', [q]⟩ where
  query before q' after e := by
    obtain ⟨rfl, rfl, rfl⟩ : before = [] ∧ q' = q ∧ after = [] := by
      rcases before with - | ⟨c, before⟩ <;> simp_all
    exact ⟨(congrArg Prod.fst read).symm, missing, by simpa [Query.joined] using want, fun _ => rfl⟩
  held_eq := by simp [Query.joined, Query.content_of_isLast stops]
  room := want ▸ Nat.le_add_right ..
  state_eq := (congrArg Prod.snd read).symm
  stop := .inr ⟨[], q, rfl, stops, rfl⟩
  few := by simp

/-- A read that is not the last comes before those that follow it. -/
theorem step {q : Query} (read : p.read s q.want = (q.answer, s')) (more : q.isLast = false)
    (missing : 0 < q.want) (want : held.length + q.want = blockSize) {f : p.Filling}
    (rest : p.Economical s' (held ++ q.content) f) : p.Economical s held (f.after q) where
  query before q' after e := by
    rcases before with - | ⟨first, before⟩
    · obtain ⟨rfl, -⟩ := List.cons.inj e
      refine ⟨(congrArg Prod.fst read).symm, missing, by simpa [Query.joined] using want, ?_⟩
      rw [more]
      exact nofun
    · obtain ⟨rfl, e'⟩ := List.cons.inj e
      rw [after_cons read, Query.joined_cons, ← List.append_assoc]
      exact rest.query before q' after e'
  held_eq := rest.held_eq.trans (List.append_assoc ..)
  room := rest.room
  state_eq := rest.state_eq.trans (after_cons read f.queries).symm
  stop := by
    rcases rest.stop with full | ⟨before, last, e, stops, fault⟩
    · exact .inl full
    · exact .inr ⟨q :: before, last, congrArg (q :: ·) e, stops, fault⟩
  few := by
    have few := rest.few
    rw [List.length_append] at few
    rw [Filling.after, List.length_cons, List.countP_cons]
    -- An interruption is counted, and octets are no longer missing.
    rcases Query.isInterrupted_or_content more with interrupted | delivers
    · rw [if_pos interrupted]
      omega
    · omega

end Economical

theorem economical_fill (p : Provider) (s : p.State) {held : Octets}
    (room : held.length ≤ blockSize) : p.Economical s held (p.fill s held) := by
  fun_induction fill p s held with
  | case1 s held enough => exact .full (Nat.le_antisymm room enough)
  | case2 s held short s' read =>
    exact .last (q := ⟨_, .ok []⟩) read rfl (Nat.sub_pos_of_lt (Nat.lt_of_not_le short))
      (Nat.add_sub_cancel' room)
  | case3 s held short b o s' read ih =>
    have fits := p.length_le read
    have rest := ih (by rw [List.length_append]; omega)
    exact .step (q := ⟨_, .ok (b :: o)⟩) read rfl (Nat.sub_pos_of_lt (Nat.lt_of_not_le short))
      (Nat.add_sub_cancel' room) rest
  | case4 s held short e s' read interrupted ih =>
    have more : Query.isLast ⟨blockSize - held.length, .error e⟩ = false := by
      simp [Query.isLast, interrupted]
    have nothing : Query.content ⟨blockSize - held.length, .error e⟩ = [] := rfl
    refine .step (q := ⟨_, .error e⟩) read more (Nat.sub_pos_of_lt (Nat.lt_of_not_le short))
      (Nat.add_sub_cancel' room) ?_
    rw [nothing, List.append_nil]
    exact ih room
  | case5 s held short e s' read fault =>
    have stops : Query.isLast ⟨blockSize - held.length, .error e⟩ = true := by
      simp [Query.isLast, fault]
    exact .last (q := ⟨_, .error e⟩) read stops (Nat.sub_pos_of_lt (Nat.lt_of_not_le short))
      (Nat.add_sub_cancel' room)

end Provider

/-! ### Scripts -/

namespace Source

/-- A script as a source of any kind. It shrinks with each interruption. -/
abbrev provider : Provider where
  State := Source
  read := read
  length_le h := Supply.length_of_read_ok (congrArg Prod.fst h)
  patience want pos := by
    refine Subrelation.wf ?_ (measure weight).wf
    rintro s' s ⟨e, -, h⟩
    have less := read_lt s want pos (by rw [h]; exact nofun)
    rwa [h] at less

/-- Senders fill their blocks from scripts in the same way. -/
theorem fill_eq_provider (s : Source) (held : Octets) :
    fill s held =
      ⟨(provider.fill s held).fault, (provider.fill s held).held, (provider.fill s held).state⟩ := by
  fun_induction fill s held with
  | case1 s held enough => rw [Provider.fill, if_pos enough]
  | case2 s held short s' h =>
    have h : provider.read s (blockSize - held.length) = (.ok [], s') := h
    rw [Provider.fill, if_neg short, h]
  | case3 s held short b o s' h ih =>
    have h : provider.read s (blockSize - held.length) = (.ok (b :: o), s') := h
    rw [Provider.fill, if_neg short, h]
    exact ih
  | case4 s held short e s' h interrupted ih =>
    have h : provider.read s (blockSize - held.length) = (.error e, s') := h
    rw [Provider.fill, if_neg short, h]
    simp only [if_pos interrupted]
    exact ih
  | case5 s held short e s' h fault =>
    have h : provider.read s (blockSize - held.length) = (.error e, s') := h
    rw [Provider.fill, if_neg short, h]
    simp only [if_neg fault]

theorem reads_after (s : Source) (queries : List Query) :
    (provider.after s queries).reads = s.reads + queries.length := by
  induction queries generalizing s with
  | nil => rfl
  | cons q queries ih =>
    have first : (s.read q.want).2.reads = s.reads + 1 := rfl
    calc (provider.after s (q :: queries)).reads
      _ = (provider.after (s.read q.want).2 queries).reads := rfl
      _ = (s.read q.want).2.reads + queries.length := ih _
      _ = s.reads + (q :: queries).length := by rw [first, List.length_cons]; omega

/-- **Filling a block terminates and is economical.** Whatever source a block is filled from, with
whatever part of the block, the filling is economical; senders fill their blocks from scripts in this
way and make these reads. -/
theorem fill_economical (held : Octets) (room : held.length ≤ blockSize) :
    (∀ (p : Provider) (s : p.State), p.Economical s held (p.fill s held)) ∧
    ∀ s : Source,
      s.fill held =
        ⟨(provider.fill s held).fault, (provider.fill s held).held, (provider.fill s held).state⟩ ∧
      (s.fill held).source.reads = s.reads + (provider.fill s held).queries.length := by
  refine ⟨fun p s => p.economical_fill s room, fun s => ⟨s.fill_eq_provider held, ?_⟩⟩
  rw [fill_eq_provider, (provider.economical_fill s room).state_eq]
  exact s.reads_after _

/-- A source without an end that is interrupted before every read that delivers, and then delivers a
hundred octets at most. -/
def endless : Provider where
  State := Bool
  read
    | true, _ => (.error (.ofKind .interrupted), false)
    | false, want => (.ok (List.replicate (min want 100) 7), true)
  length_le {s want o s'} h := by
    cases s with
    | true => cases h
    | false =>
      obtain ⟨rfl, -⟩ := h
      rw [List.length_replicate]
      exact Nat.min_le_left ..
  patience want pos := by
    refine Subrelation.wf ?_ (measure Bool.toNat).wf
    rintro s' s ⟨e, -, h⟩
    cases s with
    | true =>
      obtain rfl : false = s' := congrArg Prod.snd h
      exact Nat.zero_lt_one
    | false => cases h

/-- From an endless source the block gets full, and no more is read. -/
theorem fill_economical_endless :
    (endless.fill true [1, 2, 3]).held.length = 512 ∧
    (endless.fill true [1, 2, 3]).queries.length ≤
      (endless.fill true [1, 2, 3]).queries.countP Query.isInterrupted + 510 := by
  obtain ⟨query, -, -, -, stop, few⟩ := (fill_economical [1, 2, 3] (by decide)).1 endless true
  refine ⟨?_, few⟩
  rcases stop with ⟨full, -⟩ | ⟨before, q, e, last, -⟩
  · exact full
  · obtain ⟨answer, wanted, -⟩ := query before q [] e
    have goesOn : ∀ state, Query.isLast ⟨q.want, (endless.read state q.want).1⟩ = false := by
      rintro (_ | _)
      · have some : min q.want 100 ≠ 0 := by omega
        simpa [Query.isLast, endless] using some
      · rfl
    have := goesOn (endless.after true before)
    rw [← answer, last] at this
    cases this

end Source
end Tftp
