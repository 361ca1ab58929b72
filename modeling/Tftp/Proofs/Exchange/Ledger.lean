import Mathlib.Data.List.Forall2
import Tftp.Proofs.Block
import Tftp.Proofs.Exchange

/-! # Exchanges in counts

A ledger keeps of an exchange only the counts of blocks: how many are handed out, how many are
stored and settled, and which of them the datagrams on their way carry. Counts have no end, so a
ledger never takes a block for another one; `Ledger.Move` follows the moves of an exchange.

On any wire the counts on their way are within bounds (`Ledger.Sound`). A patient caller on a wire
that keeps the order has more (`Ledger.Alternating`): only the block handed out last and the one
before it can be on their way, the older one in front, and the older one is on its way to the
receiver only if the receiver has not stored the newer one. So the sixteen bits of a number that a
datagram carries are always enough to tell the block (`Ledger.Apart`). -/

namespace Tftp

/-! ### Mishaps -/

namespace Mishap

variable {α β : Type} {ordered : Bool} {l l' : List α}

theorem subset (h : Mishap ordered l l') : l' ⊆ l := by
  cases h with
  | lose before after d => simp
  | double before after d => simp
  | overtake before after d e _ => simp; grind

/-- A wire that keeps the order keeps any order, if equal things may stand together. -/
theorem pairwise {R : α → α → Prop} (refl : ∀ a, R a a) (h : Mishap true l l')
    (sorted : l.Pairwise R) : l'.Pairwise R := by
  cases h with
  | lose before after d =>
    exact sorted.sublist (List.Sublist.append_left (List.sublist_cons_self d after) before)
  | double before after d =>
    rw [List.pairwise_append] at sorted ⊢
    obtain ⟨first, second, across⟩ := sorted
    refine ⟨first, ?_, ?_⟩
    · rw [List.pairwise_cons] at second ⊢
      refine ⟨?_, List.pairwise_cons.mpr second⟩
      intro a ha
      rcases List.mem_cons.mp ha with rfl | ha
      · exact refl a
      · exact second.1 a ha
    · intro a ha b hb
      rcases List.mem_cons.mp hb with rfl | hb
      · exact across a ha b (List.mem_cons_self ..)
      · exact across a ha b hb
  | overtake _ _ _ _ disordered => cases disordered

theorem forall₂ {R : α → β → Prop} {m : List β} (h : Mishap ordered l l')
    (hr : List.Forall₂ R l m) : ∃ m', Mishap ordered m m' ∧ List.Forall₂ R l' m' := by
  have split : ∀ {a b : List α} {m : List β}, List.Forall₂ R (a ++ b) m →
      ∃ m₁ m₂, m = m₁ ++ m₂ ∧ List.Forall₂ R a m₁ ∧ List.Forall₂ R b m₂ := by
    intro a b m hr
    have first := (List.forall₂_take_append _ _ _ hr.flip).flip
    have second := (List.forall₂_drop_append _ _ _ hr.flip).flip
    exact ⟨m.take a.length, m.drop a.length, (List.take_append_drop ..).symm, first, second⟩
  cases h with
  | lose before after d =>
    obtain ⟨m₁, _, rfl, h₁, hd⟩ := split hr
    obtain ⟨e, m₂, -, h₂, rfl⟩ := List.forall₂_cons_left_iff.mp hd
    exact ⟨_, .lose m₁ m₂ e, List.rel_append h₁ h₂⟩
  | double before after d =>
    obtain ⟨m₁, _, rfl, h₁, hd⟩ := split hr
    obtain ⟨e, m₂, he, h₂, rfl⟩ := List.forall₂_cons_left_iff.mp hd
    exact ⟨_, .double m₁ m₂ e, List.rel_append h₁ (.cons he (.cons he h₂))⟩
  | overtake before after d d' disordered =>
    obtain ⟨m₁, _, rfl, h₁, hd⟩ := split hr
    obtain ⟨e, _, he, hd', rfl⟩ := List.forall₂_cons_left_iff.mp hd
    obtain ⟨e', m₂, he', h₂, rfl⟩ := List.forall₂_cons_left_iff.mp hd'
    exact ⟨_, .overtake m₁ m₂ e e' disordered, List.rel_append h₁ (.cons he' (.cons he h₂))⟩

end Mishap

/-! ### Ledgers -/

/-- An exchange in counts of blocks. -/
structure Ledger where
  /-- How many blocks the sender has handed out. -/
  sent : Nat := 0
  /-- How many blocks the receiver has settled. -/
  stored : Nat := 0
  /-- The blocks on their way to the receiver. -/
  data : List Nat := []
  /-- The blocks whose acknowledgments are on their way to the sender. -/
  acks : List Nat := []
  /-- The caller knows the last block to be acknowledged, or there is none yet. -/
  cleared : Bool := true

namespace Ledger

/-- What an exchange does, in counts. -/
inductive Move (g : Regime) (a : Ledger) : Ledger → Prop
  | idle : Move g a a
  | send (may : g.patient = true → a.cleared = true) :
      Move g a { a with sent := a.sent + 1, data := a.data ++ [a.sent + 1], cleared := false }
  | resend (some : 0 < a.sent) : Move g a { a with data := a.data ++ [a.sent] }
  | refuse (n : Nat) (rest : List Nat) (h : a.data = n :: rest) : Move g a { a with data := rest }
  | settle (n : Nat) (rest : List Nat) (h : a.data = n :: rest)
      (next : n = a.stored ∨ n = a.stored + 1) :
      Move g a { a with stored := n, data := rest, acks := a.acks ++ [n] }
  | stale (n : Nat) (rest : List Nat) (h : a.acks = n :: rest) : Move g a { a with acks := rest }
  | confirm (rest : List Nat) (h : a.acks = a.sent :: rest) :
      Move g a { a with acks := rest, cleared := true }
  | data (data : List Nat) (h : Mishap g.ordered a.data data) : Move g a { a with data }
  | acks (acks : List Nat) (h : Mishap g.ordered a.acks acks) : Move g a { a with acks }

variable {g : Regime} {a b : Ledger}

/-! ### Bounds -/

/-- Nothing is stored before it is sent, and nothing is acknowledged before it is stored. -/
structure Sound (a : Ledger) : Prop where
  stored_le : a.stored ≤ a.sent
  data : ∀ n ∈ a.data, 0 < n ∧ n ≤ a.sent
  acks : ∀ n ∈ a.acks, 0 < n ∧ n ≤ a.stored

theorem sound_start : Sound {} := ⟨Nat.le_refl _, by simp, by simp⟩

theorem Sound.move (h : a.Sound) (m : Move g a b) : b.Sound := by
  obtain ⟨le, data, acks⟩ := h
  cases m with
  | idle => exact ⟨le, data, acks⟩
  | send may =>
    refine ⟨Nat.le_succ_of_le le, ?_, acks⟩
    intro n hn
    rcases List.mem_append.mp hn with old | new
    · exact ⟨(data n old).1, Nat.le_succ_of_le (data n old).2⟩
    · rw [List.mem_singleton.mp new]
      exact ⟨Nat.succ_pos _, Nat.le_refl _⟩
  | resend some =>
    refine ⟨le, ?_, acks⟩
    intro n hn
    rcases List.mem_append.mp hn with old | new
    · exact data n old
    · rw [List.mem_singleton.mp new]
      exact ⟨some, Nat.le_refl _⟩
  | refuse n rest h =>
    rw [h] at data
    exact ⟨le, (List.forall_mem_cons.mp data).2, acks⟩
  | settle n rest h next =>
    rw [h] at data
    obtain ⟨hn, others⟩ := List.forall_mem_cons.mp data
    refine ⟨hn.2, others, ?_⟩
    intro i hi
    show 0 < i ∧ i ≤ n
    rcases List.mem_append.mp hi with old | new
    · have := acks i old
      omega
    · rw [List.mem_singleton.mp new]
      exact ⟨hn.1, Nat.le_refl _⟩
  | stale n rest h | confirm rest h =>
    rw [h] at acks
    exact ⟨le, data, (List.forall_mem_cons.mp acks).2⟩
  | data l h => exact ⟨le, fun i hi => data i (h.subset hi), acks⟩
  | acks l h => exact ⟨le, data, fun i hi => acks i (h.subset hi)⟩

/-! ### Patience and order -/

/-- The counts do not fall, and begin at `low` or above. -/
def Rising (low : Nat) (l : List Nat) : Prop := (low :: l).Pairwise (· ≤ ·)

namespace Rising

variable {low n : Nat} {l l' : List Nat}

theorem nil : Rising low [] := List.pairwise_singleton _ _

theorem le (h : Rising low l) (hn : n ∈ l) : low ≤ n := List.rel_of_pairwise_cons h hn

theorem front (h : Rising low (n :: l)) : Rising n l := (List.pairwise_cons.mp h).2

theorem rest (h : Rising low (n :: l)) : Rising low l :=
  List.Pairwise.sublist ((List.sublist_cons_self n l).cons_cons low) h

theorem concat (h : Rising low l) (bottom : low ≤ n) (top : ∀ i ∈ l, i ≤ n) :
    Rising low (l ++ [n]) := by
  unfold Rising
  rw [← List.cons_append, List.pairwise_append]
  refine ⟨h, List.pairwise_singleton _ _, ?_⟩
  intro i hi j hj
  rw [List.mem_singleton.mp hj]
  rcases List.mem_cons.mp hi with rfl | hi
  · exact bottom
  · exact top i hi

/-- A wire that keeps the order keeps counts rising. -/
theorem mishap (h : Rising low l) (m : Mishap true l l') : Rising low l' := by
  obtain ⟨bottom, sorted⟩ := List.pairwise_cons.mp h
  refine List.pairwise_cons.mpr ⟨?_, m.pairwise Nat.le_refl sorted⟩
  intro n hn
  exact bottom n (m.subset hn)

end Rising

/-- Only the block handed out last and the one before it are on their way, in this order. -/
structure Alternating (a : Ledger) : Prop where
  near : a.sent ≤ a.stored + 1
  data : Rising a.stored a.data
  acks : Rising (a.sent - 1) a.acks
  /-- A block known to be acknowledged is stored, and no older acknowledgment follows. -/
  cleared : a.cleared = true → a.stored = a.sent ∧ Rising a.sent a.acks

theorem alternating_start : Alternating {} := ⟨Nat.zero_le _, .nil, .nil, fun _ => ⟨rfl, .nil⟩⟩

theorem Alternating.move (h : a.Alternating) (s : a.Sound) (m : Move .stopAndWait a b) :
    b.Alternating := by
  obtain ⟨near, data, acks, cleared⟩ := h
  have top := s.stored_le
  cases m with
  | idle => exact ⟨near, data, acks, cleared⟩
  | send may =>
    -- The caller has seen the acknowledgment of the last block, so all older ones are gone.
    obtain ⟨level, newer⟩ := cleared (may rfl)
    refine ⟨?_, ?_, newer, fun h => by cases h⟩
    · show a.sent + 1 ≤ a.stored + 1
      omega
    · apply data.concat
      · omega
      · intro i hi
        exact Nat.le_succ_of_le (s.data i hi).2
  | resend some =>
    refine ⟨near, ?_, acks, cleared⟩
    apply data.concat top
    intro i hi
    exact (s.data i hi).2
  | refuse n rest h =>
    rw [h] at data
    exact ⟨near, data.rest, acks, cleared⟩
  | settle n rest h next =>
    rw [h] at data
    have hn := s.data n (h ▸ List.mem_cons_self ..)
    have older : ∀ i ∈ a.acks, i ≤ n := by
      intro i hi
      have := (s.acks i hi).2
      omega
    refine ⟨?_, data.front, ?_, ?_⟩
    · show a.sent ≤ n + 1
      omega
    · apply acks.concat _ older
      omega
    · intro hc
      obtain ⟨level, newer⟩ := cleared hc
      refine ⟨?_, newer.concat ?_ older⟩
      · show n = a.sent
        omega
      · omega
  | stale n rest h =>
    rw [h] at acks cleared
    exact ⟨near, data, acks.rest, fun hc => ⟨(cleared hc).1, (cleared hc).2.rest⟩⟩
  | confirm rest h =>
    -- The acknowledgment shows that the block is stored, and no older one is behind it.
    have level := (s.acks a.sent (h ▸ List.mem_cons_self ..)).2
    rw [h] at acks
    exact ⟨near, data, acks.rest, fun _ => ⟨Nat.le_antisymm top level, acks.front⟩⟩
  | data l h => exact ⟨near, data.mishap h, acks, cleared⟩
  | acks l h =>
    exact ⟨near, data, acks.mishap h, fun hc => ⟨(cleared hc).1, (cleared hc).2.mishap h⟩⟩

/-! ### Numbers tell the blocks -/

/-- The number of a block on its way is not mistaken for that of another block that matters to the
end where it arrives. -/
structure Apart (a : Ledger) : Prop where
  again : ∀ n ∈ a.data, blockNumber n = blockNumber a.stored → n = a.stored
  next : ∀ n ∈ a.data, blockNumber n = blockNumber (a.stored + 1) → n = a.stored + 1
  current : ∀ n ∈ a.acks, blockNumber n = blockNumber a.sent → n = a.sent

/-- As long as the counter has not gone round, every number tells its block. -/
theorem Sound.apart (h : a.Sound) (few : a.sent ≤ 65535) : a.Apart := by
  have le := h.stored_le
  constructor
  · intro n hn same
    have bounds := h.data n hn
    apply blockNumber_inj _ _ same <;> omega
  · intro n hn same
    have bounds := h.data n hn
    apply blockNumber_inj _ _ same <;> omega
  · intro n hn same
    have bounds := h.acks n hn
    apply blockNumber_inj _ _ same <;> omega

/-- With patience and order, however often the counter has gone round, every number tells its
block. -/
theorem Alternating.apart (h : a.Alternating) (s : a.Sound) : a.Apart := by
  have near := h.near
  have le := s.stored_le
  constructor
  · intro n hn same
    have new := h.data.le hn
    have old := (s.data n hn).2
    apply blockNumber_inj _ _ same <;> omega
  · intro n hn same
    have new := h.data.le hn
    have old := (s.data n hn).2
    apply blockNumber_inj _ _ same <;> omega
  · intro n hn same
    have new := h.acks.le hn
    have old := (s.acks n hn).2
    apply blockNumber_inj _ _ same <;> omega

end Ledger
end Tftp
