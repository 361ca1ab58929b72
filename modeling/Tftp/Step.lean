import Tftp.Event

/-! # Steps

An operation of a codec or a session is a step: it answers or fails, leaves a new state, adds to
the counters and reports events. The state is there in both cases, because a failure can leave its
mark on a session. -/

namespace Tftp

/-- What one operation on a state of type `σ` comes to. -/
structure Step (σ α : Type) where
  /-- The answer, or why there is none. -/
  result : Except Fault α
  /-- The state afterwards. -/
  state : σ
  /-- What the operation adds to the counters. -/
  counts : Counters := 0
  /-- What the operation reports, in order. -/
  events : List Event := []

namespace Step

/-- A step that answers and does nothing else. -/
def answer {σ α : Type} (state : σ) (value : α) : Step σ α := ⟨.ok value, state, 0, []⟩

/-- A step that fails and does nothing else. -/
def refuse {σ α : Type} (state : σ) (fault : Fault) : Step σ α := ⟨.error fault, state, 0, []⟩

/-- The same step seen as one on a larger state. -/
def within {σ τ α : Type} (s : Step σ α) (embed : σ → τ) : Step τ α :=
  ⟨s.result, embed s.state, s.counts, s.events⟩

/-- Goes on with `next` if the step answers; counts and events add up. -/
def andThen {σ α β : Type} (s : Step σ α) (next : σ → α → Step σ β) : Step σ β :=
  match s.result with
  | .error fault => ⟨.error fault, s.state, s.counts, s.events⟩
  | .ok value =>
    let t := next s.state value
    ⟨t.result, t.state, s.counts + t.counts, s.events ++ t.events⟩

/-- Turns a failure into an answer, so that what follows can look at it. -/
def attempt {σ α : Type} (s : Step σ α) : Step σ (Except Fault α) :=
  ⟨.ok s.result, s.state, s.counts, s.events⟩

/-- What is true of the state after a step and after all that may follow is true in the end. -/
theorem state_andThen {σ α β : Type} (P : σ → Prop) {s : Step σ α} {next : σ → α → Step σ β}
    (first : P s.state) (later : ∀ a, s.result = .ok a → P (next s.state a).state) :
    P (s.andThen next).state := by
  unfold andThen
  split
  next => exact first
  next a h => exact later a h

end Step

/-! ### Runs -/

/-- Why a run of steps came to its end. -/
inductive RunEnd where
  /-- As many steps were made as were asked for. -/
  | count
  /-- There was nothing more to do. -/
  | done
  | fault (f : Fault)

/-- What a run of steps comes to. -/
structure Run (σ : Type) where
  /-- How many steps answered with something. -/
  made : Nat
  ended : RunEnd
  state : σ
  counts : Counters

namespace Run

/-- Goes on with a run, at most `count` steps further. -/
def extend {σ α : Type} (step : σ → Step σ (Option α)) : (count : Nat) → Run σ → Run σ
  | 0, run => run
  | count + 1, run =>
    let s := step run.state
    let counts := run.counts + s.counts
    match s.result with
    | .ok (some _) => extend step count ⟨run.made + 1, run.ended, s.state, counts⟩
    | .ok none => ⟨run.made, .done, s.state, counts⟩
    | .error fault => ⟨run.made, .fault fault, s.state, counts⟩

/-- Makes a step again and again, at most `count` times, until it fails or has nothing to do. -/
def upTo {σ α : Type} (step : σ → Step σ (Option α)) (count : Nat) (state : σ) : Run σ :=
  extend step count ⟨0, .count, state, 0⟩

end Run
end Tftp
