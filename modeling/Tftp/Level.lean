import Tftp.Text.Ascii

/-! # Log levels

Five levels, numbered from the gravest. A level is read from its number or from its name in any
case; nothing around either is trimmed. Whatever depends on how levels are shown and read takes it
from a `Level.Format`. -/

namespace Tftp

/-- How grave an event is. -/
inductive Level where
  | error
  | warn
  | info
  | debug
  | trace
  deriving DecidableEq, Repr, Inhabited

namespace Level

/-- The levels, the gravest first. -/
def all : List Level := [error, warn, info, debug, trace]

/-- The name in capitals. -/
def name : Level → String
  | error => "ERROR"
  | warn => "WARN"
  | info => "INFO"
  | debug => "DEBUG"
  | trace => "TRACE"

/-- The number of a level, counted from 1. -/
def ofNumber? : Nat → Option Level
  | 1 => some error
  | 2 => some warn
  | 3 => some info
  | 4 => some debug
  | 5 => some trace
  | _ => none

/-- The number of one decimal digit; zeros, and a plus sign before all, may stand before it. No
level has a number of more digits. -/
def number? (text : List Char) : Option Nat :=
  let digits := match text with
    | '+' :: rest => rest
    | _ => text
  match digits.dropWhile (· == '0') with
  | [digit] => if Text.isDigit digit then some (Text.addDigit 0 digit) else none
  | _ => none

/-- The level that a text names or numbers. -/
def parse? (text : String) : Option Level :=
  match number? text.toList with
  | some n => ofNumber? n
  | none => all.find? fun level => Text.equalIgnoringCase text level.name

/-! ### Formats of levels -/

/-- How levels are shown and read. -/
structure Format where
  /-- The name that is shown. -/
  name : Level → String
  /-- The level that a text stands for, if there is one. -/
  parse? : String → Option Level

/-- Every level is read from its name, in letters of any case. -/
structure Format.Faithful (f : Format) : Prop where
  parse?_name (l : Level) (text : String) (same : Text.equalIgnoringCase text (f.name l) = true) :
    f.parse? text = some l

/-- Levels as the library shows and reads them. -/
def format : Format := ⟨name, parse?⟩

theorem number?_eq_none {c d : Char} {rest : List Char} (sign : c ≠ '+') (zero : c ≠ '0') :
    number? (c :: d :: rest) = none := by
  have start : (c == '0') = false := beq_false_of_ne zero
  unfold number?
  split
  · next e => exact absurd (List.cons.inj e).1 sign
  · dsimp only
    rw [List.dropWhile_cons, start]
    rfl

theorem format_faithful : format.Faithful where
  parse?_name l text same := by
    rw [Text.equalIgnoringCase_iff] at same
    -- Neither a sign nor a digit begins a name, in small letters or not.
    have number : number? text.toList = none := by
      have begins : ∃ a b more, Text.lower (name l).toList = a :: b :: more ∧ a ≠ '+' ∧ a ≠ '0' := by
        cases l <;> exact ⟨_, _, _, rfl, by decide⟩
      obtain ⟨a, b, more, begins, sign, zero⟩ := begins
      have spelled : text.toList.map Text.lowerChar = a :: b :: more := same.trans begins
      obtain ⟨c, tail, e, first, spelled⟩ := List.map_eq_cons_iff.mp spelled
      obtain ⟨d, rest, rfl, -, -⟩ := List.map_eq_cons_iff.mp spelled
      rw [e]
      apply number?_eq_none <;> rintro rfl
      · exact sign first.symm
      · exact zero first.symm
    change parse? text = some l
    rw [parse?, number]
    simp only [Text.equalIgnoringCase, same]
    cases l <;> decide

end Level
end Tftp
