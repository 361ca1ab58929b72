import Tftp.Text.Ascii
import Tftp.Toml.Characters
import Tftp.Toml.Value

/-! # Numbers, truth values and points in time

What is not quoted and not bracketed is a word, which ends where a blank, a line break, a comma, a
closing bracket or a comment begins. A word is a truth value, a number or a point in time, or it is
nothing. A date and a time may also be parted by one space. -/

namespace Tftp.Toml

/-- A character of a word. -/
def isWordChar (c : Char) : Bool :=
  !(isBlank c || c == '\n' || c == '\r' || c == ',' || c == ']' || c == '\x7d' || c == '#')

/-! ### Digits -/

/-- The digits of a number, in which single underscores may stand between two digits. -/
def digits? (isDigit : Char → Bool) : List Char → Option (List Char)
  | [] => none
  | [c] => if isDigit c then some [c] else none
  | c :: '_' :: rest => if isDigit c then (digits? isDigit rest).map (c :: ·) else none
  | c :: d :: rest => if isDigit c then (digits? isDigit (d :: rest)).map (c :: ·) else none

/-- A sign and what follows it; no sign counts as plus. -/
def splitSign : List Char → Bool × List Char
  | '-' :: rest => (true, rest)
  | '+' :: rest => (false, rest)
  | text => (false, text)

/-- The digits of a whole number without leading zeros. -/
def wholeDigits? (text : List Char) : Option (List Char) :=
  match text with
  | ['0'] => some ['0']
  | '0' :: _ => none
  | _ => digits? Text.isDigit text

/-! ### Integers -/

/-- The number with the given digits in a base. -/
def ofBase (base : Nat) (digits : List Char) : Nat :=
  digits.foldl (fun n c => base * n + (Text.hexValue? c).getD 0) 0

/-- A character is a digit of the given base. -/
def isDigitOf (base : Nat) (c : Char) : Bool :=
  match Text.hexValue? c with
  | some n => decide (n < base)
  | none => false

/-- The number with the given sign and digits, if it can be held in 64 bits with a sign. That is
never so if it has more than 64 digits after leading zeros, in whatever base. -/
def inRange? (negative : Bool) (base : Nat) (digits : List Char) : Option Int :=
  let significant := digits.dropWhile (· == '0')
  if 64 < significant.length then none
  else
    let size := ofBase base significant
    let n : Int := if negative then -(size : Int) else size
    if -0x8000000000000000 ≤ n ∧ n < 0x8000000000000000 then some n else none

/-- The integer that a word stands for. -/
def integer? (word : List Char) : Option Int :=
  match word with
  | '0' :: 'x' :: rest => do inRange? false 16 (← digits? (isDigitOf 16) rest)
  | '0' :: 'o' :: rest => do inRange? false 8 (← digits? (isDigitOf 8) rest)
  | '0' :: 'b' :: rest => do inRange? false 2 (← digits? (isDigitOf 2) rest)
  | _ => do
    let (negative, rest) := splitSign word
    inRange? negative 10 (← wholeDigits? rest)

/-! ### Numbers with a fraction -/

/-- Half a step above the greatest number of double precision: from here on a number is rounded to
infinity. It is a whole number of 309 decimal digits. -/
def doubleLimit : Nat := (Nat.pow 2 54 - 1) * Nat.pow 2 970

/-- The number of decimal digits of the limit. -/
def doubleLimitLength : Nat := 309

/-- The decimal number with the given digits, times a power of ten, is rounded to infinity. What
has not as many whole digits as the limit is settled by their number; otherwise the whole digits
tell, since the limit is whole. -/
def isInfinite (digits : List Char) (exponent : Int) : Bool :=
  let significant := digits.dropWhile (· == '0')
  let wholeLength := significant.length + exponent
  if significant.isEmpty || decide (wholeLength < doubleLimitLength) then false
  else if decide (doubleLimitLength < wholeLength) then true
  else
    let padding := List.replicate (doubleLimitLength - significant.length) '0'
    decide (doubleLimit ≤ Text.ofDigits (significant.take doubleLimitLength ++ padding))

/-- The size at which an exponent stops growing. Whatever its sign, an exponent of that size settles
a number of ordinary length. -/
def exponentBound : Nat := 65536

/-- The size of the exponent with the given digits. The digits that follow once it has reached the
bound do not count. -/
def exponentSize (digits : List Char) : Nat :=
  digits.foldl (fun n c => if n < exponentBound then Text.addDigit n c else n) 0

/-- The exponent that stands at the end of a word; zero if there is none. -/
def exponent? : List Char → Option Int
  | [] => some 0
  | e :: rest =>
    if e = 'e' ∨ e = 'E' then do
      let (negative, rest) := splitSign rest
      let n := exponentSize (← digits? Text.isDigit rest)
      return if negative then -(n : Int) else n
    else none

/-- The digits of the fraction that begins a text, and what follows them. -/
def fraction? : List Char → Option (List Char × List Char)
  | '.' :: rest => do
    let inside := rest.takeWhile fun c => c ≠ 'e' ∧ c ≠ 'E'
    return (← digits? Text.isDigit inside, rest.drop inside.length)
  | text => some ([], text)

/-- The word is a number with a fraction, an exponent or both, and not rounded to infinity; or it
is a named number. -/
def isFloat (word : List Char) : Bool :=
  let (negative, rest) := splitSign word
  if rest = ['i', 'n', 'f'] ∨ rest = ['n', 'a', 'n'] then true
  else
    let whole := rest.takeWhile fun c => c ≠ '.' ∧ c ≠ 'e' ∧ c ≠ 'E'
    let after := rest.drop whole.length
    let parts? := do
      let digits ← wholeDigits? whole
      let (fraction, rest) ← fraction? after
      return (digits, fraction, ← exponent? rest)
    match parts? with
    | none => false
    | some (digits, fraction, exponent) =>
      !after.isEmpty &&
        (negative ||
          !isInfinite (digits ++ fraction) (exponent - fraction.length))

/-! ### Points in time -/

/-- Reads a number of two digits between two bounds. -/
def readTwo (least greatest : Nat) : Reader Nat
  | a :: b :: rest =>
    let n := Text.ofDigits [a, b]
    if Text.isDigit a && Text.isDigit b && decide (least ≤ n) && decide (n ≤ greatest) then
      some (n, rest)
    else none
  | _ => none

/-- Reads one given character. -/
def skipChar (c : Char) : List Char → Option (List Char)
  | a :: rest => if a = c then some rest else none
  | [] => none

/-- The number of days of a month. -/
def daysIn (year month : Nat) : Nat :=
  if month = 2 then
    if year % 4 = 0 ∧ (year % 100 ≠ 0 ∨ year % 400 = 0) then 29 else 28
  else if month = 4 ∨ month = 6 ∨ month = 9 ∨ month = 11 then 30
  else 31

/-- What follows a date. -/
def skipDate (text : List Char) : Option (List Char) := do
  let year := text.take 4
  if year.length ≠ 4 || !year.all Text.isDigit then none
  let rest ← skipChar '-' (text.drop 4)
  let (month, rest) ← readTwo 1 12 rest
  let rest ← skipChar '-' rest
  let (_, rest) ← readTwo 1 (daysIn (Text.ofDigits year) month) rest
  return rest

/-- What follows the fraction of a second, which may be absent. -/
def skipFraction : List Char → Option (List Char)
  | '.' :: c :: rest => if Text.isDigit c then some (rest.dropWhile Text.isDigit) else none
  | '.' :: [] => none
  | text => some text

/-- What follows a time of day. A minute may have a sixty-first second. -/
def skipTime (text : List Char) : Option (List Char) := do
  let (_, rest) ← readTwo 0 23 text
  let rest ← skipChar ':' rest
  let (_, rest) ← readTwo 0 59 rest
  let rest ← skipChar ':' rest
  let (_, rest) ← readTwo 0 60 rest
  skipFraction rest

/-- What follows the offset of a time, which may be absent. -/
def skipOffset : List Char → Option (List Char)
  | [] => some []
  | c :: rest =>
    if c = 'Z' ∨ c = 'z' then some rest
    else if c = '+' ∨ c = '-' then do
      let (_, rest) ← readTwo 0 23 rest
      let rest ← skipChar ':' rest
      let (_, rest) ← readTwo 0 59 rest
      return rest
    else none

/-- The text is a time of day, with an offset or without. -/
def isOffsetTime (text : List Char) : Bool := ((skipTime text).bind skipOffset) == some []

/-- The text is a date, a date with a time, or a time without an offset. -/
def isMoment (text : List Char) : Bool :=
  match skipDate text with
  | some [] => true
  | some (c :: time) => (c == 'T' || c == 't' || c == ' ') && isOffsetTime time
  | none => skipTime text == some []

/-! ### Words -/

/-- The value that a word stands for. -/
def ofWord? (word : List Char) : Option Value :=
  if word = "true".toList then some (.boolean true)
  else if word = "false".toList then some (.boolean false)
  else if isMoment word then some (.moment (String.ofList word))
  else if isFloat word then some (.float (String.ofList word))
  else (integer? word).map .integer

/-- Reads a word. After a date a space and a digit begin the time that belongs to it. -/
def readWord : Reader Value := fun text =>
  let word := text.takeWhile isWordChar
  let rest := text.drop word.length
  match skipDate word, rest with
  | some [], ' ' :: d :: more =>
    if Text.isDigit d then
      let time := (d :: more).takeWhile isWordChar
      (ofWord? (word ++ ' ' :: time)).map fun v => (v, (d :: more).drop time.length)
    else (ofWord? word).map fun v => (v, rest)
  | _, _ => (ofWord? word).map fun v => (v, rest)

end Tftp.Toml
