/-! # Characters of settings documents

The classes of characters that the grammar of TOML distinguishes, and the skipping of blanks, line
breaks and comments. A line break is LF or CR LF; a CR alone is a control character, and control
characters other than the tab stand nowhere in a document. -/

namespace Tftp.Toml

/-- Reads something at the start of a text: what was read, and the rest of the text. -/
abbrev Reader (α : Type) := List Char → Option (α × List Char)

/-- Space or tab. -/
def isBlank (c : Char) : Bool := c == ' ' || c == '\t'

/-- A control character other than the tab. -/
def isControl (c : Char) : Bool := (decide (c.toNat < 0x20) && c != '\t') || c.toNat == 0x7F

/-- A character of a key without quotes. -/
def isBareKey (c : Char) : Bool :=
  decide ('a' ≤ c ∧ c ≤ 'z') || decide ('A' ≤ c ∧ c ≤ 'Z') || decide ('0' ≤ c ∧ c ≤ '9') ||
    c == '-' || c == '_'

/-- The text without the blanks at its start. -/
def skipBlanks (text : List Char) : List Char := text.dropWhile isBlank

/-- The text after the line break at its start. -/
def newline? : List Char → Option (List Char)
  | '\n' :: rest => some rest
  | '\r' :: '\n' :: rest => some rest
  | _ => none

/-- The text without the blanks and line breaks at its start. -/
def skipBreaks : List Char → List Char
  | ' ' :: rest => skipBreaks rest
  | '\t' :: rest => skipBreaks rest
  | '\n' :: rest => skipBreaks rest
  | '\r' :: '\n' :: rest => skipBreaks rest
  | text => text

/-- What follows the end of a line, before which blanks and a comment may stand. The end of the
text ends a line too. -/
def lineEnd? (text : List Char) : Option (List Char) :=
  match skipBlanks text with
  | [] => some []
  | '#' :: comment =>
    match comment.dropWhile fun c => !isControl c with
    | [] => some []
    | rest => newline? rest
  | rest => newline? rest

mutual

/-- The text without the blanks, line breaks and comments at its start; `none` if a comment is not
ended by a line break. -/
def skipTrivia : List Char → Option (List Char)
  | ' ' :: rest => skipTrivia rest
  | '\t' :: rest => skipTrivia rest
  | '\n' :: rest => skipTrivia rest
  | '\r' :: '\n' :: rest => skipTrivia rest
  | '#' :: rest => skipComment rest
  | text => some text

/-- The same inside a comment. -/
def skipComment : List Char → Option (List Char)
  | [] => none
  | '\n' :: rest => skipTrivia rest
  | '\r' :: '\n' :: rest => skipTrivia rest
  | c :: rest => if isControl c then none else skipComment rest

end

/-! ### Lengths -/

theorem length_skipBlanks_le (text : List Char) : (skipBlanks text).length ≤ text.length :=
  (List.dropWhile_sublist _).length_le

theorem length_newline?_lt {text rest : List Char} (h : newline? text = some rest) :
    rest.length < text.length := by
  unfold newline? at h
  split at h
  · obtain rfl := Option.some.inj h
    exact Nat.lt_succ_self _
  · obtain rfl := Option.some.inj h
    rw [List.length_cons, List.length_cons]
    omega
  · cases h

theorem length_skipBreaks_le (text : List Char) : (skipBreaks text).length ≤ text.length := by
  fun_induction skipBreaks text <;> simp_all <;> omega

end Tftp.Toml
