import Tftp.Text.Ascii
import Tftp.Toml.Characters

/-! # String literals

A text has up to four spellings: basic, between double quotes and with escapes, or literal, between
single quotes and without; each on one line, or between triple quotes over many. `readString` reads
all of them. `writeString` chooses the plainest spelling that holds the text: escapes are used only
where no spelling does without them. -/

namespace Tftp.Toml

/-! ### Reading -/

/-- The character that stands at a code point, unless it is none. -/
def charAt? (code : Nat) : Option Char := if code.isValidChar then some (Char.ofNat code) else none

/-- Reads the character whose code point is given by exactly `count` hexadecimal digits. -/
def readCode (count : Nat) : Reader Char := fun text =>
  if (text.take count).length = count then do
    let digits ← (text.take count).mapM Text.hexValue?
    let c ← charAt? (digits.foldl (fun n d => 16 * n + d) 0)
    return (c, text.drop count)
  else none

/-- Reads what follows the backslash of an escape. -/
def readEscape : Reader Char
  | 'b' :: rest => some ('\x08', rest)
  | 't' :: rest => some ('\t', rest)
  | 'n' :: rest => some ('\n', rest)
  | 'f' :: rest => some ('\x0c', rest)
  | 'r' :: rest => some ('\r', rest)
  | '"' :: rest => some ('"', rest)
  | '\\' :: rest => some ('\\', rest)
  | 'u' :: rest => readCode 4 rest
  | 'U' :: rest => readCode 8 rest
  | _ => none

theorem length_readCode_le {count : Nat} {text rest : List Char} {c : Char}
    (h : readCode count text = some (c, rest)) : rest.length ≤ text.length := by
  unfold readCode at h
  split at h
  · simp only [Option.bind_eq_bind, Option.bind_eq_some_iff, Option.pure_def, Option.some.injEq,
      Prod.mk.injEq] at h
    obtain ⟨_, _, _, _, _, rfl⟩ := h
    simp
  · cases h

theorem length_readEscape_lt {text rest : List Char} {c : Char}
    (h : readEscape text = some (c, rest)) : rest.length < text.length := by
  unfold readEscape at h
  split at h
  case h_8 => have := length_readCode_le h; simp only [List.length_cons]; omega
  case h_9 => have := length_readCode_le h; simp only [List.length_cons]; omega
  all_goals simp_all

/-- Puts a character in front of the text that was read. -/
def putFirst (c : Char) (read : List Char × List Char) : List Char × List Char :=
  (c :: read.1, read.2)

/-- Reads a basic string on one line, after its opening quote. -/
def readBasic (text : List Char) : Option (List Char × List Char) :=
  match text with
  | [] => none
  | '"' :: rest => some ([], rest)
  | '\\' :: escape =>
    match _h : readEscape escape with
    | none => none
    | some (c, rest) => (readBasic rest).map (putFirst c)
  | c :: rest => if isControl c then none else (readBasic rest).map (putFirst c)
termination_by text.length
decreasing_by
  · have := length_readEscape_lt _h
    simp only [List.length_cons]
    omega
  · simp

/-- Reads a literal string on one line, after its opening quote. -/
def readLiteral : List Char → Option (List Char × List Char)
  | [] => none
  | '\'' :: rest => some ([], rest)
  | c :: rest => if isControl c then none else (readLiteral rest).map (putFirst c)

/-- Reads what follows three closing quotes: up to two more belong to the text. -/
def readLastQuotes (quote : Char) (text : List Char) : List Char × List Char :=
  let quotes := (text.take 2).takeWhile (· == quote)
  (quotes, text.drop quotes.length)

/-- What follows a line continuation, after its backslash: the end of the line, and all blanks and
line breaks up to the next character of the text. -/
def continuation? (text : List Char) : Option (List Char) :=
  (newline? (skipBlanks text)).map skipBreaks

theorem length_continuation?_lt {text rest : List Char} (h : continuation? text = some rest) :
    rest.length < text.length := by
  obtain ⟨after, h₁, rfl⟩ := Option.map_eq_some_iff.mp h
  have := length_newline?_lt h₁
  have := length_skipBlanks_le text
  have := length_skipBreaks_le after
  omega

/-- Reads a basic string over many lines, after its opening quotes. -/
def readBasicLines (text : List Char) : Option (List Char × List Char) :=
  match text with
  | [] => none
  | '"' :: '"' :: '"' :: rest => some (readLastQuotes '"' rest)
  | '\r' :: '\n' :: rest => (readBasicLines rest).map (putFirst '\n')
  | '\n' :: rest => (readBasicLines rest).map (putFirst '\n')
  | '\\' :: escape =>
    match _h : continuation? escape with
    | some rest => readBasicLines rest
    | none =>
      match _h' : readEscape escape with
      | none => none
      | some (c, rest) => (readBasicLines rest).map (putFirst c)
  | c :: rest => if isControl c then none else (readBasicLines rest).map (putFirst c)
termination_by text.length
decreasing_by
  · simp only [List.length_cons]; omega
  · simp
  · have := length_continuation?_lt _h
    simp only [List.length_cons]
    omega
  · have := length_readEscape_lt _h'
    simp only [List.length_cons]
    omega
  · simp

/-- Reads a literal string over many lines, after its opening quotes. -/
def readLiteralLines : List Char → Option (List Char × List Char)
  | [] => none
  | '\'' :: '\'' :: '\'' :: rest => some (readLastQuotes '\'' rest)
  | '\r' :: '\n' :: rest => (readLiteralLines rest).map (putFirst '\n')
  | '\n' :: rest => (readLiteralLines rest).map (putFirst '\n')
  | c :: rest => if isControl c then none else (readLiteralLines rest).map (putFirst c)

/-- The text without a line break at its start. -/
def dropNewline (text : List Char) : List Char := (newline? text).getD text

/-- Reads a string in any spelling. -/
def readString : List Char → Option (List Char × List Char)
  | '"' :: '"' :: '"' :: rest => readBasicLines (dropNewline rest)
  | '"' :: rest => readBasic rest
  | '\'' :: '\'' :: '\'' :: rest => readLiteralLines (dropNewline rest)
  | '\'' :: rest => readLiteral rest
  | _ => none

/-! ### Writing -/

/-- The upper-case hexadecimal digits of a code point below 65536, four of them. -/
def fourDigits (code : Nat) : List Char :=
  [code / 4096 % 16, code / 256 % 16, code / 16 % 16, code % 16].map fun d =>
    if d < 10 then Char.ofNat (d + '0'.toNat) else Char.ofNat (d - 10 + 'A'.toNat)

/-- A character of a basic string that is neither a quote nor a line break kept as such. -/
def writeBasicChar (c : Char) : List Char :=
  match c with
  | '\x08' => ['\\', 'b']
  | '\t' => ['\\', 't']
  | '\n' => ['\\', 'n']
  | '\x0c' => ['\\', 'f']
  | '\r' => ['\\', 'r']
  | '\\' => ['\\', '\\']
  | _ => if isControl c then '\\' :: 'u' :: fourDigits c.toNat else [c]

/-- The inside of a basic string on one line. -/
def writeBasic (text : List Char) : List Char :=
  text.flatMap fun c => if c = '"' then ['\\', '"'] else writeBasicChar c

/-- The inside of a basic string over many lines; `quotes` of them stand directly before it. Line
breaks stay, and of a run of quotes every third is escaped. -/
def writeBasicLines (quotes : Nat) : List Char → List Char
  | [] => []
  | '"' :: rest =>
    if quotes < 2 then '"' :: writeBasicLines (quotes + 1) rest
    else '\\' :: '"' :: writeBasicLines 0 rest
  | '\n' :: rest => '\n' :: writeBasicLines 0 rest
  | c :: rest => writeBasicChar c ++ writeBasicLines 0 rest

/-- The length of the longest run of a character in a text, after a run of `current`. -/
def longestRun (q : Char) (current : Nat) : List Char → Nat
  | [] => current
  | c :: rest =>
    if c = q then longestRun q (current + 1) rest else max current (longestRun q 0 rest)

/-- How a text is spelled. -/
inductive Spelling where
  | basic
  | literal
  | basicLines
  | literalLines
  deriving DecidableEq, Repr

/-- The plainest spelling of a text. -/
def Spelling.of (text : List Char) : Spelling :=
  let control := text.any fun c => isControl c && c != '\n'
  let newline := text.contains '\n'
  let backslash := text.contains '\\'
  if !control && !backslash && !text.contains '"' && !newline then .basic
  else if !control && !text.contains '\'' && !newline then .literal
  else if !control && !backslash && decide (longestRun '"' 0 text ≤ 2) then .basicLines
  else if !control && decide (longestRun '\'' 0 text ≤ 2) then .literalLines
  else if newline then .basicLines
  else .basic

/-- The line break after the opening quotes of a text of several lines; it is not part of the
text. -/
def openingBreak (text : List Char) : List Char := if text.contains '\n' then ['\n'] else []

/-- A text as a string literal. -/
def writeString (text : List Char) : List Char :=
  match Spelling.of text with
  | .basic => '"' :: writeBasic text ++ ['"']
  | .literal => '\'' :: text ++ ['\'']
  | .basicLines =>
    ['"', '"', '"'] ++ openingBreak text ++ writeBasicLines 0 text ++ ['"', '"', '"']
  | .literalLines => ['\'', '\'', '\''] ++ openingBreak text ++ text ++ ['\'', '\'', '\'']

end Tftp.Toml
