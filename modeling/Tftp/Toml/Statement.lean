import Tftp.Toml.Scalar
import Tftp.Toml.StringLiteral

/-! # Statements of settings documents

A document is a sequence of statements: a key with its value, or the header of a table. Arrays may
run over several lines and hold comments; what stands between braces may not.

The readers follow the text from left to right. Brackets may be nested no deeper than `maxNesting`,
and a dotted key may have no more parts. -/

namespace Tftp.Toml

/-- The deepest nesting of brackets, and the most parts of a dotted key. -/
def maxNesting : Nat := 79

/-! ### Keys -/

/-- Reads one part of a key: a bare word or a string on one line. -/
def readKeyPart : Reader String
  | '"' :: rest => (readBasic rest).map fun read => (String.ofList read.1, read.2)
  | '\'' :: rest => (readLiteral rest).map fun read => (String.ofList read.1, read.2)
  | text =>
    let word := text.takeWhile isBareKey
    if word.isEmpty then none else some (String.ofList word, text.drop word.length)

/-- Reads at most `limit` parts of a key, parted by periods. Blanks may stand around each. -/
def readKeyParts : (limit : Nat) → Reader (List String)
  | 0, _ => none
  | limit + 1, text => do
    let (part, rest) ← readKeyPart (skipBlanks text)
    match skipBlanks rest with
    | '.' :: rest =>
      let (parts, rest) ← readKeyParts limit rest
      return (part :: parts, rest)
    | rest => return ([part], rest)

/-- Reads a dotted key. -/
def readKey : Reader Key := fun text => do
  let (parts, rest) ← readKeyParts maxNesting text
  return (← Key.ofParts? parts, rest)

/-! ### Values -/

/-- Reads a key, an equals sign and what `item` reads after it. -/
def readPair (item : Reader Value) : Reader Pair := fun text => do
  let (key, rest) ← readKey text
  let rest ← skipChar '=' rest
  let (value, rest) ← item (skipBlanks rest)
  return (⟨key, value⟩, rest)

/-- Reads at most `limit` items of an array and its closing bracket. A comma may follow the last
item. -/
def readItems (item : Reader Value) : (limit : Nat) → Reader (List Value)
  | 0, _ => none
  | limit + 1, text => do
    match ← skipTrivia text with
    | ']' :: rest => return ([], rest)
    | text =>
      let (value, rest) ← item text
      match ← skipTrivia rest with
      | ',' :: rest =>
        let (values, rest) ← readItems item limit rest
        return (value :: values, rest)
      | ']' :: rest => return ([value], rest)
      | _ => none

/-- Reads an array after its opening bracket. Every item takes a character, so the length of the
text bounds their number. -/
def readArray (item : Reader Value) : Reader Value := fun text => do
  let (values, rest) ← readItems item (text.length + 1) text
  return (.array values, rest)

/-- Reads at most `limit` pairs of a table between braces and its closing brace. No comma follows
the last pair. -/
def readPairs (item : Reader Value) : (limit : Nat) → Reader (List Pair)
  | 0, _ => none
  | limit + 1, text => do
    let (pair, rest) ← readPair item text
    match skipBlanks rest with
    | ',' :: rest =>
      let (pairs, rest) ← readPairs item limit rest
      return (pair :: pairs, rest)
    | '\x7d' :: rest => return ([pair], rest)
    | _ => none

/-- Reads a table after its opening brace. -/
def readInlineTable (item : Reader Value) : Reader Value := fun text =>
  match skipBlanks text with
  | '\x7d' :: rest => some (.table .inline [], rest)
  | text => do
    let (pairs, rest) ← readPairs item (text.length + 1) text
    return (.table .inline (← Entries.addPairs [] pairs), rest)

/-- Reads a value without brackets. -/
def readPlain : Reader Value := fun text =>
  match text with
  | '"' :: _ | '\'' :: _ =>
    (readString text).map fun read => (.string (String.ofList read.1), read.2)
  | _ => readWord text

/-- Reads a value whose brackets are nested at most `nesting` deep. -/
def readValue : (nesting : Nat) → Reader Value
  | nesting + 1, '[' :: rest => readArray (readValue nesting) rest
  | nesting + 1, '\x7b' :: rest => readInlineTable (readValue nesting) rest
  | _, text => readPlain text

/-! ### Statements -/

/-- A statement of a document. -/
inductive Statement where
  /-- A key with its value. -/
  | pair (pair : Pair)
  /-- The header of a table; a repeatable one begins a further table of an array. -/
  | header (key : Key) (repeatable : Bool)
  deriving Repr

/-- Reads a statement and the end of its line. -/
def readStatement : Reader Statement
  | '[' :: '[' :: rest => do
    let (key, rest) ← readKey rest
    let rest ← skipChar ']' rest
    let rest ← skipChar ']' rest
    return (.header key true, ← lineEnd? rest)
  | '[' :: rest => do
    let (key, rest) ← readKey rest
    let rest ← skipChar ']' rest
    return (.header key false, ← lineEnd? rest)
  | text => do
    let (pair, rest) ← readPair (readValue maxNesting) text
    return (.pair pair, ← lineEnd? rest)

/-- Reads the statements of at most `limit` lines, up to the end of the text. Lines without a
statement are passed over. -/
def readLines : (limit : Nat) → List Char → Option (List Statement)
  | 0, _ => none
  | limit + 1, text =>
    match skipBlanks text with
    | [] => some []
    | c :: rest =>
      if c = '#' ∨ c = '\n' ∨ c = '\r' then do readLines limit (← lineEnd? (c :: rest))
      else do
        let (statement, rest) ← readStatement (c :: rest)
        return statement :: (← readLines limit rest)

/-- The statements of a text. Every line takes a character, so the length of the text bounds their
number. A byte order mark at the start is passed over. -/
def statements? (text : List Char) : Option (List Statement) :=
  let text := match text with
    | '\uFEFF' :: rest => rest
    | _ => text
  readLines (text.length + 1) text

end Tftp.Toml
