import Tftp.Toml.Document
import Tftp.Toml.Format

/-! # The format of settings documents

Documents are read as `parse?` does, and of the tree that it gives only the values are kept
(`Value.node`). They are written section by section with an empty line between two of them, each
setting on a line of its own; there is no spelling for anything but sections of single values.
`Toml.format` is both together. -/

namespace Tftp.Toml

/-! ### Values that were read -/

mutual

/-- What the value says. A point in time is a table without a key that means anything. -/
def Value.node : Value → Node
  | .string content => .text content
  | .integer n => .integer n
  | .float content => .float content
  | .boolean b => .flag b
  | .moment _ => .table []
  | .array items => .list (nodes items)
  | .table _ es => .table (entryNodes es)
  | .tables items => .list (tableNodes items)

/-- What the items of an array say. -/
def nodes : List Value → List Node
  | [] => []
  | v :: vs => v.node :: nodes vs

/-- What the entries of a table say. -/
def entryNodes : List (String × Value) → Table
  | [] => []
  | (key, v) :: es => (key, v.node) :: entryNodes es

/-- What tables that share a header say. -/
def tableNodes : List (List (String × Value)) → List Node
  | [] => []
  | es :: rest => .table (entryNodes es) :: tableNodes rest

end

/-! ### Values on one line -/

/-- A value that is written on one line. -/
inductive Single where
  | text (text : String)
  | number (n : Nat)
  | flag (b : Bool)

/-- The single value that a node is, if it is one. -/
def Single.ofNode? : Node → Option Single
  | .text content => some (.text content)
  | .integer n => if 0 ≤ n then some (.number n.toNat) else none
  | .flag b => some (.flag b)
  | .float _ | .list _ | .table _ => none

/-- A truth value as a document writes it. -/
def flagText (b : Bool) : List Char := if b then "true".toList else "false".toList

/-- The value as a document writes it. -/
def Single.written : Single → List Char
  | text content => writeString content.toList
  | number n => Nat.toDigits 10 n
  | flag b => flagText b

/-! ### Lines -/

/-- The line of a setting. -/
def settingLine (key : String) (value : List Char) : List Char :=
  key.toList ++ " = ".toList ++ value ++ ['\n']

/-- The line of a section's header. -/
def headerLine (name : String) : List Char := '[' :: name.toList ++ [']', '\n']

/-- A line of a written document. -/
inductive Line where
  | blank
  | header (name : String)
  | setting (key : String) (value : Single)

/-- The line as it is written. -/
def Line.written : Line → List Char
  | blank => ['\n']
  | header name => headerLine name
  | setting key value => settingLine key value.written

/-! ### Documents -/

/-- A section of a document: its name, and its settings by their keys. -/
structure WrittenSection where
  name : String
  settings : List (String × Single)

namespace WrittenSection

/-- The section that an entry of the root table is, if it is one. -/
def ofEntry? : String × Node → Option WrittenSection
  | (name, .table es) =>
    (es.mapM fun e => (Single.ofNode? e.2).map fun value => (e.1, value)).map fun settings =>
      ⟨name, settings⟩
  | _ => none

/-- The lines of the section. -/
def lines (s : WrittenSection) : List Line :=
  .header s.name :: s.settings.map fun setting => .setting setting.1 setting.2

end WrittenSection

/-- The lines of a document. An empty line parts two sections. -/
def documentLines : List WrittenSection → List Line
  | [] => []
  | s :: rest => s.lines ++ rest.flatMap fun s => .blank :: s.lines

/-- The text of a document. -/
def document (ss : List WrittenSection) : List Char := (documentLines ss).flatMap Line.written

/-- The document with the given root table, if it consists of sections with single values. -/
def write (d : Table) : Option String :=
  (d.mapM WrittenSection.ofEntry?).map fun ss => String.ofList (document ss)

/-- The format in which the library's settings are read and written. -/
def format : Format where
  read text := (parse? text).map entryNodes
  write := write

end Tftp.Toml
