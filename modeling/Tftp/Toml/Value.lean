/-! # Values and tables of settings documents

A document is a tree of tables. A table is kept as the list of its entries in the order in which
they came about, no key twice. How a table came about decides what may still be added to it: a
table between braces is closed, a table under a header of its own takes keys only below that
header, and a table that merely lies on the way to another may yet get a header.

`Entries.insert` adds a value under a dotted key, `Entries.within` reaches the table that a header
names; both refuse to open what is closed. -/

namespace Tftp.Toml

/-- How a table came about. -/
inductive Origin where
  /-- It lies on the way to a table with a header. -/
  | implied
  /-- It lies on the way to a value with a dotted key. -/
  | dotted
  /-- It has a header. -/
  | header
  /-- It stands between braces. -/
  | inline
  deriving DecidableEq, Repr

/-- A value of a document. Numbers with a fraction and points in time are kept as written. -/
inductive Value where
  | string (text : String)
  | integer (number : Int)
  | float (text : String)
  | boolean (flag : Bool)
  | moment (text : String)
  | array (items : List Value)
  | table (origin : Origin) (entries : List (String × Value))
  /-- Tables that share a header, of which there is at least one. -/
  | tables (items : List (List (String × Value)))
  deriving Repr, Inhabited

/-- The entries of a table, in order. -/
abbrev Entries := List (String × Value)

/-- A dotted key: the keys on the way, and the key itself. -/
structure Key where
  parents : List String
  last : String
  deriving DecidableEq, Repr

/-- The key that consists of the given parts, of which there must be one. -/
def Key.ofParts? (parts : List String) : Option Key :=
  parts.getLast?.map fun last => ⟨parts.dropLast, last⟩

/-- A value with its key. -/
structure Pair where
  key : Key
  value : Value
  deriving Repr

namespace Entries

/-- Gives the entry of a key that is there a new value, in its place. -/
def replace (es : Entries) (key : String) (value : Value) : Entries :=
  es.map fun entry => if entry.1 = key then (key, value) else entry

/-- The entries without that of the key. -/
def remove (es : Entries) (key : String) : Entries := es.filter fun entry => entry.1 ≠ key

/-- A dotted key may go through a table of this origin; `final` tells that the table is the one the
value goes into. -/
def opensTo (final : Bool) : Origin → Bool
  | .dotted => true
  | .implied => !final
  | .header | .inline => false

/-- Adds a value under a key, below the tables that `parents` name. Tables that are not there yet
come about on the way. -/
def insert (key : String) (value : Value) : (parents : List String) → Entries → Option Entries
  | [], es => if (es.lookup key).isSome then none else some (es ++ [(key, value)])
  | p :: ps, es =>
    match es.lookup p with
    | none => (insert key value ps []).map fun sub => es ++ [(p, .table .dotted sub)]
    | some (.table origin sub) =>
      if opensTo ps.isEmpty origin then
        (insert key value ps sub).map fun sub => es.replace p (.table origin sub)
      else none
    | some (.tables items) =>
      if ps.isEmpty then none
      else do
        let sub ← insert key value ps (← items.getLast?)
        return es.replace p (.tables (items.dropLast ++ [sub]))
    | some _ => none

/-- Adds values with their keys, one after the other. -/
def addPairs (es : Entries) (pairs : List Pair) : Option Entries :=
  pairs.foldlM (fun es pair => insert pair.key.last pair.value pair.key.parents es) es

/-- Changes the table that a path names by `change`. Tables that are not there yet come about on
the way; of tables that share a header the last is meant. -/
def within (change : Entries → Option Entries) : (path : List String) → Entries → Option Entries
  | [], es => change es
  | p :: ps, es =>
    match es.lookup p with
    | none => (within change ps []).map fun sub => es ++ [(p, .table .implied sub)]
    | some (.table .inline _) => none
    | some (.table origin sub) =>
      (within change ps sub).map fun sub => es.replace p (.table origin sub)
    | some (.tables items) => do
      let sub ← within change ps (← items.getLast?)
      return es.replace p (.tables (items.dropLast ++ [sub]))
    | some _ => none

end Entries
end Tftp.Toml
