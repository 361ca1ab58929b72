import Tftp.Toml.Statement

/-! # Settings documents

The statements of a document fall into sections: the pairs before the first header belong to the
root table, those after a header to the table that it names. Section by section the tree of tables
is built. A table that so far was only implied and now gets a header of its own moves to the end of
its parent, so that entries stand in the order of their headers. -/

namespace Tftp.Toml

/-- A header and the pairs below it. -/
structure Section where
  key : Key
  repeatable : Bool
  pairs : List Pair

/-- The pairs before the first header, and the sections. -/
def sections : List Statement → List Pair × List Section
  | [] => ([], [])
  | .pair pair :: rest =>
    let (pairs, more) := sections rest
    (pair :: pairs, more)
  | .header key repeatable :: rest =>
    let (pairs, more) := sections rest
    ([], ⟨key, repeatable, pairs⟩ :: more)

namespace Section

/-- Adds the section's table to the entries of its parent. -/
def addTo (s : Section) (parent : Entries) : Option Entries :=
  match s.repeatable, parent.lookup s.key.last with
  | false, none => do
    return parent ++ [(s.key.last, .table .header (← Entries.addPairs [] s.pairs))]
  | false, some (.table .implied entries) => do
    return parent.remove s.key.last ++
      [(s.key.last, .table .header (← Entries.addPairs entries s.pairs))]
  | true, none => do
    return parent ++ [(s.key.last, .tables [← Entries.addPairs [] s.pairs])]
  | true, some (.tables items) => do
    return parent.replace s.key.last (.tables (items ++ [← Entries.addPairs [] s.pairs]))
  | _, some _ => none

end Section

/-- The root table of a document. -/
def ofStatements? (statements : List Statement) : Option Entries := do
  let (pairs, more) := sections statements
  let root ← Entries.addPairs [] pairs
  more.foldlM (fun root s => Entries.within s.addTo s.key.parents root) root

/-- The root table of the document that a text holds. -/
def parse? (text : String) : Option Entries := (statements? text.toList).bind ofStatements?

end Tftp.Toml
