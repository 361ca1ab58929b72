import Tftp.Toml.Characters

/-! # Formats of documents

What a document says is a tree of named values (`Node`). How it is spelled is the business of a
`Format`, which reads the tree off a text and writes a text for a tree.

The values of a table have no order, so what is written and read again may come back in another
one (`SameDocument`). A format is `Format.Faithful` if otherwise nothing is lost of the documents
that consist of sections with single values (`IsDocument`). -/

namespace Tftp.Toml

/-- A value of a document. -/
inductive Node where
  | text (text : String)
  | integer (number : Int)
  | flag (flag : Bool)
  /-- A number with a fraction, as it is written. -/
  | float (text : String)
  | list (items : List Node)
  /-- Values with their keys, no key twice. -/
  | table (entries : List (String × Node))
  deriving Repr, Inhabited

/-- Values with their keys, no key twice. -/
abbrev Table := List (String × Node)

/-- How documents are read and written. -/
structure Format where
  /-- The root table of the document that a text holds, if it holds one. -/
  read : String → Option Table
  /-- A document with the given root table, if there is one. -/
  write : Table → Option String

/-! ### Documents of sections -/

/-- The key stands without quotes. -/
def Bare (key : String) : Prop := key.toList ≠ [] ∧ ∀ c ∈ key.toList, isBareKey c = true

/-- The keys stand without quotes, and none comes twice. -/
structure BareKeys (es : Table) : Prop where
  bare : ∀ e ∈ es, Bare e.1
  nodup : (es.map Prod.fst).Nodup

/-- A text, a truth value, or a number from zero up to what 64 bits with a sign hold. -/
def Node.IsSingle : Node → Prop
  | text _ | flag _ => True
  | integer n => 0 ≤ n ∧ n < 0x8000000000000000
  | float _ | list _ | table _ => False

/-- A table of single values. -/
inductive Node.IsSection : Node → Prop
  | intro {es : Table} (keys : BareKeys es) (single : ∀ e ∈ es, e.2.IsSingle) : IsSection (table es)

/-- The root table of a document of sections. -/
structure IsDocument (d : Table) : Prop where
  keys : BareKeys d
  sections : ∀ e ∈ d, e.2.IsSection

/-! ### Faithful formats -/

/-- Two tables with the same entries in any order. -/
inductive Node.SameSection : Node → Node → Prop
  | intro {es fs : Table} (entries : es.Perm fs) : SameSection (table es) (table fs)

/-- The document `d'` has the sections of `d` in any order, each with its entries in any order. -/
structure SameDocument (d d' : Table) : Prop where
  names : (d'.map Prod.fst).Perm (d.map Prod.fst)
  sections : ∀ e' ∈ d', ∃ e ∈ d, e'.1 = e.1 ∧ e.2.SameSection e'.2

/-- Documents of sections can be written, and what is written is read as the same document. -/
structure Format.Faithful (f : Format) : Prop where
  writes {d : Table} (document : IsDocument d) : ∃ text, f.write d = some text
  reads {d : Table} {text : String} (document : IsDocument d) (written : f.write d = some text) :
    ∃ d', f.read text = some d' ∧ SameDocument d d'

theorem SameDocument.trans_perm {d d' d'' : Table} (same : SameDocument d d')
    (perm : d'.Perm d'') : SameDocument d d'' where
  names := (perm.symm.map Prod.fst).trans same.names
  sections e mem := same.sections e (perm.mem_iff.mpr mem)

theorem IsDocument.same {d : Table} (document : IsDocument d) : SameDocument d d where
  names := .refl _
  sections e mem := by
    refine ⟨e, mem, rfl, ?_⟩
    obtain ⟨name, node⟩ := e
    cases document.sections _ mem
    exact ⟨.refl _⟩

end Tftp.Toml
