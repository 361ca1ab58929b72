import Tftp.Settings
import Tftp.Toml.Format

/-! # Settings in documents

Every setting has a key in one of three sections, and a kind that says which values stand for it.
From this table of settings follow both directions: `Settings.toTable` gives the tree of values that
holds all settings, and `Settings.ofTable` takes settings from such a tree. Entries are looked at in
their order and the first unsuitable one is reported; keys without a meaning are passed over. What is
not set keeps its default, except for required settings, which must be there if their section is.

A section may also be a list of its settings in their order.

How the tree is spelled is left to a `Toml.Format`, and how levels are spelled to a `Level.Format`. -/

namespace Tftp

open Toml (Node Table)

/-! ### Kinds of settings -/

/-- A truth value. -/
def flagOf : Node → Except DocumentFault Bool
  | .flag b => .ok b
  | _ => .error .unsuitable

/-- A text. -/
def textOf : Node → Except DocumentFault String
  | .text text => .ok text
  | _ => .error .unsuitable

/-- A count of blocks. -/
def countOf : Node → Except DocumentFault UInt32
  | .integer n => if 0 ≤ n ∧ n < 0x100000000 then .ok (UInt32.ofNat n.toNat) else .error .unsuitable
  | _ => .error .unsuitable

/-- A log level, as a text. -/
def levelOf (levels : Level.Format) (node : Node) : Except DocumentFault Level := do
  let text ← textOf node
  match levels.parse? text with
  | some level => return level
  | none => throw (.unknownLevel text)

/-- The text that stands for a level: its name in small letters. -/
def levelText (levels : Level.Format) (l : Level) : String :=
  String.ofList (Text.lower (levels.name l).toList)

/-- What a setting chooses from. -/
inductive Kind where
  | flag
  | count
  | text
  | level
  deriving DecidableEq, Repr

namespace Kind

/-- The values of a setting of this kind. -/
def Value : Kind → Type
  | flag => Bool
  | count => UInt32
  | text => String
  | level => Level

/-- The value as a document holds it. -/
def toNode (levels : Level.Format) : (kind : Kind) → kind.Value → Node
  | flag, b => .flag b
  | count, n => .integer (UInt32.toNat n)
  | text, content => .text content
  | level, l => .text (levelText levels l)

/-- The value that a document holds. -/
def ofNode (levels : Level.Format) : (kind : Kind) → Node → Except DocumentFault kind.Value
  | flag => flagOf
  | count => countOf
  | text => textOf
  | level => levelOf levels

end Kind

/-! ### Single settings -/

/-- The sections of a document. -/
inductive Part where
  | codec
  | transfer
  | logging
  deriving DecidableEq, Repr

namespace Part

/-- The sections, in their order. -/
def all : List Part := [codec, transfer, logging]

/-- The name of the section. -/
def name : Part → String
  | codec => "codec"
  | transfer => "transfer"
  | logging => "logging"

end Part

/-- The single settings. -/
inductive Setting where
  | strictText
  | rejectRequestOptions
  | allowRollover
  | maxBlocks
  | appName
  | level
  | toConsole
  | jsonFormat
  deriving DecidableEq, Repr

namespace Setting

/-- The settings, in their order. -/
def all : List Setting :=
  [strictText, rejectRequestOptions, allowRollover, maxBlocks, appName, level, toConsole, jsonFormat]

/-- The section that the setting belongs to. -/
def part : Setting → Part
  | strictText | rejectRequestOptions => .codec
  | allowRollover | maxBlocks => .transfer
  | appName | level | toConsole | jsonFormat => .logging

/-- The key of the setting in its section. -/
def key : Setting → String
  | strictText => "strict_text"
  | rejectRequestOptions => "reject_request_options"
  | allowRollover => "allow_block_rollover"
  | maxBlocks => "max_blocks"
  | appName => "app_name"
  | level => "log_level"
  | toConsole => "log_to_console"
  | jsonFormat => "json_format"

/-- The default does not stand in for the setting where its section is there. -/
def required : Setting → Bool
  | strictText | rejectRequestOptions | allowRollover | maxBlocks => false
  | appName | level | toConsole | jsonFormat => true

/-- What the setting chooses from. -/
def kind : Setting → Kind
  | strictText | rejectRequestOptions | allowRollover | toConsole | jsonFormat => .flag
  | maxBlocks => .count
  | appName => .text
  | level => .level

/-- The value of the setting. -/
def get (s : Settings) : (k : Setting) → k.kind.Value
  | strictText => s.codec.strictText
  | rejectRequestOptions => s.codec.rejectRequestOptions
  | allowRollover => s.transfer.allowRollover
  | maxBlocks => s.transfer.maxBlocks
  | appName => s.logging.appName
  | level => s.logging.level
  | toConsole => s.logging.toConsole
  | jsonFormat => s.logging.jsonFormat

/-- The settings with another value of this one. -/
def set (s : Settings) : (k : Setting) → k.kind.Value → Settings
  | strictText, b => { s with codec := { s.codec with strictText := b } }
  | rejectRequestOptions, b => { s with codec := { s.codec with rejectRequestOptions := b } }
  | allowRollover, b => { s with transfer := { s.transfer with allowRollover := b } }
  | maxBlocks, n => { s with transfer := { s.transfer with maxBlocks := n } }
  | appName, content => { s with logging := { s.logging with appName := content } }
  | level, l => { s with logging := { s.logging with level := l } }
  | toConsole, b => { s with logging := { s.logging with toConsole := b } }
  | jsonFormat, b => { s with logging := { s.logging with jsonFormat := b } }

/-- The entry of the setting in its section. -/
def entry (levels : Level.Format) (s : Settings) (k : Setting) : String × Node :=
  (k.key, k.kind.toNode levels (k.get s))

/-- The settings with the value that a document holds for this one. -/
def read (levels : Level.Format) (s : Settings) (k : Setting) (node : Node) :
    Except DocumentFault Settings :=
  return k.set s (← k.kind.ofNode levels node)

end Setting

/-! ### Sections -/

namespace Part

/-- The settings of the section, in their order. -/
def settings (p : Part) : List Setting := Setting.all.filter fun k => k.part = p

/-- The table of the section. -/
def table (levels : Level.Format) (s : Settings) (p : Part) : Table :=
  p.settings.map (Setting.entry levels s)

/-- The settings with what one entry of the section sets. -/
def readEntry (levels : Level.Format) (p : Part) (s : Settings) (e : String × Node) :
    Except DocumentFault Settings :=
  match p.settings.find? fun k => k.key = e.1 with
  | some k => k.read levels s e.2
  | none => .ok s

/-- The settings with what the entries of the section set, of which none required may be absent. -/
def readTable (levels : Level.Format) (p : Part) (s : Settings) (es : Table) :
    Except DocumentFault Settings := do
  let s ← es.foldlM (p.readEntry levels) s
  match p.settings.find? fun k => k.required ∧ k.key ∉ es.map Prod.fst with
  | some k => throw (.missing k.key)
  | none => return s

/-- The settings with what the items of a list set, of which none required may be absent. -/
def readList (levels : Level.Format) (p : Part) (s : Settings) (items : List Node) :
    Except DocumentFault Settings := do
  let s ← (p.settings.zip items).foldlM (fun s item => item.1.read levels s item.2) s
  if (p.settings.drop items.length).any Setting.required then throw .unsuitable
  return s

/-- The settings with what the section sets. -/
def read (levels : Level.Format) (p : Part) (s : Settings) : Node → Except DocumentFault Settings
  | .table es => p.readTable levels s es
  | .list items => p.readList levels s items
  | _ => .error .unsuitable

end Part

/-! ### Documents -/

namespace Settings

/-- The root table that holds all settings. -/
def toTable (levels : Level.Format) (s : Settings) : Table :=
  Part.all.map fun p => (p.name, .table (p.table levels s))

/-- The settings with what one entry of the root table sets. -/
def readEntry (levels : Level.Format) (s : Settings) (e : String × Node) :
    Except DocumentFault Settings :=
  match Part.all.find? fun p => p.name = e.1 with
  | some p => p.read levels s e.2
  | none => .ok s

/-- The settings that a root table gives. -/
def ofTable (levels : Level.Format) (d : Table) : Except DocumentFault Settings :=
  d.foldlM (readEntry levels) {}

/-- The document that holds the settings, if the format has one. -/
def toText (format : Toml.Format) (levels : Level.Format) (s : Settings) : Option String :=
  format.write (s.toTable levels)

/-- The document that holds the defaults, as an example. -/
def exampleText (format : Toml.Format) (levels : Level.Format) : String :=
  (toText format levels {}).getD "# Failed to generate example config"

/-- The settings of a document. -/
def ofText (format : Toml.Format) (levels : Level.Format) (text : String) : Except Fault Settings :=
  match format.read text with
  | none => .error (.settings (.document .malformed))
  | some d =>
    match ofTable levels d with
    | .ok settings => .ok settings
    | .error cause => .error (.settings (.document cause))

end Settings
end Tftp
