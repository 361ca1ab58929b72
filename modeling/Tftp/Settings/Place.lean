import Tftp.Settings.Document
import Tftp.Text.Utf8

/-! # Settings in files

A path leads to a place, where a file may stand. Reading and writing settings there fail as the
place allows; a file that is written replaces the one that was there. -/

namespace Tftp

/-- What a path leads to. -/
inductive Place where
  /-- Nothing, and there is no directory to hold a file. -/
  | nowhere
  /-- Nothing yet. -/
  | vacant
  /-- A directory. -/
  | directory
  /-- A file with its octets. -/
  | file (content : Octets)
  deriving DecidableEq, Repr

namespace Place

/-- The octets of the file. A directory can be opened but not read. -/
def read : Place → Except SettingsFault Octets
  | nowhere | vacant => .error (.notOpened .noSuchFile)
  | directory => .error (.notRead .directory)
  | file content => .ok content

/-- The place after a file was written there. -/
def write (content : Octets) : Place → Except SettingsFault Place
  | nowhere => .error (.notWritten .noSuchFile)
  | directory => .error (.notWritten .directory)
  | vacant | file _ => .ok (file content)

/-- The settings of the document at the place. -/
def load (format : Toml.Format) (levels : Level.Format) (place : Place) : Except Fault Settings :=
  match place.read with
  | .error cause => .error (.settings cause)
  | .ok content =>
    match Utf8.decode? content with
    | none => .error (.settings (.notRead .notText))
    | some text => Settings.ofText format levels text

/-- The place after the settings were written there. -/
def save (format : Toml.Format) (levels : Level.Format) (s : Settings) (place : Place) :
    Except Fault Place :=
  match s.toText format levels with
  | none => .error (.settings .notSpelled)
  | some text =>
    match place.write (Utf8.encode text) with
    | .error cause => .error (.settings cause)
    | .ok place => .ok place

end Place
end Tftp
