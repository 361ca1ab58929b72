import Tftp.Settings.Place
import Tftp.Toml.Written

/-! # Settings in TOML documents

The formats that the library itself uses: documents as `Toml.format` reads and writes them, and
levels by their names and numbers. -/

namespace Tftp.Settings

/-- The settings of a document. -/
def ofToml (text : String) : Except Fault Settings := ofText Toml.format Level.format text

/-- The document that holds the defaults, as an example. -/
def exampleDocument : String := exampleText Toml.format Level.format

/-- The settings of the document at a place. -/
def load (place : Place) : Except Fault Settings := place.load Toml.format Level.format

/-- The place after the settings were written there. -/
def save (s : Settings) (place : Place) : Except Fault Place :=
  place.save Toml.format Level.format s

end Tftp.Settings
