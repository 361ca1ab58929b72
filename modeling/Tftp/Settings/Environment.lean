import Tftp.Settings
import Tftp.Text.Blank
import Tftp.Text.Utf8

/-! # Settings from the environment

Four variables override the defaults, each a setting of its own. They are read in a fixed order, so
that of several faulty variables the first is reported, with its value as given. A value that is
not valid UTF-8 counts as absent. Which texts stand for levels is left to a `Level.Format`. -/

namespace Tftp

/-- The variables of an environment with the octets of their values. -/
abbrev Environment := List (String × Octets)

namespace Environment

/-- The value of a variable, if it is set to a text. -/
def text? (env : Environment) (name : String) : Option String :=
  (env.lookup name).bind Utf8.decode?

/-- The truth value that a text stands for. Blanks around it and the case of its letters do not
matter. -/
def flagOf? (text : String) : Option Bool :=
  let word := String.ofList (Text.lower (Text.trim text.toList))
  if word ∈ ["1", "true", "yes", "on"] then some true
  else if word ∈ ["0", "false", "no", "off"] then some false
  else none

/-- The truth value of a variable; `default` if it is not set. -/
def flag (env : Environment) (name : String) (default : Bool) : Except Fault Bool :=
  match env.text? name with
  | none => .ok default
  | some text =>
    match flagOf? text with
    | some value => .ok value
    | none => .error (.settings (.invalidFlag name text))

/-- The log level of a variable; `default` if it is not set. -/
def level (env : Environment) (levels : Level.Format) (name : String) (default : Level) :
    Except Fault Level :=
  match env.text? name with
  | none => .ok default
  | some text =>
    match levels.parse? text with
    | some value => .ok value
    | none => .error (.settings (.invalidLevel name text))

/-- The defaults with the overrides of the environment. -/
def settings (levels : Level.Format) (env : Environment) : Except Fault Settings := do
  let base : Settings := {}
  let strictText ← env.flag "TFTP_WIRE_STRICT_TEXT" base.codec.strictText
  let rejectRequestOptions ←
    env.flag "TFTP_WIRE_REJECT_REQUEST_OPTIONS" base.codec.rejectRequestOptions
  let allowRollover ← env.flag "TFTP_WIRE_ALLOW_BLOCK_ROLLOVER" base.transfer.allowRollover
  let level ← env.level levels "TFTP_WIRE_LOG_LEVEL" base.logging.level
  return { base with
    codec := ⟨strictText, rejectRequestOptions⟩
    transfer := { base.transfer with allowRollover }
    logging := { base.logging with level } }

end Environment

/-- The defaults with the overrides of an environment, levels being read as the library does. -/
def Settings.ofEnvironment (env : Environment) : Except Fault Settings :=
  env.settings Level.format

end Tftp
