import Tftp.IoFault
import Tftp.Limits
import Tftp.Text.Quoted

/-! # Faults

Whatever can go wrong is told by its cause; `Fault.message` puts it into words. The faults of
reading a datagram are set apart by `Fault.isDecodeFault`: they are the peer's doing and leave the
session unharmed. -/

namespace Tftp

/-! ### Causes -/

/-- The part of a datagram that holds a text. -/
inductive TextPart where
  | filename
  | mode
  | message
  deriving DecidableEq, Repr

/-- What is wrong with the frame of a datagram. -/
inductive FramingFault where
  /-- No NUL ends the text. -/
  | unterminated (part : TextPart)
  /-- The text is not valid UTF-8. -/
  | notUtf8 (part : TextPart)
  /-- An acknowledgment has octets after its block number. -/
  | acknowledgmentLength
  /-- A read request goes on after its mode. -/
  | trailingOctets
  /-- A fault found by the caller. -/
  | custom (text : String)
  deriving DecidableEq, Repr

/-- Why a session takes no further packet. -/
inductive SessionFault where
  /-- The last block was stored already. -/
  | finished
  /-- The sink failed before. -/
  | sinkFailed
  /-- A fault found by the caller. -/
  | custom (text : String)
  deriving DecidableEq, Repr

/-- Why a settings document is refused. -/
inductive DocumentFault where
  /-- The text is no document. -/
  | malformed
  /-- A value has the wrong type, or lies outside the range of its setting. -/
  | unsuitable
  /-- A required setting is absent. -/
  | missing (key : String)
  /-- A text names no log level. -/
  | unknownLevel (text : String)
  deriving DecidableEq, Repr

/-- Settings that contradict one another or the limits of the library. -/
inductive SettingsProblem where
  /-- More blocks are allowed than the counter can number without starting again. -/
  | unreachableBlocks (maxBlocks : UInt32)
  | emptyName
  | longName (octets limit : Nat)
  deriving DecidableEq, Repr

/-- Why settings cannot be had, kept or used. -/
inductive SettingsFault where
  | notOpened (cause : IoFault)
  | notRead (cause : IoFault)
  | notWritten (cause : IoFault)
  /-- There is no document that holds the settings. -/
  | notSpelled
  | document (cause : DocumentFault)
  /-- A variable of the environment holds no truth value. -/
  | invalidFlag (name value : String)
  /-- A variable of the environment names no log level. -/
  | invalidLevel (name value : String)
  | problems (found : List SettingsProblem)
  /-- Another logger is installed already. -/
  | loggerTaken
  /-- A fault found by the caller. -/
  | custom (text : String)
  deriving DecidableEq, Repr

/-- A fault of any part of the library. -/
inductive Fault where
  | io (cause : IoFault)
  /-- The datagram is of another kind than the one asked for. -/
  | invalidOpcode (opcode : UInt16)
  | malformedFraming (cause : FramingFault)
  | unsupportedMode (mode : String)
  | emptyFilename
  | oversizedDatagram (length : Nat)
  | undersizedDatagram (length : Nat)
  /-- The opcode stands for no kind of packet. -/
  | unknownType (opcode : UInt16)
  | oversizedPayload (length : Nat)
  /-- The transfer has used up its block numbers. -/
  | blockExhausted
  | unexpectedBlock (expected actual : UInt16)
  | session (cause : SessionFault)
  | settings (cause : SettingsFault)
  deriving DecidableEq, Repr

/-! ### Wording -/

/-- The name of the part. -/
def TextPart.name : TextPart → String
  | filename => "filename"
  | mode => "mode"
  | message => "error message"

/-- The fault in words. -/
def FramingFault.message : FramingFault → String
  | unterminated part => s!"{part.name} is not NUL terminated"
  | notUtf8 part => s!"{part.name} is not valid UTF-8"
  | acknowledgmentLength => s!"acknowledgment must be exactly {headerSize} bytes"
  | trailingOctets => "unexpected bytes after request mode"
  | custom text => text

/-- The fault in words. -/
def SessionFault.message : SessionFault → String
  | finished => "transfer already finished"
  | sinkFailed => "sink failed earlier in this transfer"
  | custom text => text

/-- What a fault of a document tells beyond that there is one. -/
def DocumentFault.detail? : DocumentFault → Option String
  | missing key => some s!"missing field `{key}`"
  | unknownLevel text => some s!"Invalid log level: {text}"
  | malformed | unsuitable => none

/-- The problem in words. -/
def SettingsProblem.message : SettingsProblem → String
  | unreachableBlocks m =>
    s!"max_blocks {m} is unreachable without block rollover (maximum: {UInt16.size - 1})"
  | emptyName => "Application name cannot be empty"
  | longName n limit => s!"Application name too long: {n} bytes (maximum: {limit})"

/-- The fault in words. -/
def SettingsFault.message : SettingsFault → String
  | notOpened cause => s!"Failed to open config file: {cause.text}"
  | notRead cause => s!"Failed to read config file: {cause.text}"
  | notWritten cause => s!"Failed to write config file: {cause.text}"
  | notSpelled => "Failed to serialize config"
  | document _ => "Failed to parse TOML"
  | invalidFlag name value => s!"Invalid boolean for {name}: {value}"
  | invalidLevel name value => s!"Invalid {name}: {value}"
  | problems found =>
    "Configuration validation failed:\n  - " ++
      "\n  - ".intercalate (found.map SettingsProblem.message)
  | loggerTaken =>
    "Failed to install logger: a global default trace dispatcher has already been set"
  | custom text => text

namespace Fault

/-- The fault in words. -/
def message : Fault → String
  | io cause => s!"I/O error: {cause.text}"
  | invalidOpcode n => s!"Invalid opcode {n} for this packet kind"
  | malformedFraming cause => s!"Malformed framing: {cause.message}"
  | unsupportedMode mode =>
    s!"Unsupported transfer mode: {Text.quote mode} (only {Text.quote octetMode} is accepted)"
  | emptyFilename => "Read request carries an empty filename"
  | oversizedDatagram n => s!"Datagram too large: {n} bytes"
  | undersizedDatagram n => s!"Datagram too small: {n} bytes"
  | unknownType n => s!"Unknown packet type: opcode {n}"
  | oversizedPayload n => s!"Data payload too large: {n} bytes"
  | blockExhausted => "Block counter exhausted and rollover is disabled"
  | unexpectedBlock expected actual =>
    s!"Unexpected data block: expected {expected}, got {actual}"
  | session cause => s!"Session error: {cause.message}"
  | settings cause => s!"Configuration error: {cause.message}"

/-- The fault lies in a datagram that was read. -/
def isDecodeFault : Fault → Bool
  | invalidOpcode _ | malformedFraming _ | unsupportedMode _ | emptyFilename
  | oversizedDatagram _ | undersizedDatagram _ | unknownType _ => true
  | _ => false

end Fault
end Tftp
