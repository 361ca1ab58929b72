import Tftp.Fault
import Tftp.Level
import Tftp.Rules

/-! # Settings

All that may be chosen, with its defaults: how strictly datagrams are judged, how a transfer
numbers its blocks, and what is logged. `Settings.problems` lists what contradicts itself. -/

namespace Tftp

/-- The longest name of an application, in octets. -/
def maxNameLength : Nat := 64

/-- What is logged, and where to. -/
structure LoggingSettings where
  /-- The name that marks the events of this application. -/
  appName : String := "tftp-wire"
  /-- The least grave events that are logged. -/
  level : Level := .info
  /-- Log to the console; otherwise the application takes care of the events itself. -/
  toConsole : Bool := true
  /-- Log objects of JSON instead of lines. -/
  jsonFormat : Bool := false
  deriving DecidableEq, Repr, Inhabited

/-- All settings. -/
structure Settings where
  codec : DecodeRules := {}
  transfer : TransferRules := {}
  logging : LoggingSettings := {}
  deriving DecidableEq, Repr, Inhabited

/-! ### Validation -/

/-- A bound on blocks that the counter cannot reach: without rollover it ends at 65535. -/
def TransferRules.problems (r : TransferRules) : List SettingsProblem :=
  if !r.allowRollover && decide (65535 < r.maxBlocks) then [.unreachableBlocks r.maxBlocks] else []

/-- A name that is empty or too long. -/
def LoggingSettings.problems (l : LoggingSettings) : List SettingsProblem :=
  let length := l.appName.utf8ByteSize
  if length = 0 then [.emptyName]
  else if maxNameLength < length then [.longName length maxNameLength]
  else []

namespace Settings

/-- All that is wrong with the settings. -/
def problems (s : Settings) : List SettingsProblem := s.transfer.problems ++ s.logging.problems

/-- Refuses settings with which something is wrong. -/
def validate (s : Settings) : Except Fault Unit :=
  if s.problems.isEmpty then .ok () else .error (.settings (.problems s.problems))

end Settings

/-! ### Logging -/

/-- Begins to log. Without a console there is nothing to do; otherwise no other logger may be
installed. -/
def LoggingSettings.start (l : LoggingSettings) (installed : Bool) : Except Fault Unit :=
  if l.toConsole && installed then .error (.settings .loggerTaken) else .ok ()

end Tftp
