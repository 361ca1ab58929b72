/-! # Faults of sources and sinks

What reads from a source or writes to a sink can fail for a reason of the system beneath it. Such
a fault has a kind, on which decisions hang, and a text, which is passed on unchanged. -/

namespace Tftp

/-- The kind of a fault. -/
inductive IoKind where
  | notFound
  | permissionDenied
  | connectionRefused
  | connectionReset
  | connectionAborted
  | notConnected
  | addressInUse
  | addressNotAvailable
  | brokenPipe
  | alreadyExists
  | wouldBlock
  | invalidInput
  | invalidData
  | timedOut
  | writeZero
  | interrupted
  | unsupported
  | unexpectedEnd
  | outOfMemory
  | inputOutput
  | storageFull
  | isADirectory
  | notADirectory
  | readOnlyFilesystem
  | fileTooLarge
  | hostUnreachable
  | networkUnreachable
  | networkDown
  | staleNetworkFileHandle
  | notSeekable
  | quotaExceeded
  | resourceBusy
  | executableFileBusy
  | deadlock
  | crossesDevices
  | tooManyLinks
  | invalidFilename
  | argumentListTooLong
  | directoryNotEmpty
  | filesystemLoop
  | inProgress
  | uncategorized
  | other
  deriving DecidableEq, Repr

/-- The text of a fault of which nothing but the kind is known. -/
def IoKind.description : IoKind → String
  | notFound => "entity not found"
  | permissionDenied => "permission denied"
  | connectionRefused => "connection refused"
  | connectionReset => "connection reset"
  | connectionAborted => "connection aborted"
  | notConnected => "not connected"
  | addressInUse => "address in use"
  | addressNotAvailable => "address not available"
  | brokenPipe => "broken pipe"
  | alreadyExists => "entity already exists"
  | wouldBlock => "operation would block"
  | invalidInput => "invalid input parameter"
  | invalidData => "invalid data"
  | timedOut => "timed out"
  | writeZero => "write zero"
  | interrupted => "operation interrupted"
  | unsupported => "unsupported"
  | unexpectedEnd => "unexpected end of file"
  | outOfMemory => "out of memory"
  | inputOutput => "input/output error"
  | storageFull => "no storage space"
  | isADirectory => "is a directory"
  | notADirectory => "not a directory"
  | readOnlyFilesystem => "read-only filesystem or storage medium"
  | fileTooLarge => "file too large"
  | hostUnreachable => "host unreachable"
  | networkUnreachable => "network unreachable"
  | networkDown => "network down"
  | staleNetworkFileHandle => "stale network file handle"
  | notSeekable => "seek on unseekable file"
  | quotaExceeded => "quota exceeded"
  | resourceBusy => "resource busy"
  | executableFileBusy => "executable file busy"
  | deadlock => "deadlock"
  | crossesDevices => "cross-device link or rename"
  | tooManyLinks => "too many links"
  | invalidFilename => "invalid filename"
  | argumentListTooLong => "argument list too long"
  | directoryNotEmpty => "directory not empty"
  | filesystemLoop => "filesystem loop or indirection limit (e.g. symlink loop)"
  | inProgress => "in progress"
  | uncategorized => "uncategorized error"
  | other => "other error"

/-- A fault of a source or a sink. -/
structure IoFault where
  kind : IoKind
  text : String
  deriving DecidableEq, Repr

namespace IoFault

/-- The fault of which nothing but the kind is known. -/
def ofKind (kind : IoKind) : IoFault := ⟨kind, kind.description⟩

/-- The call was interrupted before it did anything, and may be made again. -/
def isInterrupted (e : IoFault) : Bool := e.kind == .interrupted

/-- A sink took nothing of what remained to be written. -/
def nothingTaken : IoFault := ⟨.writeZero, "failed to write whole buffer"⟩

/-- Octets that should hold a text are not valid UTF-8. -/
def notText : IoFault := ⟨.invalidData, "stream did not contain valid UTF-8"⟩

/-- Kind and text of an error number of the operating system. -/
def systemError? : Nat → Option (IoKind × String)
  | 1 => some (.permissionDenied, "Operation not permitted")
  | 2 => some (.notFound, "No such file or directory")
  | 4 => some (.interrupted, "Interrupted system call")
  | 5 => some (.inputOutput, "Input/output error")
  | 11 => some (.wouldBlock, "Resource temporarily unavailable")
  | 12 => some (.outOfMemory, "Cannot allocate memory")
  | 13 => some (.permissionDenied, "Permission denied")
  | 17 => some (.alreadyExists, "File exists")
  | 20 => some (.notADirectory, "Not a directory")
  | 21 => some (.isADirectory, "Is a directory")
  | 28 => some (.storageFull, "No space left on device")
  | 30 => some (.readOnlyFilesystem, "Read-only file system")
  | 32 => some (.brokenPipe, "Broken pipe")
  | 110 => some (.timedOut, "Connection timed out")
  | 111 => some (.connectionRefused, "Connection refused")
  | _ => none

/-- The fault that the operating system reports by a number. -/
def ofSystem? (number : Nat) : Option IoFault :=
  (systemError? number).map fun known => ⟨known.1, s!"{known.2} (os error {number})"⟩

/-- Nothing stands at the path. -/
def noSuchFile : IoFault := ⟨.notFound, "No such file or directory (os error 2)"⟩

/-- A directory stands at the path. -/
def directory : IoFault := ⟨.isADirectory, "Is a directory (os error 21)"⟩

end IoFault
end Tftp
