/-! # Error codes

An ERROR packet carries a number. Eight numbers have a meaning; any other passes through as it is,
so that the packet can be written back. -/

namespace Tftp

/-- The reason that an ERROR packet gives. -/
inductive ErrorCode where
  | unknown
  | notFound
  | accessViolation
  | diskFull
  | illegalOperation
  | unknownTransfer
  | fileExists
  | noSuchUser
  /-- A number without a meaning. -/
  | unassigned (number : UInt16)
  deriving DecidableEq, Repr

namespace ErrorCode

/-- The number of the code on the wire. -/
def toWord : ErrorCode → UInt16
  | unknown => 0
  | notFound => 1
  | accessViolation => 2
  | diskFull => 3
  | illegalOperation => 4
  | unknownTransfer => 5
  | fileExists => 6
  | noSuchUser => 7
  | unassigned n => n

/-- The code with the given number. -/
def ofWord (w : UInt16) : ErrorCode :=
  if w = 0 then unknown
  else if w = 1 then notFound
  else if w = 2 then accessViolation
  else if w = 3 then diskFull
  else if w = 4 then illegalOperation
  else if w = 5 then unknownTransfer
  else if w = 6 then fileExists
  else if w = 7 then noSuchUser
  else unassigned w

/-- What the code means, in words. -/
def description : ErrorCode → String
  | unknown => "Not defined, see error message (if any)"
  | notFound => "File not found"
  | accessViolation => "Access violation"
  | diskFull => "Disk full or allocation exceeded"
  | illegalOperation => "Illegal TFTP operation"
  | unknownTransfer => "Unknown transfer ID"
  | fileExists => "File already exists"
  | noSuchUser => "No such user"
  | unassigned _ => "Unassigned error code"

/-- The description, with the number where the words do not tell it. -/
def display : ErrorCode → String
  | unassigned n => s!"Unassigned error code ({n})"
  | code => code.description

theorem toWord_ofWord (w : UInt16) : (ofWord w).toWord = w := by
  unfold ofWord
  repeat' split
  all_goals simp_all [toWord]

end ErrorCode
end Tftp
