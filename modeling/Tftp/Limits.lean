/-! # Fixed sizes of the protocol

A datagram is a header of four octets and at most one block of file content; the sizes do not
depend on any setting. -/

namespace Tftp

/-- The longest datagram. -/
def datagramSize : Nat := 516

/-- The length of an opcode and the word after it. -/
def headerSize : Nat := 4

/-- The content of a full block. -/
def blockSize : Nat := datagramSize - headerSize

/-- The one transfer mode that is accepted. -/
def octetMode : String := "octet"

end Tftp
