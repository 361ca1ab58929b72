/-! # Rules of decoding and transfer

The wire format is fixed; what may be chosen is how strictly a peer's datagrams are judged and what
happens at the end of the block counter's range. -/

namespace Tftp

/-- How strictly datagrams are judged. -/
structure DecodeRules where
  /-- Refuse error messages that are not valid UTF-8 instead of keeping their octets. -/
  strictText : Bool := false
  /-- Refuse read requests that go on after their mode instead of ignoring the rest. -/
  rejectRequestOptions : Bool := false
  deriving DecidableEq, Repr, Inhabited

/-- How a transfer numbers its blocks. -/
structure TransferRules where
  /-- After block 65535 the counter goes on with 0 instead of ending the transfer. -/
  allowRollover : Bool := true
  /-- The most blocks that a transfer may have; zero for no bound. -/
  maxBlocks : UInt32 := 0
  deriving DecidableEq, Repr, Inhabited

end Tftp
