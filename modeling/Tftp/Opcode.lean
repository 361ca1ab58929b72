/-! # Opcodes

The first word of a datagram names its kind. Writing files is not served: the number of the write
request is set aside and read as no kind at all. -/

namespace Tftp

/-- The kind of a packet. -/
inductive Opcode where
  | readRequest
  | data
  | acknowledgment
  | error
  deriving DecidableEq, Repr

namespace Opcode

/-- The number that stands for the kind on the wire. -/
def toWord : Opcode → UInt16
  | readRequest => 1
  | data => 3
  | acknowledgment => 4
  | error => 5

/-- The kind with the given number. -/
def ofWord? (w : UInt16) : Option Opcode :=
  if w = 1 then some readRequest
  else if w = 3 then some data
  else if w = 4 then some acknowledgment
  else if w = 5 then some error
  else none

/-- The number of the write request, which is no opcode here. -/
def reservedWriteRequest : UInt16 := 2

/-- The short name of the kind. -/
def mnemonic : Opcode → String
  | readRequest => "RRQ"
  | data => "DATA"
  | acknowledgment => "ACK"
  | error => "ERROR"

theorem ofWord?_toWord (k : Opcode) : ofWord? k.toWord = some k := by
  cases k <;> rfl

theorem ofWord?_eq_some_iff {w : UInt16} {k : Opcode} : ofWord? w = some k ↔ w = k.toWord := by
  constructor
  · unfold ofWord?
    intro h
    split at h
    · cases h; assumption
    · split at h
      · cases h; assumption
      · split at h
        · cases h; assumption
        · split at h
          · cases h; assumption
          · cases h
  · rintro rfl
    exact ofWord?_toWord k

theorem toNat_mem_iff {w : UInt16} :
    w.toNat ∈ [1, 3, 4, 5] ↔ ∃ kind, ofWord? w = some kind := by
  simp only [ofWord?_eq_some_iff, ← UInt16.toNat_inj, List.mem_cons, List.not_mem_nil, or_false]
  constructor
  · rintro (h | h | h | h)
    · exact ⟨.readRequest, h⟩
    · exact ⟨.data, h⟩
    · exact ⟨.acknowledgment, h⟩
    · exact ⟨.error, h⟩
  · rintro ⟨kind, h⟩
    rw [h]
    cases kind <;> decide

end Opcode
end Tftp
