import FloppyProbe.Types

/-!
# The adapter interface

The operations of `M65CbiIoOps` as calls, with the type of the reply to each of them. A call
carries the caller's error text buffer, and its reply what the operation left there.
-/

namespace M65

/-- The length of a command block on the wire, `M65_CBI_CDB_LENGTH`. -/
abbrev cbiCdbLength : ℕ := 12

/-- The length of an interrupt completion, `M65_CBI_STATUS_LENGTH`. -/
abbrev cbiStatusLength : ℕ := 2

/-- How a call of the adapter went, `M65CbiIoStatus`. -/
inductive CbiIoStatus where
  | ok
  | stall
  | permission
  | noDevice
  | timeout
  | error
  | protocol
deriving DecidableEq, Inhabited

/-- The value of the enumeration. -/
def CbiIoStatus.code : CbiIoStatus → ℕ
  | .ok => 0
  | .stall => 1
  | .permission => 2
  | .noDevice => 3
  | .timeout => 4
  | .error => 5
  | .protocol => 6

/-- A status with the content of the caller's error text after the call. -/
structure CbiReply where
  status : CbiIoStatus
  detail : ErrorText
deriving DecidableEq

/-- The reply of `bulk_in` for a buffer of `n` bytes. -/
structure BulkInReply (n : ℕ) extends CbiReply where
  buffer : Vector UInt8 n
  transferred : ℕ
deriving DecidableEq

/-- The reply to a bulk-out transfer. -/
structure BulkOutReply extends CbiReply where
  transferred : ℕ
deriving DecidableEq

/-- The reply to a read of the interrupt pipe. -/
structure InterruptReply extends CbiReply where
  completion : Vector UInt8 cbiStatusLength
  transferred : ℕ
deriving DecidableEq

/-- The operations of an adapter. `transferred` is zero before each call that returns it. -/
inductive CbiIoCall where
  | openSeize (detail : ErrorText)
  | close (detail : ErrorText)
  | adsc (cdb : Vector UInt8 cbiCdbLength) (timeoutMs : ℕ) (detail : ErrorText)
  | bulkIn {n : ℕ} (buffer : Vector UInt8 n) (timeoutMs : ℕ) (detail : ErrorText)
  | bulkOut {n : ℕ} (buffer : Vector UInt8 n) (timeoutMs : ℕ) (detail : ErrorText)
  | interruptInWithDeadline (completion : Vector UInt8 cbiStatusLength) (timeoutMs : ℕ)
      (detail : ErrorText)
  | clearStall (direction : DataDirection) (detail : ErrorText)
  | prepareCommandBlockReset (detail : ErrorText)
  | finishCommandBlockReset (recovered : Bool) (detail : ErrorText)

/-- The reply to each of the operations. -/
abbrev CbiIoReply : CbiIoCall → Type
  | .openSeize _ => CbiReply
  | .close _ => CbiReply
  | .adsc _ _ _ => CbiReply
  | .bulkIn (n := n) _ _ _ => BulkInReply n
  | .bulkOut _ _ _ => BulkOutReply
  | .interruptInWithDeadline _ _ _ => InterruptReply
  | .clearStall _ _ => CbiReply
  | .prepareCommandBlockReset _ => CbiReply
  | .finishCommandBlockReset _ _ => CbiReply

end M65
