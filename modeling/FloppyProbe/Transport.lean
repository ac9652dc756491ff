import FloppyProbe.Types

/-!
# The transport interface

The operations of `M65TransportOps` as calls, with the type of the reply to each of them.
-/

namespace M65

/-- A status with the content of the caller's error text buffer after the call. -/
structure StatusReply where
  status : TransportStatus
  detail : ErrorText
deriving DecidableEq

/-- The operations of a transport; `detail` is the caller's error text buffer before the call. -/
inductive TransportCall where
  | acquireExclusive (detail : ErrorText)
  | execute (command : Command)
  | releaseExclusive (detail : ErrorText)

/-- The reply to each of the operations. -/
abbrev TransportReply : TransportCall → Type
  | .acquireExclusive _ => StatusReply
  | .execute command => ExecuteReply command.dataLength
  | .releaseExclusive _ => StatusReply

end M65
