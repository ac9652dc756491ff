import FloppyProbe.Cbi.Adapter
import FloppyProbe.Interaction.Program

/-!
# The environment of the macOS adapter

The calls that `src/usb_cbi_macos.c` makes outside itself (IOUSBLib, the run loop, the clock, the
allocator and `geteuid`), with the types of their replies, and the state that the adapter keeps.

The deadline of a wait is asked for once, and its reply is the number of rounds of the run loop
that start before it. In a round, the run loop may fire one completion callback. Which callbacks
IOUSBLib still holds is part of the state, so that a callback fires at most once.
-/

namespace M65

open Interaction

/-! ## Results -/

/-- A result of IOKit: zero for success, or an error code. -/
abbrev IOReturn : Type := UInt32

abbrev kIOReturnSuccess : IOReturn := 0
abbrev kIOReturnNoDevice : IOReturn := 0xe00002c0
abbrev kIOReturnNotPrivileged : IOReturn := 0xe00002c1
abbrev kIOReturnBadArgument : IOReturn := 0xe00002c2
abbrev kIOReturnExclusiveAccess : IOReturn := 0xe00002c5
abbrev kIOReturnUnsupported : IOReturn := 0xe00002c7
abbrev kIOReturnTimeout : IOReturn := 0xe00002d6
abbrev kIOReturnOffline : IOReturn := 0xe00002d7
abbrev kIOReturnNotReady : IOReturn := 0xe00002d8
abbrev kIOReturnNotPermitted : IOReturn := 0xe00002e2
abbrev kIOUSBPipeStalled : IOReturn := 0xe000404f
abbrev kIOUSBTransactionTimeout : IOReturn := 0xe0004051

abbrev kUSBOut : UInt8 := 0
abbrev kUSBIn : UInt8 := 1
abbrev kUSBBulk : UInt8 := 2
abbrev kUSBInterrupt : UInt8 := 3

/-! ## Calls -/

/-- The fields of `IOUSBDevRequestTO` that the adapter sets. -/
structure IoUsbDevRequestTO where
  bmRequestType : UInt8
  bRequest : UInt8
  wValue : UInt16
  wIndex : UInt16
  wLength : UInt16
  pData : Vector UInt8 cbiCdbLength
  noDataTimeout : ℕ
  completionTimeout : ℕ
deriving DecidableEq

/-- The address of a `MacInterruptRequest`. -/
abbrev RequestRef : Type := ℕ

/-- A run loop, and with it the thread that it belongs to. -/
structure RunLoopRef where
  thread : ℕ
deriving DecidableEq

/-- The functions of IOUSBLib, of the run loop and of the system that the adapter calls. -/
inductive IoUsbCall where
  | usbInterfaceOpenSeize
  | usbInterfaceClose
  | getInterfaceClass
  | getInterfaceSubClass
  | getInterfaceProtocol
  | getInterfaceNumber
  | getNumEndpoints
  | getPipeProperties (pipe : UInt8)
  | createInterfaceAsyncEventSource
  | controlRequestTO (pipe : UInt8) (request : IoUsbDevRequestTO)
  | readPipeTO {n : ℕ} (pipe : UInt8) (buffer : Vector UInt8 n)
      (noDataTimeout completionTimeout : ℕ)
  | writePipeTO {n : ℕ} (pipe : UInt8) (buffer : Vector UInt8 n)
      (noDataTimeout completionTimeout : ℕ)
  | readPipeAsync (pipe : UInt8) (request : RequestRef)
  | abortPipe (pipe : UInt8)
  | clearPipeStallBothEnds (pipe : UInt8)
  | geteuid
  | calloc
  /-- The deadline of a wait is set. -/
  | deadline (milliseconds : ℕ)
  /-- `CFRunLoopRunInMode`, which returns after one source was handled. -/
  | runLoopRound

/-- A result with the byte that the call stored. -/
structure ByteReply where
  result : IOReturn
  value : UInt8
deriving DecidableEq

/-- What `GetPipeProperties` stores for one pipe. -/
structure PipeProperties where
  result : IOReturn
  direction : UInt8
  endpointNumber : UInt8
  transferType : UInt8
  maxPacketSize : UInt16
  interval : UInt8
deriving DecidableEq

/-- A result, and whether `event_source` points to a source after the call. -/
structure EventSourceReply where
  result : IOReturn
  source : Bool
deriving DecidableEq

/-- The answer to `ControlRequestTO`: how many bytes the device took is `wLenDone`. -/
structure ControlReply where
  result : IOReturn
  wLenDone : UInt32
deriving DecidableEq

/-- The answer to `ReadPipeTO`: the length that was read, and the buffer after the call. -/
structure ReadPipeReply (n : ℕ) where
  result : IOReturn
  length : UInt32
  buffer : Vector UInt8 n
deriving DecidableEq

/-- A completion callback, with what the transfer left in the buffer of the request. -/
structure Completion where
  request : RequestRef
  result : IOReturn
  transferred : ℕ
  buffer : Vector UInt8 cbiStatusLength
deriving DecidableEq

/-- What each call of IOUSBLib returns. -/
abbrev IoUsbReply : IoUsbCall → Type
  | .usbInterfaceOpenSeize => IOReturn
  | .usbInterfaceClose => IOReturn
  | .getInterfaceClass => ByteReply
  | .getInterfaceSubClass => ByteReply
  | .getInterfaceProtocol => ByteReply
  | .getInterfaceNumber => ByteReply
  | .getNumEndpoints => ByteReply
  | .getPipeProperties _ => PipeProperties
  | .createInterfaceAsyncEventSource => EventSourceReply
  | .controlRequestTO _ _ => ControlReply
  | .readPipeTO (n := n) _ _ _ _ => ReadPipeReply n
  | .writePipeTO _ _ _ _ => IOReturn
  | .readPipeAsync _ _ => IOReturn
  | .abortPipe _ => IOReturn
  | .clearPipeStallBothEnds _ => IOReturn
  | .geteuid => ℕ
  | .calloc => Bool
  | .deadline _ => ℕ
  | .runLoopRound => Option Completion

/-! ## State -/

/-- `MacInterruptRequest`: a pending or completed read of the interrupt pipe. -/
structure MacInterruptRequest where
  /-- One reference belongs to the context and one to a submitted callback. -/
  references : ℕ
  complete : Bool := false
  result : IOReturn := 0
  transferred : ℕ := 0
  buffer : Vector UInt8 cbiStatusLength := Vector.replicate cbiStatusLength 0
deriving DecidableEq

/-- `MacCbiContext`: what the adapter keeps from one operation to the next. -/
structure MacCbiContext where
  /-- `event_source` is not NULL. -/
  eventSource : Bool := false
  runLoop : Option RunLoopRef := none
  interfaceNumber : UInt8 := 0
  bulkInPipe : UInt8 := 0
  bulkOutPipe : UInt8 := 0
  interruptInPipe : UInt8 := 0
  isOpen : Bool := false
  desynchronized : Bool := false
  resetArmed : Bool := false
  interruptRequest : Option RequestRef := none
deriving DecidableEq

/-- The context, every request that was ever allocated (nothing in the place of a freed one), and
the requests whose callback IOUSBLib holds. -/
structure MacState where
  context : MacCbiContext := {}
  requests : List (Option MacInterruptRequest) := []
  outstanding : List RequestRef := []
deriving DecidableEq

/-- A program of the adapter over the calls of IOUSBLib. -/
abbrev MacIo : Type → Type := Prog MacState IoUsbReply

/-- A call of IOUSBLib in a run of the adapter, with its reply. -/
abbrev MacEvent : Type := Event MacState IoUsbReply

end M65
