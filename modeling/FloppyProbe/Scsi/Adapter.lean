import FloppyProbe.Mac.Adapter
import FloppyProbe.Transport
import FloppyProbe.Ufi.Commands

/-!
# The SCSI transport

The transport of `src/scsi_macos.c`, which hands commands to SCSITaskLib, as programs that call
its device and task interfaces. `scsiTransport` gives the program behind each operation of the
transport, and `Scsi.macDestroy` is the end of it.

The memory that a task refers to is the buffer of its command: the call that executes a task
carries the content of the buffer, and its reply what the buffer holds afterwards. The
`describe_io_return` of this file is that of `src/usb_cbi_macos.c`.
-/

namespace M65

open Interaction

/-! ## Calls -/

/-- The address of a `SCSITaskInterface *`. -/
abbrev TaskRef : Type := ℕ

/-- The size of `SCSI_Sense_Data`. -/
abbrev scsiSenseLength : ℕ := 18

abbrev kScsiDataTransferNoDataTransfer : UInt8 := 0
abbrev kScsiDataTransferFromInitiatorToTarget : UInt8 := 1
abbrev kScsiDataTransferFromTargetToInitiator : UInt8 := 2

/-- The functions of SCSITaskLib that the transport calls. -/
inductive ScsiCall where
  | obtainExclusiveAccess
  | releaseExclusiveAccess
  | createScsiTask
  | setCommandDescriptorBlock (task : TaskRef) (cdb : List UInt8)
  /-- `ranges` are the lengths of the memory ranges; there is at most one. -/
  | setScatterGatherEntries (task : TaskRef) (ranges : List ℕ) (transferCount : ℕ)
      (transferDirection : UInt8)
  | setTimeoutDuration (task : TaskRef) (milliseconds : ℕ)
  | executeTaskSync {n : ℕ} (task : TaskRef) (buffer : Vector UInt8 n)
  | releaseTask (task : TaskRef)
  | releaseDevice

/-- The result of a task, with what its out-parameters and its memory hold afterwards. -/
structure TaskReply (n : ℕ) where
  result : IOReturn
  sense : Vector UInt8 scsiSenseLength
  taskStatus : UInt32
  realized : UInt64
  buffer : Vector UInt8 n
deriving DecidableEq

/-- What each of them returns. -/
abbrev ScsiReply : ScsiCall → Type
  | .obtainExclusiveAccess => IOReturn
  | .releaseExclusiveAccess => IOReturn
  | .createScsiTask => Option TaskRef
  | .setCommandDescriptorBlock _ _ => IOReturn
  | .setScatterGatherEntries _ _ _ _ => IOReturn
  | .setTimeoutDuration _ _ => IOReturn
  | .executeTaskSync (n := n) _ _ => TaskReply n
  | .releaseTask _ => UInt32
  | .releaseDevice => UInt32

/-- `MacScsiContext`. -/
structure MacScsiContext where
  /-- `device` is not NULL. -/
  device : Bool := true
  exclusive : Bool := false
deriving DecidableEq

/-- A program of the transport over the calls of SCSITaskLib. -/
abbrev ScsiIo : Type → Type := Prog MacScsiContext ScsiReply

/-- A call of SCSITaskLib in a run of the transport, with its reply. -/
abbrev ScsiEvent : Type := Event MacScsiContext ScsiReply

namespace Scsi

/-! ## Exclusive access -/

/-- `map_io_return`: what the workflow is told about a result. -/
def mapIoReturn (result : IOReturn) : TransportStatus :=
  if result = kIOReturnSuccess then .ok
  else if result = kIOReturnNotPrivileged ∨ result = kIOReturnNotPermitted then .permission
  else if result = kIOReturnNoDevice ∨ result = kIOReturnOffline then .noDevice
  else if result = kIOReturnTimeout then .timeout
  else .io

/-- `mac_acquire`. -/
def macAcquire (detail : ErrorText) : ScsiIo StatusReply := do
  let context ← get
  if context.exclusive then
    return ⟨.ok, detail⟩
  let result : IOReturn ← Prog.call ScsiCall.obtainExclusiveAccess
  if result = kIOReturnSuccess then
    modify fun context => { context with exclusive := true }
    return ⟨.ok, detail⟩
  let described := describeIoReturn "ObtainExclusiveAccess" result
  if mapIoReturn result = .permission then
    return ⟨mapIoReturn result, Text.format [
      str "permission denied obtaining exclusive SCSI access; ",
      str "rerun manually with sudo if you trust this diagnostic"]⟩
  return ⟨mapIoReturn result, described⟩

/-- `mac_release`: a release that fails leaves the access exclusive. -/
def macRelease (detail : ErrorText) : ScsiIo StatusReply := do
  let context ← get
  if !context.exclusive then
    return ⟨.ok, detail⟩
  let result : IOReturn ← Prog.call ScsiCall.releaseExclusiveAccess
  if result = kIOReturnSuccess then
    modify fun context => { context with exclusive := false }
    return ⟨.ok, detail⟩
  return ⟨mapIoReturn result, describeIoReturn "ReleaseExclusiveAccess" result⟩

/-! ## Tasks -/

/-- The direction of a transfer as SCSITaskLib names it. -/
def transferDirection : DataDirection → UInt8
  | .none => kScsiDataTransferNoDataTransfer
  | .dataIn => kScsiDataTransferFromTargetToInitiator
  | .dataOut => kScsiDataTransferFromInitiatorToTarget

/-- The result of a command of which a step before its execution failed. -/
def setupFailure (operation : String) (result : IOReturn) : CommandResult where
  transportStatus := mapIoReturn result
  detail := describeIoReturn operation result

/-- The result of `mac_execute` after `ExecuteTaskSync`. -/
def taskResult {n : ℕ} (reply : TaskReply n) : CommandResult :=
  let result : CommandResult :=
    { transportStatus := mapIoReturn reply.result, scsiStatus := reply.taskStatus.toUInt8 }
  -- `SIZE_MAX` is the largest `UInt64`
  let result :=
    if reply.realized.toNat < UInt64.size then
      { result with transferred := reply.realized.toNat }
    else
      { result with
        transportStatus := .protocol
        detail := errorText "realized transfer count exceeds size_t" }
  let result :=
    { result with sense := (parseSense reply.sense.toList scsiSenseLength).2 }
  -- the text of a failed execution takes the place of the one about the count
  if reply.result ≠ kIOReturnSuccess then
    { result with detail := describeIoReturn "ExecuteTaskSync" reply.result }
  else
    result

/-- The bytes that `SetCommandDescriptorBlock` gets, whose length is cast to `UInt8`. -/
def cdbBytes (command : Command) : List UInt8 :=
  command.cdb.toList.take (UInt8.ofNat command.cdbLength).toNat

/-- `SetScatterGatherEntries` for a command. -/
def setScatterGather (task : TaskRef) (command : Command) : ScsiIo IOReturn :=
  if command.direction = .none then
    Prog.call (ScsiCall.setScatterGatherEntries task [] 0 kScsiDataTransferNoDataTransfer)
  else
    Prog.call (ScsiCall.setScatterGatherEntries task [command.dataLength] command.dataLength
      (transferDirection command.direction))

/-- `mac_execute` between the creation of its task and `cleanup`; `buffer` is the content of the
command's buffer. -/
def runTask (task : TaskRef) (command : Command) (buffer : Vector UInt8 command.dataLength) :
    ScsiIo (ExecuteReply command.dataLength) := do
  -- the first step that fails decides the result, and the task is released behind it
  let described : IOReturn ←
    Prog.call (ScsiCall.setCommandDescriptorBlock task (cdbBytes command))
  if described ≠ kIOReturnSuccess then
    return ⟨setupFailure "set CDB" described, buffer⟩
  let scattered ← setScatterGather task command
  if scattered ≠ kIOReturnSuccess then
    return ⟨setupFailure "set scatter/gather data" scattered, buffer⟩
  let timed : IOReturn ← Prog.call (ScsiCall.setTimeoutDuration task command.timeoutMs)
  if timed ≠ kIOReturnSuccess then
    return ⟨setupFailure "set timeout" timed, buffer⟩
  let reply : TaskReply command.dataLength ← Prog.call (ScsiCall.executeTaskSync task buffer)
  return ⟨taskResult reply, reply.buffer⟩

/-- A result of `mac_execute` before there is a task. -/
def refusal (status : TransportStatus) (detail : ErrorText) : CommandResult where
  transportStatus := status
  detail := detail

/-- `mac_execute`: a command becomes a task, which is destroyed in every case. -/
def macExecute (command : Command) : ScsiIo (ExecuteReply command.dataLength) := do
  let buffer := command.data.getD (Vector.replicate command.dataLength 0)
  let context ← get
  if !context.exclusive then
    return ⟨refusal .protocol (errorText "SCSI command attempted without exclusive access"), buffer⟩
  match validateCommand command with
  | .error detail =>
      -- a command that the allowlist refuses makes no task
      return ⟨refusal .protocol (if detail.bytes ≠ [] then detail
        else errorText "command failed diagnostic allowlist validation"), buffer⟩
  | .ok () =>
      let created : Option TaskRef ← Prog.call ScsiCall.createScsiTask
      match created with
      | none => return ⟨refusal .io (errorText "CreateSCSITask returned NULL"), buffer⟩
      | some task =>
          let reply ← runTask task command buffer
          let _ ← Prog.call (ScsiCall.releaseTask task)
          return reply

/-- `mac_destroy` up to the end of the context. -/
def macDestroy : ScsiIo Unit := do
  let context ← get
  if context.exclusive then
    let _ ← Prog.call ScsiCall.releaseExclusiveAccess
    modify fun context => { context with exclusive := false }
  if context.device then
    let _ ← Prog.call ScsiCall.releaseDevice

end Scsi

/-- The operation of the transport behind each call. -/
def scsiTransport : (call : TransportCall) → ScsiIo (TransportReply call)
  | .acquireExclusive detail => Scsi.macAcquire detail
  | .execute command => Scsi.macExecute command
  | .releaseExclusive detail => Scsi.macRelease detail

end M65
