import FloppyProbe.Cbi.Engine
import FloppyProbe.Mac.IoUsb

/-!
# The macOS adapter

The operations of `mac_cbi_ops` of `src/usb_cbi_macos.c`, as programs that call IOUSBLib and whose
local state is the adapter's context with its completion requests. `macIo current` gives the
program behind each operation, when it is called on the thread of the run loop `current`.

Calls without a result (`CFRetain`, `CFRelease` and the like) are left out.
-/

namespace M65

open Interaction

/-! ## Results -/

/-- `describe_io_return`: the detail becomes the failure of one operation. -/
def describeIoReturn (operation : String) (result : IOReturn) : ErrorText :=
  Text.format [str operation, str " failed with IOReturn 0x", hexDigits 8 result.toNat]

/-- `append_io_return`: a failure is written behind what the detail says already. -/
def appendIoReturn (detail : ErrorText) (operation : String) (result : IOReturn) : ErrorText :=
  Text.format [detail.bytes, if detail.bytes = [] then [] else str "; ", str operation,
    str " failed with IOReturn 0x", hexDigits 8 result.toNat]

/-- `map_io_return`: what the engine is told about a result. -/
def mapIoReturn (result : IOReturn) : CbiIoStatus :=
  if result = kIOReturnSuccess then .ok
  else if result = kIOUSBPipeStalled then .stall
  else if result = kIOReturnNotPrivileged ∨ result = kIOReturnNotPermitted ∨
      result = kIOReturnExclusiveAccess then .permission
  else if result = kIOReturnNoDevice ∨ result = kIOReturnOffline then .noDevice
  else if result = kIOReturnTimeout ∨ result = kIOUSBTransactionTimeout then .timeout
  else if result = kIOReturnBadArgument ∨ result = kIOReturnUnsupported then .protocol
  else .error

/-- The results after which `mac_adsc` and the bulk transfers mark the context. -/
def isTimeout (result : IOReturn) : Bool :=
  result == kIOReturnTimeout || result == kIOUSBTransactionTimeout

/-! ## Completion requests -/

namespace MacState

/-- The request at the address `ref`, unless it was freed. -/
def request? (m : MacState) (ref : RequestRef) : Option MacInterruptRequest :=
  m.requests[ref]?.join

/-- The state with another request, or a freed one, at `ref`. -/
def setRequest (m : MacState) (ref : RequestRef) (request : Option MacInterruptRequest) :
    MacState :=
  { m with requests := m.requests.set ref request }

/-- `interrupt_request_release`: the last reference frees the request. -/
def interruptRequestRelease (m : MacState) (ref : RequestRef) : MacState :=
  match m.request? ref with
  | none => m
  | some request =>
      m.setRequest ref (if request.references = 1 then none
        else some { request with references := request.references - 1 })

/-- `release_interrupt_request`. -/
def releaseInterruptRequest (m : MacState) : MacState :=
  match m.context.interruptRequest with
  | none => m
  | some ref =>
      { m with context := { m.context with interruptRequest := none } }.interruptRequestRelease ref

/-- `interrupt_callback` for a callback that IOUSBLib holds. -/
def interruptCallback (m : MacState) (completion : Completion) : MacState :=
  let m := { m with outstanding := m.outstanding.erase completion.request }
  match m.request? completion.request with
  | none => m
  | some request =>
      (m.setRequest completion.request (some
        { request with
          result := completion.result
          transferred := completion.transferred
          buffer := completion.buffer
          complete := true })).interruptRequestRelease completion.request

/-- A round of the run loop. A callback that IOUSBLib does not hold cannot fire. -/
def fire (m : MacState) : Option Completion → MacState
  -- the round ended without a callback
  | none => m
  | some completion =>
      if completion.request ∈ m.outstanding then m.interruptCallback completion else m

/-- `interrupt_request_complete(context->interrupt_request)`. -/
def interruptRequestComplete (m : MacState) : Bool :=
  match m.context.interruptRequest.bind m.request? with
  | none => false
  | some request => request.complete

/-- The request that `mac_interrupt_in_with_deadline` allocates, at the next free address. -/
def allocateRequest (m : MacState) : MacState :=
  { m with
    context := { m.context with interruptRequest := some m.requests.length }
    requests := m.requests ++ [some { references := 2, result := kIOReturnNotReady }] }

end MacState

/-- A change of the context. -/
def updateContext (f : MacCbiContext → MacCbiContext) : MacIo Unit :=
  modify fun m => { m with context := f m.context }

/-- The loop of `run_until_interrupt`, with the given number of rounds before the deadline. -/
def runRounds : ℕ → MacIo Bool
  | 0 => do
      let m ← get
      return m.interruptRequestComplete
  | rounds + 1 => do
      let m ← get
      if m.interruptRequestComplete then
        return true
      let fired : Option Completion ← Prog.call IoUsbCall.runLoopRound
      modify fun m => m.fire fired
      runRounds rounds

/-- `run_until_interrupt`: the run loop turns until the request is complete or the deadline is
over. -/
def runUntilInterrupt (milliseconds : ℕ) : MacIo Bool := do
  let rounds : ℕ ← Prog.call (IoUsbCall.deadline milliseconds)
  runRounds rounds

/-- `M65_INTERRUPT_ABORT_DRAIN_SECONDS`. -/
abbrev interruptAbortDrainMs : ℕ := 2000

/-- `abort_and_drain_interrupt`: a request that is still pending is aborted, and its callback is
awaited. -/
def abortAndDrainInterrupt : MacIo IOReturn := do
  let m ← get
  if m.context.interruptRequest.isNone || m.interruptRequestComplete then
    return kIOReturnSuccess
  let result : IOReturn ← Prog.call (IoUsbCall.abortPipe m.context.interruptInPipe)
  if result ≠ kIOReturnSuccess then
    return result
  -- the abort only asks for the callback, which the run loop has to deliver
  let drained ← runUntilInterrupt interruptAbortDrainMs
  return if drained then kIOReturnSuccess else kIOReturnTimeout

/-! ## Gates -/

/-- `on_transport_run_loop`: the caller is on the thread that the event source belongs to. -/
def onTransportRunLoop (current : RunLoopRef) (context : MacCbiContext) : Bool :=
  context.runLoop.isNone || context.runLoop == some current

/-- The detail of `on_transport_run_loop`. -/
def wrongThread : ErrorText :=
  errorText "USB CBI transport must be used and released on its acquiring thread"

/-- `is_command_block_reset`: the twelve bytes of the CBI reset block. -/
def isCommandBlockReset (cdb : Vector UInt8 cbiCdbLength) : Bool :=
  cdb.toArray == #[0x1d, 0x04, 0xff, 0xff, 0xff, 0xff, 0xff, 0xff, 0xff, 0xff, 0xff, 0xff]

/-- The refusal of a desynchronised context. -/
def resetRequired : ErrorText := errorText "USB CBI transport requires command-block reset recovery"

/-- Why `ready_for_adsc` refuses a command block, if it does. -/
def readyForAdsc (current : RunLoopRef) (context : MacCbiContext)
    (cdb : Vector UInt8 cbiCdbLength) : Option ErrorText :=
  let reset := isCommandBlockReset cdb
  if !onTransportRunLoop current context then
    some wrongThread
  else if context.interruptRequest.isSome then
    some (errorText "USB CBI transport has a pending completion interrupt")
  -- between prepare and finish the reset is the only block that may pass, and never outside
  else if context.resetArmed != reset then
    some (if reset then errorText "unarmed CBI command-block reset was rejected"
      else errorText "only the armed CBI command-block reset is permitted during recovery")
  else if context.desynchronized && !reset then
    some resetRequired
  else
    none

/-! ## Opening and closing -/

abbrev usbMassStorageClass : UInt8 := 0x08
abbrev usbUfiSubclass : UInt8 := 0x04
abbrev usbCbiProtocol : UInt8 := 0x00

/-- The loop of `inspect_endpoints` over the remaining pipes. -/
def inspectPipes (detail : ErrorText) : List UInt8 → MacIo (Bool × ErrorText)
  | [] => return (true, detail)
  | pipe :: pipes => do
      let properties : PipeProperties ← Prog.call (IoUsbCall.getPipeProperties pipe)
      let m ← get
      let context := m.context
      if properties.result ≠ kIOReturnSuccess then
        return (false, describeIoReturn "enumerate USB CBI endpoints" properties.result)
      -- a pipe number of 0 stands for an endpoint that was not seen yet
      if properties.transferType = kUSBBulk ∧ properties.direction = kUSBIn ∧
          context.bulkInPipe = 0 then
        updateContext fun context => { context with bulkInPipe := pipe }
        inspectPipes detail pipes
      else if properties.transferType = kUSBBulk ∧ properties.direction = kUSBOut ∧
          context.bulkOutPipe = 0 then
        updateContext fun context => { context with bulkOutPipe := pipe }
        inspectPipes detail pipes
      else if properties.transferType = kUSBInterrupt ∧ properties.direction = kUSBIn ∧
          properties.maxPacketSize.toNat = cbiStatusLength ∧ context.interruptInPipe = 0 then
        updateContext fun context => { context with interruptInPipe := pipe }
        inspectPipes detail pipes
      else
        return (false, errorText "USB CBI endpoint set is duplicated or malformed")

/-- `inspect_endpoints` from the comparison of the descriptors on. -/
def inspectPipeSet (endpointCount : UInt8) (detail : ErrorText) : MacIo (Bool × ErrorText) := do
  updateContext fun context =>
    { context with bulkInPipe := 0, bulkOutPipe := 0, interruptInPipe := 0 }
  let pipes := (List.range endpointCount.toNat).map fun i => UInt8.ofNat (i + 1)
  let (inspected, detail) ← inspectPipes detail pipes
  if !inspected then
    return (false, detail)
  let m ← get
  if m.context.bulkInPipe = 0 ∨ m.context.bulkOutPipe = 0 ∨ m.context.interruptInPipe = 0 then
    return (false, errorText
      "USB CBI endpoint set lacks bulk-IN, bulk-OUT, or two-byte interrupt-IN")
  return (true, detail)

/-- `inspect_endpoints`: a UFI interface with one bulk pipe in each direction and an interrupt
pipe. -/
def inspectEndpoints (detail : ErrorText) : MacIo (Bool × ErrorText) := do
  let unread := describeIoReturn "read USB interface descriptors"
  let interfaceClass : ByteReply ← Prog.call IoUsbCall.getInterfaceClass
  if interfaceClass.result ≠ kIOReturnSuccess then
    return (false, unread interfaceClass.result)
  let interfaceSubclass : ByteReply ← Prog.call IoUsbCall.getInterfaceSubClass
  if interfaceSubclass.result ≠ kIOReturnSuccess then
    return (false, unread interfaceSubclass.result)
  let interfaceProtocol : ByteReply ← Prog.call IoUsbCall.getInterfaceProtocol
  if interfaceProtocol.result ≠ kIOReturnSuccess then
    return (false, unread interfaceProtocol.result)
  let interfaceNumber : ByteReply ← Prog.call IoUsbCall.getInterfaceNumber
  -- the call stores through its pointer whether or not it succeeds
  updateContext fun context => { context with interfaceNumber := interfaceNumber.value }
  if interfaceNumber.result ≠ kIOReturnSuccess then
    return (false, unread interfaceNumber.result)
  let endpointCount : ByteReply ← Prog.call IoUsbCall.getNumEndpoints
  if endpointCount.result ≠ kIOReturnSuccess then
    return (false, unread endpointCount.result)
  if interfaceClass.value ≠ usbMassStorageClass ∨ interfaceSubclass.value ≠ usbUfiSubclass ∨
      interfaceProtocol.value ≠ usbCbiProtocol ∨ endpointCount.value ≠ 3 then
    return (false, errorText
      "selected USB interface is not an exact 08/04/00 UFI CBI interface with three endpoints")
  inspectPipeSet endpointCount.value detail

/-- `remove_event_source`. -/
def removeEventSource (context : MacCbiContext) : MacCbiContext :=
  { context with eventSource := false, runLoop := none }

/-- The return of `mac_open_seize` after a refused `USBInterfaceOpenSeize`. -/
def seizureFailure (result : IOReturn) : MacIo CbiReply := do
  if result = kIOReturnExclusiveAccess then
    let described : ℕ ← Prog.call IoUsbCall.geteuid
    let detail := Text.format
      [str "macOS mass-storage driver refused USB interface seizure (IOReturn 0x",
        hexDigits 8 result.toNat, str ")",
        if described = 0 then str "; the interface remains unavailable even with root privileges"
        else str ("; retry manually with sudo to distinguish permission from a driver " ++
          "limitation")]
    -- the source asks a second time for the status that it returns
    let decided : ℕ ← Prog.call IoUsbCall.geteuid
    return ⟨if decided = 0 then .error else .permission, detail⟩
  if result = kIOReturnNotPrivileged ∨ result = kIOReturnNotPermitted then
    return ⟨.permission, Text.format
      [str "permission denied while seizing the selected USB interface (IOReturn 0x",
        hexDigits 8 result.toNat,
        str ("); the program never invokes sudo, so retry manually with sudo if local policy " ++
          "permits")]⟩
  return ⟨mapIoReturn result, describeIoReturn "USBInterfaceOpenSeize" result⟩

/-- `mac_open_seize` from `CreateInterfaceAsyncEventSource` on. -/
def attachEventSource (current : RunLoopRef) (detail : ErrorText) : MacIo CbiReply := do
  let created : EventSourceReply ← Prog.call IoUsbCall.createInterfaceAsyncEventSource
  updateContext fun context => { context with eventSource := created.source }
  if created.result ≠ kIOReturnSuccess ∨ created.source = false then
    let detail :=
      if created.result = kIOReturnSuccess then
        errorText "CreateInterfaceAsyncEventSource returned NULL"
      else
        describeIoReturn "CreateInterfaceAsyncEventSource" created.result
    updateContext removeEventSource
    -- the result of this close is ignored, and the context counts as closed
    let _ ← Prog.call IoUsbCall.usbInterfaceClose
    updateContext fun context => { context with isOpen := false }
    return ⟨if created.result = kIOReturnSuccess then .error else mapIoReturn created.result,
      detail⟩
  updateContext fun context => { context with runLoop := some current }
  return ⟨.ok, detail⟩

/-- `mac_open_seize`: the interface is opened, looked at, and connected to the run loop of the
caller. -/
def macOpenSeize (current : RunLoopRef) (detail : ErrorText) : MacIo CbiReply := do
  let m ← get
  if m.context.isOpen then
    return ⟨.ok, detail⟩
  let result : IOReturn ← Prog.call IoUsbCall.usbInterfaceOpenSeize
  if result ≠ kIOReturnSuccess then
    seizureFailure result
  else
    updateContext fun context =>
      { context with isOpen := true, desynchronized := false, resetArmed := false }
    let (inspected, detail) ← inspectEndpoints detail
    if !inspected then
      -- a rejected interface is closed again, and the result of that ignored
      let _ ← Prog.call IoUsbCall.usbInterfaceClose
      updateContext fun context => { context with isOpen := false }
      return ⟨.protocol, detail⟩
    attachEventSource current detail

/-- The abort of `mac_close`, with the error text that it leaves behind. -/
def abortBeforeClose (current : RunLoopRef) (detail : ErrorText) :
    MacIo (IOReturn × ErrorText) := do
  let m ← get
  if !onTransportRunLoop current m.context then
    return (kIOReturnBadArgument, wrongThread)
  let abortResult ← abortAndDrainInterrupt
  return (abortResult, detail)

/-- The context and the requests after `mac_close`. -/
def MacState.closed (m : MacState) : MacState :=
  let m := { m with context := { m.context with isOpen := false, resetArmed := false } }
  let m := m.releaseInterruptRequest
  { m with context := removeEventSource m.context }

/-- `mac_close`: what `USBInterfaceClose` returns decides about the status and not about the
state. -/
def macClose (current : RunLoopRef) (detail : ErrorText) : MacIo CbiReply := do
  let m ← get
  if !m.context.isOpen then
    return ⟨.ok, detail⟩
  let (abortResult, detail) ← abortBeforeClose current detail
  let result : IOReturn ← Prog.call IoUsbCall.usbInterfaceClose
  -- the context is closed whatever the two calls returned
  modify MacState.closed
  if abortResult ≠ kIOReturnSuccess then
    let detail :=
      if detail.bytes = [] then
        describeIoReturn "abort pending CBI interrupt before close" abortResult
      else
        detail
    return ⟨mapIoReturn abortResult,
      if result ≠ kIOReturnSuccess then appendIoReturn detail "USBInterfaceClose" result
      else detail⟩
  return ⟨mapIoReturn result,
    if result ≠ kIOReturnSuccess then describeIoReturn "USBInterfaceClose" result else detail⟩

/-! ## Transfers -/

/-- `M65CbiAdsc`: an Accept Device-Specific Command request. -/
structure CbiAdsc where
  requestType : UInt8
  request : UInt8
  value : UInt16
  index : UInt16
  length : UInt16
  cdb : Vector UInt8 cbiCdbLength
deriving DecidableEq

/-- `m65_cbi_build_adsc`, which succeeds whenever its pointers are not NULL. -/
def cbiBuildAdsc (interfaceNumber : UInt8) (cdb : Vector UInt8 cbiCdbLength) : CbiAdsc where
  requestType := 0x21
  request := 0x00
  value := 0
  index := interfaceNumber.toUInt16
  length := 12
  cdb := cdb

/-- The request that `mac_adsc` makes for an ADSC. -/
def CbiAdsc.devRequest (adsc : CbiAdsc) (timeoutMs : ℕ) : IoUsbDevRequestTO where
  bmRequestType := adsc.requestType
  bRequest := adsc.request
  wValue := adsc.value
  wIndex := adsc.index
  wLength := adsc.length
  pData := adsc.cdb
  noDataTimeout := timeoutMs
  completionTimeout := timeoutMs

/-- The context after the phases of an exchange went out of step. -/
def MacCbiContext.desynchronize (context : MacCbiContext) : MacCbiContext :=
  { context with desynchronized := true }

/-- `mac_adsc`: a command block goes out on the control pipe. -/
def macAdsc (current : RunLoopRef) (cdb : Vector UInt8 cbiCdbLength) (timeoutMs : ℕ)
    (detail : ErrorText) : MacIo CbiReply := do
  let m ← get
  match readyForAdsc current m.context cdb with
  | some refusal => return ⟨.protocol, refusal⟩
  | none =>
      let adsc := cbiBuildAdsc m.context.interfaceNumber cdb
      let reply : ControlReply ←
        Prog.call (IoUsbCall.controlRequestTO 0 (adsc.devRequest timeoutMs))
      if reply.result ≠ kIOReturnSuccess then
        if isTimeout reply.result then
          updateContext MacCbiContext.desynchronize
        return ⟨mapIoReturn reply.result, describeIoReturn "CBI ADSC command" reply.result⟩
      -- a block that went out in part leaves the device waiting for the rest
      if reply.wLenDone.toNat ≠ cbiCdbLength then
        updateContext MacCbiContext.desynchronize
        return ⟨.protocol, errorText "CBI ADSC command transferred fewer than 12 bytes"⟩
      return ⟨.ok, detail⟩

/-- The end of a bulk transfer on `pipe` with the given result: the error text that it leaves. -/
def bulkResult (pipe : UInt8) (name resynchronize : String) (result : IOReturn)
    (detail : ErrorText) : MacIo ErrorText := do
  if result = kIOReturnSuccess then
    return detail
  let detail := describeIoReturn name result
  -- only a timeout leaves the pipe where neither side knows what was transferred
  if !isTimeout result then
    return detail
  updateContext MacCbiContext.desynchronize
  let clearResult : IOReturn ← Prog.call (IoUsbCall.clearPipeStallBothEnds pipe)
  return if clearResult ≠ kIOReturnSuccess then appendIoReturn detail resynchronize clearResult
    else detail

/-- `mac_bulk_in`: one read of the bulk pipe. -/
def macBulkIn {n : ℕ} (current : RunLoopRef) (buffer : Vector UInt8 n) (timeoutMs : ℕ)
    (detail : ErrorText) : MacIo (BulkInReply n) := do
  let m ← get
  if !onTransportRunLoop current m.context then
    return ⟨⟨.protocol, wrongThread⟩, buffer, 0⟩
  -- the call of the pipe has a length of 32 bits
  if UInt32.size ≤ n then
    return ⟨⟨.protocol, errorText "CBI bulk-IN length exceeds UInt32"⟩, buffer, 0⟩
  let reply : ReadPipeReply n ←
    Prog.call (IoUsbCall.readPipeTO m.context.bulkInPipe buffer timeoutMs timeoutMs)
  let detail ← bulkResult m.context.bulkInPipe "CBI bulk-IN" "resynchronize bulk-IN after timeout"
    reply.result detail
  return ⟨⟨mapIoReturn reply.result, detail⟩, reply.buffer,
    if reply.result = kIOReturnSuccess then reply.length.toNat else 0⟩

/-- `mac_bulk_out`: one write to the bulk pipe. -/
def macBulkOut {n : ℕ} (current : RunLoopRef) (buffer : Vector UInt8 n) (timeoutMs : ℕ)
    (detail : ErrorText) : MacIo BulkOutReply := do
  let m ← get
  if !onTransportRunLoop current m.context then
    return ⟨⟨.protocol, wrongThread⟩, 0⟩
  if UInt32.size ≤ n then
    return ⟨⟨.protocol, errorText "CBI bulk-OUT length exceeds UInt32"⟩, 0⟩
  let result : IOReturn ←
    Prog.call (IoUsbCall.writePipeTO m.context.bulkOutPipe buffer timeoutMs timeoutMs)
  let detail ← bulkResult m.context.bulkOutPipe "CBI bulk-OUT"
    "resynchronize bulk-OUT after timeout" result detail
  return ⟨⟨mapIoReturn result, detail⟩, if result = kIOReturnSuccess then n else 0⟩

/-! ## The completion interrupt -/

/-- `mac_interrupt_in_with_deadline` after the deadline has passed. -/
def abandonInterrupt (completion : Vector UInt8 cbiStatusLength) : MacIo InterruptReply := do
  updateContext MacCbiContext.desynchronize
  let abortResult ← abortAndDrainInterrupt
  let detail := errorText "CBI interrupt-IN timed out and was aborted"
  if abortResult ≠ kIOReturnSuccess then
    -- a request that stays pending is kept: its callback still writes into it
    modify fun m => if m.interruptRequestComplete then m.releaseInterruptRequest else m
    return ⟨⟨mapIoReturn abortResult,
      appendIoReturn detail "abort timed-out interrupt-IN" abortResult⟩, completion, 0⟩
  let m ← get
  let clearResult : IOReturn ←
    Prog.call (IoUsbCall.clearPipeStallBothEnds m.context.interruptInPipe)
  modify MacState.releaseInterruptRequest
  return ⟨⟨.timeout,
    if clearResult ≠ kIOReturnSuccess then
      appendIoReturn detail "resynchronize interrupt-IN after timeout" clearResult
    else
      detail⟩, completion, 0⟩

/-- `status` after the `memcpy` of the bytes of the request, if they fit. -/
def copyStatus (completion : Vector UInt8 cbiStatusLength) (request : MacInterruptRequest) :
    Vector UInt8 cbiStatusLength :=
  if request.transferred ≤ cbiStatusLength then
    Vector.ofFn fun i =>
      if (i : ℕ) < request.transferred then request.buffer[(i : ℕ)]?.getD 0
      else completion[(i : ℕ)]?.getD 0
  else
    completion

/-- `mac_interrupt_in_with_deadline` after the request at `ref` was completed in time. -/
def takeCompletion (ref : RequestRef) (completion : Vector UInt8 cbiStatusLength)
    (detail : ErrorText) : MacIo InterruptReply := do
  let m ← get
  let request := (m.request? ref).getD { references := 0 }
  let completion := copyStatus completion request
  modify MacState.releaseInterruptRequest
  if request.result ≠ kIOReturnSuccess then
    updateContext MacCbiContext.desynchronize
    return ⟨⟨mapIoReturn request.result, describeIoReturn "CBI interrupt-IN" request.result⟩,
      completion, request.transferred⟩
  if request.transferred ≠ cbiStatusLength then
    updateContext MacCbiContext.desynchronize
    return ⟨⟨.protocol, errorText "CBI interrupt-IN did not return exactly two bytes"⟩,
      completion, request.transferred⟩
  return ⟨⟨.ok, detail⟩, completion, request.transferred⟩

/-- `mac_interrupt_in_with_deadline`: a request is submitted, and its callback is awaited until the
deadline. -/
def macInterruptInWithDeadline (current : RunLoopRef)
    (completion : Vector UInt8 cbiStatusLength) (timeoutMs : ℕ) (detail : ErrorText) :
    MacIo InterruptReply := do
  let m ← get
  if !onTransportRunLoop current m.context then
    return ⟨⟨.protocol, wrongThread⟩, completion, 0⟩
  if m.context.interruptRequest.isSome then
    return ⟨⟨.protocol, errorText "previous CBI interrupt request has not drained"⟩,
      completion, 0⟩
  let allocated : Bool ← Prog.call IoUsbCall.calloc
  if !allocated then
    return ⟨⟨.error, errorText "out of memory submitting CBI interrupt-IN"⟩, completion, 0⟩
  let ref : RequestRef := m.requests.length
  modify MacState.allocateRequest
  let result : IOReturn ← Prog.call (IoUsbCall.readPipeAsync m.context.interruptInPipe ref)
  if result ≠ kIOReturnSuccess then
    -- a failed submission cannot produce a completion callback
    modify fun m => (m.interruptRequestRelease ref).releaseInterruptRequest
    return ⟨⟨mapIoReturn result, describeIoReturn "submit CBI interrupt-IN" result⟩,
      completion, 0⟩
  modify fun m => { m with outstanding := ref :: m.outstanding }
  let completed ← runUntilInterrupt timeoutMs
  if completed then
    takeCompletion ref completion detail
  else
    abandonInterrupt completion

/-! ## Recovery -/

/-- `mac_clear_stall`. -/
def macClearStall (current : RunLoopRef) (bulkDirection : DataDirection) (detail : ErrorText) :
    MacIo CbiReply := do
  let m ← get
  if !onTransportRunLoop current m.context then
    return ⟨.protocol, wrongThread⟩
  if bulkDirection = .none then
    return ⟨.protocol, errorText "CBI stall clear requires a bulk direction"⟩
  let pipe := if bulkDirection = .dataIn then m.context.bulkInPipe else m.context.bulkOutPipe
  let result : IOReturn ← Prog.call (IoUsbCall.clearPipeStallBothEnds pipe)
  return ⟨mapIoReturn result,
    if result ≠ kIOReturnSuccess then describeIoReturn "clear CBI bulk-pipe stall" result
    else detail⟩

/-- `mac_prepare_command_block_reset`: what is pending is drained, and the next block must be the
reset. -/
def macPrepareCommandBlockReset (current : RunLoopRef) (detail : ErrorText) :
    MacIo CbiReply := do
  let m ← get
  if !onTransportRunLoop current m.context then
    return ⟨.protocol, wrongThread⟩
  if !m.context.isOpen || m.context.resetArmed then
    return ⟨.protocol, errorText "CBI command-block reset preparation has invalid state"⟩
  let result ← abortAndDrainInterrupt
  if result ≠ kIOReturnSuccess then
    -- as after a timeout, a pending request has to outlive its callback
    modify fun m => if m.interruptRequestComplete then m.releaseInterruptRequest else m
    return ⟨mapIoReturn result,
      describeIoReturn "drain previous CBI interrupt before reset" result⟩
  modify MacState.releaseInterruptRequest
  let clearResult : IOReturn ←
    Prog.call (IoUsbCall.clearPipeStallBothEnds m.context.interruptInPipe)
  if clearResult ≠ kIOReturnSuccess then
    return ⟨mapIoReturn clearResult,
      describeIoReturn "resynchronize interrupt-IN before CBI reset" clearResult⟩
  updateContext fun context => { context with resetArmed := true }
  return ⟨.ok, detail⟩

/-- `mac_finish_command_block_reset`. -/
def macFinishCommandBlockReset (current : RunLoopRef) (recovered : Bool) (detail : ErrorText) :
    MacIo CbiReply := do
  let m ← get
  if !onTransportRunLoop current m.context then
    return ⟨.protocol, wrongThread⟩
  if !m.context.resetArmed then
    -- without a prepared reset nothing can have been recovered
    updateContext MacCbiContext.desynchronize
    return ⟨.protocol, errorText "CBI command-block reset completion was not armed"⟩
  updateContext fun context =>
    { context with resetArmed := false, desynchronized := !recovered }
  return ⟨.ok, detail⟩

/-- The operation of the adapter behind each call, on the thread of `current`. -/
def macIo (current : RunLoopRef) : (call : CbiIoCall) → MacIo (CbiIoReply call)
  | .openSeize detail => macOpenSeize current detail
  | .close detail => macClose current detail
  | .adsc cdb timeoutMs detail => macAdsc current cdb timeoutMs detail
  | .bulkIn buffer timeoutMs detail => macBulkIn current buffer timeoutMs detail
  | .bulkOut buffer timeoutMs detail => macBulkOut current buffer timeoutMs detail
  | .interruptInWithDeadline completion timeoutMs detail =>
      macInterruptInWithDeadline current completion timeoutMs detail
  | .clearStall direction detail => macClearStall current direction detail
  | .prepareCommandBlockReset detail => macPrepareCommandBlockReset current detail
  | .finishCommandBlockReset recovered detail =>
      macFinishCommandBlockReset current recovered detail

end M65
