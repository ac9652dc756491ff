import Mathlib.Logic.Function.Iterate
import FloppyProbe.Interaction.Program
import FloppyProbe.Transport
import FloppyProbe.Ufi.Commands

/-!
# The 1581 workflow

`m65_test_1581` of `src/probe.c` and the functions it calls, as programs that call a transport
and the allocator and that access the flag `interrupted`.

The flag is the local state. It is shared with `signal_handler`, which only sets it and may run
between any two steps. Since nothing but `testInterrupted` and `clearInterrupted` looks at the
flag, every interleaving is given by the number of times the handler ran before each of these
accesses, counted from the access before it. These numbers are the replies to the calls
`testInterrupt` and `clearInterrupt`.

Pointer arguments are never NULL here: there is a transport and a report.
-/

namespace M65

open Interaction

/-! ## Environment -/

/-- What a workflow asks of its environment. -/
inductive WorkflowCall where
  /-- The flag is about to be read; the reply counts the runs of the handler before that. -/
  | testInterrupt
  /-- The flag is about to be cleared; the reply counts the runs of the handler before that. -/
  | clearInterrupt
  | malloc (size : ℕ)
  | transport (call : TransportCall)

/-- What the environment answers. -/
abbrev WorkflowReply : WorkflowCall → Type
  | .testInterrupt => ℕ
  | .clearInterrupt => ℕ
  | .malloc size => Option (Vector UInt8 size)
  | .transport call => TransportReply call

/-- A program of the workflow; the state is the flag `interrupted`. -/
abbrev Workflow : Type → Type := Prog Bool WorkflowReply

/-- One run of `signal_handler`, as a function of the flag. -/
def requestInterrupt (_interrupted : Bool) : Bool := true

/-- The flag is read. -/
def testInterrupted : Workflow Bool := do
  let handlerRuns : ℕ ← Prog.call WorkflowCall.testInterrupt
  modify requestInterrupt^[handlerRuns]
  get

/-- The flag is cleared. -/
def clearInterrupted : Workflow Unit := do
  let handlerRuns : ℕ ← Prog.call WorkflowCall.clearInterrupt
  modify requestInterrupt^[handlerRuns]
  set false

/-- `malloc`. -/
def malloc (size : ℕ) : Workflow (Option (Vector UInt8 size)) :=
  Prog.call (WorkflowCall.malloc size)

/-- `acquire_exclusive` of the transport. -/
def acquireExclusive (detail : ErrorText) : Workflow StatusReply :=
  Prog.call (WorkflowCall.transport (.acquireExclusive detail))

/-- `execute` of the transport. -/
def execute (command : Command) : Workflow (ExecuteReply command.dataLength) :=
  Prog.call (WorkflowCall.transport (.execute command))

/-- `release_exclusive` of the transport. -/
def releaseExclusive (detail : ErrorText) : Workflow StatusReply :=
  Prog.call (WorkflowCall.transport (.releaseExclusive detail))

/-! ## Reasons and codes -/

/-- `reason_append`: texts are separated by a semicolon. -/
def reasonAppend (destination text : ErrorText) : ErrorText :=
  Text.format [destination.bytes, if destination.bytes = [] then [] else str "; ", text.bytes]

/-- `code_for_transport`. -/
def codeForTransport : TransportStatus → ProbeCode
  | .permission => .permission
  | .noDevice => .noDevice
  | .ok => .ok
  | .timeout => .transport
  | .io => .transport
  | .protocol => .transport

/-- `command_good`. -/
def commandGood (result : CommandResult) : Bool :=
  result.transportStatus == .ok && result.scsiStatus == 0

/-- The code, reason and sense that `copy_command_failure` leaves behind; `sense` is the sense
before it. -/
def copyCommandFailure (sense : Sense) (operation : String) (result : CommandResult) :
    ProbeCode × ErrorText × Sense :=
  let sense := if result.sense.valid then result.sense else sense
  if result.transportStatus ≠ .ok then
    (codeForTransport result.transportStatus,
      if result.detail.bytes ≠ [] then Text.format [str operation, str ": ", result.detail.bytes]
      else Text.format [str operation, str ": transport failure"],
      sense)
  else
    (.transport,
      Text.format [str operation, str ": SCSI status 0x", hexDigits 2 result.scsiStatus.toNat],
      sense)

/-! ## Commands -/

/-- `execute_checked`: a command that fails its validation, or comes after an interrupt, is not
handed over. -/
def executeChecked (command : Command) : Workflow (ExecuteReply command.dataLength) := do
  let unchanged := command.data.getD (Vector.replicate command.dataLength 0)
  match validateCommand command with
  | .error detail =>
      return ⟨{ transportStatus := .protocol, detail := detail }, unchanged⟩
  | .ok () =>
      -- the flag is looked at once per command, right before it
      if ← testInterrupted then
        return ⟨{ transportStatus := .io, detail := errorText "operation interrupted" }, unchanged⟩
      execute command

/-- The timeout of every command, `M65_IO_TIMEOUT_MS`. -/
abbrev ioTimeoutMs : ℕ := 15000

/-- The command that `execute_simple` builds. -/
def simpleCommand {n : ℕ} (cdb : Vector UInt8 16 × ℕ) (direction : DataDirection)
    (data : Option (Vector UInt8 n)) : Command where
  cdb := copyBytes 16 cdb.1 cdb.2
  cdbLength := cdb.2
  direction := direction
  dataLength := n
  data := data
  timeoutMs := ioTimeoutMs

/-- `execute_simple`. -/
def executeSimple {n : ℕ} (cdb : Vector UInt8 16 × ℕ) (direction : DataDirection)
    (data : Option (Vector UInt8 n)) : Workflow (ExecuteReply n) :=
  executeChecked (simpleCommand cdb direction data)

/-- `parameters` is the out-parameter, which is left alone on failure. -/
def modeSense (changeable : Bool) (parameters : ModeParameters) :
    Workflow (CommandResult × ModeParameters) := do
  let buffer : Vector UInt8 modeBufferSize := Vector.replicate modeBufferSize 0
  let reply ← executeSimple (cdbModeSense10 changeable 256) .dataIn (some buffer)
  let result := reply.result
  if commandGood result then
    -- a GOOD status is replaced when the transport claims more than the buffer holds
    if modeBufferSize < result.transferred then
      let detail := errorText "MODE SENSE response exceeds its buffer"
      return ({ result with transportStatus := .protocol, detail := detail }, parameters)
    match parseModeParameters reply.buffer.toList result.transferred with
    | .error detail =>
        return ({ result with transportStatus := .protocol, detail := detail }, parameters)
    | .ok parsed => return (result, parsed)
  return (result, parameters)

/-- `mode_select`: the page is sent if a payload can be built from it. -/
def modeSelect (page : FlexibleDiskPage) : Workflow CommandResult := do
  match buildModeSelectPayload page with
  | .error detail => return { transportStatus := .protocol, detail := detail }
  | .ok payload =>
      let reply ← executeSimple (cdbModeSelect10 40) .dataOut (some payload)
      return reply.result

/-- `buffer` is the content of the destination before the read. -/
def readBlocks (lba : UInt32) (blocks : UInt16)
    (buffer : Vector UInt8 (blocks.toNat * blockSize)) :
    Workflow (CommandResult × Vector UInt8 (blocks.toNat * blockSize)) := do
  let length := blocks.toNat * blockSize
  let reply ← executeSimple (cdbRead10 lba blocks) .dataIn (some buffer)
  let result := reply.result
  if commandGood result && result.transferred != length then
    let detail := Text.format [str "short READ (10): expected ", digits 10 length,
      str " bytes, received ", digits 10 result.transferred]
    return ({ result with transportStatus := .protocol, detail := detail }, reply.buffer)
  return (result, reply.buffer)

end M65
