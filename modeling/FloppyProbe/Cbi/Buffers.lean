import FloppyProbe.Cbi.Engine
import FloppyProbe.Memory.Cells

/-!
# The CBI engine on its error text buffers

The functions of `src/cbi.c` once more, now with every error text buffer that reaches the adapter
as the array that it is in the source, whose bytes may not have been written. A call of the adapter
carries the array it is handed (`BufferCall`).

An operation of the adapter leaves a buffer alone or writes a text from its first byte on
(`DetailBuffer.after`). A buffer that is not handed to the adapter any more is kept as its text.
-/

namespace M65

open CheckedMemory Interaction

/-- A `char` array of `M65_MAX_ERROR_TEXT` bytes. -/
abbrev DetailBuffer : Type := Cells maxErrorText

namespace DetailBuffer

/-- The text that a reader finds. -/
def text (buffer : DetailBuffer) : ErrorText := Text.format [buffer.bytes]

/-- `detail[0]`. -/
def first (buffer : DetailBuffer) : Cell := buffer[0]

/-- The buffer after `snprintf`. -/
def write (buffer : DetailBuffer) (text : ErrorText) : DetailBuffer :=
  buffer.putString 0 text.bytes

/-- The buffer after an operation that left `text` in it. -/
def after (buffer : DetailBuffer) (text : ErrorText) : DetailBuffer :=
  if text = buffer.text then buffer else buffer.write text

/-- A buffer that is declared with the initialiser `""`, or cleared by `memset`. -/
def cleared : DetailBuffer := Cells.filled maxErrorText 0

end DetailBuffer

/-- The error text that a call of the adapter finds in its buffer. -/
def CbiIoCall.detail : CbiIoCall → ErrorText
  | .openSeize detail => detail
  | .close detail => detail
  | .adsc _ _ detail => detail
  | .bulkIn _ _ detail => detail
  | .bulkOut _ _ detail => detail
  | .interruptInWithDeadline _ _ detail => detail
  | .clearStall _ detail => detail
  | .prepareCommandBlockReset detail => detail
  | .finishCommandBlockReset _ detail => detail

/-- A call of the adapter with the buffer that it is handed. -/
structure BufferCall where
  call : CbiIoCall
  detail : DetailBuffer
  text_eq : call.detail = detail.text

/-- A call of `close` with the given buffer. -/
def BufferCall.close (detail : DetailBuffer) : BufferCall := ⟨.close detail.text, detail, rfl⟩

/-- A reply with the buffer that its error text stands in. -/
structure Left (α : Type) where
  reply : α
  detail : DetailBuffer

namespace Buffered

/-- Programs of the engine that hand error text buffers to the adapter. -/
abbrev Engine : Type → Type := Prog CbiContext fun d : BufferCall => CbiIoReply d.call

/-! ## Error texts -/

/-- `set_default_io_detail` on a buffer, of which it reads the first byte. -/
def setDefaultIoDetail (detail : DetailBuffer) (operation : String) (status : CbiIoStatus) :
    DetailBuffer :=
  if detail.first.byte = 0 then
    detail.write
      (Text.format [str operation, str " failed with CBI I/O status ", digits 10 status.code])
  else
    detail

/-- `require_recovery`. -/
def requireRecovery (detail : ErrorText) (fallback : String) : Engine Unit :=
  modify fun context => context.requireRecovery detail fallback

/-- The buffer that `phase_io_failure` leaves behind. -/
def phaseIoFailure (status : CbiIoStatus) (operation : String) (detail : DetailBuffer) :
    Engine (Left CbiReply) := do
  let detail := setDefaultIoDetail detail operation status
  if ioStatusLosesPhase status then
    requireRecovery detail.text operation
  return ⟨⟨status, detail.text⟩, detail⟩

/-! ## One exchange -/

/-- The data phase of `run_exchange`. -/
def bulkTransfer {n : ℕ} (direction : DataDirection) (buffer : Vector UInt8 n) (timeoutMs : ℕ)
    (detail : DetailBuffer) : Engine (Left (BulkInReply n)) :=
  match direction with
  | .dataIn => do
      let reply : BulkInReply n ←
        Prog.call (BufferCall.mk (.bulkIn buffer timeoutMs detail.text) detail rfl)
      return ⟨reply, detail.after reply.detail⟩
  | .dataOut => do
      let reply : BulkOutReply ←
        Prog.call (BufferCall.mk (.bulkOut buffer timeoutMs detail.text) detail rfl)
      return ⟨⟨⟨reply.status, reply.detail⟩, buffer, reply.transferred⟩, detail.after reply.detail⟩
  | .none => return ⟨⟨⟨.ok, detail.text⟩, buffer, 0⟩, detail⟩

/-- `run_exchange` from the interrupt completion on. -/
def awaitCompletion {n : ℕ} (exchange : CbiExchange) (buffer : Vector UInt8 n) (timeoutMs : ℕ)
    (detail : DetailBuffer) : Engine (Left (ExchangeReply n)) := do
  let reply : InterruptReply ← Prog.call (BufferCall.mk
    (.interruptInWithDeadline exchange.completion timeoutMs detail.text) detail rfl)
  let detail := detail.after reply.detail
  let exchange := { exchange with completion := reply.completion }
  if reply.status ≠ .ok then
    let failure ← phaseIoFailure reply.status "CBI command-completion interrupt" detail
    return ⟨⟨failure.reply, exchange, buffer⟩, failure.detail⟩
  if reply.transferred ≠ cbiStatusLength then
    let detail :=
      detail.write (errorText "CBI command-completion interrupt was not exactly two bytes")
    requireRecovery detail.text "CBI completion interrupt had an invalid length"
    return ⟨⟨⟨.protocol, detail.text⟩, exchange, buffer⟩, detail⟩
  return ⟨⟨⟨.ok, detail.text⟩, exchange, buffer⟩, detail⟩

/-- `run_exchange`. -/
def runExchange {n : ℕ} (cdb : Vector UInt8 cbiCdbLength) (direction : DataDirection)
    (buffer : Vector UInt8 n) (timeoutMs : ℕ) (detail : DetailBuffer) :
    Engine (Left (ExchangeReply n)) := do
  let accepted : CbiReply ← Prog.call (BufferCall.mk (.adsc cdb timeoutMs detail.text) detail rfl)
  let detail := detail.after accepted.detail
  if accepted.status = .stall then
    return ⟨⟨⟨.ok, detail.text⟩, { adscStalled := true }, buffer⟩, detail⟩
  if accepted.status ≠ .ok then
    let failure ← phaseIoFailure accepted.status "ADSC" detail
    return ⟨⟨failure.reply, {}, buffer⟩, failure.detail⟩
  let ⟨data, detail⟩ ← bulkTransfer direction buffer timeoutMs detail
  let exchange : CbiExchange := { transferred := data.transferred }
  if data.status = .stall then
    let exchange := { exchange with dataStalled := true }
    let cleared : CbiReply ←
      Prog.call (BufferCall.mk (.clearStall direction detail.text) detail rfl)
    let detail := detail.after cleared.detail
    if cleared.status ≠ .ok then
      let failure ← phaseIoFailure cleared.status "clear bulk pipe stall" detail
      return ⟨⟨failure.reply, exchange, data.buffer⟩, failure.detail⟩
    awaitCompletion exchange data.buffer timeoutMs detail
  else if data.status ≠ .ok then
    let failure ← phaseIoFailure data.status "bulk data phase" detail
    return ⟨⟨failure.reply, exchange, data.buffer⟩, failure.detail⟩
  else if n < data.transferred then
    let detail := detail.write (errorText "CBI bulk phase reported more bytes than its buffer")
    requireRecovery detail.text "CBI bulk phase returned an invalid byte count"
    return ⟨⟨⟨.protocol, detail.text⟩, exchange, data.buffer⟩, detail⟩
  else
    awaitCompletion exchange data.buffer timeoutMs detail

/-! ## Command-block reset -/

/-- `in_detail` and `out_detail` are buffers of their own. -/
def clearBulkPipes (failure : RecoveryFailure) : Engine RecoveryFailure := do
  if failure.first ≠ .ok then
    return failure
  let inReply : CbiReply ← Prog.call
    (BufferCall.mk (.clearStall .dataIn DetailBuffer.cleared.text) .cleared rfl)
  let outReply : CbiReply ← Prog.call
    (BufferCall.mk (.clearStall .dataOut DetailBuffer.cleared.text) .cleared rfl)
  let failure := failure.add inReply "clear bulk-IN after CBI reset"
  return failure.add outReply "clear bulk-OUT after CBI reset"

/-- `recover_if_required` from the exchange of the reset block on. -/
def resetCommandBlock (timeoutMs : ℕ) (phaseDetail detail : DetailBuffer) :
    Engine (Left CbiReply) := do
  let reset ← runExchange resetCdb .none (Vector.replicate 0 0) timeoutMs phaseDetail
  let failure ← clearBulkPipes (resetFailure reset.reply)
  let recovered : Bool := failure.first == .ok
  let finished : CbiReply ← Prog.call
    (BufferCall.mk (.finishCommandBlockReset recovered DetailBuffer.cleared.text) .cleared rfl)
  let failure := failure.add finished "finish CBI command-block reset"
  if failure.first = .ok then
    modify fun context => { context with recoveryRequired := false, recoveryDetail := Text.empty }
    return ⟨⟨.ok, detail.text⟩, detail⟩
  let context ← get
  let detail := detail.write (describeRecoveryFailure context failure.text)
  return ⟨⟨failure.first, detail.text⟩, detail⟩

/-- `recover_if_required`. -/
def recoverIfRequired (timeoutMs : ℕ) (detail : DetailBuffer) : Engine (Left CbiReply) := do
  let context ← get
  if !context.recoveryRequired then
    return ⟨⟨.ok, detail.text⟩, detail⟩
  let prepared : CbiReply ← Prog.call
    (BufferCall.mk (.prepareCommandBlockReset DetailBuffer.cleared.text) .cleared rfl)
  let phaseDetail := DetailBuffer.cleared.after prepared.detail
  if prepared.status ≠ .ok then
    let phaseDetail :=
      setDefaultIoDetail phaseDetail "prepare CBI command-block reset" prepared.status
    let detail := detail.write (describeRecoveryFailure context phaseDetail.text)
    return ⟨⟨prepared.status, detail.text⟩, detail⟩
  resetCommandBlock timeoutMs phaseDetail detail

/-! ## Sense data -/

/-- The ends of `fetch_sense` at which the exchange itself had succeeded. -/
def senseFailure (sense : Sense) (text fallback : String) : Engine SenseReply := do
  requireRecovery (errorText text) fallback
  return ⟨.protocol, sense, errorText text⟩

/-- `fetch_sense`. -/
def fetchSense (timeoutMs : ℕ) (detail : DetailBuffer) : Engine SenseReply := do
  let data : Vector UInt8 ufiSenseLength := Vector.replicate ufiSenseLength 0
  let ⟨reply, detail⟩ ← runExchange senseCdb .dataIn data timeoutMs detail
  if reply.status ≠ .ok then
    return ⟨mapIoStatus reply.status, {}, detail.text⟩
  if reply.exchange.adscStalled then
    senseFailure {} "REQUEST SENSE ADSC stalled" "REQUEST SENSE ADSC stalled"
  else if reply.exchange.dataStalled then
    senseFailure {} "REQUEST SENSE bulk-in phase stalled"
      "REQUEST SENSE bulk-in phase stalled"
  else if reply.exchange.transferred ≠ ufiSenseLength then
    senseFailure {} "REQUEST SENSE did not return its required 18 bytes"
      "REQUEST SENSE returned an invalid byte count"
  else
    let (parsed, sense) := parseSense reply.buffer.toList ufiSenseLength
    if !parsed then
      senseFailure sense "REQUEST SENSE returned malformed sense data"
        "REQUEST SENSE returned malformed sense data"
    else
      return ⟨.ok, sense, detail.text⟩

/-! ## The transport -/

/-- `cbi_acquire`, whose caller may hand over any array. -/
def cbiAcquire (detail : DetailBuffer) : Engine StatusReply := do
  let context ← get
  if context.opened then
    return ⟨.ok, detail.text⟩
  -- `detail[0] = '\0'`
  let detail := detail.write Text.empty
  let reply : CbiReply ← Prog.call (BufferCall.mk (.openSeize detail.text) detail rfl)
  let detail := detail.after reply.detail
  if reply.status = .ok then
    set { context with opened := true, recoveryRequired := false, recoveryDetail := Text.empty }
    return ⟨.ok, detail.text⟩
  return ⟨mapIoStatus reply.status,
    (setDefaultIoDetail detail "open/seize USB interface" reply.status).text⟩

/-- `cbi_release`. -/
def cbiRelease (detail : DetailBuffer) : Engine StatusReply := do
  let context ← get
  if !context.opened then
    return ⟨.ok, detail.text⟩
  -- `detail[0] = '\0'`
  let detail := detail.write Text.empty
  let reply : CbiReply ← Prog.call (BufferCall.close detail)
  let detail := detail.after reply.detail
  if reply.status = .ok ∨ reply.status = .noDevice then
    set { context with opened := false }
  if reply.status ≠ .ok then
    return ⟨mapIoStatus reply.status,
      (setDefaultIoDetail detail "close USB interface" reply.status).text⟩
  return ⟨.ok, detail.text⟩

/-- The end of a command whose result is not to be trusted. -/
def protocolFailure {n : ℕ} (result : CommandResult) (buffer : Vector UInt8 n)
    (text fallback : String) : Engine (ExecuteReply n) := do
  requireRecovery (errorText text) fallback
  return ⟨{ result with transportStatus := .protocol, detail := errorText text }, buffer⟩

/-- `execute_request_sense`. -/
def executeRequestSense {n : ℕ} (padded : Vector UInt8 cbiCdbLength) (buffer : Vector UInt8 n)
    (timeoutMs : ℕ) : Engine (ExecuteReply n) := do
  let ⟨reply, detail⟩ ← runExchange padded .dataIn buffer timeoutMs .cleared
  let result : CommandResult :=
    { transportStatus := mapIoStatus reply.status
      transferred := reply.exchange.transferred
      detail := detail.text }
  if reply.status ≠ .ok then
    return ⟨result, reply.buffer⟩
  if reply.exchange.adscStalled || reply.exchange.dataStalled then
    protocolFailure result reply.buffer "REQUEST SENSE failed during CBI transport"
      "REQUEST SENSE failed during CBI transport"
  else
    let (parsed, sense) := parseSense reply.buffer.toList result.transferred
    let result := { result with sense := sense }
    if !parsed then
      protocolFailure result reply.buffer "REQUEST SENSE returned malformed sense data"
        "REQUEST SENSE returned malformed sense data"
    else
      return ⟨result, reply.buffer⟩

/-- `cbi_execute` from its own exchange on, for a command other than REQUEST SENSE. -/
def executeCommand {n : ℕ} (opcode : UInt8) (padded : Vector UInt8 cbiCdbLength)
    (direction : DataDirection) (buffer : Vector UInt8 n) (timeoutMs : ℕ)
    (detail : DetailBuffer) : Engine (ExecuteReply n) := do
  let ⟨reply, detail⟩ ← runExchange padded direction buffer timeoutMs detail
  let exchange := reply.exchange
  let result : CommandResult :=
    { transportStatus := mapIoStatus reply.status
      transferred := exchange.transferred
      detail := detail.text }
  if reply.status ≠ .ok then
    return ⟨result, reply.buffer⟩
  let forcedFailure := exchange.adscStalled || exchange.dataStalled
  let exactDataRequired : Bool := direction == .dataOut || opcode == opcodeRead10
  let fetched ← fetchSense timeoutMs detail
  let result := { result with sense := fetched.sense, detail := fetched.detail }
  if fetched.status ≠ .ok then
    return ⟨{ result with transportStatus := fetched.status }, reply.buffer⟩
  if !exchange.adscStalled && exchange.completion != #v[result.sense.asc, result.sense.ascq] then
    protocolFailure result reply.buffer "UFI interrupt ASC/ASCQ does not match REQUEST SENSE"
      "UFI completion and sense data disagreed"
  else if exactDataRequired && !forcedFailure && result.transferred != n then
    protocolFailure result reply.buffer "CBI data phase returned an unexpected byte count"
      "CBI data phase returned an unexpected byte count"
  else if forcedFailure || 1 < result.sense.key then
    let detail :=
      if result.detail.bytes = [] then
        Text.format [str "UFI command failed: sense key 0x", hexDigits 2 result.sense.key.toNat,
          str ", ASC 0x", hexDigits 2 result.sense.asc.toNat,
          str ", ASCQ 0x", hexDigits 2 result.sense.ascq.toNat]
      else
        result.detail
    return ⟨{ result with transportStatus := .ok, scsiStatus := scsiStatusCheckCondition,
                          detail := detail }, reply.buffer⟩
  else
    return ⟨{ result with transportStatus := .ok }, reply.buffer⟩

/-- `cbi_execute`. -/
def cbiExecute (command : Command) : Engine (ExecuteReply command.dataLength) := do
  let buffer := command.data.getD (Vector.replicate command.dataLength 0)
  let context ← get
  match refuseCommand context command with
  | some detail => return ⟨refusal detail, buffer⟩
  | none =>
      let recovery ← recoverIfRequired command.timeoutMs .cleared
      if recovery.reply.status ≠ .ok then
        return ⟨{ transportStatus := mapIoStatus recovery.reply.status
                  detail := recovery.reply.detail }, buffer⟩
      let padded := padCdb (command.cdb, command.cdbLength)
      if command.cdbByte 0 = opcodeRequestSense then
        executeRequestSense padded buffer command.timeoutMs
      else
        executeCommand (command.cdbByte 0) padded command.direction buffer command.timeoutMs
          recovery.detail

/-- `cbi_destroy` up to the destruction of the adapter. Its array has no initialiser, and holds
what was on the stack before. -/
def cbiDestroy (stack : Vector UInt8 maxErrorText) : Engine Unit := do
  let context ← get
  if context.opened then
    let _ ← Prog.call (BufferCall.close (Cells.fresh stack))
    modify fun context => { context with opened := false }

end Buffered

end M65
