import FloppyProbe.Cbi.Adapter
import FloppyProbe.Interaction.Program
import FloppyProbe.Transport
import FloppyProbe.Ufi.Commands

/-!
# The CBI engine

The transport of `src/cbi.c`, as programs that call an adapter and whose local state is the
engine's context. `cbiTransport` gives the program behind each operation of the transport.

Every error text buffer is passed in and handed back. The buffers of a command are never NULL
when they are used, since the allowlist is asked first.
-/

namespace M65

open Interaction

/-- The state of the engine, `CbiContext`. -/
structure CbiContext where
  opened : Bool := false
  recoveryRequired : Bool := false
  recoveryDetail : ErrorText := Text.empty
deriving DecidableEq, Inhabited

/-- Programs of the engine, which call the adapter and change the context. -/
abbrev Engine : Type → Type := Prog CbiContext CbiIoReply

/-- A call of the adapter with the reply and the context before it. -/
abbrev EngineEvent : Type := Event CbiContext CbiIoReply

/-! ## Error texts -/

/-- `set_default_io_detail`: a text for a failure that came without one. -/
def setDefaultIoDetail (detail : ErrorText) (operation : String) (status : CbiIoStatus) :
    ErrorText :=
  if detail.bytes = [] then
    Text.format [str operation, str " failed with CBI I/O status ", digits 10 status.code]
  else
    detail

/-- `append_detail`. -/
def appendDetail (detail : ErrorText) (text : List UInt8) : ErrorText :=
  Text.format [detail.bytes, text]

/-- `append_clause`: the clause behind a semicolon, unless it is empty. -/
def appendClause (detail clause : ErrorText) : ErrorText :=
  if clause.bytes = [] then
    detail
  else
    appendDetail (if detail.bytes = [] then detail else appendDetail detail (str "; "))
      clause.bytes

/-- `describe_recovery_failure`: why the recovery was required, and how the reset failed. -/
def describeRecoveryFailure (context : CbiContext) (failure : ErrorText) : ErrorText :=
  let detail := errorText "CBI command-block recovery required after: "
  let detail := appendDetail detail
    (if context.recoveryDetail.bytes ≠ [] then context.recoveryDetail.bytes
    else str "a previous command lost phase synchronization")
  let detail := appendDetail detail (str "; reset failed: ")
  appendDetail detail
    (if failure.bytes ≠ [] then failure.bytes else str "unspecified transport error")

/-! ## Statuses -/

/-- `io_status_loses_phase`. -/
def ioStatusLosesPhase (status : CbiIoStatus) : Bool :=
  status == .timeout || status == .protocol || status == .error

/-- `map_io_status`. -/
def mapIoStatus : CbiIoStatus → TransportStatus
  | .ok => .ok
  | .permission => .permission
  | .noDevice => .noDevice
  | .timeout => .timeout
  | .error => .io
  | .stall => .protocol
  | .protocol => .protocol

/-- The context after `require_recovery`. -/
def CbiContext.requireRecovery (context : CbiContext) (detail : ErrorText) (fallback : String) :
    CbiContext :=
  -- the detail of the first loss is kept until a recovery succeeds
  if context.recoveryRequired then
    context
  else
    { context with
      recoveryRequired := true
      recoveryDetail := if detail.bytes ≠ [] then detail else errorText fallback }

/-- `require_recovery`. -/
def requireRecovery (detail : ErrorText) (fallback : String) : Engine Unit :=
  modify fun context => context.requireRecovery detail fallback

/-- The status and the error text that `phase_io_failure` leaves behind. -/
def phaseIoFailure (status : CbiIoStatus) (operation : String) (detail : ErrorText) :
    Engine CbiReply := do
  let detail := setDefaultIoDetail detail operation status
  if ioStatusLosesPhase status then
    requireRecovery detail operation
  return ⟨status, detail⟩

/-! ## One exchange -/

/-- What an exchange has found out, `CbiExchange`. -/
structure CbiExchange where
  adscStalled : Bool := false
  dataStalled : Bool := false
  transferred : ℕ := 0
  completion : Vector UInt8 cbiStatusLength := Vector.replicate cbiStatusLength 0
deriving DecidableEq

/-- What `run_exchange` leaves behind for a buffer of `n` bytes. -/
structure ExchangeReply (n : ℕ) extends CbiReply where
  exchange : CbiExchange
  buffer : Vector UInt8 n
deriving DecidableEq

/-- The bulk transfer of `run_exchange`, if there is one. -/
def bulkTransfer {n : ℕ} (direction : DataDirection) (buffer : Vector UInt8 n) (timeoutMs : ℕ)
    (detail : ErrorText) : Engine (BulkInReply n) :=
  match direction with
  | .dataIn => Prog.call (CbiIoCall.bulkIn buffer timeoutMs detail)
  | .dataOut => do
      let reply : BulkOutReply ← Prog.call (CbiIoCall.bulkOut buffer timeoutMs detail)
      return ⟨⟨reply.status, reply.detail⟩, buffer, reply.transferred⟩
  | .none => return ⟨⟨.ok, detail⟩, buffer, 0⟩

/-- `run_exchange` from the interrupt on. -/
def awaitCompletion {n : ℕ} (exchange : CbiExchange) (buffer : Vector UInt8 n) (timeoutMs : ℕ)
    (detail : ErrorText) : Engine (ExchangeReply n) := do
  let reply : InterruptReply ←
    Prog.call (CbiIoCall.interruptInWithDeadline exchange.completion timeoutMs detail)
  let exchange := { exchange with completion := reply.completion }
  if reply.status ≠ .ok then
    let failure ← phaseIoFailure reply.status "CBI command-completion interrupt" reply.detail
    return ⟨failure, exchange, buffer⟩
  if reply.transferred ≠ cbiStatusLength then
    let detail := errorText "CBI command-completion interrupt was not exactly two bytes"
    requireRecovery detail "CBI completion interrupt had an invalid length"
    return ⟨⟨.protocol, detail⟩, exchange, buffer⟩
  return ⟨⟨.ok, reply.detail⟩, exchange, buffer⟩

/-- `run_exchange`: the command block, the data phase and the interrupt completion. -/
def runExchange {n : ℕ} (cdb : Vector UInt8 cbiCdbLength) (direction : DataDirection)
    (buffer : Vector UInt8 n) (timeoutMs : ℕ) (detail : ErrorText) :
    Engine (ExchangeReply n) := do
  let accepted : CbiReply ← Prog.call (CbiIoCall.adsc cdb timeoutMs detail)
  -- a stalled ADSC ends the exchange well: REQUEST SENSE tells what was refused
  if accepted.status = .stall then
    return ⟨⟨.ok, accepted.detail⟩, { adscStalled := true }, buffer⟩
  if accepted.status ≠ .ok then
    let failure ← phaseIoFailure accepted.status "ADSC" accepted.detail
    return ⟨failure, {}, buffer⟩
  let data ← bulkTransfer direction buffer timeoutMs accepted.detail
  let exchange : CbiExchange := { transferred := data.transferred }
  if data.status = .stall then
    -- a stalled data phase still has its completion interrupt, once the pipe is cleared
    let exchange := { exchange with dataStalled := true }
    let cleared : CbiReply ← Prog.call (CbiIoCall.clearStall direction data.detail)
    if cleared.status ≠ .ok then
      let failure ← phaseIoFailure cleared.status "clear bulk pipe stall" cleared.detail
      return ⟨failure, exchange, data.buffer⟩
    awaitCompletion exchange data.buffer timeoutMs cleared.detail
  else if data.status ≠ .ok then
    let failure ← phaseIoFailure data.status "bulk data phase" data.detail
    return ⟨failure, exchange, data.buffer⟩
  else if n < data.transferred then
    let detail := errorText "CBI bulk phase reported more bytes than its buffer"
    requireRecovery detail "CBI bulk phase returned an invalid byte count"
    return ⟨⟨.protocol, detail⟩, exchange, data.buffer⟩
  else
    awaitCompletion exchange data.buffer timeoutMs data.detail

/-! ## Command-block reset -/

/-- The fixed command block of the CBI command-block reset. -/
def resetCdb : Vector UInt8 cbiCdbLength :=
  #v[0x1d, 0x04, 0xff, 0xff, 0xff, 0xff, 0xff, 0xff, 0xff, 0xff, 0xff, 0xff]

/-- The local variables `first_failure` and `failure` of `recover_if_required`. -/
structure RecoveryFailure where
  first : CbiIoStatus := .ok
  text : ErrorText := Text.empty
deriving DecidableEq

/-- A failure after which the statuses of earlier ones still count. -/
def RecoveryFailure.add (failure : RecoveryFailure) (reply : CbiReply) (operation : String) :
    RecoveryFailure :=
  if reply.status ≠ .ok then
    { first := if failure.first = .ok then reply.status else failure.first
      text := appendClause failure.text (setDefaultIoDetail reply.detail operation reply.status) }
  else
    failure

/-- What is wrong with the exchange of the reset block; nothing when the status is `ok`. -/
def resetFailure (reset : ExchangeReply 0) : RecoveryFailure :=
  if reset.status ≠ .ok then
    { first := reset.status, text := appendClause Text.empty reset.detail }
  else if reset.exchange.adscStalled then
    { first := .protocol
      text := appendClause Text.empty (errorText "CBI command-block reset ADSC stalled") }
  else if reset.exchange.dataStalled then
    { first := .protocol
      text := appendClause Text.empty
        (errorText "CBI command-block reset unexpectedly had a data stall") }
  else if reset.exchange.completion ≠ Vector.replicate cbiStatusLength 0 then
    { first := .protocol
      text := appendClause Text.empty
        (errorText "CBI command-block reset returned nonzero UFI status") }
  else
    {}

/-- The clearing of both bulk pipes, after a reset that completed. -/
def clearBulkPipes (failure : RecoveryFailure) : Engine RecoveryFailure := do
  if failure.first ≠ .ok then
    return failure
  let inReply : CbiReply ← Prog.call (CbiIoCall.clearStall .dataIn Text.empty)
  let outReply : CbiReply ← Prog.call (CbiIoCall.clearStall .dataOut Text.empty)
  -- both pipes are cleared before either status is looked at
  let failure := failure.add inReply "clear bulk-IN after CBI reset"
  return failure.add outReply "clear bulk-OUT after CBI reset"

/-- `recover_if_required` after a successful `prepare_command_block_reset`: `phaseDetail` is its
error text, and `detail` the one that the caller gets back after success. -/
def resetCommandBlock (timeoutMs : ℕ) (phaseDetail detail : ErrorText) : Engine CbiReply := do
  let reset ← runExchange resetCdb .none #v[] timeoutMs phaseDetail
  let failure ← clearBulkPipes (resetFailure reset)
  let recovered : Bool := failure.first == .ok
  let finished : CbiReply ← Prog.call (CbiIoCall.finishCommandBlockReset recovered Text.empty)
  let failure := failure.add finished "finish CBI command-block reset"
  -- `first` is still OK exactly when the C variable `recovered` is still set, so the default of
  -- `first_failure` after a failed recovery is never taken
  if failure.first = .ok then
    modify fun context => { context with recoveryRequired := false, recoveryDetail := Text.empty }
    return ⟨.ok, detail⟩
  let context ← get
  return ⟨failure.first, describeRecoveryFailure context failure.text⟩

/-- `recover_if_required`: the reset of the command block, when an earlier exchange lost the
phase. -/
def recoverIfRequired (timeoutMs : ℕ) (detail : ErrorText) : Engine CbiReply := do
  let context ← get
  if !context.recoveryRequired then
    return ⟨.ok, detail⟩
  let prepared : CbiReply ← Prog.call (CbiIoCall.prepareCommandBlockReset Text.empty)
  -- an adapter that is not prepared gets no reset, and the recovery stays due
  if prepared.status ≠ .ok then
    let phaseDetail :=
      setDefaultIoDetail prepared.detail "prepare CBI command-block reset" prepared.status
    return ⟨prepared.status, describeRecoveryFailure context phaseDetail⟩
  resetCommandBlock timeoutMs prepared.detail detail

/-! ## Sense data -/

/-- The length of sense data, `M65_UFI_SENSE_LENGTH`. -/
abbrev ufiSenseLength : ℕ := 18

/-- The first bytes of a command descriptor block, padded with zeros. -/
def padCdb (cdb : Vector UInt8 16 × ℕ) : Vector UInt8 cbiCdbLength :=
  copyBytes cbiCdbLength cdb.1 cdb.2

/-- The command block of the engine's own REQUEST SENSE. -/
def senseCdb : Vector UInt8 cbiCdbLength := padCdb (cdbRequestSense 18)

/-- What `fetch_sense` leaves behind for a `sense` that is zero before the call. -/
structure SenseReply where
  status : TransportStatus
  sense : Sense
  detail : ErrorText
deriving DecidableEq

/-- The ends of `fetch_sense` at which the exchange itself had succeeded. -/
def senseFailure (sense : Sense) (text fallback : String) : Engine SenseReply := do
  requireRecovery (errorText text) fallback
  return ⟨.protocol, sense, errorText text⟩

/-- `fetch_sense`: the engine's own REQUEST SENSE after a command. -/
def fetchSense (timeoutMs : ℕ) (detail : ErrorText) : Engine SenseReply := do
  let data : Vector UInt8 ufiSenseLength := Vector.replicate ufiSenseLength 0
  let reply ← runExchange senseCdb .dataIn data timeoutMs detail
  if reply.status ≠ .ok then
    return ⟨mapIoStatus reply.status, {}, reply.detail⟩
  if reply.exchange.adscStalled then
    senseFailure {} "REQUEST SENSE ADSC stalled" "REQUEST SENSE ADSC stalled"
  else if reply.exchange.dataStalled then
    senseFailure {} "REQUEST SENSE bulk-in phase stalled" "REQUEST SENSE bulk-in phase stalled"
  -- sense data of another length is rejected before it is parsed
  else if reply.exchange.transferred ≠ ufiSenseLength then
    senseFailure {} "REQUEST SENSE did not return its required 18 bytes"
      "REQUEST SENSE returned an invalid byte count"
  else
    let (parsed, sense) := parseSense reply.buffer.toList ufiSenseLength
    -- a malformed response leaves its response code in the sense all the same
    if !parsed then
      senseFailure sense "REQUEST SENSE returned malformed sense data"
        "REQUEST SENSE returned malformed sense data"
    else
      return ⟨.ok, sense, reply.detail⟩

/-! ## The transport -/

/-- `cbi_acquire`. -/
def cbiAcquire (detail : ErrorText) : Engine StatusReply := do
  let context ← get
  if context.opened then
    return ⟨.ok, detail⟩
  let reply : CbiReply ← Prog.call (CbiIoCall.openSeize Text.empty)
  if reply.status = .ok then
    -- a new session starts without the debts of the last one
    set { context with opened := true, recoveryRequired := false, recoveryDetail := Text.empty }
    return ⟨.ok, reply.detail⟩
  return ⟨mapIoStatus reply.status,
    setDefaultIoDetail reply.detail "open/seize USB interface" reply.status⟩

/-- `cbi_release`. -/
def cbiRelease (detail : ErrorText) : Engine StatusReply := do
  let context ← get
  if !context.opened then
    return ⟨.ok, detail⟩
  let reply : CbiReply ← Prog.call (CbiIoCall.close Text.empty)
  -- after any other status the interface counts as still seized
  if reply.status = .ok ∨ reply.status = .noDevice then
    set { context with opened := false }
  if reply.status ≠ .ok then
    return ⟨mapIoStatus reply.status,
      setDefaultIoDetail reply.detail "close USB interface" reply.status⟩
  return ⟨.ok, reply.detail⟩

/-- `M65_SCSI_STATUS_CHECK_CONDITION`. -/
abbrev scsiStatusCheckCondition : UInt8 := 0x02

/-- The end of an `execute` whose result has the transport status PROTOCOL, without a call of the
adapter. -/
def protocolFailure {n : ℕ} (result : CommandResult) (buffer : Vector UInt8 n) (text : String)
    (fallback : String) : Engine (ExecuteReply n) := do
  let result := { result with transportStatus := .protocol, detail := errorText text }
  requireRecovery result.detail fallback
  return ⟨result, buffer⟩

/-- `execute_request_sense`: a REQUEST SENSE of the caller, which needs no other to confirm it. -/
def executeRequestSense {n : ℕ} (padded : Vector UInt8 cbiCdbLength) (buffer : Vector UInt8 n)
    (timeoutMs : ℕ) : Engine (ExecuteReply n) := do
  let reply ← runExchange padded .dataIn buffer timeoutMs Text.empty
  let result : CommandResult :=
    { transportStatus := mapIoStatus reply.status
      transferred := reply.exchange.transferred
      detail := reply.detail }
  if reply.status ≠ .ok then
    return ⟨result, reply.buffer⟩
  if reply.exchange.adscStalled || reply.exchange.dataStalled then
    protocolFailure result reply.buffer "REQUEST SENSE failed during CBI transport"
      "REQUEST SENSE failed during CBI transport"
  else
    -- unlike the engine's own fetch, a length below 18 is left to the parser
    let (parsed, sense) := parseSense reply.buffer.toList result.transferred
    let result := { result with sense := sense }
    if !parsed then
      protocolFailure result reply.buffer "REQUEST SENSE returned malformed sense data"
        "REQUEST SENSE returned malformed sense data"
    else
      return ⟨result, reply.buffer⟩

/-- `cbi_execute` from its own exchange on, for a command other than REQUEST SENSE. -/
def executeCommand {n : ℕ} (opcode : UInt8) (padded : Vector UInt8 cbiCdbLength)
    (direction : DataDirection) (buffer : Vector UInt8 n) (timeoutMs : ℕ) (detail : ErrorText) :
    Engine (ExecuteReply n) := do
  let reply ← runExchange padded direction buffer timeoutMs detail
  let exchange := reply.exchange
  let result : CommandResult :=
    { transportStatus := mapIoStatus reply.status
      transferred := exchange.transferred
      detail := reply.detail }
  -- an exchange that failed is not followed by a REQUEST SENSE
  if reply.status ≠ .ok then
    return ⟨result, reply.buffer⟩
  let forcedFailure := exchange.adscStalled || exchange.dataStalled
  -- a short transfer is an error only where the caller relies on every byte
  let exactDataRequired : Bool := direction == .dataOut || opcode == opcodeRead10
  let fetched ← fetchSense timeoutMs result.detail
  let result := { result with sense := fetched.sense, detail := fetched.detail }
  if fetched.status ≠ .ok then
    return ⟨{ result with transportStatus := fetched.status }, reply.buffer⟩
  -- without a stall the interrupt has to say what the sense data say
  if !exchange.adscStalled && exchange.completion != #v[result.sense.asc, result.sense.ascq] then
    protocolFailure result reply.buffer "UFI interrupt ASC/ASCQ does not match REQUEST SENSE"
      "UFI completion and sense data disagreed"
  else if exactDataRequired && !forcedFailure && result.transferred != n then
    protocolFailure result reply.buffer "CBI data phase returned an unexpected byte count"
      "CBI data phase returned an unexpected byte count"
  else if forcedFailure || 1 < result.sense.key then
    let detail :=
      if result.detail.bytes = [] then
        Text.format [str "UFI command failed: sense key 0x", hexDigits 2 result.sense.key.toNat,
          str ", ASC 0x", hexDigits 2 result.sense.asc.toNat,
          str ", ASCQ 0x", hexDigits 2 result.sense.ascq.toNat]
      else
        result.detail
    return ⟨{ result with transportStatus := .ok, scsiStatus := scsiStatusCheckCondition,
                          detail := detail }, reply.buffer⟩
  else
    return ⟨{ result with transportStatus := .ok }, reply.buffer⟩

/-- A result of `cbi_execute` before any call of the adapter. -/
def refusal (detail : ErrorText) : CommandResult :=
  { transportStatus := .protocol, detail := detail }

/-- Why `cbi_execute` refuses a command without a call of the adapter. -/
def refuseCommand (context : CbiContext) (command : Command) : Option ErrorText :=
  if !context.opened then
    some (errorText "CBI command attempted without seized USB interface")
  else
    match validateCommand command with
    | .error detail =>
        if detail.bytes ≠ [] then some detail
        else some (errorText "command failed diagnostic allowlist validation")
    | .ok () =>
        if cbiCdbLength < command.cdbLength then
          some (errorText "UFI command is longer than the 12-byte CBI command block")
        else if command.direction = .dataOut ∧ command.cdbByte 0 ≠ opcodeModeSelect10 then
          some (errorText "CBI data-out is restricted to validated MODE SELECT (10)")
        else
          none

/-- `cbi_execute`. -/
def cbiExecute (command : Command) : Engine (ExecuteReply command.dataLength) := do
  let buffer := command.data.getD (Vector.replicate command.dataLength 0)
  let context ← get
  match refuseCommand context command with
  | some detail => return ⟨refusal detail, buffer⟩
  | none =>
      let recovery ← recoverIfRequired command.timeoutMs Text.empty
      if recovery.status ≠ .ok then
        return ⟨{ transportStatus := mapIoStatus recovery.status, detail := recovery.detail },
          buffer⟩
      let padded := padCdb (command.cdb, command.cdbLength)
      if command.cdbByte 0 = opcodeRequestSense then
        executeRequestSense padded buffer command.timeoutMs
      else
        executeCommand (command.cdbByte 0) padded command.direction buffer command.timeoutMs
          recovery.detail

/-- The operation of the transport behind each call. -/
def cbiTransport : (call : TransportCall) → Engine (TransportReply call)
  | .acquireExclusive detail => cbiAcquire detail
  | .execute command => cbiExecute command
  | .releaseExclusive detail => cbiRelease detail

end M65
