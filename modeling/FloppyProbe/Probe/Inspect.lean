import FloppyProbe.Probe.Workflow
import FloppyProbe.Ufi.Responses

/-!
# `m65_inspect`

The read-only workflow: six commands in order, the responses to five of them parsed into the
report, and the release of the transport. The body of the C function up to the label `cleanup` is
`inspectController`.

A parser that fails leaves the field of the report alone here. In the source the MODE SENSE parser
may have copied the raw response by then; nothing reads it when the code is not OK.
-/

namespace M65

/-- `M65InspectReport`. -/
structure InspectReport where
  code : ProbeCode := .transport
  reason : ErrorText := Text.empty
  sense : Sense := {}
  inquiry : Inquiry := {}
  unitReady : Bool := false
  capacity : Capacity := {}
  formatCapacities : FormatCapacities := {}
  currentMode : ModeParameters := {}
  changeableMode : ModeParameters := {}

/-- The report after `copy_command_failure` for a failed `operation`. -/
def InspectReport.commandFailure (report : InspectReport) (operation : String)
    (result : CommandResult) : InspectReport :=
  let failure := copyCommandFailure report.sense operation result
  { report with code := failure.1, reason := failure.2.1, sense := failure.2.2 }

/-- `inspect_input` into a buffer of zeros: the buffer and the number of bytes transferred, or the
report of the failure. -/
def inspectInput (report : InspectReport) (operation : String) (cdb : Vector UInt8 16 × ℕ)
    (bufferSize : ℕ) : Workflow (Except InspectReport (List UInt8 × ℕ)) := do
  let buffer : Vector UInt8 bufferSize := Vector.replicate bufferSize 0
  let reply ← executeSimple cdb .dataIn (some buffer)
  let result := reply.result
  if !commandGood result then
    return .error (report.commandFailure operation result)
  if bufferSize < result.transferred then
    let reason := errorText "transport reported more bytes than the supplied buffer"
    return .error { report with code := .transport, reason := reason }
  return .ok (reply.buffer.toList, result.transferred)

/-- `inspect_input` followed by a parser, and what is done when one of them fails. -/
def inspectParsed {α : Type} (report : InspectReport) (operation : String)
    (cdb : Vector UInt8 16 × ℕ) (bufferSize : ℕ) (parse : List UInt8 → ℕ → Except ErrorText α) :
    Workflow (Except InspectReport α) := do
  let input ← inspectInput report operation cdb bufferSize
  let parsed : Except InspectReport α :=
    match input with
    | .error report => .error report
    | .ok (buffer, transferred) =>
        match parse buffer transferred with
        -- the report has had the code TRANSPORT from the start, so that the test below keeps it
        | .error detail => .error { report with reason := detail }
        | .ok response => .ok response
  match parsed with
  | .error report =>
      return .error { report with code := if report.code = .ok then .transport else report.code }
  | .ok response => return .ok response

/-- From the first MODE SENSE on. -/
def inspectModes (report : InspectReport) : Workflow InspectReport := do
  match ← inspectParsed report "MODE SENSE current" (cdbModeSense10 false 256) modeBufferSize
      parseModeParameters with
  | .error report => return report
  | .ok currentMode =>
      let report := { report with currentMode := currentMode }
      match ← inspectParsed report "MODE SENSE changeable" (cdbModeSense10 true 256)
          modeBufferSize parseModeParameters with
      | .error report => return report
      | .ok changeableMode =>
          -- the mask of the second page marks the fields of the first
          let flexible := applyChangeability currentMode.flexible changeableMode.flexible
          return { report with
            changeableMode := changeableMode
            currentMode := { currentMode with flexible := flexible }
            code := .ok
            reason := errorText "inspection completed" }

/-- From READ CAPACITY (10) on. -/
def inspectCapacities (report : InspectReport) : Workflow InspectReport := do
  match ← inspectParsed report "READ CAPACITY (10)" cdbReadCapacity10 8 parseReadCapacity10 with
  | .error report => return report
  | .ok capacity =>
      let report := { report with capacity := capacity }
      match ← inspectParsed report "READ FORMAT CAPACITIES" (cdbReadFormatCapacities 252) 252
          parseFormatCapacities with
      | .error report => return report
      | .ok formatCapacities => inspectModes { report with formatCapacities := formatCapacities }

/-- From TEST UNIT READY on. -/
def inspectUnit (report : InspectReport) : Workflow InspectReport := do
  let reply ← executeSimple cdbTestUnitReady .none (none : Option (Vector UInt8 0))
  if !commandGood reply.result then
    return report.commandFailure "TEST UNIT READY" reply.result
  inspectCapacities { report with unitReady := true }

/-- From INQUIRY to the label `cleanup`. -/
def inspectController (report : InspectReport) : Workflow InspectReport := do
  match ← inspectParsed report "INQUIRY" (cdbInquiry 96) 96 parseInquiry with
  | .error report => return report
  | .ok inquiry => inspectUnit { report with inquiry := inquiry }

/-- `m65_inspect`: the flag is cleared, and the transport is released whatever the inspection
finds. -/
def inspect : Workflow InspectReport := do
  clearInterrupted
  let reply ← acquireExclusive Text.empty
  if reply.status ≠ .ok then
    let reason :=
      if reply.detail.bytes = [] then errorText "unable to obtain exclusive SCSI access"
      else reply.detail
    return { code := codeForTransport reply.status, reason := reason }
  -- from here on the transport is held, and every path ends with its release
  let report ← inspectController { reason := reply.detail }
  let reply ← releaseExclusive Text.empty
  if reply.status ≠ .ok then
    let cleanupDetail :=
      if reply.detail.bytes = [] then errorText "failed to release exclusive SCSI access"
      else reply.detail
    return { report with
      reason := reasonAppend report.reason cleanupDetail
      code := if report.code = .ok then codeForTransport reply.status else report.code }
  return report

end M65
