import FloppyProbe.Probe.Test1581

/-!
# What a trace of the workflow says

The vocabulary of the results about runs: which commands the workflow can send (`Request`), what
of a command reaches the wire (`Wire`), which steps a trace takes on the transport (`stepOf`), and
which events let the workflow go on (`Passed`).
-/

namespace M65

open Interaction

/-- A call of the workflow with its reply. -/
abbrev WorkflowEvent : Type := Event Bool WorkflowReply

/-! ## Commands on the wire -/

/-- A command as a device sees it: a data-in buffer is only room for the answer. -/
structure Wire where
  cdb : Vector UInt8 16
  cdbLength : ℕ
  direction : DataDirection
  dataLength : ℕ
  dataOut : List UInt8
deriving DecidableEq

/-- What the device gets of a command. -/
def Command.wire (command : Command) : Wire where
  cdb := command.cdb
  cdbLength := command.cdbLength
  direction := command.direction
  dataLength := command.dataLength
  dataOut := if command.direction = .dataOut then command.bytes else []

/-- The commands of the workflow. -/
inductive Request where
  | modeSense (changeable : Bool)
  | modeSelect (page : FlexibleDiskPage)
  | read (lba : UInt32) (blocks : UInt16)

/-- The command that `mode_sense` sends. -/
def modeSenseCommand (changeable : Bool) : Command :=
  simpleCommand (cdbModeSense10 changeable 256) .dataIn
    (some (Vector.replicate modeBufferSize 0))

/-- The command that `mode_select` sends when the page is accepted by the payload builder. -/
def modeSelectCommand (page : FlexibleDiskPage) : Command :=
  simpleCommand (cdbModeSelect10 40) .dataOut (some (modeSelectPayload page))

/-- The command that `read_blocks` sends for a buffer with the given content. -/
def readCommand (lba : UInt32) (blocks : UInt16)
    (buffer : Vector UInt8 (blocks.toNat * blockSize)) : Command :=
  simpleCommand (cdbRead10 lba blocks) .dataIn (some buffer)

/-- What the device gets of a request. -/
def Request.wire : Request → Wire
  | .modeSense changeable => (modeSenseCommand changeable).wire
  | .modeSelect page => (modeSelectCommand page).wire
  | .read lba blocks => (readCommand lba blocks (Vector.replicate _ 0)).wire

/-! ## Steps -/

/-- A step of the workflow on the transport. -/
inductive WorkflowStep where
  | acquire
  | command (wire : Wire)
  | release
deriving DecidableEq

/-- Accesses to the flag and allocations are silent. -/
def stepOf : WorkflowEvent → Option WorkflowStep
  | ⟨_, .testInterrupt, _⟩ => none
  | ⟨_, .clearInterrupt, _⟩ => none
  | ⟨_, .malloc _, _⟩ => none
  | ⟨_, .transport (.acquireExclusive _), _⟩ => some .acquire
  | ⟨_, .transport (.execute command), _⟩ => some (.command command.wire)
  | ⟨_, .transport (.releaseExclusive _), _⟩ => some .release

/-- The transport calls of a trace. -/
def steps (t : List WorkflowEvent) : List WorkflowStep := t.filterMap stepOf

/-- The step of sending `request`. -/
def Request.step (request : Request) : WorkflowStep := .command request.wire

/-- No event, no step. -/
@[simp]
theorem steps_nil : steps [] = [] := rfl

/-- The steps of two traces come one after the other. -/
@[simp]
theorem steps_append (t t' : List WorkflowEvent) : steps (t ++ t') = steps t ++ steps t' :=
  List.filterMap_append

/-! ## Outcomes -/

/-- The parameters that `mode_sense` extracts from a good reply. -/
def senseParameters {n : ℕ} (reply : ExecuteReply n) : Except ErrorText ModeParameters :=
  if modeBufferSize < reply.result.transferred then
    .error (errorText "MODE SENSE response exceeds its buffer")
  else
    parseModeParameters reply.buffer.toList reply.result.transferred

/-- Whether a command of the workflow succeeded: with GOOD status, and a MODE SENSE with an
acceptable response, a READ (10) with a full transfer. -/
def succeeded (command : Command) (reply : ExecuteReply command.dataLength) : Bool :=
  commandGood reply.result &&
    if command.cdbByte 0 = opcodeModeSense10 then (senseParameters reply).toBool
    else if command.cdbByte 0 = opcodeRead10 then
      reply.result.transferred == command.dataLength
    else true

/-- The runs of the handler that an access of the flag counts. -/
def handlerRuns : WorkflowEvent → Option ℕ
  | ⟨_, .testInterrupt, n⟩ => some n
  | ⟨_, .clearInterrupt, n⟩ => some n
  | _ => none

/-- The event is a reading of the flag that found it set. -/
def Observed : WorkflowEvent → Prop
  | ⟨s, .testInterrupt, handlerRuns⟩ => requestInterrupt^[(handlerRuns : ℕ)] s = true
  | _ => False

/-- The workflow goes on after the event: a call of the transport succeeded, or a reading of the
flag found it clear. -/
def Passed : WorkflowEvent → Prop
  | ⟨s, .testInterrupt, handlerRuns⟩ => requestInterrupt^[(handlerRuns : ℕ)] s = false
  | ⟨_, .clearInterrupt, _⟩ => True
  | ⟨_, .malloc _, _⟩ => True
  | ⟨_, .transport (.acquireExclusive _), reply⟩ => reply.status = .ok
  | ⟨_, .transport (.execute command), reply⟩ => succeeded command reply = true
  | ⟨_, .transport (.releaseExclusive _), reply⟩ => reply.status = .ok

/-- A flag that is found set stops the workflow. -/
theorem Observed.not_passed {e : WorkflowEvent} (h : Observed e) : ¬ Passed e := by
  obtain ⟨s, call, reply⟩ := e
  cases call <;> simp_all [Observed, Passed]

/-- A command that was handed to the transport, with the reply to it. -/
structure Execution where
  command : Command
  reply : ExecuteReply command.dataLength

/-- The commands that a trace hands to the transport. -/
def executionOf : WorkflowEvent → Option Execution
  | ⟨_, .transport (.execute command), reply⟩ => some ⟨command, reply⟩
  | _ => none

/-- The commands of a trace with their replies. -/
def executions (t : List WorkflowEvent) : List Execution := t.filterMap executionOf

/-- No event, no command. -/
@[simp]
theorem executions_nil : executions [] = [] := rfl

/-- The commands of two traces come one after the other. -/
@[simp]
theorem executions_append (t t' : List WorkflowEvent) :
    executions (t ++ t') = executions t ++ executions t' := List.filterMap_append

/-- The replies of a device that answers the commands of a run in turn with these data, and does
not answer any more after that. Nothing requests an interrupt. -/
def answering (replies : List (List UInt8)) (n : ℕ) : (call : WorkflowCall) → WorkflowReply call
  | .testInterrupt => (0 : ℕ)
  | .clearInterrupt => (0 : ℕ)
  | .malloc _ => none
  | .transport (.acquireExclusive detail) => ⟨.ok, detail⟩
  | .transport (.execute _) =>
      match replies[(n - 3) / 2]? with
      | some data => ⟨{ transferred := data.length }, Vector.ofFn fun i => data.getD i 0⟩
      | none => ⟨{ transportStatus := .timeout }, Vector.replicate _ 0⟩
  | .transport (.releaseExclusive detail) => ⟨.ok, detail⟩

end M65
