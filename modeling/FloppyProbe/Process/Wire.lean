import FloppyProbe.Mac.Wire
import FloppyProbe.Probe.Calls
import FloppyProbe.Process.Process

/-!
# The wire during a process

Only an acknowledged `test-1581` sends data to the device or shows it a MODE SELECT; all else that
a process does is seen as reads.
-/

namespace M65

open Interaction

variable {thread : RunLoopRef} {argv : List CString} {selects : Bool}

/-- Whether the command line asks for the controller change, and acknowledges it. -/
def mayChange (argv : List CString) : Bool :=
  match cliParse argv with
  | .ok options => decide (options.command = .test1581) && options.acknowledgement
  | .error _ => false

/-- The calls of a workflow that `commandGate` lets through. -/
def WorkflowCall.Passes (thread : RunLoopRef) (selects : Bool) (call : WorkflowCall) : Prop :=
  ∀ reply, workflowGate thread (commandGate selects) () call reply = some ()

/-- The reading commands pass the gate. -/
theorem permitsReads_passes : PermitsReads (WorkflowCall.Passes thread selects) where
  testInterrupt := fun _ => rfl
  malloc := fun _ _ => rfl
  read := fun _ hdirection _ => if_pos fun hout => absurd hout hdirection

/-- The commands of a test pass a gate that is open for MODE SELECT. -/
theorem permitsSelects_passes (hselects : selects = true) :
    PermitsSelects (WorkflowCall.Passes thread selects) where
  toPermitsReads := permitsReads_passes
  clearInterrupt := fun _ => rfl
  select := fun _ _ _ _ => if_pos fun _ => hselects

/-- The exclusive access passes the gate. -/
theorem permitsBracket_passes : PermitsBracket (WorkflowCall.Passes thread selects) where
  clearInterrupt := fun _ => rfl
  acquire := fun _ _ => rfl
  release := fun _ _ => rfl

/-- A program whose calls pass the gate keeps to it. -/
theorem passes_monitored {α : Type} {p : Workflow α}
    (hp : Only (WorkflowCall.Passes thread selects) p) :
    Monitored (workflowGate thread (commandGate selects)) (fun _ _ => True) p
      (fun _ _ _ => True) :=
  .of_only hp fun _ _ reply _ hcall => hcall reply

/-- The gate does not depend on texts. -/
theorem ignoresTexts_commandGate : IgnoresTexts (commandGate selects) :=
  fun _ _ _ _ _ => rfl

/-- A test without an acknowledgement leaves the transport alone. -/
theorem test1581_unacknowledged_only :
    Only (WorkflowCall.Passes thread selects) (test1581 false) :=
  .bind (clearInterrupted_only permitsBracket_passes.clearInterrupt) fun _ => .pure _

/-- The program passes the gate; only a test that was acknowledged needs it open for MODE SELECT. -/
theorem main_passes (argv : List CString) :
    Monitored (mainGate thread (commandGate (mayChange argv))) (fun _ _ => True) (mainToEnd argv)
      (fun _ _ _ => True) := by
  refine mainToEnd_monitored (M := fun _ => True) (fun _ _ _ => ?_)
    (fun options hparse hcommand => ?_) (fun _ _ => ⟨(), rfl, trivial⟩) fun _ => id
  · exact passes_monitored (inspect_only permitsReads_passes permitsBracket_passes)
  · refine passes_monitored ?_
    cases hacknowledged : options.acknowledgement with
    | false => exact test1581_unacknowledged_only
    | true =>
      refine test1581_only (permitsSelects_passes ?_) permitsBracket_passes true
      simp [mayChange, hparse, hcommand, hacknowledged]

/-- In every run of the process, what the device sees is the wire protocol, with a MODE SELECT and
its parameter list only if the change was acknowledged. -/
theorem process_wire {interrupted : Bool} (r : ProcessRun thread argv interrupted) :
    ∃ pending, (processGate (usbWire (mayChange argv))).run none r.trace = some pending := by
  have hmain : Monitored (mainGate thread (commandGate (mayChange argv))) (fun _ q => q = ())
      (mainToEnd argv) (fun _ _ _ => True) :=
    (main_passes argv).mono (fun _ _ _ => trivial) fun _ _ _ _ => trivial
  obtain ⟨_, pending, -, hrun, -⟩ :=
    process_monitored macClient_keepsWire ignoresTexts_commandGate trivial hmain r
  exact ⟨pending, hrun⟩

end M65
