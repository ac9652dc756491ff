import FloppyProbe.Probe.Calls
import FloppyProbe.Scsi.Lifecycle

/-!
# The workflows on the SCSI transport

A workflow knows its transport only by the three operations, so that it also runs on SCSITaskLib.
However the run ends, every task was released and the device was given back when the transport is
destroyed after it.
-/

namespace M65

open Interaction

variable {α : Type} {selects : Bool}

/-! ## Environment -/

/-- What a workflow on this transport asks of the system. -/
inductive ScsiHostCall where
  | testInterrupt
  | clearInterrupt
  | malloc (size : ℕ)
  | scsi (call : ScsiCall)

/-- What the system answers. -/
abbrev ScsiHostReply : ScsiHostCall → Type
  | .testInterrupt => ℕ
  | .clearInterrupt => ℕ
  | .malloc size => Option (Vector UInt8 size)
  | .scsi call => ScsiReply call

/-- What stands behind a call of the workflow. -/
def serveOnScsi :
    (call : WorkflowCall) → Prog MacScsiContext ScsiHostReply (WorkflowReply call)
  | .testInterrupt => Prog.call ScsiHostCall.testInterrupt
  | .clearInterrupt => Prog.call ScsiHostCall.clearInterrupt
  | .malloc size => Prog.call (ScsiHostCall.malloc size)
  | .transport call => Prog.lift ScsiHostCall.scsi (scsiTransport call)

/-- A workflow on a SCSI transport that is destroyed after it. -/
def onScsi (workflow : Workflow α) : Prog (Bool × MacScsiContext) ScsiHostReply α := do
  let report ← workflow.atop serveOnScsi
  (Prog.lift ScsiHostCall.scsi Scsi.macDestroy).under
  return report

/-- A run from the creation of the transport, where the flag may be set by an early signal. -/
abbrev ScsiRun (workflow : Workflow α) (interrupted : Bool) : Type :=
  Run (onScsi workflow) (interrupted, {})

/-! ## The protocol -/

/-- The protocol of the tasks, for the calls of the host. -/
def scsiHostGate (selects : Bool) : Monitor ScsiHostReply DevicePhase
  | phase, .scsi call, reply => taskLifecycle selects phase call reply
  | phase, _, _ => some phase

/-- Only with `selects` the call sends data. -/
def WorkflowCall.SendsIf (selects : Bool) (call : WorkflowCall) : Prop :=
  ∀ command, call = .transport (.execute command) → command.direction = .dataOut → selects = true

/-- The reading commands send no data. -/
theorem permitsReads_sendsIf : PermitsReads (WorkflowCall.SendsIf selects) where
  testInterrupt := nofun
  malloc := nofun
  read := by
    rintro command hdirection _ ⟨⟩ hout
    exact absurd hout hdirection

/-- The commands of a test may send data. -/
theorem permitsSelects_sendsIf : PermitsSelects (WorkflowCall.SendsIf true) where
  toPermitsReads := permitsReads_sendsIf
  clearInterrupt := nofun
  select := fun _ _ _ _ _ _ => rfl

/-- The exclusive access sends no data. -/
theorem permitsBracket_sendsIf : PermitsBracket (WorkflowCall.SendsIf selects) where
  clearInterrupt := nofun
  acquire := nofun
  release := nofun

/-- A served call follows the protocol of SCSITaskLib. -/
theorem serveOnScsi_keeps {call : WorkflowCall} (hcall : call.SendsIf selects) :
    Monitored (scsiHostGate selects) (ScsiTracked true) (serveOnScsi call)
      fun _ => ScsiTracked true := by
  cases call with
  | testInterrupt | clearInterrupt | malloc =>
    exact .call fun _ phase _ htracked => ⟨phase, rfl, htracked⟩
  | transport call =>
    refine .lift (ν := scsiHostGate selects) ?_
    cases call with
    | acquireExclusive detail => exact macAcquire_keeps detail
    | execute command => exact macExecute_keeps (hcall command rfl)
    | releaseExclusive detail => exact macRelease_keeps detail

/-- The layers below a workflow, whatever it calls. -/
theorem served_keeps {l : List (Event Bool WorkflowReply)} {c c' : MacScsiContext}
    {t : List (Event (Bool × MacScsiContext) ScsiHostReply)}
    (hserved : Served serveOnScsi c l t c') (hl : ∀ e ∈ l, e.call.SendsIf selects)
    {phase : DevicePhase} (htracked : ScsiTracked true c phase) :
    ∃ phase', (scsiHostGate selects).run phase t = some phase' ∧ ScsiTracked true c' phase' := by
  induction hserved generalizing phase with
  | nil => exact ⟨phase, rfl, htracked⟩
  | @cons e l inner t u u₁ u' hexec _ ih =>
    obtain ⟨he, hl⟩ := List.forall_mem_cons.1 hl
    obtain ⟨phase₁, hinner, htracked₁⟩ := serveOnScsi_keeps he htracked hexec
    obtain ⟨phase', ht, htracked'⟩ := ih hl htracked₁
    refine ⟨phase', Monitor.run_append_of_some ?_ ht, htracked'⟩
    rw [Monitor.run_below]
    exact hinner

/-- Every run of a workflow follows the protocol of SCSITaskLib to its end. -/
theorem onScsi_lifecycle {workflow : Workflow α}
    (hworkflow : Only (WorkflowCall.SendsIf selects) workflow) {interrupted : Bool}
    (r : ScsiRun workflow interrupted) :
    (scsiHostGate selects).run .shared r.trace = some .released := by
  obtain ⟨trace, report, ⟨flag, c'⟩, hexec⟩ := r
  obtain ⟨t₁, _, ⟨flag₁, c₁⟩, t₂, hrun, hrest, rfl⟩ := exec_bind.1 hexec
  obtain ⟨l, hl, hserved⟩ := exec_atop.1 hrun
  obtain ⟨phase, hphase, htracked⟩ :=
    served_keeps hserved (hworkflow hl) (scsiTracked_shared rfl rfl)
  obtain ⟨t₃, _, ⟨flag₂, c₂⟩, t₄, hdestroy, hend, rfl⟩ := exec_bind.1 hrest
  obtain ⟨rfl, -, -⟩ := exec_pure.1 hend
  obtain ⟨-, inner, hinner, rfl⟩ := exec_under.1 hdestroy
  have hreleases : Monitored (scsiHostGate selects) (ScsiTracked true)
      (Prog.lift ScsiHostCall.scsi Scsi.macDestroy) fun _ => ScsiTracked false :=
    .lift macDestroy_releases
  obtain ⟨_, hreleased, rfl⟩ := hreleases htracked hinner
  refine Monitor.run_append_of_some hphase ?_
  rw [List.append_nil, Monitor.run_below]
  exact hreleased

/-- In every run of a workflow on the SCSI transport the tasks keep to their life cycle and the
device is given back, and only an acknowledged test sends data. -/
theorem scsiDiagnosis_lifecycle :
    (∀ {interrupted : Bool} (r : ScsiRun inspect interrupted),
      (scsiHostGate false).run .shared r.trace = some .released) ∧
    ∀ (acknowledgement : Bool) {interrupted : Bool}
      (r : ScsiRun (test1581 acknowledgement) interrupted),
      (scsiHostGate acknowledgement).run .shared r.trace = some .released := by
  refine ⟨onScsi_lifecycle (inspect_only permitsReads_sendsIf permitsBracket_sendsIf), ?_⟩
  intro acknowledgement interrupted r
  refine onScsi_lifecycle ?_ r
  cases acknowledgement with
  | true => exact test1581_only permitsSelects_sendsIf permitsBracket_sendsIf true
  | false => exact .bind (clearInterrupted_only nofun) fun _ => .pure _

end M65
