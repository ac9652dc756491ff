import FloppyProbe.Probe.Inspect
import FloppyProbe.Probe.Test1581

/-!
# The calls inside of a workflow

Between the acquisition and the release both workflows only read the flag, allocate and execute
commands; the only commands that send data are the MODE SELECTs of `m65_test_1581`.
-/

namespace M65

open Interaction

variable {P : WorkflowCall → Prop}

/-- The calls of a workflow that sends no data. -/
structure PermitsReads (P : WorkflowCall → Prop) : Prop where
  testInterrupt : P .testInterrupt
  malloc : ∀ size, P (.malloc size)
  read : ∀ command, command.direction ≠ .dataOut → P (.transport (.execute command))

/-- The calls of a workflow that sends pages. -/
structure PermitsSelects (P : WorkflowCall → Prop) : Prop extends PermitsReads P where
  clearInterrupt : P .clearInterrupt
  select : ∀ page payload, buildModeSelectPayload page = .ok payload →
    P (.transport (.execute (simpleCommand (cdbModeSelect10 40) .dataOut (some payload))))

/-- A test of the flag is among the calls of reads. -/
theorem testInterrupted_only (hP : PermitsReads P) : Only P testInterrupted :=
  .bind (.call hP.testInterrupt) fun _ => .bind (.modify _) fun _ => .get

/-- Clearing the flag is that call only. -/
theorem clearInterrupted_only (hclear : P .clearInterrupt) : Only P clearInterrupted := by
  refine .bind (.call hclear) fun _ => .bind (.modify _) fun _ => ?_
  intro s t a s' h e he
  obtain ⟨rfl, -⟩ := exec_set.1 h
  cases he

/-- A checked command is a test of the flag and the command. -/
theorem executeChecked_only (hP : PermitsReads P) {command : Command}
    (hcommand : P (.transport (.execute command))) : Only P (executeChecked command) := by
  unfold executeChecked
  cases validateCommand command with
  | error detail => exact .pure _
  | ok => exact .bind (testInterrupted_only hP) fun _ => .ite (.pure _) (.call hcommand)

/-- A command without outgoing data is among the calls of reads. -/
theorem executeSimple_only (hP : PermitsReads P) {n : ℕ} (cdb : Vector UInt8 16 × ℕ)
    {direction : DataDirection} (data : Option (Vector UInt8 n))
    (hdirection : direction ≠ .dataOut) : Only P (executeSimple cdb direction data) :=
  executeChecked_only hP (hP.read _ hdirection)

/-- MODE SENSE is among the calls of reads. -/
theorem modeSense_only (hP : PermitsReads P) (changeable : Bool) (parameters : ModeParameters) :
    Only P (modeSense changeable parameters) := by
  refine .bind (executeSimple_only hP _ _ nofun) fun reply => .ite (.ite (.pure _) ?_) (.pure _)
  cases parseModeParameters reply.buffer.toList reply.result.transferred <;> exact .pure _

/-- MODE SELECT is among the calls of a change. -/
theorem modeSelect_only (hP : PermitsSelects P) (page : FlexibleDiskPage) :
    Only P (modeSelect page) := by
  unfold modeSelect
  cases hpayload : buildModeSelectPayload page with
  | error detail => exact .pure _
  | ok payload =>
    exact .bind (executeChecked_only hP.toPermitsReads (hP.select page payload hpayload))
      fun _ => .pure _

/-- A read is among the calls of reads. -/
theorem readBlocks_only (hP : PermitsReads P) (lba : UInt32) (blocks : UInt16) (buffer) :
    Only P (readBlocks lba blocks buffer) :=
  .bind (executeSimple_only hP _ _ nofun) fun _ => .ite (.pure _) (.pure _)

/-- The calls around of what a workflow does with its transport. -/
structure PermitsBracket (P : WorkflowCall → Prop) : Prop where
  clearInterrupt : P .clearInterrupt
  acquire : ∀ detail, P (.transport (.acquireExclusive detail))
  release : ∀ detail, P (.transport (.releaseExclusive detail))

/-! ## The test -/

/-- The loop of reads makes calls of reads only. -/
theorem readImageFrom_only (hP : PermitsReads P) (lba : ℕ) (image : List UInt8)
    (report : Report1581) : Only P (readImageFrom lba image report) := by
  induction lba, image using readImageFrom.induct with
  | case1 lba image hlba ih =>
    rw [readImageFrom, dif_pos hlba]
    refine .bind (testInterrupted_only hP) fun _ => .ite (.pure _) ?_
    exact .bind (readBlocks_only hP _ _ _) fun answer => .ite (.pure _) (ih answer.2)
  | case2 lba image hlba =>
    rw [readImageFrom, dif_neg hlba]
    exact .pure _

/-- Two complete reads make calls of reads only. -/
theorem compareCompleteReads_only (hP : PermitsReads P) (report : Report1581) :
    Only P (compareCompleteReads report) := by
  refine .bind (.call (hP.malloc _)) fun image => .bind (.call (hP.malloc _)) fun secondImage => ?_
  rcases image with _ | image
  · exact .pure _
  rcases secondImage with _ | secondImage
  · exact .pure _
  refine .bind (readImageFrom_only hP _ _ _) fun _ => .ite (.pure _) ?_
  exact .bind (readImageFrom_only hP _ _ _) fun _ => .ite (.pure _) (.ite (.pure _) (.pure _))

/-- A boundary read makes calls of reads only. -/
theorem probeBoundary_only (hP : PermitsReads P) (lba : UInt32) (operation : String)
    (report : Report1581) : Only P (probeBoundary lba operation report) :=
  .bind (readBlocks_only hP _ _ _) fun _ => .ite (.ite (.pure _) (.pure _)) (.pure _)

/-- The change makes its own calls only. -/
theorem changeGeometry_only (hP : PermitsSelects P) (report : Report1581) :
    Only P (changeGeometry report) := by
  have hreads := hP.toPermitsReads
  refine .bind (modeSelect_only hP _) fun _ => .ite (.ite (.pure _) (.pure _)) ?_
  refine .bind (modeSense_only hreads _ _) fun _ => .ite (.pure _) (.ite (.pure _) ?_)
  refine .bind (probeBoundary_only hreads _ _ _) fun _ => .ite (.pure _) ?_
  refine .bind (probeBoundary_only hreads _ _ _) fun _ => .ite (.pure _) ?_
  exact compareCompleteReads_only hreads _

/-- The probe makes the calls of a change only. -/
theorem probeGeometry_only (hP : PermitsSelects P) (report : Report1581) :
    Only P (probeGeometry report) := by
  have hreads := hP.toPermitsReads
  refine .bind (modeSense_only hreads _ _) fun mode => .ite (.pure _) ?_
  refine .bind (modeSense_only hreads _ _) fun mask => .ite (.pure _) ?_
  dsimp only
  split
  · exact .pure _
  · exact .bind (changeGeometry_only hP _) fun _ => .pure _

/-- The restoration makes the calls of a change only. -/
theorem restoreController_only (hP : PermitsSelects P) (progress : Progress) :
    Only P (restoreController progress) := by
  refine .ite (.bind (clearInterrupted_only hP.clearInterrupt) fun _ => ?_)
    (.ite (.pure _) (.pure _))
  exact .bind (modeSelect_only hP _) fun _ => .ite (.pure _) (.pure _)

/-- A test makes the calls of a change, inside of an acquisition. -/
theorem test1581_only (hP : PermitsSelects P) (hbracket : PermitsBracket P)
    (acknowledgement : Bool) : Only P (test1581 acknowledgement) := by
  refine .bind (clearInterrupted_only hbracket.clearInterrupt) fun _ => .ite (.pure _) ?_
  refine .bind (.call (hbracket.acquire _)) fun reply => .ite (.pure _) ?_
  refine .bind (probeGeometry_only hP _) fun progress => ?_
  refine .bind (restoreController_only hP _) fun report => ?_
  exact .bind (.call (hbracket.release _)) fun reply => .ite (.pure _) (.pure _)

/-! ## The inspection -/

/-- A parsed command of the inspection makes calls of reads only. -/
theorem inspectParsed_only {α : Type} (hP : PermitsReads P) (report : InspectReport)
    (operation : String) (cdb : Vector UInt8 16 × ℕ) (bufferSize : ℕ)
    (parse : List UInt8 → ℕ → Except ErrorText α) :
    Only P (inspectParsed report operation cdb bufferSize parse) := by
  refine .bind (.bind (executeSimple_only hP _ _ nofun) fun _ => ?_) fun input => ?_
  · exact .ite (.pure _) (.ite (.pure _) (.pure _))
  · dsimp only
    split <;> exact .pure _

/-- The mode pages are looked at with calls of reads only. -/
theorem inspectModes_only (hP : PermitsReads P) (report : InspectReport) :
    Only P (inspectModes report) := by
  refine .bind (inspectParsed_only hP _ _ _ _ _) fun current => ?_
  cases current with
  | error report => exact .pure _
  | ok current =>
    refine .bind (inspectParsed_only hP _ _ _ _ _) fun changeable => ?_
    cases changeable <;> exact .pure _

/-- The capacities are looked at with calls of reads only. -/
theorem inspectCapacities_only (hP : PermitsReads P) (report : InspectReport) :
    Only P (inspectCapacities report) := by
  refine .bind (inspectParsed_only hP _ _ _ _ _) fun capacity => ?_
  cases capacity with
  | error report => exact .pure _
  | ok capacity =>
    refine .bind (inspectParsed_only hP _ _ _ _ _) fun capacities => ?_
    cases capacities with
    | error report => exact .pure _
    | ok capacities => exact inspectModes_only hP _

/-- The inspection of the controller makes calls of reads only. -/
theorem inspectController_only (hP : PermitsReads P) (report : InspectReport) :
    Only P (inspectController report) := by
  refine .bind (inspectParsed_only hP _ _ _ _ _) fun inquiry => ?_
  cases inquiry with
  | error report => exact .pure _
  | ok inquiry =>
    exact .bind (executeSimple_only hP _ _ nofun) fun _ =>
      .ite (.pure _) (inspectCapacities_only hP _)

/-- An inspection makes calls of reads only, inside of an acquisition. -/
theorem inspect_only (hP : PermitsReads P) (hbracket : PermitsBracket P) : Only P inspect := by
  refine .bind (clearInterrupted_only hbracket.clearInterrupt) fun _ => ?_
  refine .bind (.call (hbracket.acquire _)) fun reply => .ite (.pure _) ?_
  refine .bind (inspectController_only hP _) fun report => ?_
  exact .bind (.call (hbracket.release _)) fun reply => .ite (.pure _) (.pure _)

end M65
