import FloppyProbe.Interaction.Monitor
import FloppyProbe.Mac.Effects

/-!
# The calls of the adapter

Which calls of IOUSBLib, of the run loop and of the allocator each operation of the adapter can
make.
-/

namespace M65

open Interaction

variable {current : RunLoopRef} {detail : ErrorText} {P : IoUsbCall → Prop}

/-- The calls that wait for a completion callback, or ask for one. -/
def IoUsbCall.IsDrain : IoUsbCall → Prop
  | .abortPipe _ => True
  | .deadline _ => True
  | .runLoopRound => True
  | _ => False

/-- The calls that look at the descriptors of the interface. -/
def IoUsbCall.IsInspection : IoUsbCall → Prop
  | .getInterfaceClass => True
  | .getInterfaceSubClass => True
  | .getInterfaceProtocol => True
  | .getInterfaceNumber => True
  | .getNumEndpoints => True
  | .getPipeProperties _ => True
  | _ => False

/-- The calls that an operation of the adapter can make. -/
inductive CbiIoOp.Makes : CbiIoOp → IoUsbCall → Prop
  | seize : Makes .openSeize .usbInterfaceOpenSeize
  | geteuid : Makes .openSeize .geteuid
  | inspection {call : IoUsbCall} (h : call.IsInspection) : Makes .openSeize call
  | attach : Makes .openSeize .createInterfaceAsyncEventSource
  | abandon : Makes .openSeize .usbInterfaceClose
  | closeDrain {call : IoUsbCall} (h : call.IsDrain) : Makes .close call
  | close : Makes .close .usbInterfaceClose
  | control (pipe : UInt8) (request : IoUsbDevRequestTO) :
      Makes .adsc (.controlRequestTO pipe request)
  | read {n : ℕ} (pipe : UInt8) (buffer : Vector UInt8 n) (noData completion : ℕ) :
      Makes .bulkIn (.readPipeTO pipe buffer noData completion)
  | write {n : ℕ} (pipe : UInt8) (buffer : Vector UInt8 n) (noData completion : ℕ) :
      Makes .bulkOut (.writePipeTO pipe buffer noData completion)
  | clear {op : CbiIoOp} (h : op.IsBulk ∨ op = .clearStall ∨ op = .interruptInWithDeadline ∨
      op = .prepareCommandBlockReset) (pipe : UInt8) : Makes op (.clearPipeStallBothEnds pipe)
  | calloc : Makes .interruptInWithDeadline .calloc
  | readAsync (pipe : UInt8) (request : RequestRef) :
      Makes .interruptInWithDeadline (.readPipeAsync pipe request)
  | interruptDrain {call : IoUsbCall} (h : call.IsDrain) : Makes .interruptInWithDeadline call
  | prepareDrain {call : IoUsbCall} (h : call.IsDrain) : Makes .prepareCommandBlockReset call

/-- The rounds of a wait only turn the run loop. -/
theorem runRounds_only (hP : ∀ call, IoUsbCall.IsDrain call → P call) (rounds : ℕ) :
    Only P (runRounds rounds) := by
  induction rounds with
  | zero => exact .bind .get fun _ => .pure _
  | succ rounds ih =>
    refine .bind .get fun _ => .ite (.pure _) (.bind (.call (hP _ trivial)) fun _ => ?_)
    exact .bind (.modify _) fun _ => ih

/-- Waiting for the interrupt only takes a deadline and turns the run loop. -/
theorem runUntilInterrupt_only (hP : ∀ call, IoUsbCall.IsDrain call → P call) (milliseconds : ℕ) :
    Only P (runUntilInterrupt milliseconds) :=
  .bind (.call (hP _ trivial)) fun _ => runRounds_only hP _

/-- Draining the interrupt only aborts its pipe and waits. -/
theorem abortAndDrainInterrupt_only (hP : ∀ call, IoUsbCall.IsDrain call → P call) :
    Only P abortAndDrainInterrupt := by
  refine .bind .get fun m => .ite (.pure _) (.bind (.call (hP _ trivial)) fun _ => ?_)
  exact .ite (.pure _) (.bind (runUntilInterrupt_only hP _) fun _ => .pure _)

/-! ## Opening and closing -/

/-- Looking through the pipes only reads descriptors. -/
theorem inspectPipes_only (pipes : List UInt8) (detail : ErrorText) :
    Only IoUsbCall.IsInspection (inspectPipes detail pipes) := by
  induction pipes with
  | nil => exact .pure _
  | cons pipe pipes ih =>
    refine .bind (.call trivial) fun properties => .bind .get fun m => .ite (.pure _) ?_
    exact .ite (.bind (.modify _) fun _ => ih) (.ite (.bind (.modify _) fun _ => ih)
      (.ite (.bind (.modify _) fun _ => ih) (.pure _)))

/-- The inspection of the endpoints only reads descriptors. -/
theorem inspectEndpoints_only : Only IoUsbCall.IsInspection (inspectEndpoints detail) := by
  refine .bind (.call trivial) fun _ => .ite (.pure _) ?_
  refine .bind (.call trivial) fun _ => .ite (.pure _) ?_
  refine .bind (.call trivial) fun _ => .ite (.pure _) ?_
  refine .bind (.call trivial) fun _ => .bind (.modify _) fun _ => .ite (.pure _) ?_
  refine .bind (.call trivial) fun _ => .ite (.pure _) (.ite (.pure _) ?_)
  refine .bind (.modify _) fun _ => .bind (inspectPipes_only _ _) fun _ => ?_
  exact .ite (.pure _) (.bind .get fun _ => .ite (.pure _) (.pure _))

/-- A failed seizure only asks for the effective user. -/
theorem seizureFailure_only (result : IOReturn) : Only (· = .geteuid) (seizureFailure result) :=
  .ite (.bind (.call rfl) fun _ => .bind (.call rfl) fun _ => .pure _) (.ite (.pure _) (.pure _))

/-- The event source is attached with calls that opening may make. -/
theorem attachEventSource_makes :
    Only (CbiIoOp.Makes .openSeize) (attachEventSource current detail) := by
  refine .bind (.call .attach) fun created => .bind (.modify _) fun _ => .ite ?_ ?_
  · refine .bind (.modify _) fun _ => .bind (.call .abandon) fun _ => ?_
    exact .bind (.modify _) fun _ => .pure _
  · exact .bind (.modify _) fun _ => .pure _

/-- Opening makes its own calls only. -/
theorem macOpenSeize_makes : Only (CbiIoOp.Makes .openSeize) (macOpenSeize current detail) := by
  refine .bind .get fun m => .ite (.pure _) (.bind (.call .seize) fun result => .ite ?_ ?_)
  · exact (seizureFailure_only result).mono fun call hcall => hcall ▸ .geteuid
  · refine .bind (.modify _) fun _ => .bind (inspectEndpoints_only.mono fun _ => .inspection)
      fun inspected => .ite ?_ attachEventSource_makes
    exact .bind (.call .abandon) fun _ => .bind (.modify _) fun _ => .pure _

/-- Closing makes its own calls only. -/
theorem macClose_makes : Only (CbiIoOp.Makes .close) (macClose current detail) := by
  refine .bind .get fun m => .ite (.pure _) (.bind (.bind .get fun _ => .ite (.pure _) ?_) ?_)
  · exact .bind (abortAndDrainInterrupt_only fun _ => .closeDrain) fun _ => .pure _
  · intro aborted
    refine .bind (.call .close) fun _ => .bind (.modify _) fun _ => .ite (.pure _) (.pure _)

/-! ## Transfers -/

/-- After a bulk transfer at most the stall of its pipe is cleared. -/
theorem bulkResult_only (hP : ∀ pipe, P (.clearPipeStallBothEnds pipe)) (pipe : UInt8)
    (name resynchronize : String) (result : IOReturn) :
    Only P (bulkResult pipe name resynchronize result detail) :=
  .ite (.pure _) (.ite (.pure _)
    (.bind (.modify _) fun _ => .bind (.call (hP _)) fun _ => .pure _))

/-- A completion is taken without a call. -/
theorem takeCompletion_only (ref : RequestRef) (completion : Vector UInt8 cbiStatusLength) :
    Only P (takeCompletion ref completion detail) := by
  refine .bind .get fun m => .bind (.modify _) fun _ => .ite ?_ (.ite ?_ (.pure _))
  · exact .bind (.modify _) fun _ => .pure _
  · exact .bind (.modify _) fun _ => .pure _

/-- Giving up on the interrupt makes calls of its operation only. -/
theorem abandonInterrupt_makes (completion : Vector UInt8 cbiStatusLength) :
    Only (CbiIoOp.Makes .interruptInWithDeadline) (abandonInterrupt completion) := by
  refine .bind (.modify _) fun _ =>
    .bind (abortAndDrainInterrupt_only fun _ => .interruptDrain) fun aborted => .ite ?_ ?_
  · exact .bind (.modify _) fun _ => .pure _
  · refine .bind .get fun m => .bind (.call (.clear (by simp) _)) fun _ => ?_
    exact .bind (.modify _) fun _ => .pure _

/-- The read of the interrupt makes its own calls only. -/
theorem macInterruptInWithDeadline_makes (completion : Vector UInt8 cbiStatusLength)
    (timeoutMs : ℕ) : Only (CbiIoOp.Makes .interruptInWithDeadline)
      (macInterruptInWithDeadline current completion timeoutMs detail) := by
  refine .bind .get fun m => .ite (.pure _) (.ite (.pure _) (.bind (.call .calloc) fun _ => ?_))
  refine .ite (.pure _) (.bind (.modify _) fun _ => .bind (.call (.readAsync _ _)) fun _ => ?_)
  refine .ite (.bind (.modify _) fun _ => .pure _) (.bind (.modify _) fun _ => ?_)
  refine .bind (runUntilInterrupt_only (fun _ => .interruptDrain) _) fun completed => ?_
  exact .ite (takeCompletion_only _ _) (abandonInterrupt_makes _)

/-- The preparation of a reset makes its own calls only. -/
theorem macPrepareCommandBlockReset_makes : Only (CbiIoOp.Makes .prepareCommandBlockReset)
    (macPrepareCommandBlockReset current detail) := by
  refine .bind .get fun m => .ite (.pure _) (.ite (.pure _) ?_)
  refine .bind (abortAndDrainInterrupt_only fun _ => .prepareDrain) fun result => .ite ?_ ?_
  · exact .bind (.modify _) fun _ => .pure _
  · refine .bind (.modify _) fun _ => .bind (.call (.clear (by simp) _)) fun _ => .ite (.pure _) ?_
    exact .bind (.modify _) fun _ => .pure _

/-- The calls of an operation are those that `Makes` lists for it. -/
theorem macIo_makes (call : CbiIoCall) : Only call.op.Makes (macIo current call) := by
  cases call with
  | openSeize => exact macOpenSeize_makes
  | close => exact macClose_makes
  | adsc cdb timeoutMs detail =>
    refine .bind .get fun m => ?_
    cases readyForAdsc current m.context cdb with
    | some refusal => exact .pure _
    | none =>
      refine .bind (.call (.control _ _)) fun _ => .ite (.ite ?_ (.pure _)) (.ite ?_ (.pure _))
      · exact .bind (.modify _) fun _ => .pure _
      · exact .bind (.modify _) fun _ => .pure _
  | bulkIn =>
    -- the two guards of a bulk transfer return without a call
    refine .bind .get fun m => .ite (.pure _) (.ite (.pure _) ?_)
    refine .bind (.call (.read _ _ _ _)) fun reply => ?_
    exact .bind (bulkResult_only (.clear (.inl (.inl rfl))) _ _ _ _) fun _ => .pure _
  | bulkOut =>
    refine .bind .get fun m => .ite (.pure _) (.ite (.pure _) ?_)
    refine .bind (.call (.write _ _ _ _)) fun reply => ?_
    exact .bind (bulkResult_only (.clear (.inl (.inr rfl))) _ _ _ _) fun _ => .pure _
  | interruptInWithDeadline => exact macInterruptInWithDeadline_makes _ _
  | clearStall =>
    refine .bind .get fun m => .ite (.pure _) (.ite (.pure _) ?_)
    exact .bind (.call (.clear (.inr (.inl rfl)) _)) fun _ => .pure _
  | prepareCommandBlockReset => exact macPrepareCommandBlockReset_makes
  | finishCommandBlockReset =>
    refine .bind .get fun m => .ite (.pure _) (.ite ?_ ?_)
    · exact .bind (.modify _) fun _ => .pure _
    · exact .bind (.modify _) fun _ => .pure _

end M65
