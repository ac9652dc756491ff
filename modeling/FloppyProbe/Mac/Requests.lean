import FloppyProbe.Interaction.Hide
import FloppyProbe.Mac.Adapter

/-!
# Accesses to the completion requests

The functions of `src/usb_cbi_macos.c` that use a `MacInterruptRequest` once more, access by access.
An access to a request that was freed is a call of its own (`useAfterFree`), and the two steps of a
callback, its stores and its release, may come whenever the adapter is about to look at a request,
not only in a round of the run loop (`callbacks`). An operation that only compares the pointer with
NULL could as well be called after the steps that come while it runs.

Without these calls, the programs are those of the adapter (`hide_macIo`), whose runs are therefore
among the watched ones (`exec_macIoChecked`).
-/

namespace M65

open Interaction

/-! ## Watching requests -/

/-- A step of `interrupt_callback` for a callback that IOUSBLib holds. -/
inductive CallbackStep where
  | complete (completion : Completion)
  | release (ref : RequestRef)

/-- The watched moments: a callback may fire, and a request is used that does not live. -/
inductive RequestWatch where
  /-- The steps of callbacks that come at this moment. -/
  | callbacks
  | useAfterFree (ref : RequestRef)

/-- A moment for callbacks is answered by what fires in it. -/
abbrev RequestWatchReply : RequestWatch → Type
  | .callbacks => List CallbackStep
  | .useAfterFree _ => Unit

/-- No callback fires. -/
def quietWatch : (watch : RequestWatch) → RequestWatchReply watch
  | .callbacks => []
  | .useAfterFree _ => ()

/-- A program of the adapter with the watched moments among its calls. -/
abbrev WatchedIo : Type → Type := Prog MacState (WatchedReply IoUsbReply RequestWatchReply)

/-- A call in a run of the watched adapter. -/
abbrev WatchedEvent : Type := Event MacState (WatchedReply IoUsbReply RequestWatchReply)

/-- A part of the adapter that uses no request. -/
abbrev unwatched {α : Type} (p : MacIo α) : WatchedIo α :=
  p.lift (σ := WatchedReply IoUsbReply RequestWatchReply) Sum.inl

/-- An access to the request at `ref`. -/
def accessRequest (ref : RequestRef) : WatchedIo Unit := do
  let m ← get
  if (m.request? ref).isNone then
    Prog.call (Sum.inr (RequestWatch.useAfterFree ref))

namespace MacState

/-- The stores of `interrupt_callback`. -/
def storeCompletion (m : MacState) (completion : Completion) : MacState :=
  match m.request? completion.request with
  | none => m
  | some request =>
      m.setRequest completion.request (some
        { request with
          result := completion.result
          transferred := completion.transferred
          buffer := completion.buffer
          complete := true })

/-- The release of `interrupt_callback`, which ends the callback. -/
def endCallback (m : MacState) (ref : RequestRef) : MacState :=
  { m with outstanding := m.outstanding.erase ref }.interruptRequestRelease ref

/-- The callback, step by step. -/
theorem interruptCallback_eq (m : MacState) (completion : Completion) :
    m.interruptCallback completion =
      (m.storeCompletion completion).endCallback completion.request := by
  unfold interruptCallback storeCompletion endCallback
  have hsame : ({ m with outstanding := m.outstanding.erase completion.request } :
      MacState).request? completion.request = m.request? completion.request := rfl
  dsimp only
  rw [hsame]
  cases hlive : m.request? completion.request with
  | none => simp [interruptRequestRelease, hsame, hlive]
  | some request => rfl

/-- A completion takes no reference from a callback. -/
@[simp]
theorem storeCompletion_outstanding (m : MacState) (completion : Completion) :
    (m.storeCompletion completion).outstanding = m.outstanding := by
  unfold storeCompletion
  cases m.request? completion.request <;> rfl

end MacState

/-- One step of `interrupt_callback`: it fills in the request, or gives its reference back. -/
def callbackStep : CallbackStep → WatchedIo Unit
  | .complete completion => do
      let m ← get
      if completion.request ∈ m.outstanding then
        accessRequest completion.request
        modify fun m => m.storeCompletion completion
  | .release ref => do
      let m ← get
      if ref ∈ m.outstanding then
        accessRequest ref
        modify fun m => m.endCallback ref

/-- The steps of callbacks that come at one moment, in order. -/
def callbackSteps : List CallbackStep → WatchedIo Unit
  | [] => return ()
  | step :: steps => do
      callbackStep step
      callbackSteps steps

/-- The callback that fires in a round of the run loop. -/
def roundSteps : Option Completion → List CallbackStep
  | none => []
  | some completion => [.complete completion, .release completion.request]

/-- A moment at which callbacks may fire. -/
def callbacks : WatchedIo Unit := do
  let steps : List CallbackStep ← Prog.call (Sum.inr RequestWatch.callbacks)
  callbackSteps steps

/-! ## Requests -/

/-- `interrupt_request_release`, which uses the request. -/
def interruptRequestReleaseChecked (ref : RequestRef) : WatchedIo Unit := do
  accessRequest ref
  modify fun m => m.interruptRequestRelease ref

/-- `release_interrupt_request`: the pointer of the context is cleared before the request is
released. -/
def releaseInterruptRequestChecked : WatchedIo Unit := do
  callbacks
  let m ← get
  match m.context.interruptRequest with
  | none => return ()
  | some ref =>
      modify fun m => { m with context := { m.context with interruptRequest := none } }
      interruptRequestReleaseChecked ref

/-- `interrupt_request_complete(context->interrupt_request)`. -/
def interruptRequestCompleteChecked : WatchedIo Bool := do
  callbacks
  let m ← get
  match m.context.interruptRequest with
  | none => return false
  | some ref =>
      accessRequest ref
      return m.interruptRequestComplete

/-- The rounds of a wait; callbacks fire in each of them. -/
def runRoundsChecked : ℕ → WatchedIo Bool
  | 0 => interruptRequestCompleteChecked
  | rounds + 1 => do
      if ← interruptRequestCompleteChecked then
        return true
      let fired : Option Completion ← unwatched (Prog.call IoUsbCall.runLoopRound)
      callbackSteps (roundSteps fired)
      runRoundsChecked rounds

/-- `run_until_interrupt`. -/
def runUntilInterruptChecked (milliseconds : ℕ) : WatchedIo Bool := do
  let rounds : ℕ ← unwatched (Prog.call (IoUsbCall.deadline milliseconds))
  runRoundsChecked rounds

/-- `abort_and_drain_interrupt`. -/
def abortAndDrainInterruptChecked : WatchedIo IOReturn := do
  let m ← get
  if m.context.interruptRequest.isNone then
    return kIOReturnSuccess
  if ← interruptRequestCompleteChecked then
    return kIOReturnSuccess
  let m ← get
  let result : IOReturn ← unwatched (Prog.call (IoUsbCall.abortPipe m.context.interruptInPipe))
  if result ≠ kIOReturnSuccess then
    return result
  let drained ← runUntilInterruptChecked interruptAbortDrainMs
  return if drained then kIOReturnSuccess else kIOReturnTimeout

/-- The release of a request that turned out to be complete. -/
def releaseIfCompleteChecked : WatchedIo Unit := do
  if ← interruptRequestCompleteChecked then
    releaseInterruptRequestChecked

/-! ## Closing -/

/-- The first part of `mac_close`: a pending interrupt is aborted, on the right thread only. -/
def abortBeforeCloseChecked (current : RunLoopRef) (detail : ErrorText) :
    WatchedIo (IOReturn × ErrorText) := do
  let m ← get
  if !onTransportRunLoop current m.context then
    return (kIOReturnBadArgument, wrongThread)
  let abortResult ← abortAndDrainInterruptChecked
  return (abortResult, detail)

/-- `mac_close`. -/
def macCloseChecked (current : RunLoopRef) (detail : ErrorText) : WatchedIo CbiReply := do
  let m ← get
  if !m.context.isOpen then
    return ⟨.ok, detail⟩
  let (abortResult, detail) ← abortBeforeCloseChecked current detail
  let result : IOReturn ← unwatched (Prog.call IoUsbCall.usbInterfaceClose)
  modify fun m => { m with context := { m.context with isOpen := false, resetArmed := false } }
  releaseInterruptRequestChecked
  modify fun m => { m with context := removeEventSource m.context }
  if abortResult ≠ kIOReturnSuccess then
    let detail :=
      if detail.bytes = [] then
        describeIoReturn "abort pending CBI interrupt before close" abortResult
      else
        detail
    return ⟨mapIoReturn abortResult,
      if result ≠ kIOReturnSuccess then appendIoReturn detail "USBInterfaceClose" result
      else detail⟩
  return ⟨mapIoReturn result,
    if result ≠ kIOReturnSuccess then describeIoReturn "USBInterfaceClose" result else detail⟩

/-- `mac_destroy_io` up to the end of the context. -/
def macDestroyIoChecked (current : RunLoopRef) (ignored : ErrorText) : WatchedIo Unit := do
  let m ← get
  if m.context.isOpen then
    let _ ← macCloseChecked current ignored
  modify fun m => { m with context := removeEventSource m.context }
  releaseInterruptRequestChecked

/-! ## The completion interrupt -/

/-- The end of a read of the interrupt that was not completed in time. -/
def abandonInterruptChecked (completion : Vector UInt8 cbiStatusLength) :
    WatchedIo InterruptReply := do
  unwatched (updateContext MacCbiContext.desynchronize)
  let abortResult ← abortAndDrainInterruptChecked
  let detail := errorText "CBI interrupt-IN timed out and was aborted"
  if abortResult ≠ kIOReturnSuccess then
    releaseIfCompleteChecked
    return ⟨⟨mapIoReturn abortResult,
      appendIoReturn detail "abort timed-out interrupt-IN" abortResult⟩, completion, 0⟩
  let m ← get
  let clearResult : IOReturn ←
    unwatched (Prog.call (IoUsbCall.clearPipeStallBothEnds m.context.interruptInPipe))
  releaseInterruptRequestChecked
  return ⟨⟨.timeout,
    if clearResult ≠ kIOReturnSuccess then
      appendIoReturn detail "resynchronize interrupt-IN after timeout" clearResult
    else
      detail⟩, completion, 0⟩

/-- The end of a read of the interrupt whose callback has fired. -/
def takeCompletionChecked (ref : RequestRef) (completion : Vector UInt8 cbiStatusLength)
    (detail : ErrorText) : WatchedIo InterruptReply := do
  callbacks
  accessRequest ref
  let m ← get
  let request := (m.request? ref).getD { references := 0 }
  let completion := copyStatus completion request
  releaseInterruptRequestChecked
  if request.result ≠ kIOReturnSuccess then
    unwatched (updateContext MacCbiContext.desynchronize)
    return ⟨⟨mapIoReturn request.result, describeIoReturn "CBI interrupt-IN" request.result⟩,
      completion, request.transferred⟩
  if request.transferred ≠ cbiStatusLength then
    unwatched (updateContext MacCbiContext.desynchronize)
    return ⟨⟨.protocol, errorText "CBI interrupt-IN did not return exactly two bytes"⟩,
      completion, request.transferred⟩
  return ⟨⟨.ok, detail⟩, completion, request.transferred⟩

/-- `mac_interrupt_in_with_deadline`. -/
def macInterruptInWithDeadlineChecked (current : RunLoopRef)
    (completion : Vector UInt8 cbiStatusLength) (timeoutMs : ℕ) (detail : ErrorText) :
    WatchedIo InterruptReply := do
  let m ← get
  if !onTransportRunLoop current m.context then
    return ⟨⟨.protocol, wrongThread⟩, completion, 0⟩
  if m.context.interruptRequest.isSome then
    return ⟨⟨.protocol, errorText "previous CBI interrupt request has not drained"⟩,
      completion, 0⟩
  let allocated : Bool ← unwatched (Prog.call IoUsbCall.calloc)
  if !allocated then
    return ⟨⟨.error, errorText "out of memory submitting CBI interrupt-IN"⟩, completion, 0⟩
  let ref : RequestRef := m.requests.length
  modify MacState.allocateRequest
  let result : IOReturn ←
    unwatched (Prog.call (IoUsbCall.readPipeAsync m.context.interruptInPipe ref))
  if result ≠ kIOReturnSuccess then
    interruptRequestReleaseChecked ref
    releaseInterruptRequestChecked
    return ⟨⟨mapIoReturn result, describeIoReturn "submit CBI interrupt-IN" result⟩,
      completion, 0⟩
  modify fun m => { m with outstanding := ref :: m.outstanding }
  let completed ← runUntilInterruptChecked timeoutMs
  if completed then
    takeCompletionChecked ref completion detail
  else
    abandonInterruptChecked completion

/-! ## Recovery -/

/-- `mac_prepare_command_block_reset`. -/
def macPrepareCommandBlockResetChecked (current : RunLoopRef) (detail : ErrorText) :
    WatchedIo CbiReply := do
  let m ← get
  if !onTransportRunLoop current m.context then
    return ⟨.protocol, wrongThread⟩
  if !m.context.isOpen || m.context.resetArmed then
    return ⟨.protocol, errorText "CBI command-block reset preparation has invalid state"⟩
  let result ← abortAndDrainInterruptChecked
  if result ≠ kIOReturnSuccess then
    releaseIfCompleteChecked
    return ⟨mapIoReturn result,
      describeIoReturn "drain previous CBI interrupt before reset" result⟩
  releaseInterruptRequestChecked
  let clearResult : IOReturn ←
    unwatched (Prog.call (IoUsbCall.clearPipeStallBothEnds m.context.interruptInPipe))
  if clearResult ≠ kIOReturnSuccess then
    return ⟨mapIoReturn clearResult,
      describeIoReturn "resynchronize interrupt-IN before CBI reset" clearResult⟩
  unwatched (updateContext fun context => { context with resetArmed := true })
  return ⟨.ok, detail⟩

/-- The operation of the adapter behind each call; `mac_adsc` only compares the pointer to the
request with NULL, and the others do not use it. -/
def macIoChecked (current : RunLoopRef) : (call : CbiIoCall) → WatchedIo (CbiIoReply call)
  | .openSeize detail => unwatched (macOpenSeize current detail)
  | .close detail => macCloseChecked current detail
  | .adsc cdb timeoutMs detail => unwatched (macAdsc current cdb timeoutMs detail)
  | .bulkIn buffer timeoutMs detail => unwatched (macBulkIn current buffer timeoutMs detail)
  | .bulkOut buffer timeoutMs detail => unwatched (macBulkOut current buffer timeoutMs detail)
  | .interruptInWithDeadline completion timeoutMs detail =>
      macInterruptInWithDeadlineChecked current completion timeoutMs detail
  | .clearStall direction detail => unwatched (macClearStall current direction detail)
  | .prepareCommandBlockReset detail => macPrepareCommandBlockResetChecked current detail
  | .finishCommandBlockReset recovered detail =>
      unwatched (macFinishCommandBlockReset current recovered detail)

/-! ## Hiding the accesses -/

section Hiding

variable {current : RunLoopRef} {detail : ErrorText}

/-- Unwatched, the use of a request is no step. -/
@[simp]
theorem hide_accessRequest (ref : RequestRef) :
    (accessRequest ref).hide quietWatch = (pure () : MacIo Unit) := by
  funext m
  show Tree.hide quietWatch ((if (m.request? ref).isNone then _ else _ : WatchedIo Unit) m) = _
  by_cases hfreed : (m.request? ref).isNone
  · rw [if_pos hfreed]
    rfl
  · rw [if_neg hfreed]
    rfl

/-- Unwatched, a moment for callbacks is no step. -/
@[simp]
theorem hide_callbacks : callbacks.hide quietWatch = (pure () : MacIo Unit) := rfl

/-- Unwatched, a completion is stored as in the plain adapter. -/
@[simp]
theorem hide_callbackStep_complete (completion : Completion) :
    (callbackStep (.complete completion)).hide quietWatch = (modify fun m =>
      if completion.request ∈ m.outstanding then m.storeCompletion completion else m :
        MacIo Unit) := by
  simp only [callbackStep, hide_bind, hide_get, hide_ite, hide_accessRequest, hide_modify,
    hide_pure, pure_bind]
  funext m
  show (ite _ _ _ : MacIo Unit) m = .ret (ite _ _ _) ()
  split <;> rfl

/-- Unwatched, a callback ends as in the plain adapter. -/
@[simp]
theorem hide_callbackStep_release (ref : RequestRef) :
    (callbackStep (.release ref)).hide quietWatch = (modify fun m =>
      if ref ∈ m.outstanding then m.endCallback ref else m : MacIo Unit) := by
  simp only [callbackStep, hide_bind, hide_get, hide_ite, hide_accessRequest, hide_modify,
    hide_pure, pure_bind]
  funext m
  show (ite _ _ _ : MacIo Unit) m = .ret (ite _ _ _) ()
  split <;> rfl

/-- In a round of the run loop, the steps of a callback follow each other. -/
@[simp]
theorem hide_roundSteps (fired : Option Completion) :
    (callbackSteps (roundSteps fired)).hide quietWatch =
      (modify fun m => m.fire fired : MacIo Unit) := by
  cases fired with
  | none => rfl
  | some completion =>
      simp only [roundSteps, callbackSteps, hide_bind, hide_callbackStep_complete,
        hide_callbackStep_release, hide_pure]
      funext m
      refine congrArg (Tree.ret · ()) ?_
      by_cases hheld : completion.request ∈ m.outstanding
      · simp only [if_pos hheld, MacState.storeCompletion_outstanding, MacState.fire,
          MacState.interruptCallback_eq]
      · simp only [if_neg hheld, MacState.fire]

/-- Unwatched, `interrupt_request_release` is that of the plain adapter. -/
@[simp]
theorem hide_interruptRequestRelease (ref : RequestRef) :
    (interruptRequestReleaseChecked ref).hide quietWatch =
      (modify fun m => m.interruptRequestRelease ref : MacIo Unit) := by
  simp only [interruptRequestReleaseChecked, hide_bind, hide_accessRequest, hide_modify,
    pure_bind]

/-- Unwatched, `release_interrupt_request` is that of the plain adapter. -/
@[simp]
theorem hide_releaseInterruptRequest :
    releaseInterruptRequestChecked.hide quietWatch =
      (modify MacState.releaseInterruptRequest : MacIo Unit) := by
  simp only [releaseInterruptRequestChecked, hide_bind, hide_callbacks, hide_get, pure_bind]
  funext m
  show Prog.hide quietWatch (match m.context.interruptRequest with
    | none => pure ()
    | some ref => _) m = .ret m.releaseInterruptRequest ()
  unfold MacState.releaseInterruptRequest
  cases m.context.interruptRequest with
  | none => rfl
  | some ref =>
      simp only [hide_bind, hide_modify, hide_interruptRequestRelease]
      rfl

/-- Unwatched, the test for a completion is that of the plain adapter. -/
@[simp]
theorem hide_interruptRequestComplete :
    interruptRequestCompleteChecked.hide quietWatch = (do
      let m ← get
      return m.interruptRequestComplete : MacIo Bool) := by
  simp only [interruptRequestCompleteChecked, hide_bind, hide_callbacks, hide_get, pure_bind]
  funext m
  show Prog.hide quietWatch (match m.context.interruptRequest with
    | none => pure false
    | some ref => _) m = .ret m m.interruptRequestComplete
  cases hpointer : m.context.interruptRequest with
  | none =>
      simp only [MacState.interruptRequestComplete, hpointer, Option.bind_none]
      rfl
  | some ref =>
      simp only [hide_bind, hide_accessRequest, hide_pure, pure_bind]
      rfl

/-! ### Waits -/

/-- Unwatched, the rounds of a wait are those of the plain adapter. -/
@[simp]
theorem hide_runRounds (rounds : ℕ) :
    (runRoundsChecked rounds).hide quietWatch = runRounds rounds := by
  induction rounds with
  | zero => exact hide_interruptRequestComplete
  | succ rounds ih =>
      simp only [runRoundsChecked, runRounds, hide_bind, hide_interruptRequestComplete, hide_ite,
        hide_pure, hide_lift, hide_roundSteps, ih, bind_assoc, pure_bind]

/-- Unwatched, `run_until_interrupt` is that of the plain adapter. -/
@[simp]
theorem hide_runUntilInterrupt (milliseconds : ℕ) :
    (runUntilInterruptChecked milliseconds).hide quietWatch = runUntilInterrupt milliseconds := by
  simp only [runUntilInterruptChecked, runUntilInterrupt, hide_bind, hide_lift, hide_runRounds]

/-- Unwatched, `abort_and_drain_interrupt` is that of the plain adapter. -/
@[simp]
theorem hide_abortAndDrainInterrupt :
    abortAndDrainInterruptChecked.hide quietWatch = abortAndDrainInterrupt := by
  simp only [abortAndDrainInterruptChecked, abortAndDrainInterrupt, hide_bind, hide_get, hide_ite,
    hide_pure, hide_interruptRequestComplete, hide_lift, hide_runUntilInterrupt, bind_assoc,
    pure_bind]
  funext m
  show (ite _ _ _ : MacIo IOReturn) m = (ite _ _ _ : MacIo IOReturn) m
  by_cases hnone : m.context.interruptRequest.isNone
  · rw [if_pos hnone, if_pos (by simp [hnone])]
  · rw [if_neg hnone]
    show (ite _ _ _ : MacIo IOReturn) m = _
    by_cases hcomplete : m.interruptRequestComplete
    · rw [if_pos hcomplete, if_pos (by simp [hcomplete])]
    · rw [if_neg hcomplete, if_neg (by simp [hnone, hcomplete])]
      rfl

/-- Unwatched, a completed request is released as in the plain adapter. -/
@[simp]
theorem hide_releaseIfComplete :
    releaseIfCompleteChecked.hide quietWatch = (modify fun m =>
      if m.interruptRequestComplete then m.releaseInterruptRequest else m : MacIo Unit) := by
  simp only [releaseIfCompleteChecked, hide_bind, hide_interruptRequestComplete, hide_ite,
    hide_releaseInterruptRequest, hide_pure, bind_assoc, pure_bind]
  funext m
  show (ite _ _ _ : MacIo Unit) m = .ret (ite _ _ _) ()
  split <;> rfl

/-! ### Operations -/

/-- Unwatched, `mac_close` is that of the plain adapter. -/
@[simp]
theorem hide_macClose :
    (macCloseChecked current detail).hide quietWatch = macClose current detail := by
  have habort : (abortBeforeCloseChecked current detail).hide quietWatch =
      abortBeforeClose current detail := by
    simp only [abortBeforeCloseChecked, abortBeforeClose, hide_bind, hide_get, hide_ite, hide_pure,
      hide_abortAndDrainInterrupt]
  have hclosed {α : Type} (f : PUnit → MacIo α) :
      (do
        modify fun m : MacState =>
          { m with context := { m.context with isOpen := false, resetArmed := false } }
        modify MacState.releaseInterruptRequest
        let u ← modify fun m : MacState => { m with context := removeEventSource m.context }
        f u) = (modify MacState.closed >>= f : MacIo α) := rfl
  simp only [macCloseChecked, macClose, hide_bind, hide_get, hide_ite, hide_pure, habort, hide_lift,
    hide_modify, hide_releaseInterruptRequest, hclosed]

/-- Unwatched, a read is given up as in the plain adapter. -/
theorem hide_abandonInterrupt (completion : Vector UInt8 cbiStatusLength) :
    (abandonInterruptChecked completion).hide quietWatch = abandonInterrupt completion := by
  simp only [abandonInterruptChecked, abandonInterrupt, hide_bind, hide_get, hide_ite, hide_pure,
    hide_lift, hide_abortAndDrainInterrupt, hide_releaseIfComplete, hide_releaseInterruptRequest]

/-- Unwatched, a completion is taken as in the plain adapter. -/
theorem hide_takeCompletion (ref : RequestRef) (completion : Vector UInt8 cbiStatusLength) :
    (takeCompletionChecked ref completion detail).hide quietWatch =
      takeCompletion ref completion detail := by
  simp only [takeCompletionChecked, takeCompletion, hide_bind, hide_get, hide_ite, hide_pure,
    hide_lift, hide_callbacks, hide_accessRequest, hide_releaseInterruptRequest, pure_bind]

/-- Unwatched, `mac_interrupt_in_with_deadline` is that of the plain adapter. -/
@[simp]
theorem hide_macInterruptInWithDeadline (completion : Vector UInt8 cbiStatusLength)
    (timeoutMs : ℕ) :
    (macInterruptInWithDeadlineChecked current completion timeoutMs detail).hide quietWatch =
      macInterruptInWithDeadline current completion timeoutMs detail := by
  have hreleased {α : Type} (ref : RequestRef) (f : PUnit → MacIo α) :
      (do
        modify fun m : MacState => m.interruptRequestRelease ref
        let u ← modify MacState.releaseInterruptRequest
        f u) = (do
        let u ← modify fun m => (m.interruptRequestRelease ref).releaseInterruptRequest
        f u : MacIo α) := rfl
  simp only [macInterruptInWithDeadlineChecked, macInterruptInWithDeadline, hide_bind, hide_get,
    hide_ite, hide_pure, hide_lift, hide_modify, hide_interruptRequestRelease,
    hide_releaseInterruptRequest, hide_runUntilInterrupt, hide_takeCompletion,
    hide_abandonInterrupt, hreleased]

/-- Unwatched, `mac_prepare_command_block_reset` is that of the plain adapter. -/
@[simp]
theorem hide_macPrepareCommandBlockReset :
    (macPrepareCommandBlockResetChecked current detail).hide quietWatch =
      macPrepareCommandBlockReset current detail := by
  simp only [macPrepareCommandBlockResetChecked, macPrepareCommandBlockReset, hide_bind, hide_get,
    hide_ite, hide_pure, hide_lift, hide_abortAndDrainInterrupt, hide_releaseIfComplete,
    hide_releaseInterruptRequest]

/-- Without the accesses, every operation is that of the adapter. -/
theorem hide_macIo (call : CbiIoCall) :
    (macIoChecked current call).hide quietWatch = macIo current call := by
  cases call <;> simp only [macIoChecked, macIo, hide_lift, hide_macClose,
    hide_macInterruptInWithDeadline, hide_macPrepareCommandBlockReset]

/-- Every run of an operation of the adapter is a run of the watched operation. -/
theorem exec_macIoChecked {call : CbiIoCall} {m m' : MacState} {t : List MacEvent}
    {reply : CbiIoReply call} (h : Exec (macIo current call) m t reply m') :
    ∃ u, Exec (macIoChecked current call) m u reply m' ∧ t = u.filterMap Event.visible := by
  rw [← hide_macIo] at h
  exact exec_hide h

end Hiding

end M65
