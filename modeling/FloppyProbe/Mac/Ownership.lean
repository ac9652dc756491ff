import FloppyProbe.Interaction.History
import FloppyProbe.Interaction.Triple
import FloppyProbe.Mac.Owners

/-!
# Who owns a completion request

A completion request has two owners, the context that points to it and the callback that IOUSBLib
holds, and each of them gives up its reference on its own. In every session of operations,
callbacks and destruction, and for every result of IOUSBLib and every moment at which a callback
fires, the counters say exactly who owns what, and nobody uses a request that was freed
(`adapter_ownsRequests`).
-/

namespace M65

open Interaction

variable {m : MacState} {ref : RequestRef}

/-! ## The statement -/

/-- The request that the call of an event submits. -/
def submittedBy : WatchedEvent → Option RequestRef
  | ⟨_, .inl (.readPipeAsync _ ref), _⟩ => some ref
  | _ => none

/-- What an event of an operation that began in the state `start` owes to the requests. -/
structure Sound (start : MacState) (e : WatchedEvent) : Prop where
  counted : e.state.Counted (submittedBy e)
  live : ∀ ref, e.call ≠ .inr (.useAfterFree ref)
  /-- A request is submitted only if the context pointed to none, and then it is a new one. -/
  submits : ∀ ref ∈ submittedBy e, start.context.interruptRequest = none ∧
    e.state.context.interruptRequest = some ref ∧ ref = start.requests.length

/-- What happens to the requests from outside: operations, the destruction, and callbacks in
between. -/
inductive RequestCall where
  /-- An operation of the adapter, on the thread of `current`. -/
  | operation (current : RunLoopRef) (call : CbiIoCall)
  | destroy (current : RunLoopRef) (ignored : ErrorText)
  /-- A step of a callback between two operations, or after the context was destroyed. -/
  | callback (step : CallbackStep)

/-- What each of these calls returns. -/
abbrev RequestReply : RequestCall → Type
  | .operation _ call => CbiIoReply call
  | .destroy _ _ => Unit
  | .callback _ => Unit

/-- The program behind each of these calls. -/
def requestHandler : (call : RequestCall) → WatchedIo (RequestReply call)
  | .operation current call => macIoChecked current call
  | .destroy current ignored => macDestroyIoChecked current ignored
  | .callback step => callbackStep step

/-- Before and after a call, and at each of its events, the counters are those of the owners. -/
structure OwnsRequests (call : Handled requestHandler) : Prop where
  before : call.before.Counted none
  events : ∀ e ∈ call.trace, Sound call.before e
  after : call.after.Counted none

/-- The transport was destroyed, and after that only callbacks came. -/
def Destroyed (calls : List (Handled requestHandler)) : Prop :=
  ∃ earlier last later, calls = earlier ++ last :: later ∧
    (∃ current ignored, last.call = .destroy current ignored) ∧
      ∀ call ∈ later, ∃ step, call.call = .callback step

/-! ## What the programs keep -/

/-- Every reference is accounted for, and the context points to `pointer`. -/
def Holding (pointer : Option RequestRef) (m : MacState) : Prop :=
  Accounted none m ∧ m.context.interruptRequest = pointer

section Triples

variable {start : MacState} {pointer : Option RequestRef} {α : Type}

/-- An event that submits nothing. -/
theorem Accounted.sound {e : WatchedEvent} (h : Accounted none e.state)
    (hsilent : submittedBy e = none) (hlive : ∀ ref, e.call ≠ .inr (.useAfterFree ref)) :
    Sound start e := by
  refine ⟨?_, hlive, fun ref href => ?_⟩
  · rw [hsilent]
    exact h.counted
  · rw [hsilent] at href
    cases href

/-- A program that uses no request keeps every account. -/
theorem Idle.triple {p : MacIo α} (hp : Idle p) :
    Triple (Sound start) (Holding pointer) (unwatched p) fun _ => Holding pointer := by
  refine .lift fun m t a m' hholding h => ?_
  -- the invariant speaks of the pointer, the requests and the outstanding callbacks only
  have hledger {m₁ : MacState} (hsame : ledger m₁ = ledger m) : Holding pointer m₁ := by
    simp only [ledger, Prod.mk.injEq] at hsame
    obtain ⟨hpointer, hrequests, houtstanding⟩ := hsame
    have hreferences : m₁.references = m.references := by
      ext1 ref
      rw [MacState.references, MacState.request?, hrequests]
      rfl
    refine ⟨⟨?_, ?_⟩, hpointer.trans hholding.2⟩
    · rw [hreferences, hpointer, houtstanding]
      exact hholding.1.held
    · rw [houtstanding]
      exact hholding.1.nodup
  obtain ⟨hend, hevents⟩ := hp.keeps h
  refine ⟨fun e he => (hledger (hevents e he)).1.sound ?_ (by simp [Event.lift]), hledger hend⟩
  have hcall := hp.silent h e he
  obtain ⟨m₁, call, reply⟩ := e
  -- an idle operation submits nothing, which is the one call that could break it
  cases call with
  | readPipeAsync pipe ref => exact absurd rfl (hcall pipe ref)
  | _ => rfl

/-- A request that lives may be used. -/
theorem accessRequest_triple {P : MacState → Prop} (hlive : ∀ m, P m → (m.references ref).isSome) :
    Triple (Sound start) P (accessRequest ref) fun _ => P := by
  refine .get fun m hm => .ite (fun hfreed => ?_) fun _ => .pure fun m' hm' => hm' ▸ hm
  have hsome := MacState.request?_isSome_iff.2 (hlive m hm)
  rw [Option.isNone_iff_eq_none] at hfreed
  rw [hfreed] at hsome
  cases hsome

/-- Whatever the context points to. -/
theorem triple_of_holding {p : WatchedIo α} {Q : α → MacState → Prop}
    (h : ∀ pointer, Triple (Sound start) (Holding pointer) p Q) :
    Triple (Sound start) (Accounted none) p Q :=
  (Triple.exists_pre h).mono (fun m hm => ⟨m.context.interruptRequest, hm, rfl⟩) fun _ _ => id

/-- A step of a callback keeps every account. -/
theorem callbackStep_triple (step : CallbackStep) :
    Triple (Sound start) (Holding pointer) (callbackStep step) fun _ => Holding pointer := by
  cases step with
  | complete completion =>
    refine .get fun m hm => .ite (fun hheld => ?_) fun _ => .pure fun m' hm' => hm' ▸ hm
    refine .bind (R := fun _ => (· = m)) (accessRequest_triple fun m' hm' => ?_) fun _ => ?_
    · exact hm' ▸ hm.1.live_outstanding hheld
    · refine .modify fun m' hm' => hm' ▸ ⟨hm.1.storeCompletion completion, ?_⟩
      rw [MacState.storeCompletion_context]
      exact hm.2
  | release ref =>
    refine .get fun m hm => .ite (fun hheld => ?_) fun _ => .pure fun m' hm' => hm' ▸ hm
    refine .bind (R := fun _ => (· = m)) (accessRequest_triple fun m' hm' => ?_) fun _ => ?_
    · exact hm' ▸ hm.1.live_outstanding hheld
    · refine .modify fun m' hm' => hm' ▸ ⟨hm.1.endCallback hheld, ?_⟩
      rw [MacState.endCallback, MacState.interruptRequestRelease_context]
      exact hm.2

/-- The steps of callbacks keep every account. -/
theorem callbackSteps_triple (steps : List CallbackStep) :
    Triple (Sound start) (Holding pointer) (callbackSteps steps) fun _ => Holding pointer := by
  induction steps with
  | nil => exact .pure fun _ => id
  | cons step steps ih => exact .bind (callbackStep_triple step) fun _ => ih

/-- A moment for callbacks keeps every account. -/
theorem callbacks_triple :
    Triple (Sound start) (Holding pointer) callbacks fun _ => Holding pointer :=
  .bind (.call fun _ hm _ => ⟨hm.1.sound rfl (by simp), hm⟩) fun steps => callbackSteps_triple steps

/-- The context gives up its reference. -/
theorem releaseInterruptRequest_triple :
    Triple (Sound start) (Holding pointer) releaseInterruptRequestChecked
      fun _ => Holding none := by
  refine .bind callbacks_triple fun _ => .get fun m hm => ?_
  cases hpointer : m.context.interruptRequest with
  | none => exact .pure fun m' hm' => hm' ▸ ⟨hm.1, hpointer⟩
  | some ref =>
    refine .bind (R := fun _ => (· = { m with
      context := { m.context with interruptRequest := none } })) (.modify fun m' hm' => hm' ▸ rfl)
      fun _ => .bind (accessRequest_triple fun m' hm' => ?_) fun _ => .modify fun m' hm' => ?_
    · exact hm' ▸ hm.1.live_pointer hpointer
    · have hreleased := hm.1.releaseInterruptRequest
      have hcontext := m.releaseInterruptRequest_context
      rw [MacState.releaseInterruptRequest, hpointer] at hreleased hcontext
      rw [hm']
      exact ⟨hreleased, congrArg MacCbiContext.interruptRequest hcontext⟩

/-- The test for a completion keeps every account. -/
theorem interruptRequestComplete_triple :
    Triple (Sound start) (Holding pointer) interruptRequestCompleteChecked
      fun _ => Holding pointer := by
  refine .bind callbacks_triple fun _ => .get fun m hm => ?_
  cases hpointer : m.context.interruptRequest with
  | none => exact .pure fun m' hm' => hm' ▸ hm
  | some ref =>
    refine .bind (R := fun _ => (· = m)) (accessRequest_triple fun m' hm' => ?_) fun _ => ?_
    · exact hm' ▸ hm.1.live_pointer hpointer
    · exact .pure fun m' hm' => hm' ▸ hm

/-- The rounds of a wait keep every account. -/
theorem runRounds_triple (rounds : ℕ) :
    Triple (Sound start) (Holding pointer) (runRoundsChecked rounds) fun _ => Holding pointer := by
  induction rounds with
  | zero => exact interruptRequestComplete_triple
  | succ rounds ih =>
    refine .bind interruptRequestComplete_triple fun _ => ?_
    refine .ite (fun _ => .pure fun _ => id) fun _ => ?_
    refine .bind (Idle.call (by simp)).triple fun fired => ?_
    exact .bind (callbackSteps_triple _) fun _ => ih

/-- `run_until_interrupt` keeps every account. -/
theorem runUntilInterrupt_triple (milliseconds : ℕ) :
    Triple (Sound start) (Holding pointer) (runUntilInterruptChecked milliseconds)
      fun _ => Holding pointer :=
  .bind (Idle.call (by simp)).triple fun rounds => runRounds_triple rounds

/-- `abort_and_drain_interrupt` keeps every account. -/
theorem abortAndDrainInterrupt_triple :
    Triple (Sound start) (Holding pointer) abortAndDrainInterruptChecked
      fun _ => Holding pointer := by
  refine .read fun m _ => .ite (fun _ => .pure fun _ => id) fun _ => ?_
  refine .bind interruptRequestComplete_triple fun _ => ?_
  refine .ite (fun _ => .pure fun _ => id) fun _ => ?_
  refine .read fun m _ => .bind (Idle.call (by simp)).triple fun result => ?_
  refine .ite (fun _ => .pure fun _ => id) fun _ => ?_
  exact .bind (runUntilInterrupt_triple _) fun _ => .pure fun _ => id

/-- A request that turned out to be complete may be released. -/
theorem releaseIfComplete_triple :
    Triple (Sound start) (Holding pointer) releaseIfCompleteChecked fun _ => Accounted none := by
  refine .bind interruptRequestComplete_triple fun _ => .ite (fun _ => ?_) fun _ => ?_
  · exact releaseInterruptRequest_triple.mono (fun _ => id) fun _ _ => And.left
  · exact .pure fun _ => And.left

/-- A change of the context that keeps its pointer keeps every account. -/
theorem modifyContext_triple {f : MacState → MacCbiContext}
    (hf : ∀ m, (f m).interruptRequest = m.context.interruptRequest) :
    Triple (Sound start) (Holding pointer)
      (modify fun m => { m with context := f m } : WatchedIo Unit) fun _ => Holding pointer :=
  .modify fun m hm => ⟨hm.1.updateContext (hf m), (hf m).trans hm.2⟩

/-! ### Operations -/

/-- `mac_close` keeps every account. -/
theorem macClose_triple (current : RunLoopRef) (detail : ErrorText) :
    Triple (Sound start) (Holding pointer) (macCloseChecked current detail)
      fun _ => Accounted none := by
  refine .read fun m _ => .ite (fun _ => .pure fun _ => And.left) fun _ => ?_
  have habort : Triple (Sound start) (Holding pointer) (abortBeforeCloseChecked current detail)
      fun _ => Holding pointer :=
    .read fun m _ => .ite (fun _ => .pure fun _ => id) fun _ =>
      .bind abortAndDrainInterrupt_triple fun _ => .pure fun _ => id
  refine .bind habort fun out => .bind (Idle.call (by simp)).triple fun result => ?_
  refine .bind (modifyContext_triple fun _ => rfl) fun _ => ?_
  refine .bind releaseInterruptRequest_triple fun _ => ?_
  refine .bind (modifyContext_triple fun _ => rfl) fun _ => .ite (fun _ => ?_) fun _ => ?_
  · exact .pure fun _ => And.left
  · exact .pure fun _ => And.left

/-- Giving up on the interrupt keeps every account. -/
theorem abandonInterrupt_triple (completion : Vector UInt8 cbiStatusLength) :
    Triple (Sound start) (Holding pointer) (abandonInterruptChecked completion)
      fun _ => Accounted none := by
  refine .bind (Idle.triple (.updateContext fun _ => rfl)) fun _ => ?_
  refine .bind abortAndDrainInterrupt_triple fun aborted => .ite (fun _ => ?_) fun _ => ?_
  · exact .bind releaseIfComplete_triple fun _ => .pure fun _ => id
  · refine .read fun m _ => .bind (Idle.call (by simp)).triple fun cleared => ?_
    exact .bind releaseInterruptRequest_triple fun _ => .pure fun _ => And.left

/-- Taking the completion of the request of the context keeps every account. -/
theorem takeCompletion_triple (completion : Vector UInt8 cbiStatusLength) (detail : ErrorText) :
    Triple (Sound start) (Holding (some ref)) (takeCompletionChecked ref completion detail)
      fun _ => Accounted none := by
  refine .bind callbacks_triple fun _ => ?_
  refine .bind (accessRequest_triple fun m hm => hm.1.live_pointer hm.2) fun _ => ?_
  refine .read fun m _ => .bind releaseInterruptRequest_triple fun _ => ?_
  have hmark : Triple (Sound start) (Holding none)
      (unwatched (updateContext MacCbiContext.desynchronize)) fun _ => Holding none :=
    Idle.triple (.updateContext fun _ => rfl)
  refine .ite (fun _ => .bind hmark fun _ => .pure fun _ => And.left) fun _ => ?_
  refine .ite (fun _ => .bind hmark fun _ => .pure fun _ => And.left) fun _ => ?_
  exact .pure fun _ => And.left

/-- `mac_prepare_command_block_reset` keeps every account. -/
theorem macPrepareCommandBlockReset_triple (current : RunLoopRef) (detail : ErrorText) :
    Triple (Sound start) (Holding pointer) (macPrepareCommandBlockResetChecked current detail)
      fun _ => Accounted none := by
  refine .read fun m _ => .ite (fun _ => .pure fun _ => And.left) fun _ => ?_
  refine .ite (fun _ => .pure fun _ => And.left) fun _ => ?_
  refine .bind abortAndDrainInterrupt_triple fun result => .ite (fun _ => ?_) fun _ => ?_
  · exact .bind releaseIfComplete_triple fun _ => .pure fun _ => id
  refine .bind releaseInterruptRequest_triple fun _ => .bind (Idle.call (by simp)).triple
    fun cleared => .ite (fun _ => .pure fun _ => And.left) fun _ => ?_
  exact .bind (Idle.triple (.updateContext fun _ => rfl)) fun _ => .pure fun _ => And.left

/-- `mac_interrupt_in_with_deadline` submits a new request only, and keeps every account. -/
theorem macInterruptInWithDeadline_triple (current : RunLoopRef)
    (completion : Vector UInt8 cbiStatusLength) (timeoutMs : ℕ) (detail : ErrorText)
    (hstart : Accounted none start) :
    Triple (Sound start) (· = start)
      (macInterruptInWithDeadlineChecked current completion timeoutMs detail)
      fun _ => Accounted none := by
  have hdone (reply : InterruptReply) :
      Triple (Sound start) (· = start) (pure reply) fun _ => Accounted none :=
    .pure fun m hm => hm ▸ hstart
  have hcall {P : MacState → Prop} {call : IoUsbCall}
      (hsound : ∀ m, P m → ∀ reply, Sound start ⟨m, .inl call, reply⟩) :
      Triple (Sound start) P (unwatched (Prog.call call)) fun _ => P :=
    .lift (.call fun m hm reply => ⟨hsound m hm reply, hm⟩)
  refine .get fun m hm => ?_
  subst hm
  -- past the refusals the context holds no request, and a new one has a reference for each holder
  refine .ite (fun _ => hdone _) fun _ => .ite (fun _ => hdone _) fun hfree => ?_
  have hnone : m.context.interruptRequest = none := by simpa using hfree
  have hallocated := hstart.allocateRequest hnone
  refine .bind (hcall fun m' hm' reply => ?_) fun allocated => .ite (fun _ => hdone _) fun _ => ?_
  · exact (hm' ▸ hstart : Accounted none m').sound rfl (by simp)
  refine .bind (R := fun _ => (· = m.allocateRequest)) (.modify fun m' hm' => hm' ▸ rfl) fun _ => ?_
  refine .bind (hcall fun m' hm' reply => ?_) fun result => .ite (fun _ => ?_) fun _ => ?_
  · subst hm'
    refine ⟨hallocated.counted, by simp, fun ref href => ?_⟩
    obtain rfl := Option.some.inj href
    exact ⟨hnone, rfl, rfl⟩
  · -- without a submission there is no callback, whose reference the adapter gives up
    have hunsubmitted : Triple (Sound m) (· = m.allocateRequest)
        (interruptRequestReleaseChecked m.requests.length)
        fun _ => Holding (some m.requests.length) := by
      refine .bind (accessRequest_triple fun m' hm' => ?_) fun _ => .modify fun m' hm' => ?_
      · exact hm' ▸ hallocated.live_submitting
      · rw [hm']
        refine ⟨hallocated.unsubmitted, ?_⟩
        rw [MacState.interruptRequestRelease_context]
        rfl
    exact .bind hunsubmitted fun _ => .bind releaseInterruptRequest_triple fun _ =>
      .pure fun _ => And.left
  -- submitted: the callback holds the second reference until it fires
  · refine .bind (R := fun _ => Holding (some m.requests.length)) ?_ fun _ => ?_
    · exact .modify fun m' hm' => hm' ▸ ⟨hallocated.submitted, rfl⟩
    · exact .bind (runUntilInterrupt_triple _) fun completed =>
        .ite (fun _ => takeCompletion_triple _ _) fun _ => abandonInterrupt_triple _

/-- The destruction of the context keeps every account and leaves no pointer. -/
theorem macDestroyIo_triple (current : RunLoopRef) (ignored : ErrorText) :
    Triple (Sound start) (Accounted none) (macDestroyIoChecked current ignored)
      fun _ => Holding none := by
  -- after the close, whatever the context points to is released
  have hrest : Triple (Sound start) (Accounted none)
      (do
        modify fun m : MacState => { m with context := removeEventSource m.context }
        releaseInterruptRequestChecked) fun _ => Holding none :=
    triple_of_holding fun pointer =>
      .bind (modifyContext_triple fun _ => rfl) fun _ => releaseInterruptRequest_triple
  have hclose : Triple (Sound start) (Accounted none) (macCloseChecked current ignored)
      fun _ => Accounted none :=
    triple_of_holding fun pointer => macClose_triple current ignored
  exact .read fun m _ => .ite (fun _ => .bind hclose fun _ => hrest) fun _ => hrest

/-- Every call keeps every account. -/
theorem requestHandler_triple (call : RequestCall) (hstart : Accounted none start) :
    Triple (Sound start) (· = start) (requestHandler call) fun _ => Accounted none := by
  have hkept {α : Type} {p : WatchedIo α}
      (hp : Triple (Sound start) (Holding start.context.interruptRequest) p fun _ =>
        Accounted none) : Triple (Sound start) (· = start) p fun _ => Accounted none :=
    hp.mono (fun m hm => by rw [hm]; exact ⟨hstart, rfl⟩) fun _ _ => id
  -- most of the operations never touch the interrupt request
  have hidle {α : Type} {p : MacIo α} (hp : Idle p) :
      Triple (Sound start) (· = start) (unwatched p) fun _ => Accounted none :=
    hkept (hp.triple.mono (fun _ => id) fun _ _ => And.left)
  cases call with
  | operation current call =>
    cases call with
    | openSeize detail => exact hidle (macOpenSeize_idle current detail)
    | close detail => exact hkept (macClose_triple current detail)
    | adsc cdb timeoutMs detail => exact hidle (macAdsc_idle current cdb timeoutMs detail)
    | bulkIn buffer timeoutMs detail => exact hidle (macBulkIn_idle current buffer timeoutMs detail)
    | bulkOut buffer timeoutMs detail =>
      exact hidle (macBulkOut_idle current buffer timeoutMs detail)
    | interruptInWithDeadline completion timeoutMs detail =>
      -- the one operation that allocates a request and hands it to the callback
      exact macInterruptInWithDeadline_triple current completion timeoutMs detail hstart
    | clearStall direction detail => exact hidle (macClearStall_idle current direction detail)
    | prepareCommandBlockReset detail =>
      exact hkept (macPrepareCommandBlockReset_triple current detail)
    | finishCommandBlockReset recovered detail =>
      exact hidle (macFinishCommandBlockReset_idle current recovered detail)
  | destroy current ignored =>
    exact (macDestroyIo_triple current ignored).mono (fun m hm => hm ▸ hstart) fun _ _ => And.left
  | callback step =>
    exact hkept ((callbackStep_triple step).mono (fun _ => id) fun _ _ => And.left)

end Triples

/-! ## Freed requests stay freed -/

section Ascents

variable {α : Type} (current : RunLoopRef) (detail : ErrorText)

/-- A program that uses no request brings none back. -/
theorem Idle.ascends {p : MacIo α} (hp : Idle p) : Ascends FreedStays (unwatched p) :=
  .lift (.of_keeps hp.keeps fun _ _ hsame =>
    freedStays_of_requests (congrArg (fun l => l.2.1) hsame))

/-- A change of the context brings no request back. -/
theorem modifyContext_ascends (f : MacState → MacCbiContext) :
    Ascends FreedStays (modify fun m => { m with context := f m } : WatchedIo Unit) :=
  .modify fun _ => freedStays_of_requests rfl

/-- The use of a request brings none back. -/
theorem accessRequest_ascends (ref : RequestRef) : Ascends FreedStays (accessRequest ref) :=
  .bind .get fun _ => .ite (.call _) (.pure _)

/-- A step of a callback brings no request back. -/
theorem callbackStep_ascends (step : CallbackStep) : Ascends FreedStays (callbackStep step) := by
  cases step with
  | complete completion =>
    refine .bind .get fun _ => .ite (.bind (accessRequest_ascends _) fun _ => ?_) (.pure _)
    exact .modify fun m => m.freedStays_storeCompletion completion
  | release ref =>
    refine .bind .get fun _ => .ite (.bind (accessRequest_ascends _) fun _ => ?_) (.pure _)
    exact .modify fun m => m.freedStays_endCallback ref

/-- The steps of callbacks bring no request back. -/
theorem callbackSteps_ascends (steps : List CallbackStep) :
    Ascends FreedStays (callbackSteps steps) := by
  induction steps with
  | nil => exact .pure _
  | cons step steps ih => exact .bind (callbackStep_ascends step) fun _ => ih

/-- A moment for callbacks brings no request back. -/
theorem callbacks_ascends : Ascends FreedStays callbacks :=
  .bind (.call _) fun steps => callbackSteps_ascends steps

/-- `interrupt_request_release` brings no request back. -/
theorem interruptRequestRelease_ascends (ref : RequestRef) :
    Ascends FreedStays (interruptRequestReleaseChecked ref) :=
  .bind (accessRequest_ascends ref) fun _ =>
    .modify fun m => m.freedStays_interruptRequestRelease ref

/-- `release_interrupt_request` brings no request back. -/
theorem releaseInterruptRequest_ascends : Ascends FreedStays releaseInterruptRequestChecked := by
  refine .bind callbacks_ascends fun _ => .bind .get fun m => ?_
  cases m.context.interruptRequest with
  | none => exact .pure _
  | some ref => exact .bind (modifyContext_ascends _) fun _ => interruptRequestRelease_ascends ref

/-- The test for a completion brings no request back. -/
theorem interruptRequestComplete_ascends :
    Ascends FreedStays interruptRequestCompleteChecked := by
  refine .bind callbacks_ascends fun _ => .bind .get fun m => ?_
  cases m.context.interruptRequest with
  | none => exact .pure _
  | some ref => exact .bind (accessRequest_ascends ref) fun _ => .pure _

/-- The rounds of a wait bring no request back. -/
theorem runRounds_ascends (rounds : ℕ) : Ascends FreedStays (runRoundsChecked rounds) := by
  induction rounds with
  | zero => exact interruptRequestComplete_ascends
  | succ rounds ih =>
    refine .bind interruptRequestComplete_ascends fun _ => .ite (.pure _) ?_
    exact .bind (Idle.call (by simp)).ascends fun _ => .bind (callbackSteps_ascends _) fun _ => ih

/-- `run_until_interrupt` brings no request back. -/
theorem runUntilInterrupt_ascends (milliseconds : ℕ) :
    Ascends FreedStays (runUntilInterruptChecked milliseconds) :=
  .bind (Idle.call (by simp)).ascends fun rounds => runRounds_ascends rounds

/-- `abort_and_drain_interrupt` brings no request back. -/
theorem abortAndDrainInterrupt_ascends : Ascends FreedStays abortAndDrainInterruptChecked := by
  refine .bind .get fun _ => .ite (.pure _) (.bind interruptRequestComplete_ascends fun _ => ?_)
  refine .ite (.pure _) (.bind .get fun _ => .bind (Idle.call (by simp)).ascends fun _ => ?_)
  exact .ite (.pure _) (.bind (runUntilInterrupt_ascends _) fun _ => .pure _)

/-- The release of a completed request brings none back. -/
theorem releaseIfComplete_ascends : Ascends FreedStays releaseIfCompleteChecked :=
  .bind interruptRequestComplete_ascends fun _ => .ite releaseInterruptRequest_ascends (.pure _)

/-- `mac_close` brings no request back. -/
theorem macClose_ascends : Ascends FreedStays (macCloseChecked current detail) := by
  have habort : Ascends FreedStays (abortBeforeCloseChecked current detail) :=
    .bind .get fun _ => .ite (.pure _) (.bind abortAndDrainInterrupt_ascends fun _ => .pure _)
  refine .bind .get fun _ => .ite (.pure _) (.bind habort fun _ => ?_)
  refine .bind (Idle.call (by simp)).ascends fun _ => .bind (modifyContext_ascends _) fun _ => ?_
  refine .bind releaseInterruptRequest_ascends fun _ => .bind (modifyContext_ascends _) fun _ => ?_
  exact .ite (.pure _) (.pure _)

/-- The destruction of the context brings no request back. -/
theorem macDestroyIo_ascends : Ascends FreedStays (macDestroyIoChecked current detail) := by
  have hrest : Ascends FreedStays (do
      modify fun m : MacState => { m with context := removeEventSource m.context }
      releaseInterruptRequestChecked) :=
    .bind (modifyContext_ascends _) fun _ => releaseInterruptRequest_ascends
  exact .bind .get fun _ => .ite (.bind (macClose_ascends _ _) fun _ => hrest) hrest

/-- `mac_interrupt_in_with_deadline` brings no request back. -/
theorem macInterruptInWithDeadline_ascends (completion : Vector UInt8 cbiStatusLength)
    (timeoutMs : ℕ) : Ascends FreedStays
      (macInterruptInWithDeadlineChecked current completion timeoutMs detail) := by
  have hmark : Ascends FreedStays (unwatched (updateContext MacCbiContext.desynchronize)) :=
    Idle.ascends (.updateContext fun _ => rfl)
  have habandon : Ascends FreedStays (abandonInterruptChecked completion) := by
    refine .bind hmark fun _ => .bind abortAndDrainInterrupt_ascends fun _ => .ite ?_ ?_
    · exact .bind releaseIfComplete_ascends fun _ => .pure _
    · exact .bind .get fun _ => .bind (Idle.call (by simp)).ascends fun _ =>
        .bind releaseInterruptRequest_ascends fun _ => .pure _
  have htake (ref : RequestRef) :
      Ascends FreedStays (takeCompletionChecked ref completion detail) := by
    refine .bind callbacks_ascends fun _ => .bind (accessRequest_ascends ref) fun _ => ?_
    refine .bind .get fun _ => .bind releaseInterruptRequest_ascends fun _ => ?_
    exact .ite (.bind hmark fun _ => .pure _) (.ite (.bind hmark fun _ => .pure _) (.pure _))
  refine .bind .get fun m => .ite (.pure _) (.ite (.pure _) ?_)
  refine .bind (Idle.call (by simp)).ascends fun _ => .ite (.pure _) ?_
  -- a new request takes a fresh place, so no freed one comes back to life
  refine .bind (.modify MacState.freedStays_allocateRequest) fun _ => ?_
  refine .bind (.lift (.call _)) fun _ => .ite ?_ ?_
  · exact .bind (interruptRequestRelease_ascends _) fun _ =>
      .bind releaseInterruptRequest_ascends fun _ => .pure _
  · exact .bind (.modify fun _ => freedStays_of_requests rfl) fun _ =>
      .bind (runUntilInterrupt_ascends _) fun _ => .ite (htake _) habandon

/-- `mac_prepare_command_block_reset` brings no request back. -/
theorem macPrepareCommandBlockReset_ascends :
    Ascends FreedStays (macPrepareCommandBlockResetChecked current detail) := by
  refine .bind .get fun _ => .ite (.pure _) (.ite (.pure _) ?_)
  refine .bind abortAndDrainInterrupt_ascends fun _ => .ite ?_ ?_
  · exact .bind releaseIfComplete_ascends fun _ => .pure _
  · refine .bind releaseInterruptRequest_ascends fun _ => .bind (Idle.call (by simp)).ascends
      fun _ => .ite (.pure _) ?_
    exact .bind (Idle.ascends (.updateContext fun _ => rfl)) fun _ => .pure _

/-- No call brings a freed request back. -/
theorem requestHandler_ascends (call : RequestCall) :
    Ascends FreedStays (requestHandler call) := by
  cases call with
  | operation current call =>
    cases call with
    | openSeize detail => exact (macOpenSeize_idle current detail).ascends
    | close detail => exact macClose_ascends current detail
    | adsc cdb timeoutMs detail => exact (macAdsc_idle current cdb timeoutMs detail).ascends
    | bulkIn buffer timeoutMs detail =>
      exact (macBulkIn_idle current buffer timeoutMs detail).ascends
    | bulkOut buffer timeoutMs detail =>
      exact (macBulkOut_idle current buffer timeoutMs detail).ascends
    | interruptInWithDeadline completion timeoutMs detail =>
      exact macInterruptInWithDeadline_ascends current detail completion timeoutMs
    | clearStall direction detail => exact (macClearStall_idle current direction detail).ascends
    | prepareCommandBlockReset detail => exact macPrepareCommandBlockReset_ascends current detail
    | finishCommandBlockReset recovered detail =>
      exact (macFinishCommandBlockReset_idle current recovered detail).ascends
  | destroy current ignored => exact macDestroyIo_ascends current ignored
  | callback step => exact callbackStep_ascends step

end Ascents

/-! ## Sessions -/

/-- Without a pointer, only the callbacks own requests. -/
theorem Holding.freed_iff (h : Holding none m) (hlt : ref < m.requests.length) :
    m.Freed ref ↔ ref ∉ m.outstanding := by
  have hnone : m.references ref = none ↔ ref ∉ m.outstanding := by
    rw [h.1.counted ref, MacState.ownerCount, h.2]
    by_cases hheld : ref ∈ m.outstanding <;> simp [hheld]
  rw [← hnone, MacState.references_eq_none_iff]
  exact (or_iff_right (Nat.not_le_of_lt hlt)).symm

/-- A call that begins with every reference accounted for owns its requests, and ends that way. -/
theorem ownsRequests_of_handled (call : Handled requestHandler)
    (hbefore : Accounted none call.before) : OwnsRequests call ∧ Accounted none call.after := by
  obtain ⟨hevents, hafter⟩ := requestHandler_triple call.call hbefore rfl call.exec
  exact ⟨⟨hbefore.counted, hevents, hafter.counted⟩, hafter⟩

/-- Once the transport was destroyed, the context points to no request. -/
theorem holding_none_of_destroyed {s : MacState} (session : Session requestHandler s)
    (hs : Accounted none s) (h : Destroyed session.calls) : Holding none session.final := by
  obtain ⟨earlier, last, later, hcalls, ⟨current, ignored, hdestroy⟩, hlater⟩ := h
  have hchain := session.chain
  rw [hcalls] at hchain
  obtain ⟨s₁, hearlier, hrest⟩ := Chain.append_iff.1 hchain
  have hbefore : Accounted none s₁ := (hearlier.invariant
    (fun call _ hcall => (ownsRequests_of_handled call hcall).2) hs).2
  cases hrest with
  | cons _ hrest =>
    have hlast : Holding none last.after := by
      obtain ⟨call, reply, before, trace, after, hexec⟩ := last
      obtain rfl : call = .destroy current ignored := hdestroy
      have htriple : Triple (Sound before) _ _ _ := macDestroyIo_triple current ignored
      exact (htriple hbefore hexec).2
    refine (hrest.invariant (I := Holding none) (fun call hcall hholding => ?_) hlast).2
    obtain ⟨step, hstep⟩ := hlater call hcall
    obtain ⟨call, reply, before, trace, after, hexec⟩ := call
    obtain rfl : call = .callback step := hstep
    have htriple : Triple (Sound before) (Holding none) _ _ := callbackStep_triple step
    exact (htriple hholding hexec).2

/-- In every session the counters are those of the owners, no access reaches a freed request, no
request is submitted while the context points to one, a freed request stays freed, and after the
destruction exactly those requests are not freed whose callback is outstanding. -/
theorem adapter_ownsRequests (session : Session requestHandler {}) :
    (∀ call ∈ session.calls, OwnsRequests call) ∧
      session.history.Pairwise FreedStays ∧
      (Destroyed session.calls → ∀ ref < session.final.requests.length,
        (session.final.Freed ref ↔ ref ∉ session.final.outstanding)) := by
  refine ⟨fun call hcall => ?_, session.ascends requestHandler_ascends,
    fun hdestroyed ref hlt => ?_⟩
  · have hbefore := (session.invariant (I := Accounted none)
      (fun call hcall => (ownsRequests_of_handled call hcall).2) .initial).1 call hcall
    exact (ownsRequests_of_handled call hbefore).1
  · exact (holding_none_of_destroyed session .initial hdestroyed).freed_iff hlt

end M65
