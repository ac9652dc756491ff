import FloppyProbe.Cbi.Trace
import FloppyProbe.Mac.Runs

/-!
# What the operations of the macOS adapter do to its flags

One lemma for each operation: which flags of the context it keeps, when it marks the context as
desynchronised, and how that shows in its status. `Unseen` are the results after which the adapter
marks the context although its status does not tell the engine that the phase is lost.
-/

namespace M65

open Interaction

variable {m m' : MacState} {t : List MacEvent} {current : RunLoopRef}

/-! ## Results -/

/-- The result that a call returned, or that it delivered to a callback. -/
def ioReturnOf : MacEvent → Option IOReturn
  | ⟨_, .usbInterfaceOpenSeize, result⟩ => some result
  | ⟨_, .usbInterfaceClose, result⟩ => some result
  | ⟨_, .getInterfaceClass, reply⟩ => some reply.result
  | ⟨_, .getInterfaceSubClass, reply⟩ => some reply.result
  | ⟨_, .getInterfaceProtocol, reply⟩ => some reply.result
  | ⟨_, .getInterfaceNumber, reply⟩ => some reply.result
  | ⟨_, .getNumEndpoints, reply⟩ => some reply.result
  | ⟨_, .getPipeProperties _, reply⟩ => some reply.result
  | ⟨_, .createInterfaceAsyncEventSource, reply⟩ => some reply.result
  | ⟨_, .controlRequestTO _ _, reply⟩ => some reply.result
  | ⟨_, .readPipeTO _ _ _ _, reply⟩ => some reply.result
  | ⟨_, .writePipeTO _ _ _ _, result⟩ => some result
  | ⟨_, .readPipeAsync _ _, result⟩ => some result
  | ⟨_, .abortPipe _, result⟩ => some result
  | ⟨_, .clearPipeStallBothEnds _, result⟩ => some result
  | ⟨_, .geteuid, _⟩ => none
  | ⟨_, .calloc, _⟩ => none
  | ⟨_, .deadline _, _⟩ => none
  | ⟨_, .runLoopRound, fired⟩ => fired.map Completion.result

/-- The call found the device gone. -/
def Gone (e : MacEvent) : Prop := ∃ result ∈ ioReturnOf e, mapIoReturn result = .noDevice

instance : DecidablePred Gone := fun e =>
  inferInstanceAs (Decidable (∃ result ∈ ioReturnOf e, mapIoReturn result = .noDevice))

/-- A result of which the engine does not see that it loses the phase. -/
def LosesSilently (result : IOReturn) : Prop :=
  mapIoReturn result = .stall ∨ mapIoReturn result = .permission

/-- An abort of the pending transfer that fails silently, or a completion before the deadline that
tells of a silent failure. -/
def Unseen : MacEvent → Prop
  | ⟨_, .abortPipe _, result⟩ => LosesSilently result
  | ⟨m, .runLoopRound, fired⟩ => m.context.desynchronized = false ∧
      ∃ result ∈ deliveredResult ⟨m, .runLoopRound, fired⟩, LosesSilently result
  | _ => False

/-- Only success is reported as success. -/
theorem mapIoReturn_eq_ok_iff {result : IOReturn} :
    mapIoReturn result = .ok ↔ result = kIOReturnSuccess := by
  unfold mapIoReturn
  by_cases h : result = kIOReturnSuccess
  · simp [h]
  · rw [if_neg h]
    refine iff_of_false ?_ h
    repeat' split
    all_goals exact nofun

/-- Both timeouts are reported as a timeout. -/
theorem mapIoReturn_of_isTimeout {result : IOReturn} (h : isTimeout result = true) :
    mapIoReturn result = .timeout := by
  simp only [isTimeout, Bool.or_eq_true, beq_iff_eq] at h
  rcases h with rfl | rfl <;> decide

/-- A success loses nothing. -/
theorem not_losesSilently_success : ¬ LosesSilently kIOReturnSuccess := by
  unfold LosesSilently
  decide

/-- A timeout is not lost silently. -/
theorem not_losesSilently_timeout : ¬ LosesSilently kIOReturnTimeout := by
  unfold LosesSilently
  decide

/-- A failure that is not the loss of the device is silent or seen by the engine. -/
theorem ioStatusLosesPhase_eq_false_iff {result : IOReturn} (hfailed : result ≠ kIOReturnSuccess)
    (hpresent : mapIoReturn result ≠ .noDevice) :
    ioStatusLosesPhase (mapIoReturn result) = false ↔ LosesSilently result := by
  have hfailed : mapIoReturn result ≠ .ok := fun hok => hfailed (mapIoReturn_eq_ok_iff.1 hok)
  unfold LosesSilently
  revert hfailed hpresent
  generalize mapIoReturn result = status
  cases status <;> simp [ioStatusLosesPhase]

/-- A delivered completion is a result of IOUSBLib. -/
theorem ioReturnOf_of_delivered {e : MacEvent} {result : IOReturn}
    (h : deliveredResult e = some result) : ioReturnOf e = some result := by
  obtain ⟨s, call, reply⟩ := e
  cases call with
  | runLoopRound =>
      cases reply with
      | none => cases h
      | some completion =>
          simp only [deliveredResult, Option.ite_none_right_eq_some] at h
          exact h.2
  | _ => cases h

/-! ## Waits -/

/-- While the context is synchronised, the silent failures of a wait are those it delivers. -/
theorem Waited.unseen_iff {done : Bool} (h : Waited m t done m')
    (hsynchronized : m.context.desynchronized = false) :
    (∃ e ∈ t, Unseen e) ↔ ∃ result ∈ t.filterMap deliveredResult, LosesSilently result := by
  have hround {e : MacEvent} (he : e ∈ t) :
      Unseen e ↔ ∃ result ∈ deliveredResult e, LosesSilently result := by
    obtain ⟨hcontext, hcall⟩ := h.context_eq.2 e he
    obtain ⟨s, call, fired⟩ := e
    obtain rfl : call = .runLoopRound := hcall
    have hcontext : s.context = m.context := hcontext
    have hfalse : s.context.desynchronized = false := by rw [hcontext, hsynchronized]
    exact and_iff_right hfalse
  simp only [List.mem_filterMap]
  constructor
  · rintro ⟨e, he, hunseen⟩
    obtain ⟨result, hresult, hloses⟩ := (hround he).1 hunseen
    exact ⟨result, ⟨e, he, hresult⟩, hloses⟩
  · rintro ⟨result, ⟨e, he, hresult⟩, hloses⟩
    exact ⟨e, he, (hround he).2 ⟨result, hresult, hloses⟩⟩

/-- Once the context is desynchronised, no completion matters. -/
theorem Waited.not_unseen {done : Bool} (h : Waited m t done m')
    (hdesynchronized : m.context.desynchronized = true) : ∀ e ∈ t, ¬ Unseen e := by
  intro e he hunseen
  obtain ⟨hcontext, hcall⟩ := h.context_eq.2 e he
  obtain ⟨s, call, fired⟩ := e
  obtain rfl : call = .runLoopRound := hcall
  have hfalse : s.context.desynchronized = false := hunseen.1
  have hcontext : s.context = m.context := hcontext
  rw [hcontext, hdesynchronized] at hfalse
  cases hfalse

/-- On a marked context, draining loses something unseen exactly when its abort does. -/
theorem Drained.unseen_iff {aborted : IOReturn} (h : Drained m t aborted m')
    (hdesynchronized : m.context.desynchronized = true) :
    (∃ e ∈ t, Unseen e) ↔ LosesSilently aborted := by
  cases h with
  | idle => simp [not_losesSilently_success]
  | refused => simp [Unseen]
  | @waited n t done _ _ hwaited =>
      refine iff_of_false ?_ ?_
      · rintro ⟨e, he, hunseen⟩
        rcases List.mem_cons.1 he with rfl | he
        · exact not_losesSilently_success hunseen
        rcases List.mem_cons.1 he with rfl | he
        · exact hunseen
        · exact hwaited.not_unseen hdesynchronized e he hunseen
      · cases done
        · exact not_losesSilently_timeout
        · exact not_losesSilently_success

/-- An abort that found the device gone says so. -/
theorem Drained.gone {aborted : IOReturn} (h : Drained m t aborted m')
    (hgone : mapIoReturn aborted = .noDevice) : ∃ e ∈ t, Gone e := by
  cases h with
  | idle => cases hgone
  | refused => exact ⟨_, List.mem_singleton_self _, aborted, rfl, hgone⟩
  | @waited n t done =>
      cases done <;> cases hgone

/-! ## Operations of an exchange -/

/-- What an operation of an exchange does to the flags: it may mark the context (`lost`), and then
its status tells, except after a silent failure of the interrupt. -/
structure Operated (op : CbiIoOp) (m : MacState) (t : List MacEvent) (status : CbiIoStatus)
    (m' : MacState) : Prop where
  isOpen : m'.context.isOpen = m.context.isOpen
  runLoop : m'.context.runLoop = m.context.runLoop
  resetArmed : m'.context.resetArmed = m.context.resetArmed
  events_open : ∀ e ∈ t, e.state.context.isOpen = m.context.isOpen
  lost : ∃ lost : Bool, m'.context.desynchronized = (m.context.desynchronized || lost) ∧
    (status = .ok → lost = false) ∧
    (op ≠ .interruptInWithDeadline → lost = true → ioStatusLosesPhase status = true) ∧
    (m.context.desynchronized = false → (∀ e ∈ t, ¬ Gone e) →
      (lost = true ∧ ioStatusLosesPhase status = false ↔ ∃ e ∈ t, Unseen e))

/-- An operation that leaves the context alone. -/
theorem Operated.of_context_eq {op : CbiIoOp} {status : CbiIoStatus}
    (hcontext : m'.context = m.context) (hevents : ∀ e ∈ t, e.state.context = m.context)
    (hseen : ∀ e ∈ t, ¬ Unseen e) : Operated op m t status m' := by
  refine ⟨by rw [hcontext], by rw [hcontext], by rw [hcontext], fun e he => ?_, false, ?_⟩
  · rw [hevents e he]
  · rw [hcontext, Bool.or_false]
    refine ⟨rfl, fun _ => rfl, fun _ => nofun, fun _ _ => iff_of_false ?_ ?_⟩
    · exact fun hlost => absurd hlost.1 Bool.false_ne_true
    · rintro ⟨e, he, hunseen⟩
      exact hseen e he hunseen

/-- An operation that marks the context, and whose status tells. -/
theorem Operated.of_desynchronized {op : CbiIoOp} {status : CbiIoStatus}
    (hcontext : m'.context = m.context.desynchronize)
    (hevents : ∀ e ∈ t, e.state.context.isOpen = m.context.isOpen)
    (hseen : ∀ e ∈ t, ¬ Unseen e) (hloses : ioStatusLosesPhase status = true) :
    Operated op m t status m' := by
  refine ⟨by rw [hcontext]; rfl, by rw [hcontext]; rfl, by rw [hcontext]; rfl, hevents, true, ?_⟩
  rw [hcontext, Bool.or_true]
  refine ⟨rfl, fun hok => ?_, fun _ _ => hloses, fun _ _ => iff_of_false ?_ ?_⟩
  · rw [hok] at hloses
    cases hloses
  · rintro ⟨-, hkeeps⟩
    rw [hloses] at hkeeps
    cases hkeeps
  · rintro ⟨e, he, hunseen⟩
    exact hseen e he hunseen

/-- What a command block does to the flags. -/
theorem operated_adsc {cdb : Vector UInt8 cbiCdbLength} {timeoutMs : ℕ} {detail : ErrorText}
    {reply : CbiReply} (h : Exec (macAdsc current cdb timeoutMs detail) m t reply m') :
    Operated .adsc m t reply.status m' := by
  unfold macAdsc at h
  rw [exec_get_bind] at h
  cases hready : readyForAdsc current m.context cdb with
  | some refusal =>
      simp only [hready, exec_pure] at h
      obtain ⟨rfl, rfl, rfl⟩ := h
      exact .of_context_eq rfl (by simp) (by simp)
  | none =>
      simp only [hready, exec_call_bind, exec_ite, exec_updateContext_bind, exec_pure] at h
      obtain ⟨control, t', h, rfl⟩ := h
      -- only a timeout and a short transfer leave the context out of step
      rcases h with ⟨-, h⟩ | ⟨-, h⟩
      · rcases h with ⟨htimeout, rfl, rfl, rfl⟩ | ⟨-, rfl, rfl, rfl⟩
        · refine .of_desynchronized rfl (by simp) (by simp [Unseen]) ?_
          rw [mapIoReturn_of_isTimeout htimeout]
          rfl
        · exact .of_context_eq rfl (by simp) (by simp [Unseen])
      · rcases h with ⟨-, rfl, rfl, rfl⟩ | ⟨-, rfl, rfl, rfl⟩
        · exact .of_desynchronized rfl (by simp) (by simp [Unseen]) rfl
        · exact .of_context_eq rfl (by simp) (by simp [Unseen])

/-- The end of a bulk transfer marks the context after a timeout, which the status tells. -/
theorem operated_bulk {op : CbiIoOp} {pipe : UInt8} {name resynchronize : String}
    {result : IOReturn} {detail text : ErrorText} {e : MacEvent}
    (h : Exec (bulkResult pipe name resynchronize result detail) m t text m')
    (he : e.state = m) (hseen : ¬ Unseen e) :
    Operated op m (e :: t) (mapIoReturn result) m' := by
  unfold bulkResult at h
  simp only [exec_call_bind, exec_ite, exec_updateContext_bind, exec_pure] at h
  rcases h with ⟨-, rfl, rfl, rfl⟩ | ⟨-, h⟩
  · exact .of_context_eq rfl (by simp [he]) (by simpa using hseen)
  rcases h with ⟨-, rfl, rfl, rfl⟩ | ⟨htimeout, cleared, _, ⟨rfl, rfl, rfl⟩, rfl⟩
  · exact .of_context_eq rfl (by simp [he]) (by simpa using hseen)
  · refine .of_desynchronized rfl ?_ ?_ ?_
    · simp [he, MacCbiContext.desynchronize]
    · simpa [Unseen] using hseen
    · rw [mapIoReturn_of_isTimeout (by simpa using htimeout)]
      rfl

/-- What a bulk read does to the flags. -/
theorem operated_bulkIn {n : ℕ} {buffer : Vector UInt8 n} {timeoutMs : ℕ} {detail : ErrorText}
    {reply : BulkInReply n} (h : Exec (macBulkIn current buffer timeoutMs detail) m t reply m') :
    Operated .bulkIn m t reply.status m' := by
  unfold macBulkIn at h
  simp only [exec_get_bind, exec_call_bind, exec_ite, exec_pure] at h
  rcases h with ⟨-, rfl, rfl, rfl⟩ | ⟨-, h⟩
  · exact .of_context_eq rfl (by simp) (by simp)
  rcases h with ⟨-, rfl, rfl, rfl⟩ | ⟨-, read, t', h, rfl⟩
  · exact .of_context_eq rfl (by simp) (by simp)
  rw [exec_bind] at h
  obtain ⟨t₁, text, m₁, t₂, hresult, h, rfl⟩ := h
  obtain ⟨rfl, rfl, rfl⟩ := exec_pure.1 h
  rw [List.append_nil]
  exact operated_bulk hresult rfl (by simp [Unseen])

/-- What a bulk write does to the flags. -/
theorem operated_bulkOut {n : ℕ} {buffer : Vector UInt8 n} {timeoutMs : ℕ} {detail : ErrorText}
    {reply : BulkOutReply} (h : Exec (macBulkOut current buffer timeoutMs detail) m t reply m') :
    Operated .bulkOut m t reply.status m' := by
  unfold macBulkOut at h
  simp only [exec_get_bind, exec_call_bind, exec_ite, exec_pure] at h
  rcases h with ⟨-, rfl, rfl, rfl⟩ | ⟨-, h⟩
  · exact .of_context_eq rfl (by simp) (by simp)
  rcases h with ⟨-, rfl, rfl, rfl⟩ | ⟨-, result, t', h, rfl⟩
  · exact .of_context_eq rfl (by simp) (by simp)
  rw [exec_bind] at h
  obtain ⟨t₁, text, m₁, t₂, hresult, h, rfl⟩ := h
  obtain ⟨rfl, rfl, rfl⟩ := exec_pure.1 h
  rw [List.append_nil]
  exact operated_bulk hresult rfl (by simp [Unseen])

/-- What clearing a stall does to the flags. -/
theorem operated_clearStall {direction : DataDirection} {detail : ErrorText} {reply : CbiReply}
    (h : Exec (macClearStall current direction detail) m t reply m') :
    Operated .clearStall m t reply.status m' := by
  unfold macClearStall at h
  simp only [exec_get_bind, exec_call_bind, exec_ite, exec_pure] at h
  rcases h with ⟨-, rfl, rfl, rfl⟩ | ⟨-, h⟩
  · exact .of_context_eq rfl (by simp) (by simp)
  rcases h with ⟨-, rfl, rfl, rfl⟩ | ⟨-, result, t', ⟨rfl, rfl, rfl⟩, rfl⟩
  · exact .of_context_eq rfl (by simp) (by simp)
  · exact .of_context_eq rfl (by simp) (by simp [Unseen])

/-- The events before a wait, none of which is a silent failure. -/
theorem submission_events (n timeoutMs : ℕ) {result : IOReturn} {e : MacEvent}
    (he : e ∈ submission m result ∨ e = ⟨m.submitted, .deadline timeoutMs, n⟩) :
    e.state.context.isOpen = m.context.isOpen ∧ ¬ Unseen e := by
  rcases he with he | rfl
  · rcases List.mem_cons.1 he with rfl | he
    · exact ⟨rfl, id⟩
    · rw [List.mem_singleton.1 he]
      exact ⟨rfl, id⟩
  · exact ⟨rfl, id⟩

/-- The trace of a submitted interrupt request, whose events from the wait on are those of `t`. -/
theorem unseen_submitted_iff {n timeoutMs : ℕ} :
    (∃ e ∈ submission m kIOReturnSuccess ++ ⟨m.submitted, .deadline timeoutMs, n⟩ :: t, Unseen e) ↔
      ∃ e ∈ t, Unseen e := by
  constructor
  · rintro ⟨e, he, hunseen⟩
    rcases List.mem_append.1 he with he | he
    · exact absurd hunseen (submission_events n timeoutMs (.inl he)).2
    rcases List.mem_cons.1 he with rfl | he
    · exact absurd hunseen id
    · exact ⟨e, he, hunseen⟩
  · rintro ⟨e, he, hunseen⟩
    exact ⟨e, List.mem_append_right _ (List.mem_cons_of_mem _ he), hunseen⟩

/-- An interrupt whose request was submitted, and whose events from the wait on are those of `t`. -/
theorem Operated.of_submitted (lost : Bool) (pointer : Option RequestRef) {n timeoutMs : ℕ}
    {status : CbiIoStatus}
    (hcontext : m'.context = { m.context with
      desynchronized := m.context.desynchronized || lost, interruptRequest := pointer })
    (hevents : ∀ e ∈ t, e.state.context.isOpen = m.context.isOpen)
    (hok : status = .ok → lost = false)
    (hunseen : m.context.desynchronized = false → (∀ e ∈ t, ¬ Gone e) →
      (lost = true ∧ ioStatusLosesPhase status = false ↔ ∃ e ∈ t, Unseen e)) :
    Operated .interruptInWithDeadline m
      (submission m kIOReturnSuccess ++ ⟨m.submitted, .deadline timeoutMs, n⟩ :: t) status m' := by
  refine ⟨by rw [hcontext], by rw [hcontext], by rw [hcontext], fun e he => ?_, lost,
    by rw [hcontext], hok, fun hop => absurd rfl hop, fun hsynchronized hpresent => ?_⟩
  · rcases List.mem_append.1 he with he | he
    · exact (submission_events n timeoutMs (.inl he)).1
    rcases List.mem_cons.1 he with rfl | he
    · rfl
    · exact hevents e he
  · rw [unseen_submitted_iff]
    refine hunseen hsynchronized fun e he => hpresent e ?_
    exact List.mem_append_right _ (List.mem_cons_of_mem _ he)

section Interrupt

variable {t' : List MacEvent} {done : Bool} {m₁ m₂ : MacState} {n timeoutMs : ℕ}

/-- The context and the events of a wait for the request that was just submitted. -/
theorem Waited.submitted_context (hwaited : Waited m.submitted t done m₁) :
    m₁.context = { m.context with interruptRequest := some m.requests.length } ∧
      ∀ e ∈ t, e.state.context.isOpen = m.context.isOpen := by
  obtain ⟨hcontext, hevents⟩ := hwaited.context_eq
  exact ⟨hcontext, fun e he => by rw [(hevents e he).1]; rfl⟩

/-- A wait that ends in time delivered the result of the request. -/
theorem Waited.submitted_result {request : MacInterruptRequest}
    (hwaited : Waited m.submitted t true m₁)
    (hrequest : m₁.request? m.requests.length = some request) :
    t.filterMap deliveredResult = [request.result] := by
  obtain ⟨request', hrequest', -, hdelivered⟩ :=
    (hwaited.delivered (awaiting_submitted m)).2 rfl
  obtain rfl : request' = request := by simpa [hrequest'] using hrequest
  exact hdelivered

/-- A wait past the deadline delivered nothing that could be a silent failure. -/
theorem Waited.submitted_seen (hwaited : Waited m.submitted t false m₁)
    (hsynchronized : m.context.desynchronized = false) : ∀ e ∈ t, ¬ Unseen e := by
  intro e he hunseen
  obtain ⟨result, hmem, -⟩ := (hwaited.unseen_iff hsynchronized).1 ⟨e, he, hunseen⟩
  rw [((hwaited.delivered (awaiting_submitted m)).1 rfl).1] at hmem
  cases hmem

/-- Without a submission the pointer to the request is NULL again. -/
theorem operated_unsubmitted {result : IOReturn} {status : CbiIoStatus} :
    Operated .interruptInWithDeadline m (submission m result) status
      (m.allocateRequest.interruptRequestRelease m.requests.length).releaseInterruptRequest := by
  refine ⟨?_, ?_, ?_, fun e he => ?_, false, ?_, fun _ => rfl, by simp,
    fun _ _ => iff_of_false (fun hlost => absurd hlost.1 Bool.false_ne_true) ?_⟩
  · simp [MacState.releaseInterruptRequest_context, MacState.allocateRequest]
  · simp [MacState.releaseInterruptRequest_context, MacState.allocateRequest]
  · simp [MacState.releaseInterruptRequest_context, MacState.allocateRequest]
  · exact (submission_events 0 0 (.inl he)).1
  · simp [MacState.releaseInterruptRequest_context, MacState.allocateRequest]
  · rintro ⟨e, he, hunseen⟩
    exact (submission_events 0 0 (.inl he)).2 hunseen

/-- A request that failed marks the context, and is unseen when its status does not tell. -/
theorem operated_failed {request : MacInterruptRequest} (hwaited : Waited m.submitted t true m₁)
    (hrequest : m₁.request? m.requests.length = some request)
    (hfailed : request.result ≠ kIOReturnSuccess) :
    Operated .interruptInWithDeadline m
      (submission m kIOReturnSuccess ++ ⟨m.submitted, .deadline timeoutMs, n⟩ :: t)
      (mapIoReturn request.result) m₁.releaseInterruptRequest.abandoned := by
  obtain ⟨hcontext, hevents⟩ := hwaited.submitted_context
  have hdelivered := hwaited.submitted_result hrequest
  refine .of_submitted true none ?_ hevents ?_ fun hsynchronized hpresent => ?_
  · simp [MacState.releaseInterruptRequest_context, hcontext, MacCbiContext.desynchronize]
  · exact fun hok => absurd (mapIoReturn_eq_ok_iff.1 hok) hfailed
  · rw [hwaited.unseen_iff hsynchronized, hdelivered]
    have hnotGone : mapIoReturn request.result ≠ .noDevice := by
      intro hgone
      have hmem : request.result ∈ t.filterMap deliveredResult := by simp [hdelivered]
      obtain ⟨e, he, hresult⟩ := List.mem_filterMap.1 hmem
      exact hpresent e he ⟨_, ioReturnOf_of_delivered hresult, hgone⟩
    simp [ioStatusLosesPhase_eq_false_iff hfailed hnotGone]

/-- After the deadline, an abort that fails is unseen when its status does not tell. The pointer
stays as long as the request is pending. -/
theorem operated_undrained {aborted : IOReturn} (hwaited : Waited m.submitted t false m₁)
    (hdrained : Drained m₁.abandoned t' aborted m₂) (hfailed : aborted ≠ kIOReturnSuccess) :
    Operated .interruptInWithDeadline m
      (submission m kIOReturnSuccess ++ ⟨m.submitted, .deadline timeoutMs, n⟩ :: (t ++ t'))
      (mapIoReturn aborted)
      (if m₂.interruptRequestComplete then m₂.releaseInterruptRequest else m₂) := by
  obtain ⟨hcontext, hevents⟩ := hwaited.submitted_context
  obtain ⟨hcontext', hevents'⟩ := hdrained.context_eq
  -- the request is freed if its callback came, and stays with the context otherwise
  refine .of_submitted true
    (if m₂.interruptRequestComplete then none else some m.requests.length)
    ?_ (List.forall_mem_append.2 ⟨hevents, fun e he => ?_⟩) ?_ fun hsynchronized hpresent => ?_
  · split
    · simp [MacState.releaseInterruptRequest_context, hcontext', hcontext,
        MacCbiContext.desynchronize]
    · simp [hcontext', hcontext, MacCbiContext.desynchronize]
  · rw [(hevents' e he).1]
    simp [hcontext, MacCbiContext.desynchronize]
  · exact fun hok => absurd (mapIoReturn_eq_ok_iff.1 hok) hfailed
  -- of the calls after the deadline only the abort can hide the loss of the phase
  · have hunseen : (∃ e ∈ t ++ t', Unseen e) ↔ LosesSilently aborted := by
      rw [← hdrained.unseen_iff rfl]
      constructor
      · rintro ⟨e, he, hunseen⟩
        rcases List.mem_append.1 he with he | he
        · exact absurd hunseen (hwaited.submitted_seen hsynchronized e he)
        · exact ⟨e, he, hunseen⟩
      · rintro ⟨e, he, hunseen⟩
        exact ⟨e, List.mem_append_right _ he, hunseen⟩
    have hnotGone : mapIoReturn aborted ≠ .noDevice := by
      intro hgone
      obtain ⟨e, he, hgone⟩ := hdrained.gone hgone
      exact hpresent e (List.mem_append_right _ he) hgone
    rw [hunseen, ioStatusLosesPhase_eq_false_iff hfailed hnotGone]
    simp

/-- After the deadline, a request that drains leaves the timeout, which tells. -/
theorem operated_timedOut {cleared : IOReturn} (hwaited : Waited m.submitted t false m₁)
    (hdrained : Drained m₁.abandoned t' kIOReturnSuccess m₂) :
    Operated .interruptInWithDeadline m
      (submission m kIOReturnSuccess ++ ⟨m.submitted, .deadline timeoutMs, n⟩ ::
        (t ++ (t' ++ [⟨m₂, .clearPipeStallBothEnds m₂.context.interruptInPipe, cleared⟩])))
      .timeout m₂.releaseInterruptRequest := by
  obtain ⟨hcontext, hevents⟩ := hwaited.submitted_context
  obtain ⟨hcontext', hevents'⟩ := hdrained.context_eq
  have hopen : m₂.context.isOpen = m.context.isOpen := by
    simp [hcontext', hcontext, MacCbiContext.desynchronize]
  -- the request was drained: it is released, and the timeout is what the engine sees
  refine .of_submitted true none ?_ ?_ (by simp) fun hsynchronized _ =>
    iff_of_false (fun hlost => absurd hlost.2 (by decide)) ?_
  · simp [MacState.releaseInterruptRequest_context, hcontext', hcontext,
      MacCbiContext.desynchronize]
  · refine List.forall_mem_append.2 ⟨hevents, List.forall_mem_append.2 ⟨fun e he => ?_, ?_⟩⟩
    · rw [(hevents' e he).1, ← hcontext']
      exact hopen
    · simpa using hopen
  · rintro ⟨e, he, hunseen⟩
    rcases List.mem_append.1 he with he | he
    · exact hwaited.submitted_seen hsynchronized e he hunseen
    rcases List.mem_append.1 he with he | he
    · exact not_losesSilently_success ((hdrained.unseen_iff rfl).1 ⟨e, he, hunseen⟩)
    · rw [List.mem_singleton.1 he] at hunseen
      exact hunseen

/-- What the read of the interrupt does to the flags. -/
theorem operated_interrupt {completion : Vector UInt8 cbiStatusLength} {detail : ErrorText}
    {reply : InterruptReply}
    (h : Exec (macInterruptInWithDeadline current completion timeoutMs detail) m t reply m') :
    Operated .interruptInWithDeadline m t reply.status m' := by
  have hread := interruptRead_of_exec h
  generalize reply.status = status at hread ⊢
  cases hread with
  | refused => exact .of_context_eq rfl (by simp) (by simp)
  | unallocated => exact .of_context_eq rfl (by simp) (by simp [Unseen])
  | unsubmitted => exact operated_unsubmitted
  | failed hwaited hrequest hfailed => exact operated_failed hwaited hrequest hfailed
  | short hwaited hrequest hok =>
      -- a completion of another length than two bytes is a protocol error, which tells
      obtain ⟨hcontext, hevents⟩ := hwaited.submitted_context
      refine .of_submitted true none ?_ hevents (by simp) fun hsynchronized
        _ => iff_of_false (fun hlost => absurd hlost.2 (by decide)) ?_
      · simp [MacState.releaseInterruptRequest_context, hcontext, MacCbiContext.desynchronize]
      · rw [hwaited.unseen_iff hsynchronized, hwaited.submitted_result hrequest, hok]
        simp [not_losesSilently_success]
  | completed hwaited hrequest hok =>
      obtain ⟨hcontext, hevents⟩ := hwaited.submitted_context
      refine .of_submitted false none ?_ hevents (fun _ => rfl)
        fun hsynchronized _ => iff_of_false (fun hlost => absurd hlost.1 Bool.false_ne_true) ?_
      · simp [MacState.releaseInterruptRequest_context, hcontext]
      · rw [hwaited.unseen_iff hsynchronized, hwaited.submitted_result hrequest, hok]
        simp [not_losesSilently_success]
  | undrained hwaited hdrained hfailed => exact operated_undrained hwaited hdrained hfailed
  | timedOut hwaited hdrained => exact operated_timedOut hwaited hdrained

end Interrupt

/-- The operations that an exchange can make. -/
def CbiIoOp.IsExchange (op : CbiIoOp) : Prop :=
  op = .adsc ∨ op.IsBulk ∨ op = .clearStall ∨ op = .interruptInWithDeadline

/-- What each operation of an exchange does to the flags. -/
theorem operated_of_exec {e : EngineEvent} (hop : e.call.op.IsExchange)
    (h : Exec (macIo current e.call) m t e.reply m') :
    Operated e.call.op m t (ioStatusOf e) m' := by
  obtain ⟨c, call, reply⟩ := e
  cases call with
  | adsc => exact operated_adsc h
  | bulkIn => exact operated_bulkIn h
  | bulkOut => exact operated_bulkOut h
  | interruptInWithDeadline => exact operated_interrupt h
  | clearStall => exact operated_clearStall h
  | _ => simp [CbiIoOp.IsExchange, CbiIoOp.IsBulk, CbiIoCall.op] at hop

/-! ## The reset -/

/-- An operation that keeps the flags of the context, except that it may arm the reset. -/
structure Steady (m : MacState) (t : List MacEvent) (m' : MacState) : Prop where
  isOpen : m'.context.isOpen = m.context.isOpen
  runLoop : m'.context.runLoop = m.context.runLoop
  desynchronized : m'.context.desynchronized = m.context.desynchronized
  events_open : ∀ e ∈ t, e.state.context.isOpen = m.context.isOpen

/-- The preparation of a reset keeps the flags. -/
theorem steady_prepare {detail : ErrorText} {reply : CbiReply}
    (h : Exec (macPrepareCommandBlockReset current detail) m t reply m') : Steady m t m' := by
  unfold macPrepareCommandBlockReset at h
  simp only [exec_get_bind, exec_ite, exec_pure] at h
  rcases h with ⟨-, rfl, rfl, rfl⟩ | ⟨-, h⟩
  · exact ⟨rfl, rfl, rfl, by simp⟩
  rcases h with ⟨-, rfl, rfl, rfl⟩ | ⟨-, h⟩
  · exact ⟨rfl, rfl, rfl, by simp⟩
  -- a request that is still pending is aborted before the interrupt pipe is cleared
  rw [exec_bind] at h
  obtain ⟨t₁, aborted, m₁, t₂, habort, h, rfl⟩ := h
  obtain ⟨hcontext, hevents⟩ := (drained_of_exec habort).context_eq
  have hopen : ∀ e ∈ t₁, e.state.context.isOpen = m.context.isOpen :=
    fun e he => by rw [(hevents e he).1]
  simp only [exec_modify_bind, exec_call_bind, exec_updateContext_bind, exec_ite, exec_pure] at h
  rcases h with ⟨-, rfl, rfl, rfl⟩ | ⟨-, cleared, t₃, h, rfl⟩
  · rw [List.append_nil]
    refine ⟨?_, ?_, ?_, hopen⟩ <;> split <;>
      simp [MacState.releaseInterruptRequest_context, hcontext]
  · have hclear : ∀ e ∈ t₁ ++ [⟨m₁.releaseInterruptRequest,
        .clearPipeStallBothEnds m.context.interruptInPipe, cleared⟩],
        e.state.context.isOpen = m.context.isOpen :=
      List.forall_mem_append.2 ⟨hopen, List.forall_mem_singleton.2
        (by simp [MacState.releaseInterruptRequest_context, hcontext])⟩
    -- the clear arms the reset or fails; neither touches the flags
    rcases h with ⟨-, rfl, rfl, rfl⟩ | ⟨-, rfl, rfl, rfl⟩
    · exact ⟨by simp [MacState.releaseInterruptRequest_context, hcontext],
        by simp [MacState.releaseInterruptRequest_context, hcontext],
        by simp [MacState.releaseInterruptRequest_context, hcontext], hclear⟩
    · exact ⟨by simp [MacState.releaseInterruptRequest_context, hcontext],
        by simp [MacState.releaseInterruptRequest_context, hcontext],
        by simp [MacState.releaseInterruptRequest_context, hcontext], hclear⟩

/-- The end of a reset: the adapter takes over what it is told, if it accepts the call. -/
structure Finished (recovered : Bool) (m : MacState) (t : List MacEvent) (reply : CbiReply)
    (m' : MacState) : Prop where
  trace_eq : t = []
  isOpen : m'.context.isOpen = m.context.isOpen
  runLoop : m'.context.runLoop = m.context.runLoop
  desynchronized : reply.status = .ok → m'.context.desynchronized = !recovered

/-- The end of a reset sets the mark as it is told. -/
theorem finished_of_exec {recovered : Bool} {detail : ErrorText} {reply : CbiReply}
    (h : Exec (macFinishCommandBlockReset current recovered detail) m t reply m') :
    Finished recovered m t reply m' := by
  unfold macFinishCommandBlockReset at h
  simp only [exec_get_bind, exec_updateContext_bind, exec_ite, exec_pure] at h
  rcases h with ⟨-, rfl, rfl, rfl⟩ | ⟨-, h⟩
  · exact ⟨rfl, rfl, rfl, by simp⟩
  rcases h with ⟨-, rfl, rfl, rfl⟩ | ⟨-, rfl, rfl, rfl⟩
  · exact ⟨rfl, rfl, rfl, by simp⟩
  · exact ⟨rfl, rfl, rfl, fun _ => rfl⟩

/-! ## Opening and closing -/

/-- A request on the control pipe or on a bulk pipe. -/
def IoUsbCall.IsTransfer : IoUsbCall → Prop
  | .controlRequestTO _ _ => True
  | .readPipeTO _ _ _ _ => True
  | .writePipeTO _ _ _ _ => True
  | _ => False

/-- The flags that the inspection of the endpoints leaves alone. -/
def linkFlags (m : MacState) : Bool × Bool × Option RunLoopRef :=
  (m.context.isOpen, m.context.desynchronized, m.context.runLoop)

/-- Looking through the pipes keeps the flags and moves nothing. -/
theorem inspectPipes_keeps (pipes : List UInt8) (detail : ErrorText) :
    Keeps linkFlags (inspectPipes detail pipes) ∧
      Only (fun call => ¬ call.IsTransfer) (inspectPipes detail pipes) := by
  induction pipes with
  | nil => exact ⟨.pure _, .pure _⟩
  | cons pipe pipes ih =>
      have hstep (f : MacCbiContext → MacCbiContext)
          (hf : ∀ m : MacState, linkFlags { m with context := f m.context } = linkFlags m) :
          Keeps linkFlags (do updateContext f; inspectPipes detail pipes) ∧
            Only (fun call => ¬ call.IsTransfer)
              (do updateContext f; inspectPipes detail pipes) :=
        ⟨.bind (.modify hf) fun _ => ih.1, .bind (.modify _) fun _ => ih.2⟩
      constructor
      · refine .bind (.call _) fun properties => .bind .get fun m => .ite (.pure _) ?_
        exact .ite (hstep _ fun _ => rfl).1 (.ite (hstep _ fun _ => rfl).1
          (.ite (hstep _ fun _ => rfl).1 (.pure _)))
      · refine .bind (.call id) fun properties => .bind .get fun m => .ite (.pure _) ?_
        exact .ite (hstep _ fun _ => rfl).2 (.ite (hstep _ fun _ => rfl).2
          (.ite (hstep _ fun _ => rfl).2 (.pure _)))

/-- The inspection of the endpoints keeps the flags and moves nothing. -/
theorem inspectEndpoints_keeps (detail : ErrorText) :
    Keeps linkFlags (inspectEndpoints detail) ∧
      Only (fun call => ¬ call.IsTransfer) (inspectEndpoints detail) := by
  constructor
  · refine .bind (.call _) fun _ => .ite (.pure _) ?_
    refine .bind (.call _) fun _ => .ite (.pure _) ?_
    refine .bind (.call _) fun _ => .ite (.pure _) ?_
    refine .bind (.call _) fun _ => .bind (.modify fun _ => rfl) fun _ => .ite (.pure _) ?_
    refine .bind (.call _) fun _ => .ite (.pure _) (.ite (.pure _) ?_)
    refine .bind (.modify fun _ => rfl) fun _ => .bind (inspectPipes_keeps _ _).1 fun _ => ?_
    exact .ite (.pure _) (.bind .get fun _ => .ite (.pure _) (.pure _))
  · refine .bind (.call id) fun _ => .ite (.pure _) ?_
    refine .bind (.call id) fun _ => .ite (.pure _) ?_
    refine .bind (.call id) fun _ => .ite (.pure _) ?_
    refine .bind (.call id) fun _ => .bind (.modify _) fun _ => .ite (.pure _) ?_
    refine .bind (.call id) fun _ => .ite (.pure _) (.ite (.pure _) ?_)
    refine .bind (.modify _) fun _ => .bind (inspectPipes_keeps _ _).2 fun _ => ?_
    exact .ite (.pure _) (.bind .get fun _ => .ite (.pure _) (.pure _))

/-- What `mac_open_seize` leaves behind when the interface is not open. -/
structure Seized (current : RunLoopRef) (m : MacState) (t : List MacEvent) (reply : CbiReply)
    (m' : MacState) : Prop where
  of_ok : reply.status = .ok → m'.context.isOpen = true ∧ m'.context.desynchronized = false ∧
    m'.context.runLoop = some current
  of_failed : reply.status ≠ .ok → m'.context.isOpen = false ∧
    (m'.context.runLoop = none ∨ m'.context.runLoop = m.context.runLoop)
  not_transfer : ∀ e ∈ t, ¬ e.call.IsTransfer

/-- The last part of `mac_open_seize`, on an open interface. -/
theorem attached_of_exec {detail : ErrorText} {reply : CbiReply}
    (h : Exec (attachEventSource current detail) m t reply m')
    (hopen : m.context.isOpen = true) (hsynchronized : m.context.desynchronized = false) :
    Seized current m t reply m' := by
  unfold attachEventSource at h
  simp only [exec_call_bind, exec_updateContext_bind, exec_ite, exec_pure] at h
  obtain ⟨created, t₁, h, rfl⟩ := h
  rcases h with ⟨hfailed, closed, t₂, ⟨rfl, rfl, rfl⟩, rfl⟩ | ⟨-, rfl, rfl, rfl⟩
  · refine ⟨fun hok => ?_, fun _ => ⟨rfl, .inl rfl⟩, ?_⟩
    · split at hok
      · cases hok
      · next hresult => exact absurd (mapIoReturn_eq_ok_iff.1 hok) hresult
    · simp [IoUsbCall.IsTransfer]
  · exact ⟨fun _ => ⟨hopen, hsynchronized, rfl⟩, fun hfailed => absurd rfl hfailed,
      by simp [IoUsbCall.IsTransfer]⟩

/-- A refused seizure is not reported as success. -/
theorem seizureFailure_failed {result : IOReturn} {reply : CbiReply}
    (h : Exec (seizureFailure result) m t reply m') (hfailed : result ≠ kIOReturnSuccess) :
    m' = m ∧ reply.status ≠ .ok ∧ ∀ e ∈ t, ¬ e.call.IsTransfer := by
  unfold seizureFailure at h
  simp only [exec_call_bind, exec_ite, exec_pure] at h
  rcases h with ⟨-, described, t₁, ⟨decided, t₂, ⟨rfl, rfl, rfl⟩, rfl⟩, rfl⟩ | ⟨-, h⟩
  · refine ⟨rfl, ?_, by simp [IoUsbCall.IsTransfer]⟩
    dsimp only
    split <;> simp
  rcases h with ⟨-, rfl, rfl, rfl⟩ | ⟨-, rfl, rfl, rfl⟩
  · exact ⟨rfl, by simp, by simp⟩
  · exact ⟨rfl, fun hok => hfailed (mapIoReturn_eq_ok_iff.1 hok), by simp⟩

/-- Every execution of `mac_open_seize` on a closed interface ends in one of these ways. -/
theorem seized_of_exec {detail : ErrorText} {reply : CbiReply}
    (h : Exec (macOpenSeize current detail) m t reply m') (hclosed : m.context.isOpen = false) :
    Seized current m t reply m' := by
  unfold macOpenSeize at h
  simp only [exec_get_bind, exec_call_bind, exec_ite, hclosed, Bool.false_eq_true, false_and,
    not_false_eq_true, true_and, false_or] at h
  obtain ⟨result, t₁, h, rfl⟩ := h
  -- opening the interface is no transfer, and neither is any call that inspects the pipes
  have hseize : ¬ (⟨m, .usbInterfaceOpenSeize, result⟩ : MacEvent).call.IsTransfer := id
  rcases h with ⟨hfailed, h⟩ | ⟨-, h⟩
  · obtain ⟨rfl, hbad, htransfer⟩ := seizureFailure_failed h hfailed
    exact ⟨fun hok => absurd hok hbad, fun _ => ⟨hclosed, .inr rfl⟩,
      List.forall_mem_cons.2 ⟨hseize, htransfer⟩⟩
  rw [exec_updateContext_bind, exec_bind] at h
  obtain ⟨t₂, ⟨inspected, text⟩, m₁, t₃, hinspect, h, rfl⟩ := h
  have hflags := ((inspectEndpoints_keeps detail).1 hinspect).1
  have hreads := (inspectEndpoints_keeps detail).2 hinspect
  simp only [linkFlags, Prod.mk.injEq] at hflags
  obtain ⟨hopen, hsynchronized, hrunLoop⟩ := hflags
  simp only [exec_ite, exec_call_bind, exec_updateContext_bind, exec_pure] at h
  rcases h with ⟨-, closed, t₄, ⟨rfl, rfl, rfl⟩, rfl⟩ | ⟨-, h⟩
  · refine ⟨by simp, fun _ => ⟨rfl, .inr hrunLoop⟩, List.forall_mem_cons.2 ⟨hseize,
      List.forall_mem_append.2 ⟨hreads, by simp [IoUsbCall.IsTransfer]⟩⟩⟩
  -- past the inspection, the flags are those of an interface that was just opened
  · have hattached := attached_of_exec h hopen hsynchronized
    refine ⟨hattached.of_ok, fun hfailed => ?_, List.forall_mem_cons.2 ⟨hseize,
      List.forall_mem_append.2 ⟨hreads, hattached.not_transfer⟩⟩⟩
    obtain ⟨hclosed', hloop⟩ := hattached.of_failed hfailed
    exact ⟨hclosed', hloop.imp_right fun heq => heq.trans hrunLoop⟩

/-- Closing keeps of the context the interface numbers, the pipes and the mark only. -/
theorem MacState.closed_context (m : MacState) : m.closed.context =
    { m.context with
      isOpen := false, resetArmed := false, interruptRequest := none, eventSource := false,
      runLoop := none } := by
  simp [MacState.closed, MacState.releaseInterruptRequest_context, removeEventSource]

/-- What `mac_close` can do: the trace, the status and the state after it. -/
inductive Shut (current : RunLoopRef) (m : MacState) :
    List MacEvent → CbiIoStatus → MacState → Prop
  | idle (hclosed : m.context.isOpen = false) : Shut current m [] .ok m
  /-- The adapter is closed on another thread than it was opened on. -/
  | foreign {result : IOReturn} (hopen : m.context.isOpen = true)
      (hthread : onTransportRunLoop current m.context = false) :
      Shut current m [⟨m, .usbInterfaceClose, result⟩] .protocol m.closed
  | shut {t : List MacEvent} {aborted result : IOReturn} {m₁ : MacState}
      (hopen : m.context.isOpen = true) (hthread : onTransportRunLoop current m.context = true)
      (hdrained : Drained m t aborted m₁) :
      Shut current m (t ++ [⟨m₁, .usbInterfaceClose, result⟩])
        (mapIoReturn (if aborted = kIOReturnSuccess then result else aborted)) m₁.closed

/-- Every execution of `mac_close` is one of its cases. -/
theorem shut_of_exec {detail : ErrorText} {reply : CbiReply}
    (h : Exec (macClose current detail) m t reply m') : Shut current m t reply.status m' := by
  unfold macClose at h
  simp only [exec_get_bind, exec_ite, exec_pure] at h
  rcases h with ⟨hclosed, rfl, rfl, rfl⟩ | ⟨hopen, h⟩
  · exact .idle (by simpa using hclosed)
  have hopen : m.context.isOpen = true := by simpa using hopen
  rw [exec_bind] at h
  obtain ⟨t₁, ⟨aborted, text⟩, m₁, t₂, habort, h, rfl⟩ := h
  simp only [exec_call_bind, exec_modify_bind, exec_ite, exec_pure] at h
  obtain ⟨result, t₃, h, rfl⟩ := h
  -- only the thread that opened the adapter may run its loop until the request is drained
  unfold abortBeforeClose at habort
  rw [exec_get_bind] at habort
  simp only [exec_ite, exec_bind, exec_pure] at habort
  rcases habort with ⟨hthread, rfl, heq, rfl⟩ | ⟨hthread, t₁, aborted', m₂, t₂, hdrain,
    ⟨rfl, heq, rfl⟩, rfl⟩
  · obtain ⟨rfl, rfl⟩ := Prod.mk.inj heq
    rcases h with ⟨-, rfl, rfl, rfl⟩ | ⟨hok, -⟩
    · exact .foreign hopen (by simpa using hthread)
    · exact absurd (by decide : kIOReturnBadArgument ≠ kIOReturnSuccess) hok
  · obtain ⟨rfl, rfl⟩ := Prod.mk.inj heq
    have hthread : onTransportRunLoop current m.context = true := by simpa using hthread
    -- the status is that of the abort, or of the close when nothing was left to abort
    have hshut : Shut current m (t₁ ++ [⟨m₁, .usbInterfaceClose, result⟩])
        (mapIoReturn (if aborted = kIOReturnSuccess then result else aborted)) m₁.closed :=
      .shut hopen hthread (drained_of_exec hdrain)
    rw [List.append_nil]
    rcases h with ⟨hfailed, rfl, rfl, rfl⟩ | ⟨hok, rfl, rfl, rfl⟩
    · rwa [if_neg hfailed] at hshut
    · rwa [if_pos (of_not_not hok)] at hshut

/-- After `mac_close` the interface counts as closed, and the mark is what it was. -/
theorem Shut.closed {status : CbiIoStatus} (h : Shut current m t status m') :
    m'.context.isOpen = false ∧ m'.context.desynchronized = m.context.desynchronized ∧
      ∀ e ∈ t, ¬ e.call.IsTransfer := by
  cases h with
  | idle hclosed => exact ⟨hclosed, rfl, by simp⟩
  | foreign => exact ⟨by rw [MacState.closed_context], by rw [MacState.closed_context],
      by simp [IoUsbCall.IsTransfer]⟩
  | shut _ _ hdrained =>
      obtain ⟨hcontext, hevents⟩ := hdrained.context_eq
      refine ⟨by rw [MacState.closed_context], by rw [MacState.closed_context, hcontext], ?_⟩
      refine List.forall_mem_append.2 ⟨fun e he => ?_, by simp [IoUsbCall.IsTransfer]⟩
      rcases (hevents e he).2 with hcall | ⟨_, hcall⟩ | ⟨_, hcall⟩ <;> rw [hcall] <;> exact id

end M65
