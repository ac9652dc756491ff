import FloppyProbe.Mac.Adapter

/-!
# What the macOS adapter can do

The cases of the operations of the adapter that wait for the completion interrupt, as inductive
relations with one constructor for each way through the function. A wait ends when the callback of
the awaited request fires (`Waited`, `Awaiting`), and an interrupt is read, abandoned or refused
(`InterruptRead`).
-/

namespace M65

open Interaction

variable {m m' : MacState} {t : List MacEvent} {ref : RequestRef} {current : RunLoopRef}

/-! ## Requests -/

namespace MacState

/-- A change of the context keeps the requests. -/
@[simp]
theorem request?_updateContext (m : MacState) (context : MacCbiContext) (ref : RequestRef) :
    ({ m with context := context } : MacState).request? ref = m.request? ref := rfl

/-- A store at a request keeps the context. -/
@[simp]
theorem setRequest_context (m : MacState) (ref : RequestRef)
    (request : Option MacInterruptRequest) : (m.setRequest ref request).context = m.context := rfl

/-- A store at a request keeps the outstanding callbacks. -/
@[simp]
theorem setRequest_outstanding (m : MacState) (ref : RequestRef)
    (request : Option MacInterruptRequest) :
    (m.setRequest ref request).outstanding = m.outstanding := rfl

/-- A store at a request keeps the others. -/
theorem request?_setRequest_of_ne (m : MacState) {ref ref' : RequestRef} (hne : ref' ≠ ref)
    (request : Option MacInterruptRequest) :
    (m.setRequest ref' request).request? ref = m.request? ref := by
  simp only [request?, setRequest, List.getElem?_set_ne hne]

/-- A store at a living request is read back. -/
theorem request?_setRequest_self (m : MacState) {ref : RequestRef} {old : MacInterruptRequest}
    (hlive : m.request? ref = some old) (request : Option MacInterruptRequest) :
    (m.setRequest ref request).request? ref = request := by
  have hlt : ref < m.requests.length := by
    by_contra hge
    simp [request?, List.getElem?_eq_none (Nat.le_of_not_lt hge)] at hlive
  simp [request?, setRequest, List.getElem?_set_self hlt]

/-- A release frees the request with its last reference. -/
theorem interruptRequestRelease_eq {m : MacState} {ref : RequestRef}
    {request : MacInterruptRequest} (hlive : m.request? ref = some request) :
    m.interruptRequestRelease ref = m.setRequest ref (if request.references = 1 then none
      else some { request with references := request.references - 1 }) := by
  simp only [interruptRequestRelease, hlive]

/-- A release keeps the context. -/
@[simp]
theorem interruptRequestRelease_context (m : MacState) (ref : RequestRef) :
    (m.interruptRequestRelease ref).context = m.context := by
  unfold interruptRequestRelease
  cases m.request? ref <;> rfl

/-- The context gives up its pointer and nothing else. -/
theorem releaseInterruptRequest_context (m : MacState) :
    m.releaseInterruptRequest.context = { m.context with interruptRequest := none } := by
  unfold releaseInterruptRequest
  cases hpointer : m.context.interruptRequest with
  | none => simp only [← hpointer]
  | some ref => exact interruptRequestRelease_context _ _

/-- A release keeps the other requests. -/
theorem request?_interruptRequestRelease_of_ne (m : MacState) {ref ref' : RequestRef}
    (hne : ref' ≠ ref) : (m.interruptRequestRelease ref').request? ref = m.request? ref := by
  unfold interruptRequestRelease
  cases m.request? ref' with
  | none => rfl
  | some request => exact request?_setRequest_of_ne m hne _

/-- A release keeps the outstanding callbacks. -/
theorem interruptRequestRelease_outstanding (m : MacState) (ref : RequestRef) :
    (m.interruptRequestRelease ref).outstanding = m.outstanding := by
  unfold interruptRequestRelease
  cases m.request? ref <;> rfl

/-- A callback keeps the context. -/
@[simp]
theorem fire_context (m : MacState) (fired : Option Completion) :
    (m.fire fired).context = m.context := by
  cases fired with
  | none => rfl
  | some completion =>
      by_cases hheld : completion.request ∈ m.outstanding
      · simp only [fire, if_pos hheld, interruptCallback]
        split
        · rfl
        · rw [interruptRequestRelease_context]
          rfl
      · simp only [fire, if_neg hheld]

end MacState

/-! ## Waits -/

/-- The context waits for the request at `ref`, whose callback IOUSBLib holds. -/
structure Awaiting (m : MacState) (ref : RequestRef) : Prop where
  pointer : m.context.interruptRequest = some ref
  live : ∃ request, m.request? ref = some request ∧ request.complete = false ∧
    request.references = 2
  held : ref ∈ m.outstanding

/-- An awaited request is not complete. -/
theorem Awaiting.not_complete (h : Awaiting m ref) : m.interruptRequestComplete = false := by
  obtain ⟨request, hlive, hcomplete, -⟩ := h.live
  simp [MacState.interruptRequestComplete, h.pointer, hlive, hcomplete]

/-- A change of the context that keeps its pointer keeps it waiting. -/
theorem Awaiting.updateContext (h : Awaiting m ref) {context : MacCbiContext}
    (hpointer : context.interruptRequest = some ref) :
    Awaiting { m with context := context } ref :=
  ⟨hpointer, h.live, h.held⟩

/-- A round that fires another callback, or none, changes nothing for the awaited request. -/
theorem Awaiting.fire_of_ne (h : Awaiting m ref) {fired : Option Completion}
    (hother : ∀ completion ∈ fired, completion.request ≠ ref) : Awaiting (m.fire fired) ref := by
  cases fired with
  | none => exact h
  | some completion =>
      have hne : completion.request ≠ ref := hother completion rfl
      -- a completion that nobody awaits does not fire
      by_cases hheld : completion.request ∈ m.outstanding
      · obtain ⟨request, hlive, hcomplete⟩ := h.live
        refine ⟨?_, ⟨request, ?_, hcomplete⟩, ?_⟩
        · rw [MacState.fire_context]
          exact h.pointer
        · simp only [MacState.fire, if_pos hheld, MacState.interruptCallback]
          split
          · exact hlive
          · rw [MacState.request?_interruptRequestRelease_of_ne _ hne,
              MacState.request?_setRequest_of_ne _ hne]
            exact hlive
        · simp only [MacState.fire, if_pos hheld, MacState.interruptCallback]
          have hmem : ref ∈ m.outstanding.erase completion.request :=
            (List.mem_erase_of_ne hne.symm).2 h.held
          split
          · exact hmem
          · rw [MacState.interruptRequestRelease_outstanding]
            exact hmem
      · simpa only [MacState.fire, if_neg hheld] using h

/-- The callback of the awaited request leaves one reference, that of the context. -/
theorem Awaiting.fire_self (h : Awaiting m ref) {completion : Completion}
    (hself : completion.request = ref) :
    ∃ request, (m.fire (some completion)).request? ref = some request ∧
      request.complete = true ∧ request.result = completion.result ∧ request.references = 1 := by
  obtain ⟨request, hlive, -, hreferences⟩ := h.live
  subst hself
  have hlive' : ({ m with outstanding := m.outstanding.erase completion.request } :
      MacState).request? completion.request = some request := hlive
  simp only [MacState.fire, if_pos h.held, MacState.interruptCallback, hlive']
  have hset := MacState.request?_setRequest_self _ hlive' (some
    { request with
      result := completion.result
      transferred := completion.transferred
      buffer := completion.buffer
      complete := true })
  rw [MacState.interruptRequestRelease_eq hset, MacState.request?_setRequest_self _ hset]
  simp [hreferences]

/-- The rounds of a wait: whether the awaited request was completed. -/
inductive Waited : MacState → List MacEvent → Bool → MacState → Prop
  | completed {m : MacState} (hcomplete : m.interruptRequestComplete = true) : Waited m [] true m
  | late {m : MacState} (hcomplete : m.interruptRequestComplete = false) : Waited m [] false m
  | round {m m' : MacState} {fired : Option Completion} {t : List MacEvent} {done : Bool}
      (hcomplete : m.interruptRequestComplete = false) (hrest : Waited (m.fire fired) t done m') :
      Waited m (⟨m, .runLoopRound, fired⟩ :: t) done m'

/-- Every execution of the rounds of a wait is one of its cases. -/
theorem waited_of_runRounds {rounds : ℕ} {done : Bool}
    (h : Exec (runRounds rounds) m t done m') : Waited m t done m' := by
  induction rounds generalizing m t with
  | zero =>
      simp only [runRounds, exec_get_bind, exec_pure] at h
      obtain ⟨rfl, rfl, rfl⟩ := h
      cases hcomplete : m'.interruptRequestComplete with
      | true => exact .completed hcomplete
      | false => exact .late hcomplete
  | succ rounds ih =>
      simp only [runRounds, exec_get_bind, exec_call_bind, exec_modify_bind, exec_ite,
        exec_pure] at h
      rcases h with ⟨hcomplete, rfl, rfl, rfl⟩ | ⟨hcomplete, fired, t', hrest, rfl⟩
      · exact .completed hcomplete
      · exact .round (by simpa using hcomplete) (ih hrest)

/-- Every execution of `run_until_interrupt` takes a deadline and waits. -/
theorem waited_of_exec {milliseconds : ℕ} {done : Bool}
    (h : Exec (runUntilInterrupt milliseconds) m t done m') :
    ∃ n t', t = ⟨m, .deadline milliseconds, n⟩ :: t' ∧ Waited m t' done m' := by
  simp only [runUntilInterrupt, exec_call_bind] at h
  obtain ⟨n, t', hrounds, rfl⟩ := h
  exact ⟨n, t', rfl, waited_of_runRounds hrounds⟩

/-- The result that a round of the run loop delivers for the request that the context points to. -/
def deliveredResult : MacEvent → Option IOReturn
  | ⟨m, .runLoopRound, some completion⟩ =>
      if m.context.interruptRequest = some completion.request then some completion.result else none
  | _ => none

namespace Waited

variable {done : Bool}

/-- Waiting keeps the context. -/
theorem context_eq (h : Waited m t done m') :
    m'.context = m.context ∧ ∀ e ∈ t, e.state.context = m.context ∧ e.call = .runLoopRound := by
  induction h with
  | completed => exact ⟨rfl, by simp⟩
  | late => exact ⟨rfl, by simp⟩
  | round _ _ ih =>
      rw [MacState.fire_context] at ih
      exact ⟨ih.1, List.forall_mem_cons.2 ⟨⟨rfl, rfl⟩, ih.2⟩⟩

/-- A wait that ends in time has delivered one result, and one that does not none. -/
theorem delivered (h : Waited m t done m') (hawaiting : Awaiting m ref) :
    (done = false → t.filterMap deliveredResult = [] ∧ Awaiting m' ref) ∧
      (done = true → ∃ request, m'.request? ref = some request ∧ request.references = 1 ∧
        t.filterMap deliveredResult = [request.result]) := by
  induction h with
  | completed hcomplete => simp [hawaiting.not_complete] at hcomplete
  | late => exact ⟨fun _ => ⟨rfl, hawaiting⟩, nofun⟩
  | @round m m' fired t done hcomplete hrest ih =>
      -- either the round fires the callback of the awaited request, or it does not matter
      by_cases hself : ∃ completion ∈ fired, completion.request = ref
      · obtain ⟨completion, hfired, hself⟩ := hself
        obtain rfl : fired = some completion := hfired
        obtain ⟨request, hrequest, hcompleted, hresult, hreferences⟩ := hawaiting.fire_self hself
        have hdelivered : deliveredResult ⟨m, .runLoopRound, some completion⟩ =
            some completion.result := by
          simp [deliveredResult, hawaiting.pointer, hself]
        have hend : (m.fire (some completion)).interruptRequestComplete = true := by
          simp [MacState.interruptRequestComplete, hawaiting.pointer, hrequest, hcompleted]
        cases hrest with
        | completed =>
            refine ⟨nofun, fun _ => ⟨request, hrequest, hreferences, ?_⟩⟩
            simp [hdelivered, hresult]
        | late hlate => simp [hlate] at hend
        | round hlate => simp [hlate] at hend
      · have hother : ∀ completion ∈ fired, completion.request ≠ ref :=
          fun completion hfired hself' => hself ⟨completion, hfired, hself'⟩
        have hsilent : deliveredResult ⟨m, .runLoopRound, fired⟩ = none := by
          cases fired with
          | none => rfl
          | some completion =>
              have hne : ref ≠ completion.request := (hother completion rfl).symm
              simp [deliveredResult, hawaiting.pointer, hne]
        simpa only [List.filterMap_cons_none hsilent] using ih (hawaiting.fire_of_ne hother)

end Waited

/-- A wait ends when the request is complete, or when its time is up. -/
theorem Waited.complete_eq {done : Bool} (h : Waited m t done m') :
    m'.interruptRequestComplete = done := by
  induction h with
  | completed hcomplete => exact hcomplete
  | late hlate => exact hlate
  | round _ _ ih => exact ih

/-- The context points to a request that is not complete. -/
def MacState.Pending (m : MacState) : Prop :=
  m.context.interruptRequest.isSome = true ∧ m.interruptRequestComplete = false

/-- What `abort_and_drain_interrupt` can do. -/
inductive Drained (m : MacState) : List MacEvent → IOReturn → MacState → Prop
  | idle (hidle : m.context.interruptRequest = none ∨ m.interruptRequestComplete = true) :
      Drained m [] kIOReturnSuccess m
  | refused {result : IOReturn} (hpending : m.Pending)
      (hfailed : result ≠ kIOReturnSuccess) :
      Drained m [⟨m, .abortPipe m.context.interruptInPipe, result⟩] result m
  | waited {n : ℕ} {t : List MacEvent} {done : Bool} {m' : MacState}
      (hpending : m.Pending) (hwaited : Waited m t done m') :
      Drained m (⟨m, .abortPipe m.context.interruptInPipe, kIOReturnSuccess⟩ ::
        ⟨m, .deadline interruptAbortDrainMs, n⟩ :: t)
        (if done then kIOReturnSuccess else kIOReturnTimeout) m'

/-- Every execution of `abort_and_drain_interrupt` is one of its cases. -/
theorem drained_of_exec {result : IOReturn} (h : Exec abortAndDrainInterrupt m t result m') :
    Drained m t result m' := by
  unfold abortAndDrainInterrupt at h
  simp only [exec_get_bind, exec_call_bind, exec_ite, exec_pure] at h
  rcases h with ⟨hidle, rfl, rfl, rfl⟩ | ⟨hpending, aborted, t', h, rfl⟩
  · exact .idle (by simpa using hidle)
  have hpending : m.Pending := by
    simpa [MacState.Pending, Option.isSome_iff_ne_none] using hpending
  rcases h with ⟨hfailed, rfl, rfl, rfl⟩ | ⟨hok, h⟩
  · exact .refused hpending hfailed
  rw [exec_bind] at h
  obtain ⟨t₁, done, m₁, t₂, hwait, h, rfl⟩ := h
  obtain ⟨rfl, rfl, rfl⟩ := exec_pure.1 h
  obtain ⟨n, t', rfl, hwaited⟩ := waited_of_exec hwait
  obtain rfl : aborted = kIOReturnSuccess := of_not_not hok
  rw [List.append_nil]
  exact .waited hpending hwaited

/-- The abort changes no flag of the context. -/
theorem Drained.context_eq {result : IOReturn} (h : Drained m t result m') :
    m'.context = m.context ∧ ∀ e ∈ t, e.state.context = m.context ∧
      (e.call = .runLoopRound ∨ (∃ pipe, e.call = .abortPipe pipe) ∨
        ∃ milliseconds, e.call = .deadline milliseconds) := by
  cases h with
  | idle => exact ⟨rfl, by simp⟩
  | refused => exact ⟨rfl, by simp⟩
  | waited _ hwaited =>
      obtain ⟨hcontext, hevents⟩ := hwaited.context_eq
      refine ⟨hcontext, List.forall_mem_cons.2 ⟨⟨rfl, .inr (.inl ⟨_, rfl⟩)⟩,
        List.forall_mem_cons.2 ⟨⟨rfl, .inr (.inr ⟨_, rfl⟩)⟩, fun e he => ?_⟩⟩⟩
      exact ⟨(hevents e he).1, .inl (hevents e he).2⟩

/-! ## The completion interrupt -/

/-- The state in which a submitted request is awaited. -/
def MacState.submitted (m : MacState) : MacState :=
  { m.allocateRequest with outstanding := m.requests.length :: m.outstanding }

/-- After a submission the context waits for the new request. -/
theorem awaiting_submitted (m : MacState) : Awaiting m.submitted m.requests.length := by
  refine ⟨rfl, ⟨{ references := 2, result := kIOReturnNotReady }, ?_, rfl, rfl⟩,
    List.mem_cons_self⟩
  simp [MacState.submitted, MacState.request?, MacState.allocateRequest]

/-- The state after the deadline of a wait has passed. -/
abbrev MacState.abandoned (m : MacState) : MacState :=
  { m with context := m.context.desynchronize }

/-- The events up to the submission of the interrupt request. -/
abbrev submission (m : MacState) (result : IOReturn) : List MacEvent :=
  [⟨m, .calloc, true⟩,
    ⟨m.allocateRequest, .readPipeAsync m.context.interruptInPipe m.requests.length, result⟩]

/-- What `mac_interrupt_in_with_deadline` can do: the trace, the status and the state after it. -/
inductive InterruptRead (timeoutMs : ℕ) (m : MacState) :
    List MacEvent → CbiIoStatus → MacState → Prop
  | refused : InterruptRead timeoutMs m [] .protocol m
  | unallocated : InterruptRead timeoutMs m [⟨m, .calloc, false⟩] .error m
  | unsubmitted {result : IOReturn} (hfailed : result ≠ kIOReturnSuccess) :
      InterruptRead timeoutMs m (submission m result) (mapIoReturn result)
        (m.allocateRequest.interruptRequestRelease m.requests.length).releaseInterruptRequest
  /-- The request was completed in time, but with an error. -/
  | failed {n : ℕ} {t : List MacEvent} {m₁ : MacState} {request : MacInterruptRequest}
      (hwaited : Waited m.submitted t true m₁)
      (hrequest : m₁.request? m.requests.length = some request)
      (hfailed : request.result ≠ kIOReturnSuccess) :
      InterruptRead timeoutMs m
        (submission m kIOReturnSuccess ++ ⟨m.submitted, .deadline timeoutMs, n⟩ :: t)
        (mapIoReturn request.result) m₁.releaseInterruptRequest.abandoned
  | short {n : ℕ} {t : List MacEvent} {m₁ : MacState} {request : MacInterruptRequest}
      (hwaited : Waited m.submitted t true m₁)
      (hrequest : m₁.request? m.requests.length = some request)
      (hok : request.result = kIOReturnSuccess) :
      InterruptRead timeoutMs m
        (submission m kIOReturnSuccess ++ ⟨m.submitted, .deadline timeoutMs, n⟩ :: t)
        .protocol m₁.releaseInterruptRequest.abandoned
  | completed {n : ℕ} {t : List MacEvent} {m₁ : MacState} {request : MacInterruptRequest}
      (hwaited : Waited m.submitted t true m₁)
      (hrequest : m₁.request? m.requests.length = some request)
      (hok : request.result = kIOReturnSuccess) :
      InterruptRead timeoutMs m
        (submission m kIOReturnSuccess ++ ⟨m.submitted, .deadline timeoutMs, n⟩ :: t)
        .ok m₁.releaseInterruptRequest
  /-- The deadline passed, and the pending transfer could not be drained. -/
  | undrained {n : ℕ} {t t' : List MacEvent} {m₁ m₂ : MacState} {aborted : IOReturn}
      (hwaited : Waited m.submitted t false m₁) (hdrained : Drained m₁.abandoned t' aborted m₂)
      (hfailed : aborted ≠ kIOReturnSuccess) :
      InterruptRead timeoutMs m
        (submission m kIOReturnSuccess ++ ⟨m.submitted, .deadline timeoutMs, n⟩ :: (t ++ t'))
        (mapIoReturn aborted)
        (if m₂.interruptRequestComplete then m₂.releaseInterruptRequest else m₂)
  | timedOut {n : ℕ} {t t' : List MacEvent} {m₁ m₂ : MacState} {cleared : IOReturn}
      (hwaited : Waited m.submitted t false m₁)
      (hdrained : Drained m₁.abandoned t' kIOReturnSuccess m₂) :
      InterruptRead timeoutMs m
        (submission m kIOReturnSuccess ++ ⟨m.submitted, .deadline timeoutMs, n⟩ ::
          (t ++ (t' ++ [⟨m₂, .clearPipeStallBothEnds m₂.context.interruptInPipe, cleared⟩])))
        .timeout m₂.releaseInterruptRequest

/-- A change of the context at the head of a program. -/
theorem exec_updateContext_bind {α : Type} {f : MacCbiContext → MacCbiContext}
    {g : Unit → MacIo α} {a : α} :
    Exec (updateContext f >>= g) m t a m' ↔
      Exec (g ()) { m with context := f m.context } t a m' :=
  exec_modify_bind

/-- Every execution of `mac_interrupt_in_with_deadline` is one of its cases. -/
theorem interruptRead_of_exec {completion : Vector UInt8 cbiStatusLength} {timeoutMs : ℕ}
    {detail : ErrorText} {reply : InterruptReply}
    (h : Exec (macInterruptInWithDeadline current completion timeoutMs detail) m t reply m') :
    InterruptRead timeoutMs m t reply.status m' := by
  -- the refusals and the two failures before a request is in flight
  unfold macInterruptInWithDeadline at h
  simp only [exec_get_bind, exec_call_bind, exec_modify_bind, exec_ite, exec_pure] at h
  rcases h with ⟨-, rfl, rfl, rfl⟩ | ⟨-, h⟩
  · exact .refused
  rcases h with ⟨-, rfl, rfl, rfl⟩ | ⟨-, allocated, t₁, h, rfl⟩
  · exact .refused
  rcases h with ⟨hallocated, rfl, rfl, rfl⟩ | ⟨hallocated, result, t₂, h, rfl⟩
  · obtain rfl : allocated = false := by simpa using hallocated
    exact .unallocated
  obtain rfl : allocated = true := by simpa using hallocated
  rcases h with ⟨hfailed, rfl, rfl, rfl⟩ | ⟨hok, h⟩
  · exact .unsubmitted hfailed
  obtain rfl : result = kIOReturnSuccess := of_not_not hok
  -- from here on the request is pending, and the wait decides who ends it
  rw [exec_bind] at h
  obtain ⟨t₁, done, m₁, t₂, hwait, h, rfl⟩ := h
  obtain ⟨n, t, rfl, hwaited⟩ := waited_of_exec hwait
  have hdelivered := hwaited.delivered (awaiting_submitted m)
  cases done with
  | true =>
      obtain ⟨request, hrequest, -, -⟩ := hdelivered.2 rfl
      simp only [if_true, takeCompletion, exec_get_bind, exec_modify_bind, exec_ite, exec_pure,
        exec_updateContext_bind, hrequest, Option.getD_some] at h
      rcases h with ⟨hfailed, rfl, rfl, rfl⟩ | ⟨hok, h⟩
      · rw [List.append_nil]
        exact .failed hwaited hrequest hfailed
      rcases h with ⟨-, rfl, rfl, rfl⟩ | ⟨-, rfl, rfl, rfl⟩
      · rw [List.append_nil]
        exact .short hwaited hrequest (of_not_not hok)
      · rw [List.append_nil]
        exact .completed hwaited hrequest (of_not_not hok)
  -- the deadline passed: the request is aborted, and the pipe is cleared if it drains
  | false =>
      simp only [Bool.false_eq_true, if_false, abandonInterrupt, exec_updateContext_bind] at h
      rw [exec_bind] at h
      obtain ⟨t', aborted, m₂, t₃, habort, h, rfl⟩ := h
      have hdrained := drained_of_exec habort
      simp only [exec_get_bind, exec_call_bind, exec_modify_bind, exec_ite, exec_pure] at h
      rcases h with ⟨hfailed, rfl, rfl, rfl⟩ | ⟨hok, cleared, t₄, ⟨rfl, rfl, rfl⟩, rfl⟩
      · rw [List.append_nil]
        exact .undrained hwaited hdrained hfailed
      · obtain rfl : aborted = kIOReturnSuccess := of_not_not hok
        exact .timedOut hwaited hdrained

end M65
