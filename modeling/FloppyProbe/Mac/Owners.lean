import FloppyProbe.Mac.Requests
import FloppyProbe.Mac.Runs
import FloppyProbe.Memory.References

/-!
# Counters of the completion requests

The reference counters of the requests, the references that are held (`Accounted`), and what each
step of the adapter and of a callback does to both. Freed requests stay freed (`FreedStays`), and
an `Idle` part of the adapter leaves all of this alone.
-/

namespace M65

open Interaction ReferenceCount
open scoped List

variable {m : MacState} {ref : RequestRef} {submitting : Option RequestRef}

/-! ## Counters -/

namespace MacState

/-- The counter of the request at `ref`, unless it was freed. -/
def references (m : MacState) (ref : RequestRef) : Option ℕ :=
  (m.request? ref).map MacInterruptRequest.references

/-- The references to `ref`, while the request at `submitting` is being submitted: one if the
context points to it, and one if its callback is outstanding. -/
def ownerCount (m : MacState) (submitting : Option RequestRef) (ref : RequestRef) : ℕ :=
  (if m.context.interruptRequest = some ref then 1 else 0) +
    (if submitting = some ref ∨ ref ∈ m.outstanding then 1 else 0)

/-- Every counter is the number of owners, and a request that nobody owns does not live. -/
def Counted (m : MacState) (submitting : Option RequestRef) : Prop :=
  ∀ ref, m.references ref =
    if m.ownerCount submitting ref = 0 then none else some (m.ownerCount submitting ref)

/-- The request at `ref` was allocated and freed. -/
def Freed (m : MacState) (ref : RequestRef) : Prop := m.requests[ref]? = some none

/-- A request has no counter if it was never allocated or is freed. -/
theorem references_eq_none_iff :
    m.references ref = none ↔ m.requests.length ≤ ref ∨ m.Freed ref := by
  unfold references request? Freed
  rw [Option.map_eq_none_iff, ← List.getElem?_eq_none_iff]
  cases m.requests[ref]? <;> simp

/-- A request lives as long as it has a counter. -/
theorem request?_isSome_iff : (m.request? ref).isSome ↔ (m.references ref).isSome := by
  simp [references]

/-- A store at a living request changes its counter only. -/
theorem references_setRequest {old : MacInterruptRequest} (hlive : m.request? ref = some old)
    (request : Option MacInterruptRequest) :
    (m.setRequest ref request).references =
      Function.update m.references ref (request.map MacInterruptRequest.references) := by
  ext1 b
  by_cases hb : b = ref
  · rw [hb, Function.update_self, references, request?_setRequest_self m hlive]
  · rw [Function.update_of_ne hb, references, request?_setRequest_of_ne m (Ne.symm hb), references]

/-- The stores of a callback change no counter. -/
theorem references_storeCompletion (m : MacState) (completion : Completion) :
    (m.storeCompletion completion).references = m.references := by
  unfold storeCompletion
  cases hlive : m.request? completion.request with
  | none => rfl
  | some request =>
    dsimp only
    rw [references_setRequest hlive, Function.update_eq_self_iff, references, hlive]
    rfl

/-- A completion leaves the context alone. -/
theorem storeCompletion_context (m : MacState) (completion : Completion) :
    (m.storeCompletion completion).context = m.context := by
  unfold storeCompletion
  cases m.request? completion.request <;> rfl

/-- A release takes one from the counter of its request. -/
theorem references_interruptRequestRelease {n : ℕ} (hn : m.references ref = some n) :
    (m.interruptRequestRelease ref).references =
      Function.update m.references ref (drop n) := by
  obtain ⟨request, hlive, rfl⟩ := Option.map_eq_some_iff.1 hn
  rw [interruptRequestRelease_eq hlive, references_setRequest hlive, drop]
  by_cases hone : request.references = 1
  · rw [if_pos hone, if_pos hone]
    rfl
  · rw [if_neg hone, if_neg hone]
    rfl

/-- A new request has two references. -/
theorem references_allocateRequest (m : MacState) :
    m.allocateRequest.references = Function.update m.references m.requests.length (some 2) := by
  ext1 b
  by_cases hb : b = m.requests.length
  · rw [hb, Function.update_self]
    simp [references, request?, allocateRequest]
  · rw [Function.update_of_ne hb]
    unfold references request? allocateRequest
    dsimp only
    rcases Nat.lt_or_gt_of_ne hb with hlt | hgt
    · rw [List.getElem?_append_left hlt]
    · rw [List.getElem?_eq_none (by simpa using Nat.succ_le_of_lt hgt),
        List.getElem?_eq_none (Nat.le_of_lt hgt)]

/-- The next request to be allocated has no counter yet. -/
theorem references_length (m : MacState) : m.references m.requests.length = none :=
  references_eq_none_iff.2 (.inl (Nat.le_refl _))

end MacState

/-- The counters are those of the references that are held: by the context, by the adapter for the
callback of a request that it submits, and by the callbacks that IOUSBLib holds. -/
structure Accounted (submitting : Option RequestRef) (m : MacState) : Prop where
  held : Held m.references
    (m.context.interruptRequest.toList ++ (submitting.toList ++ m.outstanding))
  nodup : (submitting.toList ++ m.outstanding).Nodup

namespace Accounted

/-- At the start nothing is held. -/
theorem initial : Accounted none {} := ⟨.nil, List.nodup_nil⟩

/-- Where every reference is accounted for, the counters are numbers of owners. -/
theorem counted (h : Accounted submitting m) : m.Counted submitting := by
  intro ref
  have hpointer : m.context.interruptRequest.toList.count ref =
      if m.context.interruptRequest = some ref then 1 else 0 := by
    rw [List.Nodup.count (by cases m.context.interruptRequest <;> simp)]
    simp
  have hcallbacks : (submitting.toList ++ m.outstanding).count ref =
      if submitting = some ref ∨ ref ∈ m.outstanding then 1 else 0 := by
    rw [h.nodup.count]
    simp
  have hcount : (m.context.interruptRequest.toList ++ (submitting.toList ++ m.outstanding)).count
      ref = m.ownerCount submitting ref := by
    rw [List.count_append, hpointer, hcallbacks, MacState.ownerCount]
  rw [h.held ref, hcount]

/-- What is owned lives. -/
theorem live_pointer (h : Accounted submitting m)
    (hpointer : m.context.interruptRequest = some ref) : (m.references ref).isSome :=
  h.held.live_iff.2 (by simp [hpointer])

/-- A request that a callback holds lives. -/
theorem live_outstanding (h : Accounted submitting m) (hheld : ref ∈ m.outstanding) :
    (m.references ref).isSome :=
  h.held.live_iff.2 (by simp [hheld])

/-- A request that is being submitted lives. -/
theorem live_submitting (h : Accounted (some ref) m) : (m.references ref).isSome :=
  h.held.live_iff.2 (by simp)

/-! ### Steps -/

/-- A change of the context that keeps its pointer keeps the accounts. -/
theorem updateContext (h : Accounted submitting m) {context : MacCbiContext}
    (hpointer : context.interruptRequest = m.context.interruptRequest) :
    Accounted submitting { m with context := context } :=
  ⟨by rw [hpointer]; exact h.held, h.nodup⟩

/-- A completion keeps the accounts. -/
theorem storeCompletion (h : Accounted submitting m) (completion : Completion) :
    Accounted submitting (m.storeCompletion completion) := by
  refine ⟨?_, ?_⟩
  · rw [m.references_storeCompletion, m.storeCompletion_context, m.storeCompletion_outstanding]
    exact h.held
  · rw [m.storeCompletion_outstanding]
    exact h.nodup

/-- Somebody who held a reference besides the owners gives it up. -/
theorem interruptRequestRelease
    (h : Held m.references
      (ref :: (m.context.interruptRequest.toList ++ (submitting.toList ++ m.outstanding))))
    (hnodup : (submitting.toList ++ m.outstanding).Nodup) :
    Accounted submitting (m.interruptRequestRelease ref) := by
  obtain ⟨n, hn⟩ := Option.isSome_iff_exists.1 (h.live_iff.2 List.mem_cons_self)
  refine ⟨?_, ?_⟩
  · rw [MacState.references_interruptRequestRelease hn, MacState.interruptRequestRelease_context,
      MacState.interruptRequestRelease_outstanding]
    exact h.release hn
  · rw [MacState.interruptRequestRelease_outstanding]
    exact hnodup

/-- The end of a callback keeps the accounts. -/
theorem endCallback (h : Accounted submitting m) (hheld : ref ∈ m.outstanding) :
    Accounted submitting (m.endCallback ref) := by
  have hperm : m.outstanding.Perm (ref :: m.outstanding.erase ref) := List.perm_cons_erase hheld
  refine interruptRequestRelease (h.held.perm ?_) ?_
  · calc m.context.interruptRequest.toList ++ (submitting.toList ++ m.outstanding)
      _ = (m.context.interruptRequest.toList ++ submitting.toList) ++ m.outstanding := by
          rw [List.append_assoc]
      _ ~ (m.context.interruptRequest.toList ++ submitting.toList) ++
          ref :: m.outstanding.erase ref := hperm.append_left _
      _ ~ ref :: ((m.context.interruptRequest.toList ++ submitting.toList) ++
          m.outstanding.erase ref) := List.perm_middle
      _ = ref :: (m.context.interruptRequest.toList ++
          (submitting.toList ++ m.outstanding.erase ref)) := by rw [List.append_assoc]
  · exact h.nodup.sublist (List.erase_sublist.append_left _)

/-- The context gives up its reference. -/
theorem releaseInterruptRequest (h : Accounted submitting m) :
    Accounted submitting m.releaseInterruptRequest := by
  unfold MacState.releaseInterruptRequest
  cases hpointer : m.context.interruptRequest with
  | none => exact h
  | some ref =>
    have hheld := h.held
    rw [hpointer] at hheld
    exact interruptRequestRelease hheld h.nodup

/-- A new request, for which the adapter holds the reference of the callback. -/
theorem allocateRequest (h : Accounted none m) (hnone : m.context.interruptRequest = none) :
    Accounted (some m.requests.length) m.allocateRequest := by
  have hheld := h.held
  rw [hnone] at hheld
  refine ⟨?_, List.nodup_cons.2 ⟨fun hmem => ?_, h.nodup⟩⟩
  · rw [m.references_allocateRequest]
    exact hheld.acquire m.references_length Nat.two_pos
  · have hlive := h.live_outstanding hmem
    rw [m.references_length] at hlive
    cases hlive

/-- The callback takes over the reference of a submitted request. -/
theorem submitted (h : Accounted (some ref) m) :
    Accounted none { m with outstanding := ref :: m.outstanding } :=
  ⟨h.held, h.nodup⟩

/-- A request that was not submitted has no callback. -/
theorem unsubmitted (h : Accounted (some ref) m) :
    Accounted none (m.interruptRequestRelease ref) :=
  interruptRequestRelease (h.held.perm List.perm_middle) h.nodup.of_cons

end Accounted

/-! ## Freed requests -/

/-- Freed requests stay freed. -/
def FreedStays (m m' : MacState) : Prop := ∀ ref, m.Freed ref → m'.Freed ref

instance : IsPreorder MacState FreedStays where
  refl _ _ := id
  trans _ _ _ h h' ref hfreed := h' ref (h ref hfreed)

/-- Where the requests stay the same, freed ones stay freed. -/
theorem freedStays_of_requests {m' : MacState} (h : m.requests = m'.requests) :
    FreedStays m m' := by
  intro ref hfreed
  rwa [MacState.Freed, ← h]

namespace MacState

/-- A request that lives is replaced or freed, and the others are left alone. -/
theorem freedStays_setRequest {old : MacInterruptRequest} (hlive : m.request? ref = some old)
    (request : Option MacInterruptRequest) : FreedStays m (m.setRequest ref request) := by
  intro b hfreed
  have hne : ref ≠ b := by
    rintro rfl
    rw [Freed] at hfreed
    rw [request?, hfreed] at hlive
    cases hlive
  rwa [Freed, setRequest, List.getElem?_set_ne hne]

/-- A release brings no request back. -/
theorem freedStays_interruptRequestRelease (m : MacState) (ref : RequestRef) :
    FreedStays m (m.interruptRequestRelease ref) := by
  cases hlive : m.request? ref with
  | none =>
    rw [interruptRequestRelease, hlive]
    exact freedStays_of_requests rfl
  | some request =>
    rw [interruptRequestRelease_eq hlive]
    exact freedStays_setRequest hlive _

/-- The end of a callback brings no request back. -/
theorem freedStays_endCallback (m : MacState) (ref : RequestRef) :
    FreedStays m (m.endCallback ref) := fun b hfreed =>
  freedStays_interruptRequestRelease { m with outstanding := m.outstanding.erase ref } ref b hfreed

/-- A completion brings no request back. -/
theorem freedStays_storeCompletion (m : MacState) (completion : Completion) :
    FreedStays m (m.storeCompletion completion) := by
  unfold storeCompletion
  cases hlive : m.request? completion.request with
  | none => exact freedStays_of_requests rfl
  | some request => exact freedStays_setRequest hlive _

/-- A new request takes no place of a freed one. -/
theorem freedStays_allocateRequest (m : MacState) : FreedStays m m.allocateRequest := by
  intro ref hfreed
  have hlt : ref < m.requests.length := (List.getElem?_eq_some_iff.1 hfreed).1
  rwa [Freed, allocateRequest, List.getElem?_append_left hlt]

end MacState

/-! ## Operations that use no request -/

/-- What is owned, and by whom. -/
def ledger (m : MacState) : Option RequestRef × List (Option MacInterruptRequest) ×
    List RequestRef :=
  (m.context.interruptRequest, m.requests, m.outstanding)

/-- The program submits no request, and leaves all of them alone. -/
structure Idle {α : Type} (p : MacIo α) : Prop where
  keeps : Keeps ledger p
  silent : Only (fun call => ∀ pipe ref, call ≠ .readPipeAsync pipe ref) p

namespace Idle

variable {α β : Type} {p q : MacIo α}

/-- A result uses no request. -/
theorem pure (a : α) : Idle (Pure.pure a) := ⟨.pure a, .pure a⟩

/-- A program of parts that use no request uses none. -/
theorem bind {f : α → MacIo β} (hp : Idle p) (hf : ∀ a, Idle (f a)) : Idle (p >>= f) :=
  ⟨.bind hp.keeps fun a => (hf a).keeps, .bind hp.silent fun a => (hf a).silent⟩

/-- Reading the state uses no request. -/
theorem get : Idle MonadState.get := ⟨.get, .get⟩

/-- A call that submits no request uses none. -/
theorem call {i : IoUsbCall} (hi : ∀ pipe ref, i ≠ .readPipeAsync pipe ref) :
    Idle (Prog.call i) :=
  ⟨.call i, .call hi⟩

/-- A change of the context that keeps its pointer uses no request. -/
theorem updateContext {f : MacCbiContext → MacCbiContext}
    (hf : ∀ context, (f context).interruptRequest = context.interruptRequest) :
    Idle (updateContext f) :=
  ⟨.modify fun m => by rw [ledger, hf, ledger], .modify _⟩

/-- A program uses no request if neither of its branches does. -/
theorem ite {c : Prop} [Decidable c] (hp : Idle p) (hq : Idle q) : Idle (if c then p else q) :=
  ⟨.ite hp.keeps hq.keeps, .ite hp.silent hq.silent⟩

end Idle

/-- Looking through the pipes uses no request. -/
theorem inspectPipes_idle (pipes : List UInt8) (detail : ErrorText) :
    Idle (inspectPipes detail pipes) := by
  induction pipes with
  | nil => exact .pure _
  | cons pipe pipes ih =>
    have hstep (f : MacCbiContext → MacCbiContext)
        (hf : ∀ context, (f context).interruptRequest = context.interruptRequest) :
        Idle (do updateContext f; inspectPipes detail pipes) :=
      .bind (.updateContext hf) fun _ => ih
    refine .bind (.call (by simp)) fun properties => .bind .get fun m => .ite (.pure _) ?_
    exact .ite (hstep _ fun _ => rfl) (.ite (hstep _ fun _ => rfl)
      (.ite (hstep _ fun _ => rfl) (.pure _)))

/-- The inspection of the endpoints uses no request. -/
theorem inspectEndpoints_idle (detail : ErrorText) : Idle (inspectEndpoints detail) := by
  refine .bind (.call (by simp)) fun _ => .ite (.pure _) ?_
  refine .bind (.call (by simp)) fun _ => .ite (.pure _) ?_
  refine .bind (.call (by simp)) fun _ => .ite (.pure _) ?_
  refine .bind (.call (by simp)) fun _ => .bind (.updateContext fun _ => rfl) fun _ =>
    .ite (.pure _) ?_
  refine .bind (.call (by simp)) fun _ => .ite (.pure _) (.ite (.pure _) ?_)
  refine .bind (.updateContext fun _ => rfl) fun _ => .bind (inspectPipes_idle _ _) fun _ => ?_
  exact .ite (.pure _) (.bind .get fun _ => .ite (.pure _) (.pure _))

/-- Opening uses no request. -/
theorem macOpenSeize_idle (current : RunLoopRef) (detail : ErrorText) :
    Idle (macOpenSeize current detail) := by
  have hrefused (result : IOReturn) : Idle (seizureFailure result) :=
    .ite (.bind (.call (by simp)) fun _ => .bind (.call (by simp)) fun _ => .pure _)
      (.ite (.pure _) (.pure _))
  have hattached (detail : ErrorText) : Idle (attachEventSource current detail) := by
    refine .bind (.call (by simp)) fun _ => .bind (.updateContext fun _ => rfl) fun _ => .ite ?_ ?_
    · refine .bind (.updateContext fun _ => rfl) fun _ => .bind (.call (by simp)) fun _ => ?_
      exact .bind (.updateContext fun _ => rfl) fun _ => .pure _
    · exact .bind (.updateContext fun _ => rfl) fun _ => .pure _
  refine .bind .get fun _ => .ite (.pure _) (.bind (.call (by simp)) fun result => ?_)
  refine .ite (hrefused result) (.bind (.updateContext fun _ => rfl) fun _ => ?_)
  refine .bind (inspectEndpoints_idle _) fun _ => .ite ?_ (hattached _)
  exact .bind (.call (by simp)) fun _ => .bind (.updateContext fun _ => rfl) fun _ => .pure _

/-- A command block uses no request. -/
theorem macAdsc_idle (current : RunLoopRef) (cdb : Vector UInt8 cbiCdbLength) (timeoutMs : ℕ)
    (detail : ErrorText) : Idle (macAdsc current cdb timeoutMs detail) := by
  refine .bind .get fun m => ?_
  cases readyForAdsc current m.context cdb with
  | some refusal => exact .pure _
  | none =>
    refine .bind (.call (by simp)) fun _ => .ite (.ite ?_ (.pure _)) (.ite ?_ (.pure _))
    · exact .bind (.updateContext fun _ => rfl) fun _ => .pure _
    · exact .bind (.updateContext fun _ => rfl) fun _ => .pure _

/-- The end of a bulk transfer uses no request. -/
theorem bulkResult_idle (pipe : UInt8) (name resynchronize : String) (result : IOReturn)
    (detail : ErrorText) : Idle (bulkResult pipe name resynchronize result detail) := by
  refine .ite (.pure _) (.ite (.pure _) (.bind (.updateContext fun _ => rfl) fun _ => ?_))
  exact .bind (.call (by simp)) fun _ => .pure _

/-- The end of a reset uses no request. -/
theorem macFinishCommandBlockReset_idle (current : RunLoopRef) (recovered : Bool)
    (detail : ErrorText) : Idle (macFinishCommandBlockReset current recovered detail) := by
  refine .bind .get fun _ => .ite (.pure _) (.ite ?_ ?_)
  · exact .bind (.updateContext fun _ => rfl) fun _ => .pure _
  · exact .bind (.updateContext fun _ => rfl) fun _ => .pure _

/-- A bulk read uses no request. -/
theorem macBulkIn_idle {n : ℕ} (current : RunLoopRef) (buffer : Vector UInt8 n) (timeoutMs : ℕ)
    (detail : ErrorText) : Idle (macBulkIn current buffer timeoutMs detail) :=
  .bind .get fun _ => .ite (.pure _) (.ite (.pure _) (.bind (.call (by simp)) fun _ =>
    .bind (bulkResult_idle _ _ _ _ _) fun _ => .pure _))

/-- A bulk write uses no request. -/
theorem macBulkOut_idle {n : ℕ} (current : RunLoopRef) (buffer : Vector UInt8 n) (timeoutMs : ℕ)
    (detail : ErrorText) : Idle (macBulkOut current buffer timeoutMs detail) :=
  .bind .get fun _ => .ite (.pure _) (.ite (.pure _) (.bind (.call (by simp)) fun _ =>
    .bind (bulkResult_idle _ _ _ _ _) fun _ => .pure _))

/-- Clearing a stall uses no request. -/
theorem macClearStall_idle (current : RunLoopRef) (direction : DataDirection)
    (detail : ErrorText) : Idle (macClearStall current direction detail) :=
  .bind .get fun _ => .ite (.pure _) (.ite (.pure _) (.bind (.call (by simp)) fun _ => .pure _))

end M65
