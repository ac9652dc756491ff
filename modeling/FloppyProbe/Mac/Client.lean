import FloppyProbe.Mac.Ownership
import FloppyProbe.Mac.System

/-!
# The transport and its destruction

`cbi_destroy` of `src/cbi.c` and `mac_destroy_io` of `src/usb_cbi_macos.c`, on texts, and the
transport with its destruction among the calls of a client.

* `hide_macDestroyIo`: the destruction of the adapter is the one whose accesses to the completion
  request are watched;
* `ended_of_exec`: a destruction closes the interface if it is open, and leaves a context that
  holds nothing.
-/

namespace M65

open Interaction

variable {m m' : MacState} {c c' : CbiContext} {thread : RunLoopRef} {detail ignored : ErrorText}

/-- `cbi_destroy` up to the destruction of the adapter; `detail` is what its array happens to
hold. -/
def cbiDestroy (detail : ErrorText) : Engine Unit := do
  let context ← get
  if context.opened then
    let _ ← Prog.call (CbiIoCall.close detail)
    modify fun context => { context with opened := false }

/-- `mac_destroy_io` up to the end of the context; `ignored` is what its array happens to hold. -/
def macDestroyIo (current : RunLoopRef) (ignored : ErrorText) : MacIo Unit := do
  let m ← get
  if m.context.isOpen then
    let _ ← macClose current ignored
  modify fun m => { m with context := removeEventSource m.context }
  modify MacState.releaseInterruptRequest

/-- Unwatched, the destruction of the context is that of the plain adapter. -/
theorem hide_macDestroyIo :
    (macDestroyIoChecked thread ignored).hide quietWatch = macDestroyIo thread ignored := by
  simp only [macDestroyIoChecked, macDestroyIo, hide_bind, hide_get, hide_ite, hide_macClose,
    hide_modify, hide_releaseInterruptRequest]

/-! ## Clients -/

/-- The calls of a client: those of the transport, and its destruction on some thread. -/
inductive ClientCall where
  | transport (call : MacCall)
  | destroy (thread : RunLoopRef) (detail ignored : ErrorText)

/-- What each call of a client returns. -/
abbrev ClientReply : ClientCall → Type
  | .transport call => TransportReply call.call
  | .destroy _ _ _ => Unit

/-- The programs of both layers behind a call. -/
def macClient : (call : ClientCall) → Prog SystemState IoUsbReply (ClientReply call)
  | .transport call => macTransport call
  | .destroy thread detail ignored => do
      (cbiDestroy detail).atop (macIo thread)
      (macDestroyIo thread ignored).under

/-- The calls on a transport that was just created. -/
abbrev ClientSession : Type := Session macClient ({}, {})

/-! ## The end -/

/-- What is left of the adapter's context: nothing is open, scheduled or pending. -/
structure MacCbiContext.Ended (context : MacCbiContext) : Prop where
  isOpen : context.isOpen = false
  eventSource : context.eventSource = false
  runLoop : context.runLoop = none
  interruptRequest : context.interruptRequest = none

/-- What `cbi_destroy` can do. -/
inductive CbiDestroyed (c : CbiContext) : List EngineEvent → CbiContext → Prop
  | idle (hclosed : c.opened = false) : CbiDestroyed c [] c
  | closed {detail : ErrorText} {reply : CbiReply} (hopened : c.opened = true) :
      CbiDestroyed c [⟨c, .close detail, reply⟩] { c with opened := false }

/-- Every execution of `cbi_destroy` is one of its cases. -/
theorem cbiDestroyed_of_exec {t : List EngineEvent} (h : Exec (cbiDestroy detail) c t () c') :
    CbiDestroyed c t c' := by
  unfold cbiDestroy at h
  rw [exec_get_bind, exec_ite] at h
  rcases h with ⟨hopened, h⟩ | ⟨hclosed, h⟩
  · rw [exec_call_bind] at h
    obtain ⟨reply, t', h, rfl⟩ := h
    obtain ⟨rfl, rfl⟩ := exec_modify.1 h
    exact .closed hopened
  · obtain ⟨rfl, -, rfl⟩ := exec_pure.1 h
    exact .idle (Bool.eq_false_iff.2 hclosed)

/-- The end of `mac_destroy_io`, after the interface was closed. -/
theorem ended_of_closed {t : List MacEvent} {u : Unit} (hclosed : m.context.isOpen = false)
    (h : Exec (do
      modify fun m => { m with context := removeEventSource m.context }
      modify MacState.releaseInterruptRequest : MacIo Unit) m t u m') :
    t = [] ∧ m'.context.Ended := by
  rw [exec_modify_bind] at h
  obtain ⟨rfl, rfl⟩ := exec_modify.1 h
  refine ⟨rfl, ?_, ?_, ?_, ?_⟩
  · simpa [MacState.releaseInterruptRequest_context, removeEventSource] using hclosed
  · simp [MacState.releaseInterruptRequest_context, removeEventSource]
  · simp [MacState.releaseInterruptRequest_context, removeEventSource]
  · simp [MacState.releaseInterruptRequest_context]

/-- After the destruction of the context nothing is left of it, and the interface was closed as
`mac_close` closes it. -/
theorem ended_of_macDestroyIo {t : List MacEvent}
    (h : Exec (macDestroyIo thread ignored) m t () m') :
    m'.context.Ended ∧ ∃ status m₁, Shut thread m t status m₁ := by
  unfold macDestroyIo at h
  rw [exec_get_bind, exec_ite] at h
  rcases h with ⟨-, h⟩ | ⟨hclosed, h⟩
  · obtain ⟨t₁, reply, m₁, t₂, hclose, hend, rfl⟩ := exec_bind.1 h
    have hshut := shut_of_exec hclose
    obtain ⟨rfl, hended⟩ := ended_of_closed hshut.closed.1 hend
    rw [List.append_nil]
    exact ⟨hended, _, _, hshut⟩
  · have hclosed : m.context.isOpen = false := Bool.eq_false_iff.2 hclosed
    obtain ⟨rfl, hended⟩ := ended_of_closed hclosed h
    exact ⟨hended, _, _, .idle hclosed⟩

/-- What a destruction does: both layers close, the lower one only if it is still open. -/
theorem ended_of_exec {s s' : SystemState} {t : List SystemEvent}
    (h : Exec (macClient (.destroy thread detail ignored)) s t () s') :
    s'.2.context.Ended ∧ ∃ l t₁ inner m₁, CbiDestroyed s.1 l s'.1 ∧
      Served (macIo thread) s.2 l t₁ m₁ ∧ t = t₁ ++ inner.map (Event.below s'.1) ∧
      ∃ status m₂, Shut thread m₁ inner status m₂ := by
  obtain ⟨c, m⟩ := s
  obtain ⟨t₁, u, ⟨c₁, m₁⟩, t₂, hengine, hadapter, rfl⟩ := exec_bind.1 h
  obtain ⟨l, hexec, hserved⟩ := exec_atop.1 hengine
  obtain ⟨c', m'⟩ := s'
  obtain ⟨rfl, inner, hinner, rfl⟩ := exec_under.1 hadapter
  obtain ⟨hended, hshut⟩ := ended_of_macDestroyIo hinner
  exact ⟨hended, l, t₁, inner, m₁, cbiDestroyed_of_exec hexec, hserved, rfl, hshut⟩

end M65
