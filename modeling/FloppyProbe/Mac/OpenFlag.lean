import FloppyProbe.Cbi.Containment
import FloppyProbe.Mac.System

/-!
# The open interface, on both sides

The engine and the adapter each keep whether the interface is open. The adapter gives the interface
up whenever it is told to close it; the engine does only when that succeeded or the device is gone,
since its `destroy` tries again. So the two agree as long as every release is clean
(`CleanRelease`).
-/

namespace M65

open Interaction

variable {m m' : MacState} {c c' : CbiContext} {l : List EngineEvent} {t : List MacEvent}
  {current : RunLoopRef}

/-! ## The statement -/

/-- The engine's flag is that of the adapter. -/
def FlagsAgree (s : SystemState) : Prop := s.1.opened = s.2.context.isOpen

/-- An acquisition that succeeds leaves the interface open. -/
def AcquiresOpen : Handled macTransport → Prop
  | ⟨⟨_, .acquireExclusive _⟩, reply, _, _, after, _⟩ =>
      reply.status = .ok → after.2.context.isOpen = true
  | _ => True

/-- What a call owes to the two flags. -/
structure OpenAgrees (call : Handled macTransport) : Prop where
  flags : FlagsAgree call.after
  acquires : AcquiresOpen call
  /-- No control or bulk request is made on a closed interface. -/
  transfers : ∀ e ∈ call.trace, e.call.IsTransfer → e.state.2.context.isOpen = true

/-- An abort that found the device gone. -/
def AbortsGone : MacEvent → Prop
  | ⟨_, .abortPipe _, result⟩ => mapIoReturn result = .noDevice
  | _ => False

/-- The event is not a close that leaves something behind: while a completion request is still
pending, the device has to be gone, and otherwise the close has to succeed, or the device has to be
gone. -/
def ClosesCleanly (t : List MacEvent) : MacEvent → Prop
  | ⟨m, .usbInterfaceClose, result⟩ =>
      (m.Pending → ∃ e ∈ t, AbortsGone e) ∧
        (¬ m.Pending → mapIoReturn result = .ok ∨ mapIoReturn result = .noDevice)
  | _ => True

/-- The call is no release, or a clean one. -/
def CleanRelease (call : Handled macTransport) : Prop :=
  (∃ detail, call.call.call = .releaseExclusive detail) →
    ∀ e ∈ call.trace, ClosesCleanly (call.trace.map Event.lower) e.lower

/-- A session all of whose calls are made on the thread of the adapter's run loop. -/
structure AffineSession extends MacSession where
  affine : ∀ call ∈ calls, onTransportRunLoop call.call.thread call.before.2.context = true

/-! ## Releases -/

/-- Only `USBInterfaceClose` can leave something behind. -/
theorem closesCleanly_of_call {e : MacEvent} {t : List MacEvent}
    (hcall : e.call ≠ .usbInterfaceClose) : ClosesCleanly t e := by
  obtain ⟨s, call, reply⟩ := e
  cases call with
  | usbInterfaceClose => exact absurd rfl hcall
  | _ => trivial

/-- The abort before a close succeeds unless a request stays pending, and then its status is that
of `AbortPipe` or a timeout. -/
theorem Drained.pending {aborted : IOReturn} (h : Drained m t aborted m') :
    (¬ m'.Pending → aborted = kIOReturnSuccess) ∧
      (m'.Pending → aborted ≠ kIOReturnSuccess ∧
        (mapIoReturn aborted = .noDevice ↔ ∃ e ∈ t, AbortsGone e)) := by
  cases h with
  | idle hidle =>
      refine ⟨fun _ => rfl, fun hpending => ?_⟩
      rcases hidle with hnone | hcomplete
      · have hsome := hpending.1
        rw [hnone] at hsome
        cases hsome
      · have hincomplete := hpending.2
        rw [hcomplete] at hincomplete
        cases hincomplete
  | refused hpending hfailed =>
      exact ⟨fun hidle => absurd hpending hidle, fun _ => ⟨hfailed, by simp [AbortsGone]⟩⟩
  -- a wait that ends in time leaves nothing pending, and one that does not reports the timeout
  | @waited n t done _ hpending hwaited =>
      obtain ⟨hcontext, hevents⟩ := hwaited.context_eq
      cases done with
      | true =>
          refine ⟨fun _ => rfl, fun hpending' => ?_⟩
          have hincomplete := hpending'.2
          rw [hwaited.complete_eq] at hincomplete
          cases hincomplete
      | false =>
          have hpending' : m'.Pending := ⟨by rw [hcontext]; exact hpending.1, hwaited.complete_eq⟩
          have htimeout : kIOReturnTimeout ≠ kIOReturnSuccess ∧
              mapIoReturn kIOReturnTimeout ≠ .noDevice := by decide
          refine ⟨fun hidle => absurd hpending' hidle, fun _ => ⟨htimeout.1, ?_⟩⟩
          refine iff_of_false htimeout.2 ?_
          rintro ⟨e, he, hgone⟩
          rcases List.mem_cons.1 he with rfl | he
          · simp [AbortsGone, mapIoReturn] at hgone
          rcases List.mem_cons.1 he with rfl | he
          · exact hgone
          · obtain ⟨s, call, reply⟩ := e
            obtain rfl : call = .runLoopRound := (hevents _ he).2
            exact hgone

/-- On its own thread, an open adapter says that the close went well exactly when it was clean. -/
theorem Shut.clean_iff {status : CbiIoStatus} (h : Shut current m t status m')
    (hopen : m.context.isOpen = true) (hthread : onTransportRunLoop current m.context = true) :
    (status = .ok ∨ status = .noDevice) ↔ ∀ e ∈ t, ClosesCleanly t e := by
  cases h with
  | idle hclosed =>
      rw [hclosed] at hopen
      cases hopen
  | foreign _ hforeign =>
      rw [hforeign] at hthread
      cases hthread
  | @shut t aborted result m₁ _ _ hdrained =>
      obtain ⟨hidle, hpending⟩ := hdrained.pending
      have haborts : ∀ e ∈ t, ClosesCleanly (t ++ [⟨m₁, .usbInterfaceClose, result⟩]) e := by
        intro e he
        apply closesCleanly_of_call
        rcases (hdrained.context_eq.2 e he).2 with hcall | ⟨_, hcall⟩ | ⟨_, hcall⟩ <;>
          rw [hcall] <;> exact nofun
      rw [List.forall_mem_append, and_iff_right haborts, List.forall_mem_singleton]
      have hgone : (∃ e ∈ t ++ [(⟨m₁, .usbInterfaceClose, result⟩ : MacEvent)], AbortsGone e) ↔
          ∃ e ∈ t, AbortsGone e := by
        simp [AbortsGone]
      show _ ↔ (m₁.Pending → _) ∧ (¬ m₁.Pending → _)
      rw [hgone]
      -- the status of the abort counts only while the request is still pending
      by_cases hstill : m₁.Pending
      · obtain ⟨hfailed, hgone⟩ := hpending hstill
        have hbad : mapIoReturn aborted ≠ .ok := fun hok => hfailed (mapIoReturn_eq_ok_iff.1 hok)
        rw [if_neg hfailed, or_iff_right hbad, hgone]
        simp [hstill]
      · rw [hidle hstill, if_pos rfl]
        simp [hstill]

/-! ## Calls -/

/-- A call from matching flags on leaves matching flags, and owes nothing else, exactly when it is
no unclean release. -/
theorem openAgrees_iff (call : Handled macTransport) (hagrees : FlagsAgree call.before)
    (haffine : onTransportRunLoop call.call.thread call.before.2.context = true) :
    OpenAgrees call ↔ CleanRelease call := by
  obtain ⟨⟨thread, call⟩, reply, ⟨c, m⟩, t, ⟨c', m'⟩, hcall⟩ := call
  have hagrees : c.opened = m.context.isOpen := hagrees
  have haffine : onTransportRunLoop thread m.context = true := haffine
  obtain ⟨l, hengine, hserved⟩ := exec_atop.1 hcall
  -- only a release can be unclean; the other two calls agree whatever the replies
  cases call with
  | acquireExclusive detail =>
      refine iff_of_true ?_ (fun ⟨_, hrelease⟩ => nomatch hrelease)
      cases acquired_of_exec hengine with
      | held hopened =>
          obtain ⟨rfl, rfl⟩ := hserved.of_nil
          exact ⟨hagrees, fun _ => hagrees.symm.trans hopened, by simp⟩
      | opened hclosed hok =>
          obtain ⟨inner, hexec, rfl⟩ := hserved.singleton
          have hseized := seized_of_exec hexec (hagrees.symm.trans hclosed)
          obtain ⟨hopen, -, -⟩ := hseized.of_ok hok
          refine ⟨hopen.symm, fun _ => hopen, List.forall_mem_map.2 fun e he htransfer => ?_⟩
          exact absurd htransfer (hseized.not_transfer e he)
      | failed hclosed hfailed hstatus =>
          obtain ⟨inner, hexec, rfl⟩ := hserved.singleton
          have hseized := seized_of_exec hexec (hagrees.symm.trans hclosed)
          refine ⟨hclosed.trans (hseized.of_failed hfailed).1.symm, fun hok => ?_,
            List.forall_mem_map.2 fun e he htransfer => ?_⟩
          · rw [hstatus, mapIoStatus_eq_ok_iff] at hok
            exact absurd hok hfailed
          · exact absurd htransfer (hseized.not_transfer e he)
  | execute command =>
      refine iff_of_true ?_ (fun ⟨_, hrelease⟩ => nomatch hrelease)
      have hexecuted := executed_of_exec hengine
      have hcarried := carried_of_served hserved hexecuted.not_isSeizure
      refine ⟨?_, trivial, fun e he _ => ?_⟩
      · show c'.opened = m'.context.isOpen
        rw [hexecuted.opened_eq, hagrees, hcarried.isOpen]
      -- a refused command makes no call, and the others were accepted by an open engine
      · have hopened : c.opened = true := by
          by_contra hclosed
          cases hexecuted with
          | refused =>
              obtain ⟨rfl, -⟩ := hserved.of_nil
              cases he
          | unrecovered haccepted => exact hclosed (refuseCommand_eq_none haccepted).1
          | sense haccepted => exact hclosed (refuseCommand_eq_none haccepted).1
          | command haccepted => exact hclosed (refuseCommand_eq_none haccepted).1
        rw [hcarried.events_open e he, ← hagrees, hopened]
  | releaseExclusive detail =>
      -- the events of a close are none of transfers
      have htransfers {inner : List MacEvent} {status : CbiIoStatus}
          (hshut : Shut thread m inner status m') : ∀ e ∈ inner.map (Event.below c),
            e.call.IsTransfer → e.state.2.context.isOpen = true :=
        List.forall_mem_map.2 fun e he htransfer => absurd htransfer (hshut.closed.2.2 e he)
      have hclean {inner : List MacEvent} {status : CbiIoStatus}
          (hshut : Shut thread m inner status m') (hopened : c.opened = true) :
          (status = .ok ∨ status = .noDevice) ↔ ∀ e ∈ inner.map (Event.below c),
            ClosesCleanly ((inner.map (Event.below c)).map Event.lower) e.lower := by
        rw [hshut.clean_iff (hagrees.symm.trans hopened) haffine, List.forall_mem_map]
        simp [List.map_map, Function.comp_def]
      cases closed_of_exec hengine with
      | idle hclosed =>
          obtain ⟨rfl, rfl⟩ := hserved.of_nil
          exact iff_of_true ⟨hagrees, trivial, by simp⟩ (fun _ => by simp)
      | closed hopened hgone =>
          obtain ⟨inner, hexec, rfl⟩ := hserved.singleton
          have hshut := shut_of_exec hexec
          exact iff_of_true ⟨hshut.closed.1.symm, trivial, htransfers hshut⟩
            fun _ => (hclean hshut hopened).1 hgone
      | failed hopened hfailed =>
          obtain ⟨inner, hexec, rfl⟩ := hserved.singleton
          have hshut := shut_of_exec hexec
          -- the engine stays open while the adapter has closed the interface
          refine iff_of_false (fun hopen => ?_) fun hreleased => ?_
          · have hflags : c.opened = m'.context.isOpen := hopen.flags
            rw [hopened, hshut.closed.1] at hflags
            cases hflags
          · exact hfailed ((hclean hshut hopened).2 (hreleased ⟨detail, rfl⟩))

/-- The engine and the adapter agree after every call exactly when every release is clean: when
USBInterfaceClose is called, a completion request that is still pending was aborted with the device
gone, and without one the close succeeds or finds the device gone. -/
theorem macTransport_openAgrees_iff (session : AffineSession) :
    (∀ call ∈ session.calls, OpenAgrees call) ↔ ∀ call ∈ session.calls, CleanRelease call := by
  -- the flags match before every call, when they do after the calls before it
  have hbefore (hagrees : ∀ call ∈ session.calls, FlagsAgree call.before → FlagsAgree call.after) :
      ∀ call ∈ session.calls, FlagsAgree call.before :=
    (session.chain.invariant hagrees rfl).1
  constructor
  · intro hopen call hcall
    have hagrees := hbefore (fun call hcall _ => (hopen call hcall).flags) call hcall
    exact (openAgrees_iff call hagrees (session.affine call hcall)).1 (hopen call hcall)
  · intro hclean
    have hstep (call : Handled macTransport) (hcall : call ∈ session.calls)
        (hagrees : FlagsAgree call.before) : OpenAgrees call :=
      (openAgrees_iff call hagrees (session.affine call hcall)).2 (hclean call hcall)
    have hagrees := hbefore fun call hcall hagrees => (hstep call hcall hagrees).flags
    exact fun call hcall => hstep call hcall (hagrees call hcall)

/-! ## A close that fails -/

/-- The interface is opened, USBInterfaceClose fails, and the interface is acquired again. -/
def failedCloseSession : AffineSession where
  toSession := .replay
    [(⟨⟨0⟩, .acquireExclusive Text.empty⟩, workingInterface kIOReturnSuccess none),
      (⟨⟨0⟩, .releaseExclusive Text.empty⟩, workingInterface kIOReturnNotReady none),
      (⟨⟨0⟩, .acquireExclusive Text.empty⟩, workingInterface kIOReturnSuccess none)] _
  affine := by decide +kernel

/-- The second acquisition succeeds without an open interface. -/
theorem failedCloseSession_not_openAgrees :
    ¬ ∀ call ∈ failedCloseSession.calls, OpenAgrees call := by
  intro hopen
  have hflags : ∀ call ∈ failedCloseSession.calls,
      call.after.1.opened = call.after.2.context.isOpen :=
    fun call hcall => (hopen call hcall).flags
  exact absurd hflags (by decide +kernel)

end M65
