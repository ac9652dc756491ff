import FloppyProbe.Cbi.Containment
import FloppyProbe.Interaction.Monitor
import FloppyProbe.Mac.Calls
import FloppyProbe.Mac.Client

/-!
# The life cycle of the USB interface

The interface is seized while it is closed, used and closed while it is open, and nothing else.
Whether the engine and the adapter keep to this depends on their client: after a close that failed
the adapter is closed but the engine is not, and would use the interface again.

* `usbLifecycle`: the calls of IOUSBLib that are allowed while the interface is open or closed;
* `clientProtocol`: the calls of a client that are allowed; only a failed release and a
  destruction forbid any;
* `macClient_lifecycle`: under every client that keeps the one, both layers keep the other, and a
  destruction leaves the interface closed.
-/

namespace M65

open Interaction

variable {m m' : MacState} {c c' : CbiContext} {current thread : RunLoopRef}

/-! ## The protocol of the interface -/

/-- The calls that open or close the interface. -/
def IoUsbCall.IsBracket : IoUsbCall → Prop
  | .usbInterfaceOpenSeize => True
  | .usbInterfaceClose => True
  | _ => False

/-- The state is whether the interface is open. Outside of a seizure nothing but the user may be
asked for. -/
def usbLifecycle : Monitor IoUsbReply Bool
  | isOpen, .usbInterfaceOpenSeize, result =>
      if isOpen then none else some (result == kIOReturnSuccess)
  | isOpen, .usbInterfaceClose, _ => if isOpen then some false else none
  | isOpen, .geteuid, _ => some isOpen
  | isOpen, _, _ => if isOpen then some true else none

/-- An open interface may be used for everything else. -/
theorem usbLifecycle_of_open (call : IoUsbCall) (reply : IoUsbReply call)
    (hcall : ¬ call.IsBracket) : usbLifecycle true call reply = some true := by
  cases call <;> first | rfl | exact absurd trivial hcall

/-! ## The operations of the adapter -/

section Adapter

variable {t : List MacEvent} {detail : ErrorText}

/-- Operations between opening and closing neither open nor close the interface. -/
theorem CbiIoOp.Makes.not_isBracket {op : CbiIoOp} {call : IoUsbCall} (h : op.Makes call)
    (hop : ¬op.IsSeizure) : ¬call.IsBracket := by
  intro hbracket
  cases h with
  | seize | abandon => exact hop (.inl rfl)
  | close => exact hop (.inr rfl)
  | inspection h | closeDrain h | interruptDrain h | prepareDrain h =>
    cases call <;> first | exact h | exact hbracket
  | _ => exact hbracket

/-- Looking at descriptors neither opens nor closes the interface. -/
theorem IoUsbCall.IsInspection.not_isBracket {call : IoUsbCall} (h : call.IsInspection) :
    ¬call.IsBracket := by
  intro hbracket
  cases call <;> first | exact h | exact hbracket

/-- What the context holds besides the interface. -/
def heldByContext (m : MacState) : Bool × Option RunLoopRef × Option RequestRef :=
  (m.context.eventSource, m.context.runLoop, m.context.interruptRequest)

/-- A closed context that holds no more than an ended one has ended. -/
theorem MacCbiContext.Ended.of_held {m₁ : MacState} (h : m₁.context.Ended)
    (hheld : heldByContext m = heldByContext m₁) (hclosed : m.context.isOpen = false) :
    m.context.Ended := by
  simp only [heldByContext, Prod.mk.injEq] at hheld
  obtain ⟨hsource, hloop, hrequest⟩ := hheld
  exact ⟨hclosed, hsource.trans h.eventSource, hloop.trans h.runLoop,
    hrequest.trans h.interruptRequest⟩

/-- Looking through the pipes keeps what the context holds. -/
theorem inspectPipes_keepsHeld (pipes : List UInt8) (detail : ErrorText) :
    Keeps heldByContext (inspectPipes detail pipes) := by
  induction pipes with
  | nil => exact .pure _
  | cons pipe pipes ih =>
    refine .bind (.call _) fun properties => .bind .get fun m => .ite (.pure _) ?_
    exact .ite (.bind (.modify fun _ => rfl) fun _ => ih) (.ite
      (.bind (.modify fun _ => rfl) fun _ => ih)
      (.ite (.bind (.modify fun _ => rfl) fun _ => ih) (.pure _)))

/-- The inspection of the endpoints keeps what the context holds. -/
theorem inspectEndpoints_keepsHeld : Keeps heldByContext (inspectEndpoints detail) := by
  refine .bind (.call _) fun _ => .ite (.pure _) ?_
  refine .bind (.call _) fun _ => .ite (.pure _) ?_
  refine .bind (.call _) fun _ => .ite (.pure _) ?_
  refine .bind (.call _) fun _ => .bind (.modify fun _ => rfl) fun _ => .ite (.pure _) ?_
  refine .bind (.call _) fun _ => .ite (.pure _) (.ite (.pure _) ?_)
  refine .bind (.modify fun _ => rfl) fun _ => .bind (inspectPipes_keepsHeld _ _) fun _ => ?_
  exact .ite (.pure _) (.bind .get fun _ => .ite (.pure _) (.pure _))

/-- A seizure that fails halfway closes the interface again, and leaves nothing behind. -/
theorem seized_lifecycle {reply : CbiReply} (h : Exec (macOpenSeize current detail) m t reply m')
    (hended : m.context.Ended) : usbLifecycle.run false t = some m'.context.isOpen ∧
      (reply.status ≠ .ok → m'.context.Ended) := by
  have hclosed := hended.isOpen
  have hseized := seized_of_exec h hclosed
  unfold macOpenSeize at h
  simp only [exec_get_bind, exec_call_bind, exec_ite, hclosed, Bool.false_eq_true, false_and,
    not_false_eq_true, true_and, false_or] at h
  obtain ⟨result, t₁, h, rfl⟩ := h
  rcases h with ⟨hfailed, h⟩ | ⟨hok, h⟩
  · -- nothing was opened, and only the user is asked for
    obtain ⟨rfl, -⟩ := seizureFailure_failed h hfailed
    rw [Monitor.run_cons, hclosed]
    have hresult : (result == kIOReturnSuccess) = false := by simpa using hfailed
    simp only [usbLifecycle, Bool.false_eq_true, if_false, hresult, Option.bind_some]
    refine ⟨?_, fun _ => hended⟩
    refine Monitor.run_eq_of_only (seizureFailure_only result) (fun call reply hcall => ?_) h
    subst hcall
    rfl
  -- from here on the interface is open, until it may be closed at the end
  have hresult : (result == kIOReturnSuccess) = true := by simpa using hok
  rw [Monitor.run_cons]
  simp only [usbLifecycle, Bool.false_eq_true, if_false, hresult, Option.bind_some]
  rw [exec_updateContext_bind, exec_bind] at h
  obtain ⟨t₂, ⟨inspected, text⟩, m₁, t₃, hinspect, h, rfl⟩ := h
  have hheld : heldByContext m₁ = heldByContext m := (inspectEndpoints_keepsHeld hinspect).1
  rw [Monitor.run_append, Monitor.run_eq_of_only inspectEndpoints_only
    (fun call reply h => usbLifecycle_of_open call reply h.not_isBracket) hinspect,
    Option.bind_some]
  unfold attachEventSource at h
  simp only [exec_ite, exec_call_bind, exec_updateContext_bind, exec_pure] at h
  rcases h with ⟨-, closed, t₄, ⟨rfl, rfl, rfl⟩, rfl⟩ | ⟨-, created, t₄, h, rfl⟩
  · exact ⟨rfl, fun _ => hended.of_held hheld rfl⟩
  rcases h with ⟨-, closed, t₅, ⟨rfl, rfl, rfl⟩, rfl⟩ | ⟨-, rfl, rfl, rfl⟩
  · exact ⟨rfl, fun _ => ⟨rfl, rfl, rfl, (congrArg (·.2.2) hheld).trans hended.interruptRequest⟩⟩
  · rw [(hseized.of_ok rfl).1]
    exact ⟨rfl, fun hfailed => absurd rfl hfailed⟩

/-- Draining neither opens nor closes the interface. -/
theorem drained_uses {aborted : IOReturn} (h : Drained m t aborted m') :
    ∀ e ∈ t, ¬ e.call.IsBracket := by
  intro e he
  rcases (h.context_eq.2 e he).2 with hcall | ⟨_, hcall⟩ | ⟨_, hcall⟩ <;> rw [hcall] <;> exact id

/-- A close that has nothing to close makes no call. -/
theorem Shut.lifecycle {status : CbiIoStatus} (h : Shut current m t status m') :
    usbLifecycle.run m.context.isOpen t = some false := by
  cases h with
  | idle hclosed => rw [hclosed, Monitor.run_nil]
  | foreign hopen =>
    rw [hopen]
    rfl
  | shut hopen _ hdrained =>
    rw [hopen, Monitor.run_append, Monitor.run_eq_of_forall fun e he =>
      usbLifecycle_of_open e.call e.reply (drained_uses hdrained e he)]
    rfl

/-- A close leaves nothing behind, and nothing was there if it had nothing to close. -/
theorem Shut.ended {status : CbiIoStatus} (h : Shut current m t status m')
    (hended : m.context.isOpen = false → m.context.Ended) : m'.context.Ended := by
  cases h with
  | idle hclosed => exact hended hclosed
  | foreign | shut =>
    rw [MacState.closed_context]
    exact ⟨rfl, rfl, rfl, rfl⟩

/-- Closing what is closed succeeds. -/
theorem Shut.status_of_closed {status : CbiIoStatus} (h : Shut current m t status m')
    (hclosed : m.context.isOpen = false) : status = .ok := by
  cases h with
  | idle => rfl
  | foreign hopen | shut hopen =>
    rw [hclosed] at hopen
    cases hopen

end Adapter

/-! ## Clients -/

/-- Where a client is with its transport. -/
inductive ClientPhase where
  | idle
  | held
  /-- The last release failed. -/
  | unclosed
  | ended
deriving DecidableEq

/-- A release that failed may only be tried again, and nothing follows a destruction. -/
def clientProtocol : Monitor ClientReply ClientPhase
  | .ended, _, _ => none
  | _, .destroy _ _ _, _ => some .ended
  | .idle, .transport ⟨_, .acquireExclusive _⟩, reply =>
      some (if reply.status = .ok then .held else .idle)
  | .held, .transport ⟨_, .releaseExclusive _⟩, reply =>
      some (if reply.status = .ok ∨ reply.status = .noDevice then .idle else .unclosed)
  | .unclosed, .transport ⟨_, .releaseExclusive _⟩, _ => some .idle
  | .unclosed, .transport _, _ => none
  | phase, .transport _, _ => some phase

/-- What both layers know in a phase, next to the state of the interface. -/
structure Tracked (phase : ClientPhase) (s : SystemState) (isOpen : Bool) : Prop where
  isOpen_eq : isOpen = s.2.context.isOpen
  isOpen_iff : s.2.context.isOpen = true ↔ phase = .held
  opened_iff : phase ≠ .ended → (s.1.opened = true ↔ phase = .held ∨ phase = .unclosed)
  /-- Between two seizures the context holds nothing. -/
  ended : phase ≠ .held → s.2.context.Ended

/-- At the start nothing is open. -/
theorem tracked_idle : Tracked .idle ({}, {}) false :=
  ⟨rfl, by simp, by simp, fun _ => ⟨rfl, rfl, rfl, rfl⟩⟩

section Calls

variable {phase : ClientPhase} {l : List EngineEvent} {t : List SystemEvent}

/-- A device that is open in both layers is held. -/
theorem tracked_held (hopened : c.opened = true) (hisOpen : m.context.isOpen = true) :
    Tracked .held (c, m) true :=
  ⟨hisOpen.symm, by simp [hisOpen], by simp [hopened], fun h => absurd rfl h⟩

/-- Outside of a seizure a phase is known from what the engine says about the interface. -/
theorem tracked_of_ended (hended : m.context.Ended) (hphase : phase ≠ .held)
    (hopened : c.opened = true ↔ phase = .unclosed) : Tracked phase (c, m) false :=
  ⟨hended.isOpen.symm, by simp [hended.isOpen, hphase], fun _ => by simp [hopened, hphase],
    fun _ => hended⟩

/-- Operations between opening and closing neither open nor close the interface. -/
theorem uses_of_served (hserved : Served (macIo current) m l t m')
    (hops : ∀ e ∈ l, ¬ e.call.op.IsSeizure) : ∀ e ∈ t, ¬ e.call.IsBracket := by
  induction hserved with
  | nil => simp
  | @cons e l inner t m m₁ m' hexec _ ih =>
    obtain ⟨hop, hops⟩ := List.forall_mem_cons.1 hops
    refine List.forall_mem_append.2 ⟨fun x hx => ?_, ih hops⟩
    obtain ⟨y, hy, rfl⟩ := List.mem_map.1 hx
    exact (macIo_makes e.call hexec y hy).not_isBracket hop

/-- The operation `close` closes the interface. -/
theorem shut_of_served {detail : ErrorText} {reply : CbiReply}
    (hserved : Served (macIo current) m [⟨c, .close detail, reply⟩] t m') :
    usbLifecycle.run m.context.isOpen t = some false ∧
      ∃ inner, Shut current m inner reply.status m' := by
  obtain ⟨inner, hexec, rfl⟩ := hserved.singleton
  have hshut := shut_of_exec hexec
  rw [Monitor.run_below]
  exact ⟨hshut.lifecycle, inner, hshut⟩

/-- While the interface is closed the context holds nothing. -/
theorem Tracked.ended_of_closed {s : SystemState} {isOpen : Bool} (h : Tracked phase s isOpen)
    (hclosed : s.2.context.isOpen = false) : s.2.context.Ended := by
  refine h.ended fun hheld => ?_
  rw [h.isOpen_iff.2 hheld] at hclosed
  cases hclosed

/-- Opening follows the protocol of the interface, and the phase tells how it ended. -/
theorem Acquired.tracked {out : StatusReply} {isOpen : Bool} (h : Acquired c l out c')
    (hserved : Served (macIo current) m l t m') (htracked : Tracked phase (c, m) isOpen)
    (hphase : phase = .idle ∨ phase = .held) :
    ∃ isOpen', usbLifecycle.run isOpen t = some isOpen' ∧
      Tracked (if out.status = .ok ∨ phase = .held then .held else .idle) (c', m') isOpen' := by
  have hopened : c.opened = true ↔ phase = .held ∨ phase = .unclosed :=
    htracked.opened_iff (by rcases hphase with rfl | rfl <;> exact nofun)
  -- the adapter is asked only when neither layer has the interface
  have hidle (hclosed : c.opened = false) : phase = .idle := by
    refine hphase.resolve_right fun hheld => ?_
    rw [hopened.2 (.inl hheld)] at hclosed
    cases hclosed
  cases h with
  | held hopened' hstatus =>
    obtain ⟨rfl, rfl⟩ := hserved.of_nil
    obtain rfl : phase = .held := by
      rcases hphase with rfl | rfl
      · simpa using hopened.1 hopened'
      · rfl
    exact ⟨_, rfl, by rwa [if_pos (.inr rfl)]⟩
  | opened hclosed hok hstatus =>
    obtain rfl := hidle hclosed
    have hended : m.context.Ended := htracked.ended nofun
    obtain ⟨inner, hexec, rfl⟩ := hserved.singleton
    have hisOpen := ((seized_of_exec hexec hended.isOpen).of_ok hok).1
    have hrun := (seized_lifecycle hexec hended).1
    rw [hisOpen] at hrun
    rw [htracked.isOpen_eq, hended.isOpen, Monitor.run_below, if_pos (.inl hstatus)]
    exact ⟨_, hrun, tracked_held rfl hisOpen⟩
  | failed hclosed hfailed hstatus =>
    obtain rfl := hidle hclosed
    have hended : m.context.Ended := htracked.ended nofun
    obtain ⟨inner, hexec, rfl⟩ := hserved.singleton
    obtain ⟨hrun, hended'⟩ := seized_lifecycle hexec hended
    have hended' := hended' hfailed
    rw [hended'.isOpen] at hrun
    have hout : ¬(out.status = .ok ∨ ClientPhase.idle = .held) := by
      rw [hstatus, mapIoStatus_eq_ok_iff]
      simpa using hfailed
    rw [htracked.isOpen_eq, hended.isOpen, Monitor.run_below, if_neg hout]
    exact ⟨_, hrun, tracked_of_ended hended' nofun (by simp [hclosed])⟩

/-- Commands follow the protocol of the interface and keep the phase. -/
theorem Executed.tracked {command : Command} {out : ExecuteReply command.dataLength}
    {isOpen : Bool} (h : Executed command c l out c')
    (hserved : Served (macIo current) m l t m') (htracked : Tracked phase (c, m) isOpen)
    (hphase : phase = .idle ∨ phase = .held) :
    usbLifecycle.run isOpen t = some isOpen ∧ Tracked phase (c', m') isOpen := by
  have hopened : c.opened = true ↔ phase = .held ∨ phase = .unclosed :=
    htracked.opened_iff (by rcases hphase with rfl | rfl <;> exact nofun)
  rcases hphase with rfl | rfl
  · -- the engine refuses every command before it is acquired
    have hclosed : c.opened = false := by simpa using hopened
    obtain ⟨rfl, rfl⟩ := h.of_rejected (.inl hclosed)
    obtain ⟨rfl, rfl⟩ := hserved.of_nil
    exact ⟨rfl, htracked⟩
  · obtain rfl : isOpen = true := htracked.isOpen_eq.trans (htracked.isOpen_iff.2 rfl)
    have huses := uses_of_served hserved h.not_isSeizure
    refine ⟨Monitor.run_eq_of_forall fun e he => usbLifecycle_of_open e.call e.reply (huses e he),
      tracked_held ?_ ?_⟩
    · rw [h.opened_eq]
      exact hopened.2 (.inl rfl)
    · rw [(carried_of_served hserved h.not_isSeizure).isOpen]
      exact htracked.isOpen_eq.symm

/-- A release that fails still closes the interface, and only the engine does not know. -/
theorem Closed.tracked {out : StatusReply} {isOpen : Bool} (h : Closed c l out c')
    (hserved : Served (macIo current) m l t m') (htracked : Tracked phase (c, m) isOpen)
    (hphase : phase ≠ .ended) :
    ∃ phase' isOpen', usbLifecycle.run isOpen t = some isOpen' ∧
      Tracked phase' (c', m') isOpen' ∧ phase' =
        if phase = .held ∧ ¬(out.status = .ok ∨ out.status = .noDevice) then .unclosed
        else .idle := by
  have hopened : c.opened = true ↔ phase = .held ∨ phase = .unclosed := htracked.opened_iff hphase
  cases h with
  | idle hclosed hstatus =>
    obtain ⟨rfl, rfl⟩ := hserved.of_nil
    rw [hclosed] at hopened
    obtain rfl : phase = .idle := by
      cases phase with
      | idle => rfl
      | held | unclosed => simp at hopened
      | ended => exact absurd rfl hphase
    exact ⟨.idle, isOpen, rfl, htracked, rfl⟩
  | @closed detail reply out hopened' hgone hstatus =>
    obtain ⟨hrun, inner, hshut⟩ := shut_of_served hserved
    have hout : out.status = .ok ∨ out.status = .noDevice := by
      rw [hstatus]
      rcases hgone with hgone | hgone <;> simp [hgone, mapIoStatus]
    rw [htracked.isOpen_eq]
    refine ⟨.idle, false, hrun,
      tracked_of_ended (hshut.ended htracked.ended_of_closed) (by simp) (by simp), ?_⟩
    rw [if_neg fun hfailed => hfailed.2 hout]
  | @failed detail reply out hopened' hfailed hstatus =>
    obtain ⟨hrun, inner, hshut⟩ := shut_of_served hserved
    -- an interface that was closed before is not closed again, so that this cannot fail
    obtain rfl : phase = .held := by
      by_contra hheld
      have hclosed := Bool.eq_false_iff.2 fun h => hheld (htracked.isOpen_iff.1 h)
      have hok : reply.status = .ok := hshut.status_of_closed hclosed
      exact hfailed (.inl hok)
    have hout : ¬(out.status = .ok ∨ out.status = .noDevice) := by
      rw [hstatus]
      revert hfailed
      generalize reply.status = status
      cases status <;> simp [mapIoStatus]
    rw [htracked.isOpen_eq]
    refine ⟨.unclosed, false, hrun, tracked_of_ended (hshut.ended htracked.ended_of_closed)
      (by simp) (by simp [hopened']), ?_⟩
    rw [if_pos ⟨rfl, hout⟩]

end Calls

/-! ## Every client -/

/-- The destruction closes what is open and ends the client. -/
theorem destroyed_tracked {phase : ClientPhase} {s s' : SystemState} {t : List SystemEvent}
    {isOpen : Bool} {detail ignored : ErrorText} (htracked : Tracked phase s isOpen)
    (h : Exec (macClient (.destroy thread detail ignored)) s t () s') :
    usbLifecycle.run isOpen t = some false ∧ Tracked .ended s' false := by
  obtain ⟨hended, l, t₁, inner, m₁, hdestroyed, hserved, rfl, status, m₂, hshut⟩ := ended_of_exec h
  have hengine : usbLifecycle.run isOpen t₁ = some m₁.context.isOpen := by
    generalize s'.1 = c' at hdestroyed
    cases hdestroyed with
    | idle =>
      obtain ⟨rfl, rfl⟩ := hserved.of_nil
      rw [htracked.isOpen_eq]
      rfl
    | closed =>
      obtain ⟨hrun, inner, hshut⟩ := shut_of_served hserved
      rw [htracked.isOpen_eq, hrun, hshut.closed.1]
  refine ⟨Monitor.run_append_of_some hengine ?_, hended.isOpen.symm, ?_, fun h => absurd rfl h,
    fun _ => hended⟩
  · rw [Monitor.run_below]
    exact hshut.lifecycle
  · simp [hended.isOpen]

/-- Both layers keep the protocol of the interface while a client keeps its own. -/
theorem macClient_obeys : Obeys macClient clientProtocol usbLifecycle Tracked := by
  intro call phase phase₁ isOpen s inner reply s' htracked hstep hexec
  cases call with
  | destroy thread detail ignored =>
    obtain ⟨hrun, hended⟩ := destroyed_tracked htracked hexec
    obtain rfl : phase₁ = .ended := by
      cases phase <;> simp [clientProtocol] at hstep <;> exact hstep.symm
    exact ⟨false, hrun, hended⟩
  | transport call =>
    obtain ⟨thread, call⟩ := call
    obtain ⟨c, m⟩ := s
    obtain ⟨c', m'⟩ := s'
    obtain ⟨l, hengine, hserved⟩ := exec_atop.1 hexec
    cases call with
    | acquireExclusive detail =>
      have hphase : (phase = .idle ∨ phase = .held) ∧
          phase₁ = if reply.status = .ok ∨ phase = .held then .held else .idle := by
        cases phase <;> simp [clientProtocol] at hstep <;> simp [hstep.symm]
      obtain ⟨isOpen', hrun, htracked'⟩ :=
        (acquired_of_exec hengine).tracked hserved htracked hphase.1
      exact ⟨isOpen', hrun, hphase.2 ▸ htracked'⟩
    | execute command =>
      have hphase : (phase = .idle ∨ phase = .held) ∧ phase₁ = phase := by
        cases phase <;> simp [clientProtocol] at hstep <;> simp [hstep.symm]
      obtain ⟨hrun, htracked'⟩ := (executed_of_exec hengine).tracked hserved htracked hphase.1
      exact ⟨isOpen, hrun, hphase.2 ▸ htracked'⟩
    | releaseExclusive detail =>
      -- a release that fails on a device that is still there leaves the client unclosed
      obtain ⟨phase', isOpen', hrun, htracked', hphase'⟩ :=
        (closed_of_exec hengine).tracked hserved htracked (by rintro rfl; cases hstep)
      obtain rfl : phase₁ = phase' := by
        rw [hphase']
        cases phase with
        | idle | unclosed => exact (Option.some.inj hstep).symm
        | ended => cases hstep
        | held =>
          rw [← Option.some.inj hstep]
          by_cases hgone : reply.status = .ok ∨ reply.status = .noDevice
          · rw [if_pos hgone, if_neg fun h => h.2 hgone]
          · rw [if_neg hgone, if_pos ⟨rfl, hgone⟩]
      exact ⟨isOpen', hrun, htracked'⟩

/-- The interface is seized, used and closed in this order in every session of a client that keeps
the protocol, and a session that ends in a destruction leaves it closed. -/
theorem macClient_lifecycle (session : ClientSession) {phase : ClientPhase}
    (hclient : clientProtocol.run .idle (session.calls.map Handled.event) = some phase) :
    ∃ isOpen, usbLifecycle.run false session.trace = some isOpen ∧
      Tracked phase session.final isOpen :=
  macClient_obeys.chain session.chain hclient tracked_idle

/-- USBInterfaceClose fails, so that the engine tries again when it is destroyed. -/
def unclosedSession : ClientSession := .replay
  [(.transport ⟨⟨0⟩, .acquireExclusive Text.empty⟩, workingInterface kIOReturnSuccess none),
    (.transport ⟨⟨0⟩, .releaseExclusive Text.empty⟩, workingInterface kIOReturnNotReady none),
    (.destroy ⟨0⟩ Text.empty Text.empty, workingInterface kIOReturnSuccess none)] _

/-- A session whose close fails, and which is destroyed, follows the protocol to its end. -/
theorem unclosedSession_lifecycle :
    clientProtocol.run .idle (unclosedSession.calls.map Handled.event) = some .ended ∧
      ∃ isOpen, usbLifecycle.run false unclosedSession.trace = some isOpen ∧
        Tracked .ended unclosedSession.final isOpen :=
  have hclient : clientProtocol.run .idle (unclosedSession.calls.map Handled.event) =
      some .ended := by decide +kernel
  ⟨hclient, macClient_lifecycle unclosedSession hclient⟩

end M65
