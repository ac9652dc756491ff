import FloppyProbe.Cbi.RecoveryGate
import FloppyProbe.Interaction.Layer
import FloppyProbe.Mac.Effects

/-!
# The engine on the macOS adapter

The transport of `src/cbi.c` with the adapter of `src/usb_cbi_macos.c` under it, as one component
whose state is the pair of both contexts and whose calls are those of IOUSBLib. A client calls it
on some thread. What the operations of an exchange do to the flags of the adapter adds up here to
what a whole exchange does to them.
-/

namespace M65

open Interaction

variable {m m' : MacState} {c c' : CbiContext} {l : List EngineEvent} {current : RunLoopRef}

/-- A call of the transport, on the thread of a run loop. -/
structure MacCall where
  thread : RunLoopRef
  call : TransportCall

/-- The contexts of the engine and of the adapter. -/
abbrev SystemState : Type := CbiContext × MacState

/-- A call of IOUSBLib in a run of the engine on top of the adapter. -/
abbrev SystemEvent : Type := Event SystemState IoUsbReply

/-- One call of the transport: the engine on top of the adapter of IOUSBLib. -/
def macTransport (call : MacCall) :
    Prog SystemState IoUsbReply (TransportReply call.call) :=
  (cbiTransport call.call).atop (macIo call.thread)

/-- The calls on a transport that was just created. -/
abbrev MacSession : Type := Session macTransport ({}, {})

/-- The calls that the engine makes to the adapter during a call of the transport. -/
structure EngineCalls (call : Handled macTransport) (l : List EngineEvent) : Prop where
  engine : Exec (cbiTransport call.call.call) call.before.1 l call.reply call.after.1
  served : Served (macIo call.call.thread) call.before.2 l call.trace call.after.2

/-! ## Exchanges -/

/-- An operation after which the adapter is as synchronised as before: it succeeded, or it is not
the interrupt and its status tells of no loss. -/
def LeavesLink (e : EngineEvent) : Prop :=
  ioStatusOf e = .ok ∨
    e.call.op ≠ .interruptInWithDeadline ∧ ioStatusLosesPhase (ioStatusOf e) = false

/-- The operations of an exchange: all but the last one leave the link alone, and the engine takes
note of the status of the last one if that one does not. -/
structure ExchangeEnd (c : CbiContext) (l : List EngineEvent) (status : CbiIoStatus)
    (c' : CbiContext) : Prop where
  split : ∃ init last, l = init ++ [last] ∧ (∀ e ∈ init, LeavesLink e) ∧
    (status = .ok → LeavesLink last) ∧ (LeavesLink last ∨
      c'.recoveryRequired = (c.recoveryRequired || ioStatusLosesPhase (ioStatusOf last)))
  isExchange : ∀ e ∈ l, e.call.op.IsExchange

section Exchange

variable {n : ℕ} {cdb : Vector UInt8 cbiCdbLength} {direction : DataDirection}
  {buffer : Vector UInt8 n} {out : ExchangeReply n}

/-- An exchange makes operations of an exchange only. -/
theorem Exchanged.isExchange (h : Exchanged cdb direction buffer c l out c') :
    ∀ e ∈ l, e.call.op.IsExchange := by
  obtain ⟨timeoutMs, detail, accepted, moved, rest, rfl, hmoved, hrest⟩ := h.shape
  refine List.forall_mem_cons.2 ⟨.inl rfl, List.forall_mem_append.2 ⟨?_, fun e he => ?_⟩⟩
  · rcases hmoved with rfl | ⟨data, hmoved⟩
    · simp
    · cases hmoved with
      | none => simp
      | dataIn => exact List.forall_mem_singleton.2 (.inr (.inl (.inl rfl)))
      | dataOut => exact List.forall_mem_singleton.2 (.inr (.inl (.inr rfl)))
  · exact .inr (.inr (hrest e he))

/-- A transfer that succeeded or stalled leaves the link as it was. -/
theorem Moved.leavesLink {data : BulkInReply n} (h : Moved direction buffer c l data)
    (hstatus : data.status = .ok ∨ data.status = .stall) : ∀ e ∈ l, LeavesLink e := by
  have hleaves {e : EngineEvent} (hop : e.call.op ≠ .interruptInWithDeadline)
      (heq : ioStatusOf e = data.status) : LeavesLink e := by
    rcases hstatus with hstatus | hstatus
    · exact .inl (heq.trans hstatus)
    · exact .inr ⟨hop, by rw [heq, hstatus]; rfl⟩
  cases h with
  | none => simp
  | dataIn => exact List.forall_mem_singleton.2 (hleaves nofun rfl)
  | dataOut => exact List.forall_mem_singleton.2 (hleaves nofun rfl)

/-- A data phase after which the completion is awaited leaves the link as it was. -/
theorem DataPhase.leavesLink {stalled : Bool} {data : BulkInReply n}
    (h : DataPhase direction buffer c l stalled data) : ∀ e ∈ l, LeavesLink e := by
  cases h with
  | moved hmoved hok => exact hmoved.leavesLink (.inl hok)
  | cleared hmoved hstall hok =>
      exact List.forall_mem_append.2 ⟨hmoved.leavesLink (.inr hstall),
        List.forall_mem_singleton.2 (.inl hok)⟩

/-- At most the last operation of an exchange harms the link. -/
theorem Exchanged.exchangeEnd (h : Exchanged cdb direction buffer c l out c') :
    ExchangeEnd c l out.status c' := by
  refine ⟨?_, h.isExchange⟩
  -- a command block that the adapter accepted, and the operations of the data phase after it
  have haccept {timeoutMs : ℕ} {detail : ErrorText} {accepted : CbiReply}
      (haccepted : accepted.status = .ok) : LeavesLink ⟨c, .adsc cdb timeoutMs detail, accepted⟩ :=
    .inl haccepted
  have hinterrupt {timeoutMs : ℕ} {detail : ErrorText} {accepted : CbiReply}
      {l : List EngineEvent} {stalled : Bool} {data : BulkInReply n}
      (haccepted : accepted.status = .ok)
      (hphase : DataPhase direction buffer c l stalled data) :
      ∀ e ∈ ⟨c, .adsc cdb timeoutMs detail, accepted⟩ :: l, LeavesLink e :=
    List.forall_mem_cons.2 ⟨haccept haccepted, hphase.leavesLink⟩
  -- each end names its last operation; those before it were all accepted
  cases h with
  | @adscStalled timeoutMs detail accepted _ hstall =>
      have hleaves : LeavesLink ⟨c, .adsc cdb timeoutMs detail, accepted⟩ :=
        .inr ⟨nofun, congrArg ioStatusLosesPhase hstall⟩
      exact ⟨[], _, rfl, by simp, fun _ => hleaves, .inl hleaves⟩
  | adscFailed hfailed _ hstatus hmarked =>
      exact ⟨[], _, rfl, by simp, fun hok => absurd (hstatus.symm.trans hok) hfailed,
        .inr hmarked.recoveryRequired⟩
  | bulkFailed haccepted hmoved hfailed _ hstatus hmarked =>
      cases hmoved with
      | none => exact absurd rfl hfailed
      | dataIn | dataOut =>
          exact ⟨[_], _, rfl, List.forall_mem_singleton.2 (haccept haccepted),
            fun hok => absurd (hstatus.symm.trans hok) hfailed, .inr hmarked.recoveryRequired⟩
  | overrun haccepted hmoved hok hlarge =>
      cases hmoved with
      | none => exact absurd hlarge (Nat.not_lt_zero n)
      | dataIn | dataOut =>
          exact ⟨[_], _, rfl, List.forall_mem_singleton.2 (haccept haccepted),
            fun _ => .inl hok, .inl (.inl hok)⟩
  | clearFailed haccepted hmoved hstall hfailed hstatus hmarked =>
      exact ⟨_ :: _, _, rfl,
        List.forall_mem_cons.2 ⟨.inl haccepted, hmoved.leavesLink (.inr hstall)⟩,
        fun hok => absurd (hstatus.symm.trans hok) hfailed, .inr hmarked.recoveryRequired⟩
  | interruptFailed haccepted hphase hfailed hstatus hmarked =>
      exact ⟨_ :: _, _, rfl, hinterrupt haccepted hphase,
        fun hok => absurd (hstatus.symm.trans hok) hfailed, .inr hmarked.recoveryRequired⟩
  | interruptShort haccepted hphase hok =>
      exact ⟨_ :: _, _, rfl, hinterrupt haccepted hphase, fun _ => .inl hok, .inl (.inl hok)⟩
  | completed haccepted hphase hok =>
      exact ⟨_ :: _, _, rfl, hinterrupt haccepted hphase, fun _ => .inl hok, .inl (.inl hok)⟩

end Exchange

/-! ## Operations between opening and closing -/

/-- The operations that open or close the interface. -/
def CbiIoOp.IsSeizure (op : CbiIoOp) : Prop := op = .openSeize ∨ op = .close

/-- No operation of an exchange opens or closes the interface. -/
theorem CbiIoOp.IsExchange.not_isSeizure {op : CbiIoOp} (h : op.IsExchange) : ¬ op.IsSeizure := by
  rintro (rfl | rfl) <;> simp [CbiIoOp.IsExchange, CbiIoOp.IsBulk] at h

/-- What the adapter does for calls that neither open nor close the interface. -/
structure Carried (m : MacState) (t : List SystemEvent) (m' : MacState) : Prop where
  isOpen : m'.context.isOpen = m.context.isOpen
  runLoop : m'.context.runLoop = m.context.runLoop
  events_open : ∀ e ∈ t, e.state.2.context.isOpen = m.context.isOpen

/-- Two such traces make one. -/
theorem Carried.append {m₁ : MacState} {t t' : List SystemEvent} (h : Carried m t m₁)
    (h' : Carried m₁ t' m') : Carried m (t ++ t') m' where
  isOpen := h'.isOpen.trans h.isOpen
  runLoop := h'.runLoop.trans h.runLoop
  events_open := List.forall_mem_append.2
    ⟨h.events_open, fun e he => (h'.events_open e he).trans h.isOpen⟩

/-- An operation that neither opens nor closes the interface leaves it as open as it was. -/
theorem carried_of_exec {e : EngineEvent} {inner : List MacEvent}
    (h : Exec (macIo current e.call) m inner e.reply m') (hop : ¬ e.call.op.IsSeizure) :
    Carried m (inner.map (Event.below e.state)) m' := by
  have hinner (hopen : m'.context.isOpen = m.context.isOpen)
      (hrunLoop : m'.context.runLoop = m.context.runLoop)
      (hevents : ∀ x ∈ inner, x.state.context.isOpen = m.context.isOpen) :
      Carried m (inner.map (Event.below e.state)) m' := by
    refine ⟨hopen, hrunLoop, fun y hy => ?_⟩
    obtain ⟨x, hx, rfl⟩ := List.mem_map.1 hy
    exact hevents x hx
  have hexchange (hop : e.call.op.IsExchange) :
      Carried m (inner.map (Event.below e.state)) m' :=
    have hoperated := operated_of_exec hop h
    hinner hoperated.isOpen hoperated.runLoop hoperated.events_open
  obtain ⟨c, call, reply⟩ := e
  -- the operations of an exchange go alike, and the two of a reset have their own lemmas
  cases call with
  | openSeize => exact absurd (.inl rfl) hop
  | close => exact absurd (.inr rfl) hop
  | prepareCommandBlockReset =>
      have hsteady := steady_prepare h
      exact hinner hsteady.isOpen hsteady.runLoop hsteady.events_open
  | finishCommandBlockReset =>
      have hfinished := finished_of_exec h
      obtain rfl := hfinished.trace_eq
      exact hinner hfinished.isOpen hfinished.runLoop (by simp)
  | adsc => exact hexchange (.inl rfl)
  | bulkIn => exact hexchange (.inr (.inl (.inl rfl)))
  | bulkOut => exact hexchange (.inr (.inl (.inr rfl)))
  | clearStall => exact hexchange (.inr (.inr (.inl rfl)))
  | interruptInWithDeadline => exact hexchange (.inr (.inr (.inr rfl)))

/-- Operations that neither open nor close the interface leave it as open as it was. -/
theorem carried_of_served {t : List SystemEvent} (hserved : Served (macIo current) m l t m')
    (hops : ∀ e ∈ l, ¬ e.call.op.IsSeizure) : Carried m t m' := by
  induction hserved with
  | nil => exact ⟨rfl, rfl, by simp⟩
  | cons hexec _ ih =>
      obtain ⟨hop, hops⟩ := List.forall_mem_cons.1 hops
      exact (carried_of_exec hexec hop).append (ih hops)

/-- A recovery neither opens nor closes the interface. -/
theorem Recovered.not_isSeizure {out : CbiReply} (h : Recovered c l out c') :
    ∀ e ∈ l, ¬ e.call.op.IsSeizure := by
  have hexchange {l : List EngineEvent} {reset : ExchangeReply 0}
      (hexchanged : Exchanged resetCdb .none #v[] c l reset c) : ∀ e ∈ l, ¬ e.call.op.IsSeizure :=
    fun e he => (hexchanged.isExchange e he).not_isSeizure
  cases h with
  | idle => simp
  | unprepared => simp [CbiIoOp.IsSeizure, CbiIoCall.op]
  | unreset _ _ hexchanged | unfinished _ _ hexchanged | reset _ _ hexchanged =>
      refine List.forall_mem_cons.2 ⟨by simp [CbiIoOp.IsSeizure, CbiIoCall.op],
        List.forall_mem_append.2 ⟨hexchange hexchanged, ?_⟩⟩
      simp [CbiIoOp.IsSeizure, CbiIoCall.op]

/-- Fetching sense data makes operations of an exchange only. -/
theorem Fetched.isExchange {out : SenseReply} (h : Fetched c l out c') :
    ∀ e ∈ l, e.call.op.IsExchange := by
  cases h with
  | failed hexchanged | rejected hexchanged | fetched hexchanged => exact hexchanged.isExchange

/-- A REQUEST SENSE makes operations of an exchange only. -/
theorem SenseExecuted.isExchange {n : ℕ} {padded : Vector UInt8 cbiCdbLength}
    {buffer : Vector UInt8 n} {out : ExecuteReply n} (h : SenseExecuted padded buffer c l out c') :
    ∀ e ∈ l, e.call.op.IsExchange := by
  cases h with
  | failed hexchanged | rejected hexchanged | answered hexchanged => exact hexchanged.isExchange

/-- A command makes operations of an exchange only. -/
theorem CommandExecuted.isExchange {n : ℕ} {opcode : UInt8} {padded : Vector UInt8 cbiCdbLength}
    {direction : DataDirection} {buffer : Vector UInt8 n} {out : ExecuteReply n}
    (h : CommandExecuted opcode padded direction buffer c l out c') :
    ∀ e ∈ l, e.call.op.IsExchange := by
  cases h with
  | failed hexchanged => exact hexchanged.isExchange
  | unsensed hexchanged _ hfetched | rejected hexchanged _ hfetched
  | answered hexchanged _ hfetched =>
      exact List.forall_mem_append.2 ⟨hexchanged.isExchange, hfetched.isExchange⟩

/-- No execution opens or closes the interface. -/
theorem Executed.not_isSeizure {command : Command} {out : ExecuteReply command.dataLength}
    (h : Executed command c l out c') : ∀ e ∈ l, ¬ e.call.op.IsSeizure := by
  cases h with
  | refused => simp
  | unrecovered _ hrecovered => exact hrecovered.not_isSeizure
  | sense _ hrecovered _ _ hexecuted | command _ hrecovered _ _ hexecuted =>
      exact List.forall_mem_append.2 ⟨hrecovered.not_isSeizure, fun e he =>
        (hexecuted.isExchange e he).not_isSeizure⟩

/-! ## Operations that leave the link alone -/

/-- An operation that leaves the link alone keeps the mark of the context, and loses nothing unseen
on a device that is there. -/
theorem Operated.synchronized {e : EngineEvent} {inner : List MacEvent}
    (h : Operated e.call.op m inner (ioStatusOf e) m') (hleaves : LeavesLink e) :
    m'.context.desynchronized = m.context.desynchronized ∧
      (m.context.desynchronized = false → (∀ x ∈ inner, ¬ Gone x) → ∀ x ∈ inner, ¬ Unseen x) := by
  obtain ⟨lost, hdesynchronized, hok, hloses, hunseen⟩ := h.lost
  obtain rfl : lost = false := by
    rcases hleaves with hstatus | ⟨hop, hstatus⟩
    · exact hok hstatus
    · by_contra hlost
      rw [hloses hop (by simpa using hlost)] at hstatus
      cases hstatus
  refine ⟨by simpa using hdesynchronized, fun hsynchronized hpresent x hx hunseen' => ?_⟩
  exact absurd ((hunseen hsynchronized hpresent).2 ⟨x, hx, hunseen'⟩).1 Bool.false_ne_true

/-- Operations that leave the link alone keep it synchronised. -/
theorem synchronized_of_served {t : List SystemEvent}
    (hserved : Served (macIo current) m l t m') (hops : ∀ e ∈ l, e.call.op.IsExchange)
    (hleaves : ∀ e ∈ l, LeavesLink e) :
    m'.context.desynchronized = m.context.desynchronized ∧
      (m.context.desynchronized = false → (∀ x ∈ t, ¬ Gone x.lower) →
        ∀ x ∈ t, ¬ Unseen x.lower) := by
  induction hserved with
  | nil => exact ⟨rfl, by simp⟩
  | @cons e l inner t m m₁ m' hexec _ ih =>
      obtain ⟨hop, hops⟩ := List.forall_mem_cons.1 hops
      obtain ⟨hleave, hleaves⟩ := List.forall_mem_cons.1 hleaves
      obtain ⟨hmid, hseen⟩ := (operated_of_exec hop hexec).synchronized hleave
      obtain ⟨hend, hseen'⟩ := ih hops hleaves
      refine ⟨hend.trans hmid, fun hsynchronized hpresent => ?_⟩
      obtain ⟨hpresent, hpresent'⟩ := List.forall_mem_append.1 hpresent
      refine List.forall_mem_append.2 ⟨fun x hx => ?_, hseen' (hmid.trans hsynchronized) hpresent'⟩
      obtain ⟨y, hy, rfl⟩ := List.mem_map.1 hx
      exact hseen hsynchronized
        (fun z hz => hpresent (z.below e.state) (List.mem_map_of_mem hz)) y hy

/-! ## A working interface -/

/-- A UFI CBI interface on which every request succeeds, except that `USBInterfaceClose` returns
`closed`, and the run loop fires `fired` in every round. -/
def workingInterface (closed : IOReturn) (fired : Option Completion) :
    ℕ → (call : IoUsbCall) → IoUsbReply call
  | _, .usbInterfaceOpenSeize => kIOReturnSuccess
  | _, .usbInterfaceClose => closed
  | _, .getInterfaceClass => ⟨kIOReturnSuccess, usbMassStorageClass⟩
  | _, .getInterfaceSubClass => ⟨kIOReturnSuccess, usbUfiSubclass⟩
  | _, .getInterfaceProtocol => ⟨kIOReturnSuccess, usbCbiProtocol⟩
  | _, .getInterfaceNumber => ⟨kIOReturnSuccess, 0⟩
  | _, .getNumEndpoints => ⟨kIOReturnSuccess, 3⟩
  | _, .getPipeProperties pipe =>
      if pipe = 1 then ⟨kIOReturnSuccess, kUSBIn, 1, kUSBBulk, 64, 0⟩
      else if pipe = 2 then ⟨kIOReturnSuccess, kUSBOut, 2, kUSBBulk, 64, 0⟩
      else ⟨kIOReturnSuccess, kUSBIn, 3, kUSBInterrupt, 2, 32⟩
  | _, .createInterfaceAsyncEventSource => ⟨kIOReturnSuccess, true⟩
  | _, .controlRequestTO _ request => ⟨kIOReturnSuccess, request.wLength.toUInt32⟩
  | _, .readPipeTO (n := n) _ buffer _ _ => ⟨kIOReturnSuccess, UInt32.ofNat n, buffer⟩
  | _, .writePipeTO _ _ _ _ => kIOReturnSuccess
  | _, .readPipeAsync _ _ => kIOReturnSuccess
  | _, .abortPipe _ => kIOReturnSuccess
  | _, .clearPipeStallBothEnds _ => kIOReturnSuccess
  | _, .geteuid => 501
  | _, .calloc => true
  | _, .deadline _ => 1
  | _, .runLoopRound => fired

end M65
