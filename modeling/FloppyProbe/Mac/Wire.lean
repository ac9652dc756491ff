import FloppyProbe.Cbi.Wire
import FloppyProbe.Mac.Calls
import FloppyProbe.Mac.Client

/-!
# The wire protocol at IOUSBLib

`usbWire` is the wire protocol as the device sees it: control requests, bulk transfers and nothing
else. The adapter keeps it as long as the engine keeps its own (`macIo_keepsWire`), and so both
layers keep it under every client; without commands that send data, no MODE SELECT is seen either
(`macClient_keepsWire`).
-/

namespace M65

open Interaction

variable {m m' : MacState} {c c' : CbiContext} {current thread : RunLoopRef}
  {selects : Bool}

/-! ## The protocol -/

/-- The request is an ADSC of twelve bytes. -/
structure IoUsbDevRequestTO.IsAdsc (request : IoUsbDevRequestTO) : Prop where
  bmRequestType : request.bmRequestType = 0x21
  bRequest : request.bRequest = 0x00
  wValue : request.wValue = 0
  wLength : request.wLength = 12

/-- An ADSC request is told by its four constant fields. -/
theorem IoUsbDevRequestTO.isAdsc_iff {request : IoUsbDevRequestTO} : request.IsAdsc ↔
    request.bmRequestType = 0x21 ∧ request.bRequest = 0x00 ∧ request.wValue = 0 ∧
      request.wLength = 12 :=
  ⟨fun h => ⟨h.1, h.2, h.3, h.4⟩, fun h => ⟨h.1, h.2.1, h.2.2.1, h.2.2.2⟩⟩

instance : DecidablePred IoUsbDevRequestTO.IsAdsc := fun _ =>
  decidable_of_iff' _ IoUsbDevRequestTO.isAdsc_iff

/-- What `m65_cbi_build_adsc` builds is an ADSC request. -/
theorem isAdsc_devRequest (interfaceNumber : UInt8) (cdb : CommandBlock) (timeoutMs : ℕ) :
    ((cbiBuildAdsc interfaceNumber cdb).devRequest timeoutMs).IsAdsc :=
  ⟨rfl, rfl, rfl, rfl⟩

/-- Bulk transfers follow an accepted block with their direction, and blocks go out on the control
pipe. -/
def usbWire (selects : Bool) : Monitor IoUsbReply PendingBlock
  | _, .controlRequestTO pipe request, reply =>
      if pipe = 0 ∧ request.IsAdsc ∧ IsHarmless selects request.pData then
        some (if reply.result = kIOReturnSuccess ∧ reply.wLenDone.toNat = cbiCdbLength then
          some request.pData else none)
      else none
  | pending, .readPipeTO _ _ _ _, _ =>
      if ∃ block ∈ pending, FetchesData block then some none else none
  | pending, .writePipeTO _ buffer _ _, _ =>
      if selects = true ∧ (∃ block ∈ pending, SelectsTemporarily block) ∧
        IsParameterList buffer.toList then some none
      else none
  | pending, _, _ => some pending

/-- A harmless block may go out, and is pending if the device took all of it. -/
theorem usbWire_control {interfaceNumber : UInt8} {cdb : CommandBlock} {timeoutMs : ℕ}
    (pending : PendingBlock) (control : ControlReply) (h : IsHarmless selects cdb) :
    usbWire selects pending
        (.controlRequestTO 0 ((cbiBuildAdsc interfaceNumber cdb).devRequest timeoutMs)) control =
      some (if control.result = kIOReturnSuccess ∧ control.wLenDone.toNat = cbiCdbLength then
        some cdb else none) :=
  if_pos ⟨rfl, isAdsc_devRequest _ _ _, h⟩

/-- Other calls keep what is pending. -/
theorem usbWire_of_not_transfer (pending : PendingBlock) (call : IoUsbCall)
    (reply : IoUsbReply call) (h : ¬call.IsTransfer) :
    usbWire selects pending call reply = some pending := by
  cases call <;> first | rfl | exact absurd trivial h

/-! ## The operations that move something -/

/-- What `mac_adsc` can do: at most one control request. -/
inductive AdscDone (m : MacState) (cdb : CommandBlock) (timeoutMs : ℕ) :
    List MacEvent → CbiIoStatus → Prop
  | refused {status : CbiIoStatus} (hfailed : status ≠ .ok) : AdscDone m cdb timeoutMs [] status
  | requested {control : ControlReply} {status : CbiIoStatus}
      (hstatus : status = .ok ↔
        control.result = kIOReturnSuccess ∧ control.wLenDone.toNat = cbiCdbLength) :
      AdscDone m cdb timeoutMs [⟨m, .controlRequestTO 0
        ((cbiBuildAdsc m.context.interfaceNumber cdb).devRequest timeoutMs), control⟩] status

/-- Every execution of `mac_adsc` is one of its cases. -/
theorem adscDone_of_exec {cdb : CommandBlock} {timeoutMs : ℕ} {detail : ErrorText}
    {reply : CbiReply} {t : List MacEvent}
    (h : Exec (macAdsc current cdb timeoutMs detail) m t reply m') :
    AdscDone m cdb timeoutMs t reply.status := by
  unfold macAdsc at h
  rw [exec_get_bind] at h
  cases hready : readyForAdsc current m.context cdb with
  | some refusal =>
    simp only [hready, exec_pure] at h
    obtain ⟨rfl, rfl, rfl⟩ := h
    exact .refused (by simp)
  | none =>
    simp only [hready, exec_call_bind, exec_ite, exec_updateContext_bind, exec_pure] at h
    obtain ⟨control, t', h, rfl⟩ := h
    rcases h with ⟨hfailed, h⟩ | ⟨hok, h⟩
    · have hnot : mapIoReturn control.result = .ok ↔
          control.result = kIOReturnSuccess ∧ control.wLenDone.toNat = cbiCdbLength :=
        iff_of_false (fun hok => hfailed (mapIoReturn_eq_ok_iff.1 hok)) fun hok => hfailed hok.1
      rcases h with ⟨-, rfl, rfl, rfl⟩ | ⟨-, rfl, rfl, rfl⟩ <;> exact .requested hnot
    · rcases h with ⟨hshort, rfl, rfl, rfl⟩ | ⟨hlength, rfl, rfl, rfl⟩
      · exact .requested (iff_of_false (by simp) fun hok => hshort hok.2)
      · exact .requested (iff_of_true rfl ⟨of_not_not hok, of_not_not hlength⟩)

/-- The end of a bulk transfer at most clears the pipe. -/
theorem bulkResult_clears {pipe : UInt8} {name resynchronize : String} {result : IOReturn}
    {detail text : ErrorText} {t : List MacEvent}
    (h : Exec (bulkResult pipe name resynchronize result detail) m t text m') :
    ∀ e ∈ t, ¬e.call.IsTransfer := by
  intro e he
  have honly : Only (∃ pipe, · = IoUsbCall.clearPipeStallBothEnds pipe)
      (bulkResult pipe name resynchronize result detail) :=
    bulkResult_only (fun pipe => ⟨pipe, rfl⟩) pipe name resynchronize result
  obtain ⟨pipe, hcall⟩ := honly h e he
  rw [hcall]
  exact id

/-- What `mac_bulk_in` can do: at most one transfer, whose bytes are those of the reply. -/
inductive ReadDone {n : ℕ} (m : MacState) (buffer : Vector UInt8 n) (timeoutMs : ℕ) :
    List MacEvent → BulkInReply n → Prop
  | refused {reply : BulkInReply n} (hfailed : reply.status ≠ .ok) :
      ReadDone m buffer timeoutMs [] reply
  | read {read : ReadPipeReply n} {t : List MacEvent} {reply : BulkInReply n}
      (hclears : ∀ e ∈ t, ¬e.call.IsTransfer)
      (hstatus : reply.status = .ok ↔ read.result = kIOReturnSuccess)
      (hbuffer : reply.buffer = read.buffer)
      (htransferred : reply.status = .ok → reply.transferred = read.length.toNat) :
      ReadDone m buffer timeoutMs
        (⟨m, .readPipeTO m.context.bulkInPipe buffer timeoutMs timeoutMs, read⟩ :: t) reply

/-- Every execution of `mac_bulk_in` is one of its cases. -/
theorem readDone_of_exec {n : ℕ} {buffer : Vector UInt8 n} {timeoutMs : ℕ} {detail : ErrorText}
    {reply : BulkInReply n} {t : List MacEvent}
    (h : Exec (macBulkIn current buffer timeoutMs detail) m t reply m') :
    ReadDone m buffer timeoutMs t reply := by
  unfold macBulkIn at h
  simp only [exec_get_bind, exec_call_bind, exec_ite, exec_pure] at h
  rcases h with ⟨-, rfl, rfl, rfl⟩ | ⟨-, h⟩
  · exact .refused (by simp)
  rcases h with ⟨-, rfl, rfl, rfl⟩ | ⟨-, read, t', h, rfl⟩
  · exact .refused (by simp)
  rw [exec_bind] at h
  obtain ⟨t₁, text, m₁, t₂, hresult, h, rfl⟩ := h
  obtain ⟨rfl, rfl, rfl⟩ := exec_pure.1 h
  rw [List.append_nil]
  refine .read (bulkResult_clears hresult) mapIoReturn_eq_ok_iff rfl fun hok => ?_
  exact if_pos (mapIoReturn_eq_ok_iff.1 hok)

/-- What `mac_bulk_out` can do: at most one transfer of the buffer. -/
inductive WriteDone {n : ℕ} (m : MacState) (buffer : Vector UInt8 n) (timeoutMs : ℕ) :
    List MacEvent → CbiIoStatus → Prop
  | refused {status : CbiIoStatus} (hfailed : status ≠ .ok) :
      WriteDone m buffer timeoutMs [] status
  | write {result : IOReturn} {t : List MacEvent} (hclears : ∀ e ∈ t, ¬e.call.IsTransfer) :
      WriteDone m buffer timeoutMs
        (⟨m, .writePipeTO m.context.bulkOutPipe buffer timeoutMs timeoutMs, result⟩ :: t)
        (mapIoReturn result)

/-- Every execution of `mac_bulk_out` is one of its cases. -/
theorem writeDone_of_exec {n : ℕ} {buffer : Vector UInt8 n} {timeoutMs : ℕ} {detail : ErrorText}
    {reply : BulkOutReply} {t : List MacEvent}
    (h : Exec (macBulkOut current buffer timeoutMs detail) m t reply m') :
    WriteDone m buffer timeoutMs t reply.status := by
  unfold macBulkOut at h
  simp only [exec_get_bind, exec_call_bind, exec_ite, exec_pure] at h
  rcases h with ⟨-, rfl, rfl, rfl⟩ | ⟨-, h⟩
  · exact .refused (by simp)
  rcases h with ⟨-, rfl, rfl, rfl⟩ | ⟨-, result, t', h, rfl⟩
  · exact .refused (by simp)
  rw [exec_bind] at h
  obtain ⟨t₁, text, m₁, t₂, hresult, h, rfl⟩ := h
  obtain ⟨rfl, rfl, rfl⟩ := exec_pure.1 h
  rw [List.append_nil]
  exact .write (bulkResult_clears hresult)

/-- The other operations move nothing. -/
theorem CbiIoOp.Makes.not_isTransfer {op : CbiIoOp} {call : IoUsbCall} (h : op.Makes call)
    (hadsc : op ≠ .adsc) (hbulk : ¬op.IsBulk) : ¬call.IsTransfer := by
  intro htransfer
  cases h with
  | control => exact hadsc rfl
  | read => exact hbulk (.inl rfl)
  | write => exact hbulk (.inr rfl)
  | inspection h | closeDrain h | interruptDrain h | prepareDrain h =>
    cases call <;> first | exact h | exact htransfer
  | _ => exact htransfer

/-- A trace without transfers keeps what is pending. -/
theorem run_usbWire_of_not_transfer {t : List MacEvent} (h : ∀ e ∈ t, ¬e.call.IsTransfer)
    (pending : PendingBlock) : (usbWire selects).run pending t = some pending :=
  Monitor.run_eq_of_forall fun e he => usbWire_of_not_transfer pending e.call e.reply (h e he)

/-- What is pending at the adapter interface is pending on the wire. -/
def PendingOnWire (pending : PendingBlock) (_ : MacState) (onWire : PendingBlock) : Prop :=
  ∀ block ∈ pending, block ∈ onWire

/-- Where nothing is pending above, anything may be pending on the wire. -/
theorem pendingOnWire_none {onWire : PendingBlock} : PendingOnWire none m onWire :=
  fun _ hblock => (Option.not_mem_none _ hblock).elim

/-- The adapter passes on what the engine asks for, and refuses or drops some of it. -/
theorem macIo_keepsWire :
    Obeys (macIo current) (adapterWire selects) (usbWire selects) PendingOnWire := by
  intro call pending pending₁ onWire m inner reply m' hpending hstep hexec
  -- all other operations neither pass a block nor move data
  have hidle {t : List MacEvent} (hcall : call.op ≠ .adsc) (hbulk : ¬call.op.IsBulk)
      (hexec : Exec (macIo current call) m t reply m') :
      ∃ onWire', (usbWire selects).run onWire t = some onWire' ∧
        PendingOnWire pending₁ m' onWire' := by
    have hnone : adapterWire selects pending call reply = some none :=
      adapterWire_of_op (e := ⟨{}, call, reply⟩) hcall hbulk
    obtain rfl := Option.some.inj (hstep.symm.trans hnone)
    exact ⟨onWire, run_usbWire_of_not_transfer
      (fun e he => (macIo_makes call hexec e he).not_isTransfer hcall hbulk) onWire,
      pendingOnWire_none⟩
  cases call with
  | adsc cdb timeoutMs detail =>
    simp only [adapterWire, Option.ite_none_right_eq_some, Option.some.injEq] at hstep
    obtain ⟨hharmless, rfl⟩ := hstep
    have hdone := adscDone_of_exec hexec
    generalize reply.status = status at hdone ⊢
    cases hdone with
    | refused hfailed => exact ⟨onWire, rfl, by rw [if_neg hfailed]; exact pendingOnWire_none⟩
    | @requested control status hstatus =>
      refine ⟨if status = .ok then some cdb else none, ?_, fun block hblock => hblock⟩
      rw [Monitor.run_cons, usbWire_control onWire control hharmless, Option.bind_some]
      simp only [hstatus, Monitor.run_nil]
  | bulkIn buffer timeoutMs detail =>
    simp only [adapterWire, Option.ite_none_right_eq_some, Option.some.injEq] at hstep
    obtain ⟨⟨block, hblock, hfetches⟩, rfl⟩ := hstep
    have hdone := readDone_of_exec hexec
    cases hdone with
    | refused => exact ⟨onWire, rfl, pendingOnWire_none⟩
    | read hclears =>
      refine ⟨none, ?_, pendingOnWire_none⟩
      -- what is pending at the adapter is pending on the wire, so the read has its block
      have hwire : ∃ block ∈ onWire, FetchesData block := ⟨block, hpending block hblock, hfetches⟩
      rw [Monitor.run_cons]
      simp only [usbWire, if_pos hwire, Option.bind_some]
      exact run_usbWire_of_not_transfer hclears none
  | bulkOut buffer timeoutMs detail =>
    simp only [adapterWire, Option.ite_none_right_eq_some, Option.some.injEq] at hstep
    obtain ⟨⟨hselects, ⟨block, hblock, hselect⟩, hlist⟩, rfl⟩ := hstep
    have hdone := writeDone_of_exec hexec
    generalize reply.status = status at hdone
    cases hdone with
    | refused => exact ⟨onWire, rfl, pendingOnWire_none⟩
    | write hclears =>
      refine ⟨none, ?_, pendingOnWire_none⟩
      have hwire : selects = true ∧ (∃ block ∈ onWire, SelectsTemporarily block) ∧
          IsParameterList buffer.toList :=
        ⟨hselects, ⟨block, hpending block hblock, hselect⟩, hlist⟩
      rw [Monitor.run_cons]
      simp only [usbWire, if_pos hwire, Option.bind_some]
      exact run_usbWire_of_not_transfer hclears none
  | openSeize | close | interruptInWithDeadline | clearStall | prepareCommandBlockReset
  | finishCommandBlockReset =>
    exact hidle (by simp [CbiIoCall.op]) (by simp [CbiIoCall.op, CbiIoOp.IsBulk]) hexec

/-! ## Clients -/

/-- Without `selects`, a client asks for no command that sends data. -/
def commandGate (selects : Bool) : Monitor ClientReply Unit
  | _, .transport ⟨_, .execute command⟩, _ =>
      if command.direction = .dataOut → selects = true then some () else none
  | _, _, _ => some ()

section Clients

variable {l : List EngineEvent} {t : List SystemEvent}

/-- What follows the protocol of the adapter follows that of the wire. -/
theorem wire_of_served (hserved : Served (macIo current) m l t m') (hsafe : WireSafe selects l)
    (onWire : PendingBlock) : ∃ onWire', (usbWire selects).run onWire t = some onWire' := by
  obtain ⟨pending, hrun⟩ := hsafe none
  obtain ⟨onWire', hwire, -⟩ := macIo_keepsWire.served hserved hrun (v := onWire) nofun
  exact ⟨onWire', hwire⟩

/-- The destruction of the engine follows the protocol of the adapter. -/
theorem CbiDestroyed.wire (h : CbiDestroyed c l c') : WireSafe selects l := by
  cases h <;> exact wireSafe_of_seizure (by simp [CbiIoCall.op])

/-- Closing moves nothing. -/
theorem Shut.not_transfer {status : CbiIoStatus} {inner : List MacEvent}
    (h : Shut current m inner status m') : ∀ e ∈ inner, ¬e.call.IsTransfer :=
  h.closed.2.2

/-- Both layers keep the wire protocol under every client, and send data only for clients that
may ask for it. -/
theorem macClient_keepsWire :
    Obeys macClient (commandGate selects) (usbWire selects) (fun _ _ _ => True) := by
  intro call _ _ onWire s inner reply s' _ hstep hexec
  suffices hrun : ∃ onWire', (usbWire selects).run onWire inner = some onWire' by
    obtain ⟨onWire', hrun⟩ := hrun
    exact ⟨onWire', hrun, trivial⟩
  cases call with
  | destroy thread detail ignored =>
    -- the engine first closes what it holds, and the adapter then closes what is still open
    obtain ⟨-, l, t₁, inner, m₁, hdestroyed, hserved, rfl, status, m₂, hshut⟩ := ended_of_exec hexec
    obtain ⟨onWire', hrun⟩ := wire_of_served hserved hdestroyed.wire onWire
    refine ⟨onWire', Monitor.run_append_of_some hrun ?_⟩
    rw [Monitor.run_below]
    exact run_usbWire_of_not_transfer hshut.not_transfer onWire'
  | transport call =>
    obtain ⟨thread, call⟩ := call
    obtain ⟨c, m⟩ := s
    obtain ⟨c', m'⟩ := s'
    obtain ⟨l, hengine, hserved⟩ := exec_atop.1 hexec
    refine wire_of_served hserved ?_ onWire
    cases call with
    | acquireExclusive detail => exact (acquired_of_exec hengine).wire
    | releaseExclusive detail => exact (closed_of_exec hengine).wire
    | execute command =>
      refine (executed_of_exec hengine).wire ?_
      simp only [commandGate, Option.ite_none_right_eq_some] at hstep
      exact hstep.1

/-- In every session of every client, what a device sees is the wire protocol. -/
theorem macClient_wire (session : ClientSession) :
    ∃ pending, (usbWire true).run none session.trace = some pending := by
  have hclient : (commandGate true).run () (session.calls.map Handled.event) = some () := by
    refine Monitor.run_eq_of_forall fun e _ => ?_
    obtain ⟨s, call, reply⟩ := e
    cases call with
    | destroy => rfl
    | transport call =>
      obtain ⟨thread, call⟩ := call
      cases call with
      | execute => exact if_pos fun _ => rfl
      | acquireExclusive | releaseExclusive => rfl
  obtain ⟨pending, hrun, -⟩ := macClient_keepsWire.chain session.chain hclient trivial
  exact ⟨pending, hrun⟩

end Clients

end M65
