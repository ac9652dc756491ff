import FloppyProbe.Interaction.Recorder
import FloppyProbe.Mac.Wire
import FloppyProbe.Probe.Delivery

/-!
# Deliveries at IOUSBLib

`usbDeliveries` reads off a trace of IOUSBLib which data came in for which command block: the bytes
of each bulk transfer, with the block that was accepted before it. The data that the transport
returns for a good command are such a delivery for the block of this command
(`macTransport_delivers`).
-/

namespace M65

open Interaction

variable {m m' : MacState} {c c' : CbiContext} {thread : RunLoopRef} {command : Command}

/-! ## Deliveries -/

/-- The deliveries of a trace; what is pending is the accepted block without a transfer. -/
def usbDeliveries : Recorder IoUsbReply PendingBlock Delivery
  | _, .controlRequestTO _ request, reply =>
      (if reply.result = kIOReturnSuccess ∧ reply.wLenDone.toNat = cbiCdbLength then
        some request.pData else none, [])
  | pending, .readPipeTO _ _ _ _, reply =>
      (none, if reply.result = kIOReturnSuccess then
        pending.toList.map fun block => ⟨block, reply.buffer.toList.take reply.length.toNat⟩
      else [])
  | _, .writePipeTO _ _ _ _, _ => (none, [])
  | pending, _, _ => (pending, [])

/-! ## The engine -/

/-- The operations of a good command that fetched data: its block was accepted, and what was read
after it is what the command returns. -/
def FetchesFrom (command : Command) (t : List EngineEvent)
    (out : ExecuteReply command.dataLength) : Prop :=
  ∃ t₁ c₁ timeoutMs timeoutMs' detail detail' accepted data t₂,
    t = t₁ ++ ([⟨c₁, .adsc command.padded timeoutMs detail, accepted⟩] ++
      ([⟨c₁, .bulkIn command.buffer timeoutMs' detail', data⟩] ++ t₂)) ∧
    accepted.status = .ok ∧ data.status = .ok ∧ out.buffer = data.buffer ∧
      out.result.transferred = data.transferred

/-- A good command with incoming data fetched what it returns. -/
theorem Executed.fetchesFrom {t : List EngineEvent} {out : ExecuteReply command.dataLength}
    (h : Executed command c t out c') (hin : command.direction = .dataIn)
    (hgood : out.result.IsGood) : FetchesFrom command t out := by
  obtain ⟨hok, hscsi⟩ := hgood
  -- a completed exchange with data coming in consists of the block, the transfer and the interrupt
  have hcompleted {t₁ t₂ t₃ : List EngineEvent} {c₁ : CbiContext} {direction : DataDirection}
      {data : BulkInReply command.dataLength} {completion : Vector UInt8 cbiStatusLength}
      (hdirection : direction = .dataIn)
      (hcompleted : ExchangeCompleted command.padded direction command.buffer c₁ t₂ data
        completion) (hbuffer : out.buffer = data.buffer)
      (htransferred : out.result.transferred = data.transferred) :
      FetchesFrom command (t₁ ++ (t₂ ++ t₃)) out := by
    obtain ⟨⟨timeoutMs, detail, detail', accepted, moved, old, interrupt, rfl, haccepted, hmoved,
      -, -, -⟩, hdata, -⟩ := hcompleted
    cases hmoved with
    | none hdirection' => exact absurd (hdirection'.symm.trans hdirection) nofun
    | dataOut hdirection' => exact absurd (hdirection'.symm.trans hdirection) nofun
    | @dataIn timeoutMs' detail₁ =>
      exact ⟨t₁, c₁, timeoutMs, timeoutMs', detail, detail₁, accepted, data,
        [⟨c₁, .interruptInWithDeadline old timeoutMs detail', interrupt⟩] ++ t₃, by simp,
        haccepted, hdata, hbuffer, htransferred⟩
  cases h with
  | refused _ hstatus => simp [hstatus] at hok
  | unrecovered _ _ hfailed hstatus =>
    rw [hok, eq_comm, mapIoStatus_eq_ok_iff] at hstatus
    exact absurd hstatus hfailed
  | @sense t₁ _ _ _ _ _ _ _ _ _ hexecuted =>
    cases hexecuted with
    | failed _ hfailed hstatus =>
      rw [hok, eq_comm, mapIoStatus_eq_ok_iff] at hstatus
      exact absurd hstatus hfailed
    | rejected _ _ hstatus => simp [hstatus] at hok
    | answered hexchanged hexchangeOk hblock hunstalled htransferred _ hbuffer =>
      obtain ⟨data, hdone, hcount, hdata⟩ :=
        hexchanged.completed_of_ok hexchangeOk hblock hunstalled
      have hfetches : FetchesFrom command (t₁ ++ (_ ++ [])) out :=
        hcompleted rfl hdone (hbuffer.trans hdata) (htransferred.trans hcount)
      rwa [List.append_nil] at hfetches
  | command _ _ _ _ hexecuted =>
    cases hexecuted with
    | failed _ hfailed hstatus =>
      rw [hok, eq_comm, mapIoStatus_eq_ok_iff] at hstatus
      exact absurd hstatus hfailed
    | unsensed _ _ _ hfailed hstatus => exact absurd (hstatus.symm.trans hok) hfailed
    | rejected _ _ _ _ hstatus => simp [hstatus] at hok
    | answered hexchanged hexchangeOk _ _ _ _ _ htransferred hbuffer _ hgood =>
      obtain ⟨hblock, hunstalled, -⟩ := hgood.1 hscsi
      obtain ⟨data, hdone, hcount, hdata⟩ :=
        hexchanged.completed_of_ok hexchangeOk hblock hunstalled
      exact hcompleted hin hdone (hbuffer.trans hdata) (htransferred.trans hcount)

/-! ## The adapter -/

section Adapter

variable {t : List MacEvent} {pending : PendingBlock}

/-- An accepted block is pending. -/
theorem AdscDone.leavesPending {cdb : CommandBlock} {timeoutMs : ℕ} {status : CbiIoStatus}
    (h : AdscDone m cdb timeoutMs t status) (hok : status = .ok) :
    usbDeliveries.after pending t = some cdb := by
  cases h with
  | refused hfailed => exact absurd hok hfailed
  | requested hstatus =>
    rw [Recorder.after, Recorder.after, usbDeliveries, if_pos (hstatus.1 hok)]
    rfl

/-- The transfer after it is a delivery. -/
theorem ReadDone.delivers {n : ℕ} {buffer : Vector UInt8 n} {timeoutMs : ℕ}
    {reply : BulkInReply n} {cdb : CommandBlock} (h : ReadDone m buffer timeoutMs t reply)
    (hok : reply.status = .ok) :
    ⟨cdb, reply.buffer.toList.take reply.transferred⟩ ∈ usbDeliveries.entries (some cdb) t := by
  cases h with
  | refused hfailed => exact absurd hok hfailed
  | read _ hstatus hbuffer htransferred =>
    rw [Recorder.entries_cons, List.mem_append, usbDeliveries, if_pos (hstatus.1 hok), hbuffer,
      htransferred hok]
    exact .inl (List.mem_singleton_self _)

end Adapter

/-- What a good command returns is among the deliveries of the USB trace. -/
theorem FetchesFrom.delivers {l : List EngineEvent} {t : List SystemEvent}
    {out : ExecuteReply command.dataLength} (h : FetchesFrom command l out)
    (hserved : Served (macIo thread) m l t m') (pending : PendingBlock) :
    ⟨command.padded, out.buffer.toList.take out.result.transferred⟩ ∈
      usbDeliveries.entries pending t := by
  obtain ⟨t₁, c₁, timeoutMs, timeoutMs', detail, detail', accepted, data, t₂, rfl, haccepted, hdata,
    hbuffer, htransferred⟩ := h
  obtain ⟨u₁, m₁, v₁, -, hserved₁, rfl⟩ := hserved.of_append
  obtain ⟨u₂, m₂, v₂, hadsc, hserved₂, rfl⟩ := hserved₁.of_append
  obtain ⟨u₃, m₃, v₃, hread, -, rfl⟩ := hserved₂.of_append
  obtain ⟨inner, hblock, rfl⟩ := hadsc.singleton
  obtain ⟨inner', htransfer, rfl⟩ := hread.singleton
  rw [Recorder.entries_append, Recorder.entries_append, Recorder.entries_append,
    Recorder.after_below, (adscDone_of_exec hblock).leavesPending haccepted, hbuffer, htransferred]
  refine List.mem_append_right _ (List.mem_append_right _ (List.mem_append_left _ ?_))
  rw [Recorder.entries_below]
  exact (readDone_of_exec htransfer).delivers hdata

/-- What the transport returns for a good command was delivered for its block. -/
theorem macTransport_delivers {s s' : SystemState} {t : List SystemEvent}
    {reply : ExecuteReply command.dataLength}
    (h : Exec (macTransport ⟨thread, .execute command⟩) s t reply s') (pending : PendingBlock) :
    (command.delivery reply).Sublist (usbDeliveries.entries pending t) := by
  unfold Command.delivery
  split
  next hdelivered =>
    obtain ⟨l, hengine, hserved⟩ := exec_atop.1 h
    exact List.singleton_sublist.2 (((executed_of_exec hengine).fetchesFrom hdelivered.1
      hdelivered.2).delivers hserved pending)
  · exact List.nil_sublist _

end M65
