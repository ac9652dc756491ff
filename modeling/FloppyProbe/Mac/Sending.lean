import FloppyProbe.Interaction.Recorder
import FloppyProbe.Mac.Wire
import FloppyProbe.Probe.OverCbi
import FloppyProbe.Probe.Sending

/-!
# Data that go out at IOUSBLib

`usbSends` reads off a trace of IOUSBLib the data that were written to the device. A call of the
transport writes the data of its command, once, or nothing (`macClient_sends`), and the data of a
good command for certain (`macTransport_sendsGood`).
-/

namespace M65

open Interaction

variable {m m' : MacState} {c c' : CbiContext} {thread : RunLoopRef} {command : Command}

/-! ## Sent data -/

/-- The data that a trace wrote. -/
def usbSends : Recorder IoUsbReply Unit (List UInt8)
  | _, .writePipeTO _ buffer _ _, _ => ((), [buffer.toList])
  | _, _, _ => ((), [])

/-- What a call of a client has to write. -/
def ClientCall.sends : ClientCall → List (List UInt8)
  | .transport call => call.call.sends
  | .destroy _ _ _ => []

/-! ## The engine -/

section Engine

variable {n : ℕ} {t : List EngineEvent}

/-- Where no event writes, nothing is sent. -/
theorem filterMap_sentData_eq_nil (h : ∀ e ∈ t, sentData e = none) : t.filterMap sentData = [] :=
  List.filterMap_eq_nil_iff.2 h

/-- An exchange sends its buffer at most once. -/
theorem Exchanged.sends_sublist {cdb : Vector UInt8 cbiCdbLength} {buffer : Vector UInt8 n}
    {out : ExchangeReply n} (h : Exchanged cdb .dataOut buffer c t out c') :
    (t.filterMap sentData).Sublist [buffer.toList] := by
  obtain ⟨timeoutMs, detail, accepted, moved, tail, rfl, hmoved, htail⟩ := h.shape
  have hnone : tail.filterMap sentData = [] := filterMap_sentData_eq_nil fun e he => by
    rcases htail e he with hop | hop <;> exact M65.sentData_eq_none (by simp [hop])
  show ((moved ++ tail).filterMap sentData).Sublist [buffer.toList]
  rw [List.filterMap_append, hnone, List.append_nil]
  rcases hmoved with rfl | ⟨data, hmoved⟩
  · exact List.nil_sublist _
  · cases hmoved with
    | none => exact List.nil_sublist _
    | dataIn hdirection => cases hdirection
    | dataOut => exact .refl _

/-- A command sends its data at most once, and nothing else. -/
theorem Executed.sends_sublist {out : ExecuteReply command.dataLength}
    (h : Executed command c t out c') : (t.filterMap sentData).Sublist command.sends := by
  by_cases hdirection : command.direction = .dataOut
  · rw [Command.sends, if_pos hdirection]
    have hrecovery {t : List EngineEvent} {c₁ : CbiContext} {recovery : CbiReply}
        (h : Recovered c t recovery c₁) : t.filterMap sentData = [] :=
      filterMap_sentData_eq_nil h.sentData_eq_none
    cases h with
    | refused => exact List.nil_sublist _
    | unrecovered _ hrecovered => rw [hrecovery hrecovered]; exact List.nil_sublist _
    -- a command with outgoing data is no REQUEST SENSE
    | sense haccepted _ _ hopcode =>
      obtain ⟨-, -, hselect⟩ := refuseCommand_eq_none haccepted
      rw [hselect hdirection] at hopcode
      cases hopcode
    | command _ hrecovered _ _ hexecuted =>
      rw [List.filterMap_append, hrecovery hrecovered, List.nil_append]
      rw [hdirection] at hexecuted
      cases hexecuted with
      | failed hexchanged => exact hexchanged.sends_sublist
      | unsensed hexchanged _ hfetched | rejected hexchanged _ hfetched
      | answered hexchanged _ hfetched =>
        rw [List.filterMap_append, filterMap_sentData_eq_nil hfetched.sentData_eq_none,
          List.append_nil]
        exact hexchanged.sends_sublist
  · rw [filterMap_sentData_eq_nil (h.sentData_eq_none hdirection)]
    exact List.nil_sublist _

/-- The engine writes no more than its call asks for. -/
theorem sends_sublist_of_exec {call : TransportCall} {reply : TransportReply call}
    (h : Exec (cbiTransport call) c t reply c') : (t.filterMap sentData).Sublist call.sends := by
  cases call with
  | execute command => exact (executed_of_exec h).sends_sublist
  | acquireExclusive | releaseExclusive =>
    rw [filterMap_sentData_eq_nil (sentData_eq_none_of_sendsNothing ⟨_, _, _, _, _, h⟩ trivial)]
    exact List.nil_sublist _

/-- The destruction of the engine writes nothing. -/
theorem CbiDestroyed.sends_eq_nil (h : CbiDestroyed c t c') : t.filterMap sentData = [] := by
  cases h <;> rfl

end Engine

/-! ## The adapter -/

section Adapter

/-- Calls other than transfers write nothing. -/
theorem silent_of_not_transfer {t : List MacEvent} (h : ∀ e ∈ t, ¬e.call.IsTransfer) :
    usbSends.Silent t := by
  intro e he q
  have hcall := h e he
  obtain ⟨s, call, reply⟩ := e
  cases call with
  | writePipeTO => exact absurd trivial hcall
  | _ => rfl

/-- Only a bulk-out operation writes. -/
theorem silent_of_makes {op : CbiIoOp} {t : List MacEvent} (h : ∀ e ∈ t, op.Makes e.call)
    (hop : op ≠ .bulkOut) : usbSends.Silent t := by
  intro e he q
  have hmakes := h e he
  obtain ⟨s, call, reply⟩ := e
  cases call with
  | writePipeTO =>
    cases hmakes with
    | write => exact absurd rfl hop
    | inspection h | closeDrain h | interruptDrain h | prepareDrain h => exact h.elim
  | _ => rfl

/-- A bulk-out operation writes its buffer once, or nothing. -/
theorem WriteDone.entries {n : ℕ} {buffer : Vector UInt8 n} {timeoutMs : ℕ} {status : CbiIoStatus}
    {t : List MacEvent} (h : WriteDone m buffer timeoutMs t status) (q : Unit) :
    (usbSends.entries q t).Sublist [buffer.toList] := by
  cases h with
  | refused => exact List.nil_sublist _
  | write hclears =>
    rw [Recorder.entries_cons, (silent_of_not_transfer hclears).entries]
    exact .refl _

/-- A write that succeeded is on the wire. -/
theorem WriteDone.entries_of_ok {n : ℕ} {buffer : Vector UInt8 n} {timeoutMs : ℕ}
    {status : CbiIoStatus} {t : List MacEvent} (h : WriteDone m buffer timeoutMs t status)
    (hok : status = .ok) (q : Unit) : usbSends.entries q t = [buffer.toList] := by
  cases h with
  | refused hfailed => exact absurd hok hfailed
  | write hclears =>
    rw [Recorder.entries_cons, (silent_of_not_transfer hclears).entries]
    rfl

/-- The adapter writes what the engine sends, or nothing. -/
theorem macIo_sends {e : EngineEvent} {inner : List MacEvent}
    (h : Exec (macIo thread e.call) m inner e.reply m') (q : Unit) :
    (usbSends.entries q inner).Sublist (sentData e).toList := by
  obtain ⟨s, call, reply⟩ := e
  have hidle (hop : call.op ≠ .bulkOut) :
      (usbSends.entries q inner).Sublist (sentData ⟨s, call, reply⟩).toList := by
    rw [(silent_of_makes (macIo_makes call h) hop).entries]
    exact List.nil_sublist _
  cases call with
  | bulkOut buffer timeoutMs detail => exact (writeDone_of_exec h).entries q
  | _ => exact hidle (by simp [CbiIoCall.op])

/-- On the wire are only data that the engine wrote. -/
theorem entries_sublist_of_served {l : List EngineEvent} {t : List SystemEvent}
    (hserved : Served (macIo thread) m l t m') (q : Unit) :
    (usbSends.entries q t).Sublist (l.filterMap sentData) := by
  rw [List.filterMap_eq_flatMap_toList]
  exact hserved.entries_sublist (fun e _ _ _ hexec => macIo_sends hexec) q

end Adapter

/-! ## Clients -/

section Clients

variable {s s' : SystemState} {t : List SystemEvent}

/-- A call of a client writes the data of its command, or nothing. -/
theorem macClient_sends {call : ClientCall} {reply : ClientReply call}
    (h : Exec (macClient call) s t reply s') (q : Unit) :
    (usbSends.entries q t).Sublist call.sends := by
  cases call with
  | transport call =>
    obtain ⟨l, hengine, hserved⟩ := exec_atop.1 h
    exact (entries_sublist_of_served hserved q).trans (sends_sublist_of_exec hengine)
  | destroy thread detail ignored =>
    obtain ⟨-, l, t₁, inner, m₁, hdestroyed, hserved, rfl, status, m₂, hshut⟩ := ended_of_exec h
    have hfirst := entries_sublist_of_served hserved q
    rw [hdestroyed.sends_eq_nil] at hfirst
    rw [Recorder.entries_append, Recorder.entries_below,
      (silent_of_not_transfer hshut.not_transfer).entries, List.append_nil]
    exact hfirst

/-- The data of a good command were written. -/
theorem macTransport_sendsGood {reply : ExecuteReply command.dataLength}
    (h : Exec (macTransport ⟨thread, .execute command⟩) s t reply s') (q : Unit) :
    (command.sendsGood reply).Sublist (usbSends.entries q t) := by
  unfold Command.sendsGood Command.sends
  split
  case isFalse => exact List.nil_sublist _
  case isTrue hgood =>
    split
    case isFalse => exact List.nil_sublist _
    case isTrue hdirection =>
      obtain ⟨l, hengine, hserved⟩ := exec_atop.1 h
      -- the last exchange of the command wrote the data, with a good status
      obtain ⟨u, sent, v, rfl, hsent, -⟩ :=
        (executed_of_exec hengine).lastSentWell hdirection hgood
      obtain ⟨t₁, m₁, t₂, -, hserved₁, rfl⟩ := hserved.of_append
      obtain ⟨t₃, m₂, t₄, hserved₂, -, rfl⟩ := hserved₁.of_append
      rw [Recorder.entries_append, Recorder.entries_append]
      refine .trans ?_ (List.sublist_append_right _ _)
      refine .trans ?_ (List.sublist_append_left _ _)
      cases hsent with
      | intro hdata hout =>
        cases hserved₂ with
        | cons hwrite =>
          rw [Recorder.entries_append, Recorder.entries_below,
            (writeDone_of_exec hwrite).entries_of_ok hout, hdata]
          exact List.sublist_append_left _ _

end Clients

end M65
