import FloppyProbe.Probe.Calls
import FloppyProbe.Probe.Changeability
import FloppyProbe.Probe.Delivery
import FloppyProbe.Probe.Verdict

/-!
# What a workflow sends

The data that the commands of a workflow have for the device. An inspection has none. A test has at
most two parameter lists, and it makes both of the page that the device delivered.

* `sendsOf_inspect`: an inspection sends nothing;
* `test1581_sends`: a test sends the saved page with the 1581 geometry, and then the saved page,
  each at most once;
* `test1581_sendsGood`: for the verdict SUPPORTED both were sent, with good commands.
-/

namespace M65

open Interaction

variable {s s' : Bool} {t : List WorkflowEvent} {report report' : Report1581}

/-! ## Data for the device -/

/-- The data that a command has for the device. -/
def Command.sends (command : Command) : List (List UInt8) :=
  if command.direction = .dataOut then [command.buffer.toList] else []

/-- The data that a call of the transport has to send. -/
def TransportCall.sends : TransportCall → List (List UInt8)
  | .execute command => command.sends
  | _ => []

/-- The data that a call of the workflow has to send. -/
def WorkflowCall.sends : WorkflowCall → List (List UInt8)
  | .transport call => call.sends
  | _ => []

/-- The data that a request has to send. -/
def Request.sends : Request → List (List UInt8)
  | .modeSelect page => [(modeSelectPayload page).toList]
  | _ => []

/-- The data of a good command. -/
def Command.sendsGood (command : Command) (reply : ExecuteReply command.dataLength) :
    List (List UInt8) :=
  if commandGood reply.result then command.sends else []

/-- The data that the commands of a trace have for the device. -/
def sendsOf (t : List WorkflowEvent) : List (List UInt8) := t.flatMap fun e => e.call.sends

/-- The data of the good commands of a trace. -/
def goodSendsOf (t : List WorkflowEvent) : List (List UInt8) :=
  (executions t).flatMap fun e => e.command.sendsGood e.reply

/-- The data of a trace are those of its commands. -/
theorem sendsOf_eq (t : List WorkflowEvent) :
    sendsOf t = (executions t).flatMap fun e => e.command.sends := by
  induction t with
  | nil => rfl
  | cons e t ih =>
    obtain ⟨s, call, reply⟩ := e
    rcases call with _ | _ | _ | (_ | command | _)
    case transport.execute => exact congrArg (command.sends ++ ·) ih
    all_goals exact ih

/-- The data of two traces come one after the other. -/
theorem sendsOf_append (t t' : List WorkflowEvent) :
    sendsOf (t ++ t') = sendsOf t ++ sendsOf t' := List.flatMap_append

/-- A command without outgoing data sends nothing. -/
theorem Command.sends_eq_nil {command : Command} (h : command.direction ≠ .dataOut) :
    command.sends = [] := if_neg h

/-- A command with the wire of a request sends the data of the request. -/
theorem sends_of_wire {command : Command} {request : Request}
    (hwire : command.wire = request.wire) : command.sends = request.sends := by
  have hdirection : command.direction = request.wire.direction := congrArg Wire.direction hwire
  cases request with
  | modeSense | read =>
    exact Command.sends_eq_nil
      (hdirection.trans_ne (show DataDirection.dataIn ≠ .dataOut by decide))
  | modeSelect page =>
    have hout : command.direction = .dataOut := hdirection
    have hbytes : command.bytes = (modeSelectPayload page).toList := by
      rw [← dataOut_wire hout, hwire, dataOut_modeSelect]
    cases hdata : command.data with
    | none =>
      have hnone : command.bytes = [] := by rw [Command.bytes, hdata]; rfl
      rw [hnone] at hbytes
      exact absurd (congrArg List.length hbytes) (by simp [modeSelectPayloadLength])
    | some data =>
      have hbuffer : command.buffer.toList = command.bytes := by
        simp [Command.bytes, Command.buffer, hdata]
      rw [Command.sends, if_pos hout, hbuffer, hbytes]
      rfl

/-- Commands that begin a list of requests send the first data of the list. -/
theorem sends_isPrefix {es : List Execution} {requests : List Request}
    (h : es.map (·.command.wire) <+: requests.map Request.wire) :
    es.flatMap (·.command.sends) <+: requests.flatMap Request.sends := by
  induction es generalizing requests with
  | nil => exact List.nil_prefix
  | cons e es ih =>
    cases requests with
    | nil => exact absurd (List.prefix_nil.1 h) (by simp)
    | cons request requests =>
      obtain ⟨hwire, hrest⟩ := List.cons_prefix_cons.1 h
      rw [List.flatMap_cons, List.flatMap_cons, sends_of_wire hwire]
      exact (List.prefix_append_right_inj _).2 (ih hrest)

/-- A trace sends a beginning of what its plan sends. -/
theorem sendsOf_of_follows {requests : List Request} {completed : Bool}
    (h : Follows stepOf Passed (requests.map Request.step) t completed) :
    sendsOf t <+: requests.flatMap Request.sends := by
  have hstart := h.labels_isPrefix.filterMap WorkflowStep.wire?
  rw [filterMap_wire_step, ← steps, ← executions_wire] at hstart
  rw [sendsOf_eq]
  exact sends_isPrefix hstart

/-- A trace that has data for the device has a step that sends some. -/
theorem exists_sendsData (h : sendsOf t ≠ []) : ∃ step ∈ steps t, step.SendsData = true := by
  rw [sendsOf_eq] at h
  obtain ⟨data, hdata⟩ := List.exists_mem_of_ne_nil _ h
  obtain ⟨e, he, hsends⟩ := List.mem_flatMap.1 hdata
  refine ⟨_, mem_steps_of_mem_executions he, ?_⟩
  by_cases hout : e.command.direction = .dataOut
  · exact decide_eq_true hout
  · rw [Command.sends_eq_nil hout] at hsends
    cases hsends

/-! ## Inspections -/

/-- Reads send nothing. -/
theorem permitsReads_sends : PermitsReads fun call => call.sends = [] where
  testInterrupt := rfl
  malloc := fun _ => rfl
  read := fun _ hdirection => Command.sends_eq_nil hdirection

/-- The acquisition and the release send nothing. -/
theorem permitsBracket_sends : PermitsBracket fun call => call.sends = [] where
  clearInterrupt := rfl
  acquire := fun _ => rfl
  release := fun _ => rfl

/-- An inspection sends nothing. -/
theorem sendsOf_inspect {report : InspectReport} (h : Exec inspect s t report s') :
    sendsOf t = [] :=
  List.flatMap_eq_nil_iff.2 (inspect_only permitsReads_sends permitsBracket_sends h)

/-! ## Tests -/

/-- The page in effect and the mask of its changeable bits came in, in this order. -/
def DeliversPages (deliveries : List Delivery) (saved mask : FlexibleDiskPage) : Prop :=
  ∃ current changeable parameters maskParameters, [current, changeable].Sublist deliveries ∧
    Delivery.Answers current (cdbModeSense10 false 256) parseModeParameters parameters ∧
    parameters.flexible = saved ∧
    Delivery.Answers changeable (cdbModeSense10 true 256) parseModeParameters maskParameters ∧
    maskParameters.flexible = mask

/-- The response to a MODE SENSE is a delivery. -/
theorem answers_of_senseParameters {e : Execution} {changeable : Bool} {parameters : ModeParameters}
    (hwire : e.command.wire = (Request.modeSense changeable).wire)
    (hgood : commandGood e.reply.result = true)
    (hparsed : senseParameters e.reply = .ok parameters) :
    e.command.delivery e.reply = [⟨e.command.padded, e.transferredBytes⟩] ∧
      Delivery.Answers ⟨e.command.padded, e.transferredBytes⟩ (cdbModeSense10 changeable 256)
        parseModeParameters parameters := by
  have hlength : e.command.dataLength = modeBufferSize := congrArg Wire.dataLength hwire
  unfold senseParameters at hparsed
  split at hparsed
  case isTrue => cases hparsed
  case isFalse hfits =>
    have hfits : e.reply.result.transferred ≤ e.command.dataLength :=
      (Nat.le_of_not_lt hfits).trans hlength.ge
    have hdelivers : e.Delivers parseModeParameters parameters :=
      (Execution.delivers_iff parseModeParameters_congr).2 ⟨hgood, hfits, hparsed⟩
    have hcommand :
        e.command.wire = (inputCommand (cdbModeSense10 changeable 256) modeBufferSize).wire := hwire
    exact hdelivers.answers hcommand

/-- Pages that were sensed came in. -/
theorem SensedPages.delivers {saved mask : FlexibleDiskPage} (h : SensedPages t saved mask) :
    DeliversPages (deliveriesOf t) saved mask := by
  obtain ⟨e₁, e₂, rest, mode, maskMode, hexecutions, hwire₁, hgood₁, hparsed₁, hsaved, hwire₂,
    hgood₂, hparsed₂, hmask⟩ := h
  obtain ⟨hdelivery₁, hanswers₁⟩ := answers_of_senseParameters hwire₁ hgood₁ hparsed₁
  obtain ⟨hdelivery₂, hanswers₂⟩ := answers_of_senseParameters hwire₂ hgood₂ hparsed₂
  refine ⟨_, _, mode, maskMode, ?_, hanswers₁, hsaved, hanswers₂, hmask⟩
  rw [deliveriesOf, hexecutions, List.flatMap_cons, List.flatMap_cons, hdelivery₁, hdelivery₂,
    ← List.append_assoc]
  exact List.sublist_append_left _ _

/-- The parameter lists that change the saved page and restore it. -/
def changeAndRestore (saved : FlexibleDiskPage) : List (List UInt8) :=
  [(modeSelectPayload (set1581Geometry saved)).toList, (modeSelectPayload saved).toList]

/-- The page and its mask came in, the mask permits the 1581 geometry, and what was sent changes
the page and restores it, each at most once. -/
structure SendsPages (deliveries : List Delivery) (sent : List (List UInt8))
    (saved mask : FlexibleDiskPage) : Prop where
  delivered : DeliversPages deliveries saved mask
  allowed : geometryChangesAllowed saved (set1581Geometry saved) mask = .ok ()
  sent : sent.Sublist (changeAndRestore saved)

/-- More may come in, and less may be sent. -/
theorem SendsPages.mono {deliveries deliveries' : List Delivery}
    {sent sent' : List (List UInt8)} {saved mask : FlexibleDiskPage}
    (h : SendsPages deliveries sent saved mask)
    (hdeliveries : deliveries.Sublist deliveries') (hsent : sent'.Sublist sent) :
    SendsPages deliveries' sent' saved mask := by
  obtain ⟨current, changeable, parameters, maskParameters, hpages, hanswers⟩ := h.delivered
  exact ⟨⟨current, changeable, parameters, maskParameters, hpages.trans hdeliveries, hanswers⟩,
    h.allowed, hsent.trans h.sent⟩

/-- The probe sends the requested page at most. -/
theorem Probed.sends_sublist {progress : Progress} (h : Probed report t progress) :
    (sendsOf t).Sublist [(modeSelectPayload progress.report.requested).toList] := by
  obtain ⟨completed, hfollows⟩ := h.follows
  have hprefix := sendsOf_of_follows hfollows
  have hreads : passRequests.flatMap Request.sends = [] := by
    rw [passRequests, List.flatMap_map]
    exact List.flatMap_eq_nil_iff.2 fun _ _ => rfl
  rw [workflowRequests, List.flatMap_append, List.flatMap_append, hreads] at hprefix
  exact hprefix.sublist

/-- The cleanup sends the saved page at most. -/
theorem Restored.sends_sublist {s₁ : Bool} {progress : Progress}
    (h : Restored progress s₁ t report) :
    (sendsOf t).Sublist [(modeSelectPayload progress.originalMode.flexible).toList] := by
  obtain ⟨completed, hfollows⟩ := h.follows
  have hfollows : Follows stepOf Passed
      ([Request.modeSelect progress.originalMode.flexible].map Request.step) t completed := hfollows
  exact (sendsOf_of_follows hfollows).sublist

/-- Without the need to restore, nothing was sent and nothing is. -/
theorem Probed.sends_eq_nil {progress : Progress} (h : Probed report t progress)
    (hneeded : progress.restoreNeeded = false) : sendsOf t = [] := by
  by_contra hsends
  obtain ⟨step, hmem, hstep⟩ := exists_sendsData hsends
  rw [(h.needed_of_select hmem hstep).1] at hneeded
  cases hneeded

/-- What is sent when a change was attempted. -/
theorem Probed.sendsPages {s₁ : Bool} {progress : Progress} {body cleanup : List WorkflowEvent}
    (hprobed : Probed report body progress) (hrestored : Restored progress s₁ cleanup report')
    (hneeded : progress.restoreNeeded = true)
    (ht : executions t = executions body ++ executions cleanup) :
    ∃ saved mask, SendsPages (deliveriesOf t) (sendsOf t) saved mask ∧
      changeAndRestore saved = [(modeSelectPayload progress.report.requested).toList,
        (modeSelectPayload progress.originalMode.flexible).toList] := by
  obtain ⟨saved, mask, hsensed, hnames, hallowed, horiginal⟩ := hprobed.named hneeded
  have hpages : changeAndRestore saved = [(modeSelectPayload progress.report.requested).toList,
      (modeSelectPayload progress.originalMode.flexible).toList] := by
    rw [changeAndRestore, hnames.payloads.2, horiginal]
  have hsensed : SensedPages t saved mask := hsensed.of_isPrefix (ht ▸ List.prefix_append _ _)
  refine ⟨saved, mask, ⟨hsensed.delivers, hallowed, ?_⟩, hpages⟩
  rw [hpages, sendsOf_eq, ht, ← executions_append, ← sendsOf_eq, sendsOf_append]
  exact hprobed.sends_sublist.append hrestored.sends_sublist

/-- A test sends nothing, or pages that follow from those that came in. -/
theorem test1581_sends {acknowledgement : Bool}
    (h : Exec (test1581 acknowledgement) s t report s') :
    sendsOf t = [] ∨ acknowledgement = true ∧
      ∃ saved mask, SendsPages (deliveriesOf t) (sendsOf t) saved mask := by
  cases tested_of_exec h with
  | unacknowledged | refused => exact .inl rfl
  | @acquired _ s₁ s₂ n detail reply releaseReply body cleanup progress report₁ _ hacquired hprobe
      hrestored hreleased =>
    have hprobed := probed_of_exec hprobe
    cases hneeded : progress.restoreNeeded with
    | false =>
      refine .inl ?_
      rw [sendsOf_eq, executions_acquired, List.flatMap_append, ← sendsOf_eq, ← sendsOf_eq,
        hprobed.sends_eq_nil hneeded, (hrestored.of_unneeded hneeded).1]
      rfl
    | true =>
      obtain ⟨saved, mask, hpages, -⟩ :=
        hprobed.sendsPages hrestored hneeded executions_acquired
      exact .inr ⟨rfl, saved, mask, hpages⟩

/-- A command that completed a MODE SELECT sent the page. -/
theorem Execution.Completes.sendsGood {e : Execution} {page : FlexibleDiskPage}
    (h : e.Completes (.modeSelect page)) :
    e.command.sendsGood e.reply = [(modeSelectPayload page).toList] := by
  have hgood : commandGood e.reply.result = true := (Bool.and_eq_true_iff.1 h.succeeded).1
  rw [Command.sendsGood, if_pos hgood, sends_of_wire h.sends]
  rfl

/-- A test with the verdict SUPPORTED sent the change and the restoration with good commands. -/
theorem test1581_sendsGood {acknowledgement : Bool}
    (h : Exec (test1581 acknowledgement) s t report s') (hstatus : report.status = .supported) :
    ∃ saved mask, SendsPages (deliveriesOf t) (sendsOf t) saved mask ∧
      (changeAndRestore saved).Sublist (goodSendsOf t) := by
  cases tested_of_exec h with
  | unacknowledged huntouched | refused _ huntouched =>
    exact absurd (huntouched.status_eq.symm.trans hstatus) (by decide)
  | @acquired _ s₁ s₂ n detail reply releaseReply body cleanup progress report₁ _ hacquired hprobe
      hrestored hreleased =>
    have hprobed := probed_of_exec hprobe
    obtain ⟨hok, -⟩ := hreleased.supported hstatus
    have hstatus₁ : report₁.status = .supported := (hreleased.status_eq hok).symm.trans hstatus
    obtain ⟨t₁, t₂, t₃, mode, mask, rfl, -, -, hfollows, hmatch, -, hneeded, hsaved⟩ :=
      hprobed.of_supported (by simp [Report1581.acquired])
        (hrestored.status_of_supported hstatus₁)
    obtain ⟨-, restore, hrestore, hrestored', -⟩ :=
      hrestored.of_supported hstatus₁ (by rw [hneeded, hsaved]; rfl)
    obtain ⟨-, select, readback, read9, read1599, parameters, hfound, -⟩ := hmatch
    obtain ⟨pass₁, pass₂, image, hexecutions, -⟩ := hfound.passes
    obtain ⟨hselect, -⟩ := completes_of_changePlan hfollows hexecutions
    obtain ⟨saved, mask, hpages, hlists⟩ :=
      hprobed.sendsPages hrestored hneeded executions_acquired
    refine ⟨saved, mask, hpages, ?_⟩
    -- the body completed the change, and the cleanup the restoration
    have hmem : select ∈ executions (t₁ ++ (t₂ ++ t₃)) := by
      rw [executions_append, executions_append, hexecutions]
      simp
    have hbody : [(modeSelectPayload progress.report.requested).toList].Sublist
        ((executions (t₁ ++ (t₂ ++ t₃))).flatMap fun e => e.command.sendsGood e.reply) := by
      refine List.singleton_sublist.2 (List.mem_flatMap.2 ⟨select, hmem, ?_⟩)
      rw [hselect.sendsGood]
      exact List.mem_singleton_self _
    rw [hlists, goodSendsOf, executions_acquired, List.flatMap_append, hrestore,
      List.flatMap_singleton, hrestored'.sendsGood]
    exact hbody.append (.refl _)

end M65
