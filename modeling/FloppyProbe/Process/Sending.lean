import FloppyProbe.Mac.Sending
import FloppyProbe.Process.Capture

/-!
# From the saved page to the device

What a process writes to the device is determined by what the device delivered: the parameter lists
with the saved page, once with the 1581 geometry in it and once as it was, for a command line that
acknowledges the change. A test that exits with 0 wrote both.

* `workflowRun_of_exec`: the workflow of a run of `main`;
* `process_selects`: the whole way, from the page that came in to the data that went out.
-/

namespace M65

open Interaction

variable {thread : RunLoopRef} {argv : List CString} {s s' : Bool} {t : List MainEvent}
  {status : ℕ}

/-! ## The program -/

/-- The workflow of a run of `main` with its exit status. -/
inductive WorkflowRun (argv : List CString) : List WorkflowEvent → ℕ → Prop
  | unneeded {status : ℕ} (hstatus : status = 0 → mayChange argv = false) :
      WorkflowRun argv [] status
  | inspected {s s' : Bool} {t : List WorkflowEvent} {status : ℕ} {report : InspectReport}
      (hinspect : Exec inspect s t report s') (hchange : mayChange argv = false) :
      WorkflowRun argv t status
  /-- Only the command line acknowledges the change. -/
  | tested {s s' acknowledgement : Bool} {t : List WorkflowEvent} {status : ℕ}
      {report : Report1581} (htest : Exec (test1581 acknowledgement) s t report s')
      (hchange : acknowledgement = true → mayChange argv = true)
      (hstatus : status = 0 → report.status = .supported) : WorkflowRun argv t status

/-- Every execution of `run_selected` makes one run of a workflow, or none. -/
theorem workflowRun_of_runSelected {options : CliOptions} {device : DeviceInfo}
    (hparse : cliParse argv = .ok options) (hlist : options.command ≠ .list)
    (h : Exec (runSelected options device) s t status s') :
    WorkflowRun argv (workflowEvents t) status := by
  unfold runSelected at h
  obtain ⟨t₁, created, s₁, t₂, hcreated, h₁, rfl⟩ := exec_bind.1 h
  obtain ⟨l, -, rfl⟩ := (exec_lift (f := MainCall.creation)).1 hcreated
  rw [workflowEvents_append, workflowEvents_lift_creation, List.nil_append]
  rw [exec_ite] at h₁
  rcases h₁ with ⟨hcommand, h₁⟩ | ⟨hcommand, h₁⟩
  · obtain ⟨u, report, s₂, v, hreport, h₂, rfl⟩ := exec_bind.1 h₁
    obtain ⟨-, hprinted⟩ := printed_of_exec h₂
    have hchange : mayChange argv = false := by simp [mayChange, hparse, hcommand]
    rw [workflowEvents_append, hprinted.parts.2, List.append_nil]
    cases created with
    | error failure =>
      obtain ⟨rfl, -, -⟩ := exec_pure.1 hreport
      exact .unneeded fun _ => hchange
    | ok =>
      obtain ⟨w, hinspect, rfl⟩ := (exec_lift (f := MainCall.workflow)).1 hreport
      rw [workflowEvents_lift_workflow]
      exact .inspected hinspect hchange
  · obtain ⟨u, report, s₂, v, hreport, h₂, rfl⟩ := exec_bind.1 h₁
    obtain ⟨w, report', s₃, x, hwritten, h₃, rfl⟩ := exec_bind.1 h₂
    obtain ⟨rfl, hprinted⟩ := printed_of_exec h₃
    -- writing the image is no part of the workflow, and does not turn a failure into a success
    obtain ⟨houtput, hcode⟩ : workflowEvents w = [] ∧ (report'.code = .ok → report.code = .ok) := by
      cases outputWritten_of_exec hwritten with
      | unneeded ht => exact ⟨by rw [ht]; rfl, id⟩
      | written _ hcode ht | failed _ hcode ht => exact ⟨ht, fun _ => hcode⟩
    have hzero (hstatus : exitCode report'.code = 0) : report.code = .ok :=
      hcode (exitCode_eq_zero_iff.1 hstatus)
    rw [workflowEvents_append, workflowEvents_append, houtput, hprinted.parts.2, List.append_nil,
      List.append_nil]
    cases created with
    | error failure =>
      obtain ⟨rfl, rfl, -⟩ := exec_pure.1 hreport
      exact .unneeded fun hstatus => absurd (hzero hstatus) (codeForCreation_ne failure.status)
    | ok =>
      have hsupported := (tested_of_testSelected hreport).supported_iff
      obtain ⟨w, htest, rfl⟩ := (exec_lift (f := MainCall.workflow)).1 hreport
      rw [workflowEvents_lift_workflow]
      refine .tested htest (fun hacknowledgement => ?_) fun hstatus => hsupported.2 (hzero hstatus)
      have hcommand : options.command = .test1581 := by
        cases hoption : options.command with
        | list => exact absurd hoption hlist
        | inspect => exact absurd hoption hcommand
        | test1581 => rfl
      simp [mayChange, hparse, hcommand, hacknowledgement]

/-- Every execution of `main` makes one run of a workflow, or none. -/
theorem workflowRun_of_exec (h : Exec (main argv) s t status s') :
    WorkflowRun argv (workflowEvents t) status := by
  cases mainRun_of_exec h with
  | usage _ hprinted =>
    rw [hprinted.parts.2]
    exact .unneeded (absurd · (by decide))
  | notDiscovered _ _ hprinted =>
    rw [workflowEvents_append, workflowEvents_lift_discovery, hprinted.parts.2]
    exact .unneeded (absurd · (by decide))
  | discovered hparse _ hrun =>
    rw [workflowEvents_append, workflowEvents_lift_discovery, List.nil_append]
    cases hrun with
    | listed hcommand hprinted =>
      rw [hprinted.parts.2]
      exact .unneeded fun _ => by simp [mayChange, hparse, hcommand]
    | refused _ _ hprinted =>
      rw [hprinted.parts.2]
      exact .unneeded (absurd · (by decide))
    | selected hlist _ hrun => exact workflowRun_of_runSelected hparse hlist hrun

/-- Nothing is sent, or the change was acknowledged. -/
theorem WorkflowRun.sends {t : List WorkflowEvent} (h : WorkflowRun argv t status) :
    sendsOf t = [] ∨ mayChange argv = true ∧
      ∃ saved mask, SendsPages (deliveriesOf t) (sendsOf t) saved mask := by
  cases h with
  | unneeded => exact .inl rfl
  | inspected hinspect => exact .inl (sendsOf_inspect hinspect)
  | tested htest hchange =>
    exact (test1581_sends htest).imp_right fun h => ⟨hchange h.1, h.2⟩

/-- A change that was acknowledged and a success were sent and restored. -/
theorem WorkflowRun.sendsGood {t : List WorkflowEvent} (h : WorkflowRun argv t 0)
    (hchange : mayChange argv = true) :
    ∃ saved mask, SendsPages (deliveriesOf t) (sendsOf t) saved mask ∧
      (changeAndRestore saved).Sublist (goodSendsOf t) := by
  cases h with
  | unneeded hstatus => exact absurd (hstatus rfl) (by simp [hchange])
  | inspected _ hunchanged => exact absurd hunchanged (by simp [hchange])
  | tested htest _ hstatus => exact test1581_sendsGood htest (hstatus rfl)

/-! ## The process -/

/-- What was written to the device over a whole process. -/
def processSends : Recorder ProcessReply Unit (List UInt8)
  | _, .usb call, reply => usbSends () call reply
  | _, _, _ => ((), [])

/-- The data that a call of the program has for the device. -/
def ToEndEvent.sends : ToEndEvent → List (List UInt8)
  | ⟨_, .inl (.workflow call), _⟩ => call.sends
  | _ => []

/-- The data of a program are those of its workflow. -/
theorem flatMap_sends (l : List ToEndEvent) :
    l.flatMap ToEndEvent.sends = sendsOf (workflowEvents (l.filterMap Event.visible)) := by
  induction l with
  | nil => rfl
  | cons e l ih =>
    obtain ⟨s, call, reply⟩ := e
    rcases call with (_ | _ | call | _ | _ | _) | _
    case inl.workflow => exact congrArg (call.sends ++ ·) ih
    all_goals exact ih

/-- What the transport writes the process writes. -/
theorem processSends_usb (l : List SystemEvent) (q : Unit) :
    processSends.entries q (l.map (Event.lift ProcessCall.usb)) = usbSends.entries q l :=
  Recorder.entries_map fun _ _ _ => rfl

/-- What a call of the program writes is the data that it has, or nothing. -/
theorem serve_sends {e : ToEndEvent} {u u' : SystemState}
    {inner : List (Event SystemState ProcessReply)}
    (h : Exec (serve thread e.call) u inner e.reply u') (q : Unit) :
    (processSends.entries q inner).Sublist e.sends := by
  have hclient {call : ClientCall} {reply : ClientReply call} {l : List SystemEvent}
      (hl : Exec (macClient call) u l reply u') :
      (processSends.entries q (l.map (Event.lift ProcessCall.usb))).Sublist call.sends := by
    rw [processSends_usb]
    exact macClient_sends hl q
  obtain ⟨s, call, reply⟩ := e
  rcases call with call | call
  · cases call with
    | discovery | creation | file | jsonAllocator | fputs =>
      obtain ⟨rfl, -⟩ := exec_call.1 h
      exact List.nil_sublist _
    | workflow call =>
      cases call with
      | testInterrupt | clearInterrupt | malloc =>
        obtain ⟨rfl, -⟩ := exec_call.1 h
        exact List.nil_sublist _
      | transport call =>
        obtain ⟨l, hl, rfl⟩ := exec_lift.1 h
        exact hclient hl
  · -- the destruction first takes its two texts from the stack
    obtain ⟨detail, t₁, hrest, rfl⟩ := exec_call_bind.1 h
    obtain ⟨ignored, t₂, hdestroy, rfl⟩ := exec_call_bind.1 hrest
    obtain ⟨l, hl, rfl⟩ := exec_lift.1 hdestroy
    exact hclient hl

/-- The data of the good commands of the program. -/
def ToEndEvent.sendsGood : ToEndEvent → List (List UInt8)
  | ⟨_, .inl (.workflow (.transport (.execute command))), reply⟩ => command.sendsGood reply
  | _ => []

/-- The data of good commands of a program are those of its workflow. -/
theorem flatMap_sendsGood (l : List ToEndEvent) :
    l.flatMap ToEndEvent.sendsGood =
      goodSendsOf (workflowEvents (l.filterMap Event.visible)) := by
  induction l with
  | nil => rfl
  | cons e l ih =>
    obtain ⟨s, call, reply⟩ := e
    rcases call with (_ | _ | (_ | _ | _ | (_ | command | _)) | _ | _ | _) | _
    case inl.workflow.transport.execute => exact congrArg (command.sendsGood reply ++ ·) ih
    all_goals exact ih

/-- The data of a good command are written. -/
theorem serve_sendsGood {e : ToEndEvent} {u u' : SystemState}
    {inner : List (Event SystemState ProcessReply)}
    (h : Exec (serve thread e.call) u inner e.reply u') (q : Unit) :
    e.sendsGood.Sublist (processSends.entries q inner) := by
  obtain ⟨s, call, reply⟩ := e
  rcases call with (_ | _ | (_ | _ | _ | (_ | command | _)) | _ | _ | _) | _
  case inl.workflow.transport.execute =>
    obtain ⟨l, hl, rfl⟩ := exec_lift.1 h
    rw [processSends_usb]
    exact macTransport_sendsGood hl q
  all_goals exact List.nil_sublist _

/-- A process writes nothing to the device, or the change was acknowledged: then it writes the
delivered page with the 1581 geometry and that page as it was, in this order and each at most
once. If it exits with 0 it wrote both. -/
theorem process_selects {interrupted : Bool} (r : ProcessRun thread argv interrupted) :
    (processSends.entries () r.trace = [] ∨ mayChange argv = true ∧
      ∃ saved mask, SendsPages (processDeliveries.entries none r.trace)
        (processSends.entries () r.trace) saved mask) ∧
    (mayChange argv = true → r.result = 0 →
      ∃ saved mask, SendsPages (processDeliveries.entries none r.trace)
          (processSends.entries () r.trace) saved mask ∧
        processSends.entries () r.trace = changeAndRestore saved) := by
  obtain ⟨trace, status, ⟨s', u'⟩, hexec⟩ := r
  obtain ⟨l, hmain, hserved⟩ := main_of_process hexec
  have hworkflow := workflowRun_of_exec hmain
  -- between these two bounds lies what went over the bus
  have hsends : (processSends.entries () trace).Sublist
      (sendsOf (workflowEvents (l.filterMap Event.visible))) := by
    rw [← flatMap_sends]
    exact hserved.entries_sublist (fun e _ _ _ hexec => serve_sends hexec) ()
  have hgood : (goodSendsOf (workflowEvents (l.filterMap Event.visible))).Sublist
      (processSends.entries () trace) := by
    rw [← flatMap_sendsGood]
    exact hserved.sublist_entries (fun e _ _ _ hexec => serve_sendsGood hexec) ()
  have hdeliveries : (deliveriesOf (workflowEvents (l.filterMap Event.visible))).Sublist
      (processDeliveries.entries none trace) := deliveriesOf_sublist hserved
  refine ⟨?_, fun hchange hzero => ?_⟩
  · rcases hworkflow.sends with hnone | ⟨hchange, saved, mask, hpages⟩
    · rw [hnone, List.sublist_nil] at hsends
      exact .inl hsends
    · exact .inr ⟨hchange, saved, mask, hpages.mono hdeliveries hsends⟩
  · obtain rfl : status = 0 := hzero
    obtain ⟨saved, mask, hpages, hboth⟩ := hworkflow.sendsGood hchange
    have hwritten := hpages.mono hdeliveries hsends
    exact ⟨saved, mask, hwritten, hwritten.sent.antisymm (hboth.trans hgood)⟩

end M65
