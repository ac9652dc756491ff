import FloppyProbe.Mac.Lifecycle
import FloppyProbe.Probe.Calls
import FloppyProbe.Process.Process

/-!
# The interface during a process

Both workflows acquire their transport once, use it only if that succeeded, and release it once,
whatever fails in between and whenever they are interrupted. The destruction that follows also
closes an interface whose release failed.

* `inspect_keepsProtocol`, `test1581_keepsProtocol`: the workflows keep `clientProtocol`;
* `process_lifecycle`: the process seizes, uses and closes the interface in this order, and the
  context of the adapter holds nothing when it ends.
-/

namespace M65

open Interaction

variable {thread : RunLoopRef} {argv : List CString} {α : Type}

/-- The protocol of a client, for the calls of a workflow. -/
abbrev workflowProtocol (thread : RunLoopRef) : Monitor WorkflowReply ClientPhase :=
  workflowGate thread clientProtocol

/-- A call of the workflow that neither acquires nor releases the transport. -/
def WorkflowCall.IsInside : WorkflowCall → Prop
  | .transport (.acquireExclusive _) => False
  | .transport (.releaseExclusive _) => False
  | _ => True

/-- The commands of a test are calls inside of the bracket. -/
theorem permitsSelects_isInside : PermitsSelects WorkflowCall.IsInside :=
  ⟨⟨trivial, fun _ => trivial, fun _ _ => trivial⟩, trivial, fun _ _ _ => trivial⟩

/-- Where a workflow leaves its transport. -/
def ClientPhase.IsReleased (phase : ClientPhase) : Prop := phase = .idle ∨ phase = .unclosed

/-- Calls inside of the bracket keep the phase. -/
theorem isInside_monitored {p : Workflow α} (hp : Only WorkflowCall.IsInside p)
    {phase : ClientPhase} (hphase : phase = .idle ∨ phase = .held) :
    Monitored (workflowProtocol thread) (fun _ q => q = phase) p (fun _ _ q => q = phase) := by
  refine .of_only hp ?_
  rintro q call reply rfl hcall
  cases call with
  | transport call =>
    cases call with
    | execute => rcases hphase with rfl | rfl <;> rfl
    | acquireExclusive | releaseExclusive => exact absurd hcall id
  | testInterrupt | clearInterrupt | malloc => rfl

/-- Exclusive access that is granted holds the device. -/
theorem acquire_monitored (detail : ErrorText) :
    Monitored (workflowProtocol thread) (fun _ q => q = .idle) (acquireExclusive detail)
      (fun reply _ q => q = if reply.status = .ok then .held else .idle) := by
  refine .call ?_
  rintro s q reply rfl
  exact ⟨_, rfl, rfl⟩

/-- After the end of the exclusive access the transport is released. -/
theorem release_monitored (detail : ErrorText) :
    Monitored (workflowProtocol thread) (fun _ q => q = .held) (releaseExclusive detail)
      (fun _ _ q => q.IsReleased) := by
  refine .call ?_
  rintro s q reply rfl
  refine ⟨_, rfl, ?_⟩
  unfold ClientPhase.IsReleased
  split <;> simp

/-- A workflow that acquires the transport and goes on only if it has it. -/
theorem acquired_monitored (detail : ErrorText) {failed : StatusReply → α}
    {rest : StatusReply → Workflow α}
    (hrest : ∀ reply, Monitored (workflowProtocol thread) (fun _ q => q = .held) (rest reply)
      (fun _ _ q => q.IsReleased)) :
    Monitored (workflowProtocol thread) (fun _ q => q = .idle)
      (do
        clearInterrupted
        let reply ← acquireExclusive detail
        if reply.status ≠ .ok then return failed reply else rest reply)
      (fun _ _ q => q.IsReleased) := by
  refine .bind (isInside_monitored (clearInterrupted_only trivial) (.inl rfl)) fun _ => ?_
  refine .bind (acquire_monitored detail) fun reply => .ite (fun hfailed => ?_) fun hok => ?_
  · refine .pure fun s q hq => .inl ?_
    rw [hq, if_neg hfailed]
  · refine (hrest reply).mono (fun s q hq => ?_) fun _ _ _ hq => hq
    rw [hq, if_pos (of_not_not hok)]

/-- An inspection brackets its commands. -/
theorem inspect_keepsProtocol :
    Monitored (workflowProtocol thread) (fun _ q => q = .idle) inspect
      (fun _ _ q => q.IsReleased) := by
  have hinside := permitsSelects_isInside.toPermitsReads
  refine acquired_monitored _ fun reply => ?_
  refine .bind (isInside_monitored (inspectController_only hinside _) (.inr rfl)) fun report => ?_
  refine .bind (release_monitored _) fun reply => .ite (fun _ => ?_) fun _ => ?_
  · exact .pure fun _ _ hq => hq
  · exact .pure fun _ _ hq => hq

/-- At the end of a test the transport is released. -/
theorem releaseController_monitored (report : Report1581) :
    Monitored (workflowProtocol thread) (fun _ q => q = .held) (releaseController report)
      (fun _ _ q => q.IsReleased) := by
  refine .bind (release_monitored _) fun reply => .ite (fun _ => ?_) fun _ => ?_
  · exact .pure fun _ _ hq => hq
  · exact .pure fun _ _ hq => hq

/-- A test brackets its commands. -/
theorem test1581_keepsProtocol (acknowledgement : Bool) :
    Monitored (workflowProtocol thread) (fun _ q => q = .idle) (test1581 acknowledgement)
      (fun _ _ q => q.IsReleased) := by
  have hinside := permitsSelects_isInside
  unfold test1581
  cases acknowledgement with
  | false =>
    refine .bind (isInside_monitored (clearInterrupted_only trivial) (.inl rfl)) fun _ => ?_
    exact .pure fun _ _ hq => .inl hq
  | true =>
    refine acquired_monitored _ fun reply => ?_
    refine .bind (isInside_monitored (probeGeometry_only hinside _) (.inr rfl)) fun progress => ?_
    refine .bind (isInside_monitored (restoreController_only hinside _) (.inr rfl)) fun report => ?_
    exact releaseController_monitored report

/-! ## The process -/

/-- The protocol of a client does not depend on texts. -/
theorem ignoresTexts_clientProtocol : IgnoresTexts clientProtocol := by
  intro phase thread detail ignored reply
  cases phase <;> rfl

/-- The program uses its transport as a client does, and destroys it in the end. -/
theorem main_keepsProtocol (argv : List CString) :
    Monitored (mainGate thread clientProtocol) (fun _ q => q = .idle) (mainToEnd argv)
      (fun _ _ q => q = .idle ∨ q = .ended) := by
  refine mainToEnd_monitored (fun _ _ _ => inspect_keepsProtocol)
    (fun _ _ _ => test1581_keepsProtocol _) ?_ fun _ => .inl
  rintro q (rfl | rfl) <;> exact ⟨.ended, rfl, .inr rfl⟩

/-- In every run of the process the interface is seized, used and closed in this order, and the
context of the adapter holds nothing when the process ends. -/
theorem process_lifecycle {interrupted : Bool} (r : ProcessRun thread argv interrupted) :
    (processGate usbLifecycle).run false r.trace = some false ∧
      r.final.2.2.context.Ended := by
  obtain ⟨phase, isOpen, hphase, hrun, htracked⟩ := process_monitored macClient_obeys
    ignoresTexts_clientProtocol tracked_idle (main_keepsProtocol argv) r
  have hended : r.final.2.2.context.Ended :=
    htracked.ended (by rcases hphase with rfl | rfl <;> exact nofun)
  rw [htracked.isOpen_eq, hended.isOpen] at hrun
  exact ⟨hrun, hended⟩

end M65
