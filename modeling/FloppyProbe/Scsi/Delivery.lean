import FloppyProbe.Interaction.Recorder
import FloppyProbe.Probe.Delivery
import FloppyProbe.Scsi.Diagnosis

/-!
# Deliveries of SCSITaskLib

`taskDeliveries` reads off a trace of SCSITaskLib which data came in for which command block: what
an executed task moved into its memory, with the block that it was given. As over USB, the data of
a good command are such a delivery (`scsiTransport_delivers`), so that what the workflows make of
their data is made of what tasks delivered (`scsiDiagnosis_delivers`).
-/

namespace M65

open Interaction

variable {c c' : MacScsiContext} {command : Command}

/-! ## Deliveries -/

/-- The deliveries of a trace; the state is the block that a task was given last. -/
def taskDeliveries : Recorder ScsiReply CommandBlock Delivery
  | _, .setCommandDescriptorBlock _ cdb, _ => (blockOf cdb, [])
  | block, .executeTaskSync _ _, reply =>
      (block, if reply.result = kIOReturnSuccess then
        [⟨block, reply.buffer.toList.take reply.realized.toNat⟩]
      else [])
  | block, _, _ => (block, [])

/-- Only success is reported as success. -/
theorem Scsi.mapIoReturn_eq_ok_iff {result : IOReturn} :
    Scsi.mapIoReturn result = .ok ↔ result = kIOReturnSuccess := by
  unfold Scsi.mapIoReturn
  constructor
  · intro h
    split_ifs at h
    assumption
  · exact fun h => if_pos h

/-- A good task succeeded, and its result counts the bytes that it moved. -/
theorem taskResult_good {n : ℕ} {reply : TaskReply n} (h : (Scsi.taskResult reply).IsGood) :
    reply.result = kIOReturnSuccess ∧
      (Scsi.taskResult reply).transferred = reply.realized.toNat := by
  have hrealized : reply.realized.toNat < UInt64.size := reply.realized.toNat_lt
  have hresult : reply.result = kIOReturnSuccess := by
    rw [← Scsi.mapIoReturn_eq_ok_iff]
    have hok := h.1
    simp only [Scsi.taskResult, if_pos hrealized] at hok
    split at hok <;> exact hok
  refine ⟨hresult, ?_⟩
  simp only [Scsi.taskResult, if_pos hrealized, hresult, ne_eq, not_true_eq_false, if_false]

/-- What the transport returns for a good command was delivered for its block. -/
theorem scsiTransport_delivers {t : List ScsiEvent} {reply : ExecuteReply command.dataLength}
    (h : Exec (scsiTransport (.execute command)) c t reply c') (block : CommandBlock) :
    (command.delivery reply).Sublist (taskDeliveries.entries block t) := by
  unfold Command.delivery
  split
  next hdelivered =>
    obtain ⟨-, hgood⟩ := hdelivered
    cases (scsiExecuted_of_exec h).1 with
    | refused => exact absurd hgood.1 nofun
    | uncreated => exact absurd hgood.1 nofun
    | @ran task t _ references _ hvalid hrun =>
      cases hrun with
      | undescribed hfailed | unscattered hfailed | untimed hfailed =>
        exact absurd (Scsi.mapIoReturn_eq_ok_iff.1 hgood.1) hfailed
      | executed =>
        obtain ⟨hresult, htransferred⟩ := taskResult_good hgood
        simp only [List.cons_append, List.nil_append, Recorder.entries_cons, taskDeliveries,
          hresult, if_true, htransferred, blockOf_cdbBytes hvalid.fits.cdbLength_le]
        exact .refl _
  · exact List.nil_sublist _

/-! ## Workflows -/

/-- The deliveries of a host. -/
def hostDeliveries : Recorder ScsiHostReply CommandBlock Delivery
  | block, .scsi call, reply => taskDeliveries block call reply
  | block, _, _ => (block, [])

/-- What a call of a workflow returned from the device. -/
def WorkflowEvent.deliveries : WorkflowEvent → List Delivery
  | ⟨_, .transport (.execute command), reply⟩ => command.delivery reply
  | _ => []

/-- The deliveries of a workflow are those of its events. -/
theorem flatMap_workflowDeliveries (l : List WorkflowEvent) :
    l.flatMap WorkflowEvent.deliveries = deliveriesOf l := by
  induction l with
  | nil => rfl
  | cons e l ih =>
    obtain ⟨s, call, reply⟩ := e
    rcases call with _ | _ | _ | (_ | command | _)
    case transport.execute => exact congrArg (command.delivery reply ++ ·) ih
    all_goals exact ih

/-- What a good command returns is among the deliveries of its tasks. -/
theorem serveOnScsi_delivers {e : WorkflowEvent} {inner : List (Event MacScsiContext ScsiHostReply)}
    (h : Exec (serveOnScsi e.call) c inner e.reply c') (block : CommandBlock) :
    e.deliveries.Sublist (hostDeliveries.entries block inner) := by
  obtain ⟨s, call, reply⟩ := e
  rcases call with _ | _ | _ | (_ | command | _)
  case transport.execute =>
    obtain ⟨l, hl, rfl⟩ := exec_lift.1 h
    have hentries : hostDeliveries.entries block (l.map (Event.lift ScsiHostCall.scsi)) =
        taskDeliveries.entries block l := Recorder.entries_map fun _ _ _ => rfl
    rw [hentries]
    exact scsiTransport_delivers hl block
  all_goals exact List.nil_sublist _

/-- What a workflow got from its transport, executed tasks delivered. -/
theorem delivered_of_scsiRun {α : Type} {p : Workflow α} {interrupted : Bool}
    (r : ScsiRun p interrupted) : ∃ l s', Exec p interrupted l r.result s' ∧
      (deliveriesOf l).Sublist (hostDeliveries.entries default r.trace) := by
  obtain ⟨trace, result, ⟨flag, c'⟩, hexec⟩ := r
  obtain ⟨t₁, result₁, ⟨flag₁, c₁⟩, t₂, hrun, hrest, rfl⟩ := exec_bind.1 hexec
  obtain ⟨l, hl, hserved⟩ := exec_atop.1 hrun
  obtain ⟨t₃, _, _, t₄, -, hend, rfl⟩ := exec_bind.1 hrest
  obtain ⟨-, rfl, -⟩ := exec_pure.1 hend
  refine ⟨l, flag₁, hl, ?_⟩
  rw [Recorder.entries_append, ← flatMap_workflowDeliveries]
  refine List.Sublist.trans ?_ (List.sublist_append_left _ _)
  exact hserved.sublist_entries (fun e _ _ _ hexec => serveOnScsi_delivers hexec) default

/-- Over the SCSI transport the report of a good inspection is made of what executed tasks
delivered, and a test gives the verdict SUPPORTED only to an image that they delivered twice;
without the verdict there is no image. -/
theorem scsiDiagnosis_delivers :
    (∀ {interrupted : Bool} (r : ScsiRun inspect interrupted), r.result.code = .ok →
      ∃ inquiry capacity formats current changeable,
        [inquiry, capacity, formats, current, changeable].Sublist
          (hostDeliveries.entries default r.trace) ∧
        InspectionDelivered r.result inquiry capacity formats current changeable) ∧
    ∀ {acknowledgement interrupted : Bool} (r : ScsiRun (test1581 acknowledgement) interrupted),
      (r.result.status = .supported →
        DeliveredTwice ((r.result.image.getD []).take r.result.imageLength)
          (hostDeliveries.entries default r.trace)) ∧
      (r.result.status ≠ .supported → r.result.image = none) := by
  refine ⟨fun r hcode => ?_, fun r => ?_⟩
  · obtain ⟨l, s', hl, hsub⟩ := delivered_of_scsiRun r
    obtain ⟨inquiry, capacity, formats, current, changeable, hdeliveries, hdelivered⟩ :=
      inspectionDelivered_of_exec hl hcode
    exact ⟨inquiry, capacity, formats, current, changeable, hdeliveries ▸ hsub, hdelivered⟩
  · obtain ⟨l, s', hl, hsub⟩ := delivered_of_scsiRun r
    refine ⟨fun hstatus => (deliveredTwice_of_exec hl hstatus).mono hsub, fun hstatus => ?_⟩
    cases tested_of_exec hl with
    | unacknowledged huntouched | refused _ huntouched => exact huntouched.image_eq
    | acquired _ _ _ hreleased => exact (hreleased.discarded hstatus).1

end M65
