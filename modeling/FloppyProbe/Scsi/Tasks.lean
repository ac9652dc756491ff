import FloppyProbe.Cbi.Wire
import FloppyProbe.Scsi.Adapter

/-!
# Tasks of the SCSI transport

Every command of the SCSI transport is one task of SCSITaskLib, which is created, described,
executed and released within one call of the transport.

* `TaskRun`: what can happen to a task between its creation and its release (`taskRun_of_exec`);
* `ScsiExecuted`: what a call that executes a command does, with the task around such a run or
  without one (`scsiExecuted_of_exec`).
-/

namespace M65

open Interaction

variable {c c' : MacScsiContext} {t : List ScsiEvent} {task : TaskRef} {command : Command}
  {selects : Bool}

/-! ## Runs of a task -/

/-- The memory ranges of a command. -/
def memoryRanges (command : Command) : List ℕ :=
  if command.direction = .none then [] else [command.dataLength]

/-- How many bytes a command moves. -/
def transferCount (command : Command) : ℕ :=
  if command.direction = .none then 0 else command.dataLength

/-- `SetScatterGatherEntries` is called once, with the buffer of the command. -/
theorem exec_setScatterGather {result : IOReturn} :
    Exec (Scsi.setScatterGather task command) c t result c' ↔
      t = [⟨c, .setScatterGatherEntries task (memoryRanges command) (transferCount command)
        (Scsi.transferDirection command.direction), result⟩] ∧ c' = c := by
  unfold Scsi.setScatterGather memoryRanges transferCount
  by_cases hnone : command.direction = .none
  · rw [if_pos hnone, if_pos hnone, if_pos hnone, hnone]
    exact exec_call
  · rw [if_neg hnone, if_neg hnone, if_neg hnone]
    exact exec_call

/-- What a task does between its creation and its release, in the context `c`: the setup goes on
as long as its steps succeed. -/
inductive TaskRun (c : MacScsiContext) (task : TaskRef) (command : Command)
    (buffer : Vector UInt8 command.dataLength) :
    List ScsiEvent → ExecuteReply command.dataLength → Prop
  | undescribed {described : IOReturn} (hfailed : described ≠ kIOReturnSuccess) :
      TaskRun c task command buffer
        [⟨c, .setCommandDescriptorBlock task (Scsi.cdbBytes command), described⟩]
        ⟨Scsi.setupFailure "set CDB" described, buffer⟩
  | unscattered {scattered : IOReturn} (hfailed : scattered ≠ kIOReturnSuccess) :
      TaskRun c task command buffer
        [⟨c, .setCommandDescriptorBlock task (Scsi.cdbBytes command), kIOReturnSuccess⟩,
          ⟨c, .setScatterGatherEntries task (memoryRanges command) (transferCount command)
            (Scsi.transferDirection command.direction), scattered⟩]
        ⟨Scsi.setupFailure "set scatter/gather data" scattered, buffer⟩
  | untimed {timed : IOReturn} (hfailed : timed ≠ kIOReturnSuccess) :
      TaskRun c task command buffer
        [⟨c, .setCommandDescriptorBlock task (Scsi.cdbBytes command), kIOReturnSuccess⟩,
          ⟨c, .setScatterGatherEntries task (memoryRanges command) (transferCount command)
            (Scsi.transferDirection command.direction), kIOReturnSuccess⟩,
          ⟨c, .setTimeoutDuration task command.timeoutMs, timed⟩]
        ⟨Scsi.setupFailure "set timeout" timed, buffer⟩
  | executed {reply : TaskReply command.dataLength} :
      TaskRun c task command buffer
        [⟨c, .setCommandDescriptorBlock task (Scsi.cdbBytes command), kIOReturnSuccess⟩,
          ⟨c, .setScatterGatherEntries task (memoryRanges command) (transferCount command)
            (Scsi.transferDirection command.direction), kIOReturnSuccess⟩,
          ⟨c, .setTimeoutDuration task command.timeoutMs, kIOReturnSuccess⟩,
          ⟨c, .executeTaskSync task buffer, reply⟩]
        ⟨Scsi.taskResult reply, reply.buffer⟩

/-- Every execution of a task is one of its cases. -/
theorem taskRun_of_exec {buffer : Vector UInt8 command.dataLength}
    {reply : ExecuteReply command.dataLength}
    (h : Exec (Scsi.runTask task command buffer) c t reply c') :
    TaskRun c task command buffer t reply ∧ c' = c := by
  -- each setter ends the task when it fails
  unfold Scsi.runTask at h
  obtain ⟨described, t₁, h₁, rfl⟩ := exec_call_bind.1 h
  rcases exec_ite.1 h₁ with ⟨hfailed, h₁⟩ | ⟨hdescribed, h₁⟩
  · obtain ⟨rfl, rfl, rfl⟩ := exec_pure.1 h₁
    exact ⟨.undescribed hfailed, rfl⟩
  obtain rfl := of_not_not hdescribed
  obtain ⟨_, scattered, _, t₂, hscatter, h₂, rfl⟩ := exec_bind.1 h₁
  obtain ⟨rfl, rfl⟩ := exec_setScatterGather.1 hscatter
  rcases exec_ite.1 h₂ with ⟨hfailed, h₂⟩ | ⟨hscattered, h₂⟩
  · obtain ⟨rfl, rfl, rfl⟩ := exec_pure.1 h₂
    exact ⟨.unscattered hfailed, rfl⟩
  obtain rfl := of_not_not hscattered
  obtain ⟨timed, t₃, h₃, rfl⟩ := exec_call_bind.1 h₂
  rcases exec_ite.1 h₃ with ⟨hfailed, h₃⟩ | ⟨htimed, h₃⟩
  · obtain ⟨rfl, rfl, rfl⟩ := exec_pure.1 h₃
    exact ⟨.untimed hfailed, rfl⟩
  obtain rfl := of_not_not htimed
  obtain ⟨reply, t₄, h₄, rfl⟩ := exec_call_bind.1 h₃
  obtain ⟨rfl, rfl, rfl⟩ := exec_pure.1 h₄
  exact ⟨.executed, rfl⟩

/-- What `mac_execute` can do: nothing, or a task from its creation to its release. -/
inductive ScsiExecuted (command : Command) (c : MacScsiContext) :
    List ScsiEvent → ExecuteReply command.dataLength → Prop
  | refused {detail : ErrorText}
      (hrefused : c.exclusive = false ∨ ¬command.Valid) :
      ScsiExecuted command c [] ⟨Scsi.refusal .protocol detail, command.buffer⟩
  | uncreated {detail : ErrorText} (hexclusive : c.exclusive = true) (hvalid : command.Valid) :
      ScsiExecuted command c [⟨c, .createScsiTask, none⟩]
        ⟨Scsi.refusal .io detail, command.buffer⟩
  | ran {task : TaskRef} {t : List ScsiEvent} {reply : ExecuteReply command.dataLength}
      {references : UInt32} (hexclusive : c.exclusive = true) (hvalid : command.Valid)
      (hrun : TaskRun c task command command.buffer t reply) :
      ScsiExecuted command c
        (⟨c, .createScsiTask, some task⟩ :: t ++ [⟨c, .releaseTask task, references⟩]) reply

/-- Every execution of `mac_execute` is one of its cases. -/
theorem scsiExecuted_of_exec {reply : ExecuteReply command.dataLength}
    (h : Exec (Scsi.macExecute command) c t reply c') :
    ScsiExecuted command c t reply ∧ c' = c := by
  unfold Scsi.macExecute at h
  rw [exec_get_bind, exec_ite] at h
  rcases h with ⟨hshared, h⟩ | ⟨hexclusive, h⟩
  · obtain ⟨rfl, rfl, rfl⟩ := exec_pure.1 h
    exact ⟨.refused (.inl (by simpa using hshared)), rfl⟩
  have hexclusive : c.exclusive = true := by simpa using hexclusive
  cases hvalidate : validateCommand command with
  | error detail =>
    simp only [hvalidate, exec_pure] at h
    obtain ⟨rfl, rfl, rfl⟩ := h
    refine ⟨.refused (.inr fun hvalid => ?_), rfl⟩
    rw [Command.Valid, hvalidate] at hvalid
    cases hvalid
  | ok =>
    simp only [hvalidate] at h
    -- from here on a task is created, and whatever it returns is released
    have hvalid : command.Valid := hvalidate
    obtain ⟨created, t₁, h₁, rfl⟩ := exec_call_bind.1 h
    cases created with
    | none =>
      obtain ⟨rfl, rfl, rfl⟩ := exec_pure.1 h₁
      exact ⟨.uncreated hexclusive hvalid, rfl⟩
    | some task =>
      obtain ⟨t₂, reply, c₁, t₃, hrun, h₂, rfl⟩ := exec_bind.1 h₁
      obtain ⟨htask, rfl⟩ := taskRun_of_exec hrun
      obtain ⟨references, t₄, h₃, rfl⟩ := exec_call_bind.1 h₂
      obtain ⟨rfl, rfl, rfl⟩ := exec_pure.1 h₃
      exact ⟨.ran hexclusive hvalid htask, rfl⟩

end M65
