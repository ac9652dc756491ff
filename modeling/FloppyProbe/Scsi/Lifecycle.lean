import FloppyProbe.Probe.Workflow
import FloppyProbe.Scsi.Tasks

/-!
# The life cycle of SCSI tasks

While the device is held exclusively, one task at a time is created, described, executed at most
once and released, and what it is told to do is what the allowlist accepts. The device itself is
given back at the end, after an attempt to end the exclusive access.

* `taskLifecycle`: the calls that are allowed on the device and on its tasks;
* `scsiClient_obeys`: the transport keeps this, whatever its client does up to the destruction;
* `scsiSession_lifecycle`: so every session of a client keeps it.
-/

namespace M65

open Interaction

variable {c c' : MacScsiContext} {t : List ScsiEvent} {task : TaskRef} {command : Command}
  {selects : Bool} {α : Type}

/-! ## The protocol -/

/-- The command block with the given first bytes. -/
def blockOf (cdb : List UInt8) : CommandBlock := Vector.ofFn fun i => cdb.getD i 0

/-- A block with the direction and the content of its memory. -/
def MovesData (selects : Bool) (block : CommandBlock) (direction : UInt8) (buffer : List UInt8) :
    Prop :=
  direction = kScsiDataTransferNoDataTransfer ∧ getElem block 0 opcode_lt = opcodeTestUnitReady ∧
      buffer = [] ∨
    direction = kScsiDataTransferFromTargetToInitiator ∧ FetchesData block ∨
    direction = kScsiDataTransferFromInitiatorToTarget ∧ selects = true ∧
      SelectsTemporarily block ∧ IsParameterList buffer

instance (selects : Bool) (block : CommandBlock) (direction : UInt8) (buffer : List UInt8) :
    Decidable (MovesData selects block direction buffer) :=
  inferInstanceAs (Decidable (_ ∧ _ ∧ _ ∨ _ ∧ _ ∨ _ ∧ _ ∧ _ ∧ _))

/-- How far a task is, with what it was told. -/
inductive TaskStage where
  | created
  | described (block : CommandBlock)
  | scattered (block : CommandBlock) (count : ℕ) (direction : UInt8)
  | timed (block : CommandBlock) (count : ℕ) (direction : UInt8)
  /-- It was executed, or a step of its setup failed. -/
  | over
deriving DecidableEq

/-- The next stage of a task, nothing after its release. -/
def taskStep (selects : Bool) (task : TaskRef) :
    TaskStage → (call : ScsiCall) → ScsiReply call → Option (Option TaskStage)
  | .created, .setCommandDescriptorBlock target cdb, result =>
      if target = task then
        some (some (if result = kIOReturnSuccess then .described (blockOf cdb) else .over))
      else none
  | .described block, .setScatterGatherEntries target ranges count direction, result =>
      if target = task ∧ ranges.sum = count then
        some (some (if result = kIOReturnSuccess then .scattered block count direction else .over))
      else none
  | .scattered block count direction, .setTimeoutDuration target _, result =>
      if target = task then
        some (some (if result = kIOReturnSuccess then .timed block count direction else .over))
      else none
  | .timed block count direction, .executeTaskSync (n := n) target buffer, _ =>
      if target = task ∧ n = count ∧ MovesData selects block direction buffer.toList then
        some (some .over)
      else none
  | .over, .releaseTask target, _ => if target = task then some none else none
  | _, _, _ => none

/-- Where a device stands: shared, taken with at most one task, or given back. -/
inductive DevicePhase where
  | shared
  /-- The access is exclusive, and `kept` against an attempt to end it. There may be a task. -/
  | exclusive (kept : Bool) (task : Option (TaskRef × TaskStage))
  | released
deriving DecidableEq

/-- What may be asked of the device and of its tasks; `selects` tells whether data may go out. -/
def taskLifecycle (selects : Bool) : Monitor ScsiReply DevicePhase
  | .shared, .obtainExclusiveAccess, result =>
      some (if result = kIOReturnSuccess then .exclusive false none else .shared)
  | .exclusive _ none, .releaseExclusiveAccess, result =>
      some (if result = kIOReturnSuccess then .shared else .exclusive true none)
  | .exclusive kept none, .createScsiTask, created =>
      some (.exclusive kept (created.map fun task => (task, .created)))
  | .exclusive kept (some (task, stage)), call, reply =>
      (taskStep selects task stage call reply).map fun next =>
        .exclusive kept (next.map fun stage => (task, stage))
  | .shared, .releaseDevice, _ => some .released
  | .exclusive true none, .releaseDevice, _ => some .released
  | _, _, _ => none

/-! ## Commands -/

/-- A valid command without a direction has no data. -/
theorem Command.Valid.dataLength_of_none (h : command.Valid) (hnone : command.direction = .none) :
    command.dataLength = 0 := by
  have hlength : command.cdbLength ≠ 0 := by
    intro hzero
    simp [Command.Valid, validateCommand, hzero] at h
  have hopcode : command.cdbByte 0 = opcodeTestUnitReady :=
    (opcode_padded hlength).symm.trans (h.directed.none hnone)
  simp only [Command.Valid, validateCommand, hlength, hopcode, if_true, if_false,
    validateShape] at h
  split at h
  · cases h
  simp only [validateData, hnone, ne_eq, not_true_eq_false, if_false, if_true] at h
  split at h
  · cases h
  next hdata =>
  simp only [not_or] at hdata
  exact of_not_not hdata.2

/-- The block that a task gets is the block of the command. -/
theorem blockOf_cdbBytes (hlength : command.cdbLength ≤ 10) :
    blockOf (Scsi.cdbBytes command) = command.padded := by
  have hcast : (UInt8.ofNat command.cdbLength).toNat = command.cdbLength := by
    rw [UInt8.toNat_ofNat']
    omega
  refine Vector.ext fun i hi => ?_
  rw [blockOf, Vector.getElem_ofFn]
  refine Eq.trans ?_ (getElem_padCdb command.cdb command.cdbLength ⟨i, hi⟩).symm
  rw [Scsi.cdbBytes, hcast, List.getD_eq_getElem?_getD, List.getElem?_take]
  split <;> simp

/-- A valid command moves data as its block says. -/
theorem Command.Valid.movesData (h : command.Valid)
    (hselects : command.direction = .dataOut → selects = true) :
    MovesData selects command.padded (Scsi.transferDirection command.direction)
      command.buffer.toList := by
  cases hdirection : command.direction with
  | none =>
    refine .inl ⟨rfl, h.directed.none hdirection, List.length_eq_zero_iff.1 ?_⟩
    rw [Vector.length_toList, h.dataLength_of_none hdirection]
  | dataIn => exact .inr (.inl ⟨rfl, h.directed.dataIn hdirection⟩)
  | dataOut =>
    have hopcode := h.fits.select_of_dataOut hdirection
    exact .inr (.inr ⟨rfl, hselects hdirection, h.directed.dataOut hdirection,
      isParameterList_of_selectsPage (h.selectsPage hopcode)⟩)

/-- A valid command moves its whole data. -/
theorem Command.Valid.dataLength_eq (h : command.Valid) :
    command.dataLength = transferCount command := by
  unfold transferCount
  split
  next hnone => exact h.dataLength_of_none hnone
  · rfl

/-- The memory ranges are as long as the transfer. -/
theorem sum_memoryRanges : (memoryRanges command).sum = transferCount command := by
  unfold memoryRanges transferCount
  split <;> simp

/-- A task of an accepted command is over before it is released. -/
theorem TaskRun.lifecycle {reply : ExecuteReply command.dataLength}
    (h : TaskRun c task command command.buffer t reply) (hvalid : command.Valid)
    (hselects : command.direction = .dataOut → selects = true) (kept : Bool) :
    (taskLifecycle selects).run (.exclusive kept (some (task, .created))) t =
      some (.exclusive kept (some (task, .over))) := by
  have hmoves : MovesData selects (blockOf (Scsi.cdbBytes command))
      (Scsi.transferDirection command.direction) command.buffer.toList := by
    rw [blockOf_cdbBytes hvalid.fits.cdbLength_le]
    exact hvalid.movesData hselects
  cases h with
  | undescribed hfailed => simp [taskLifecycle, taskStep, hfailed]
  | unscattered hfailed => simp [taskLifecycle, taskStep, hfailed, sum_memoryRanges]
  | untimed hfailed => simp [taskLifecycle, taskStep, hfailed, sum_memoryRanges]
  | executed =>
    simp only [Monitor.run_cons, Monitor.run_nil, taskLifecycle, taskStep, if_true, true_and,
      sum_memoryRanges, Option.map_some, Option.bind_some, hvalid.dataLength_eq.symm, hmoves]

/-! ## Clients -/

/-- What the transport knows of the phase, until it is destroyed. -/
def ScsiTracked (alive : Bool) (c : MacScsiContext) (phase : DevicePhase) : Prop :=
  if alive then
    c.device = true ∧ (c.exclusive = false ∧ phase = .shared ∨
      c.exclusive = true ∧ ∃ kept, phase = .exclusive kept none)
  else
    phase = .released

/-- A context without exclusive access has a shared device. -/
theorem scsiTracked_shared (hdevice : c.device = true) (hshared : c.exclusive = false) :
    ScsiTracked true c .shared :=
  ⟨hdevice, .inl ⟨hshared, rfl⟩⟩

/-- A context with exclusive access has a device without a task. -/
theorem scsiTracked_exclusive (hdevice : c.device = true) (hexclusive : c.exclusive = true)
    (kept : Bool) : ScsiTracked true c (.exclusive kept none) :=
  ⟨hdevice, .inr ⟨hexclusive, kept, rfl⟩⟩

/-- A transport whose client goes on. -/
abbrev ScsiKeeps (selects : Bool) (p : ScsiIo α) : Prop :=
  Monitored (taskLifecycle selects) (ScsiTracked true) p fun _ => ScsiTracked true

/-- `mac_acquire` follows the protocol. -/
theorem macAcquire_keeps (detail : ErrorText) : ScsiKeeps selects (Scsi.macAcquire detail) := by
  intro c phase t reply c' htracked h
  unfold Scsi.macAcquire at h
  rw [exec_get_bind, exec_ite] at h
  rcases h with ⟨-, h⟩ | ⟨hshared, h⟩
  · obtain ⟨rfl, -, rfl⟩ := exec_pure.1 h
    exact ⟨phase, rfl, htracked⟩
  have hshared : c.exclusive = false := Bool.eq_false_iff.2 hshared
  obtain ⟨hdevice, ⟨-, rfl⟩ | ⟨hexclusive, -⟩⟩ := htracked
  · -- a shared device is asked for exclusive access
    obtain ⟨result, t₁, h₁, rfl⟩ := exec_call_bind.1 h
    rcases exec_ite.1 h₁ with ⟨hok, h₂⟩ | ⟨hfailed, h₂⟩
    · rw [exec_modify_bind] at h₂
      obtain ⟨rfl, -, rfl⟩ := exec_pure.1 h₂
      exact ⟨.exclusive false none, by simp [taskLifecycle, hok],
        hdevice, .inr ⟨rfl, false, rfl⟩⟩
    · have hend : t₁ = [] ∧ c' = c := by
        rcases exec_ite.1 h₂ with ⟨-, h₃⟩ | ⟨-, h₃⟩ <;>
          exact ⟨(exec_pure.1 h₃).1, (exec_pure.1 h₃).2.2⟩
      obtain ⟨rfl, rfl⟩ := hend
      exact ⟨.shared, by simp [taskLifecycle, hfailed], scsiTracked_shared hdevice hshared⟩
  · rw [hshared] at hexclusive
    cases hexclusive

/-- `mac_release` follows the protocol. -/
theorem macRelease_keeps (detail : ErrorText) : ScsiKeeps selects (Scsi.macRelease detail) := by
  intro c phase t reply c' htracked h
  unfold Scsi.macRelease at h
  rw [exec_get_bind, exec_ite] at h
  rcases h with ⟨-, h⟩ | ⟨hexclusive, h⟩
  · obtain ⟨rfl, -, rfl⟩ := exec_pure.1 h
    exact ⟨phase, rfl, htracked⟩
  have hexclusive : c.exclusive = true := by simpa using hexclusive
  obtain ⟨hdevice, ⟨hshared, -⟩ | ⟨-, kept, rfl⟩⟩ := htracked
  · rw [hshared] at hexclusive
    cases hexclusive
  · obtain ⟨result, t₁, h₁, rfl⟩ := exec_call_bind.1 h
    rcases exec_ite.1 h₁ with ⟨hok, h₂⟩ | ⟨hfailed, h₂⟩
    · rw [exec_modify_bind] at h₂
      obtain ⟨rfl, -, rfl⟩ := exec_pure.1 h₂
      exact ⟨.shared, by simp [taskLifecycle, hok], scsiTracked_shared hdevice rfl⟩
    · obtain ⟨rfl, -, rfl⟩ := exec_pure.1 h₂
      exact ⟨.exclusive true none, by simp [taskLifecycle, hfailed],
        scsiTracked_exclusive hdevice hexclusive true⟩

/-- `mac_execute` follows the protocol. -/
theorem macExecute_keeps (hselects : command.direction = .dataOut → selects = true) :
    ScsiKeeps selects (Scsi.macExecute command) := by
  intro c phase t reply c' htracked h
  obtain ⟨hexecuted, rfl⟩ := scsiExecuted_of_exec h
  refine ⟨phase, ?_, htracked⟩
  have hphase (hexclusive : c'.exclusive = true) : ∃ kept, phase = .exclusive kept none := by
    obtain ⟨-, ⟨hshared, -⟩ | ⟨-, hphase⟩⟩ := htracked
    · rw [hshared] at hexclusive
      cases hexclusive
    · exact hphase
  cases hexecuted with
  | refused => rfl
  | uncreated hexclusive =>
    obtain ⟨kept, rfl⟩ := hphase hexclusive
    rfl
  | @ran task t reply references hexclusive hvalid hrun =>
    obtain ⟨kept, rfl⟩ := hphase hexclusive
    have htask := hrun.lifecycle hvalid hselects kept
    rw [List.cons_append, Monitor.run_cons]
    exact Monitor.run_append_of_some htask (by simp [taskLifecycle, taskStep])

/-- `mac_destroy` gives the device back. -/
theorem macDestroy_releases :
    Monitored (taskLifecycle selects) (ScsiTracked true) Scsi.macDestroy
      fun _ => ScsiTracked false := by
  intro c phase t reply c' htracked h
  unfold Scsi.macDestroy at h
  rw [exec_get_bind] at h
  refine ⟨.released, ?_, rfl⟩
  obtain ⟨hdevice, ⟨hshared, rfl⟩ | ⟨hexclusive, kept, rfl⟩⟩ := htracked
  · simp only [hshared, hdevice, Bool.false_eq_true, if_false, if_true] at h
    obtain ⟨references, t₁, h₁, rfl⟩ := exec_call_bind.1 h
    obtain ⟨rfl, -⟩ := exec_pure.1 h₁
    rfl
  · simp only [hexclusive, hdevice, if_true] at h
    obtain ⟨result, t₁, h₁, rfl⟩ := exec_call_bind.1 h
    rw [exec_modify_bind] at h₁
    obtain ⟨references, t₂, h₂, rfl⟩ := exec_call_bind.1 h₁
    obtain ⟨rfl, -⟩ := exec_pure.1 h₂
    -- the device is given back whether or not the access could be ended
    by_cases hok : result = kIOReturnSuccess <;> simp [taskLifecycle, hok]

/-- The calls of a client to its transport. -/
inductive ScsiClientCall where
  | transport (call : TransportCall)
  | destroy

/-- What they return. -/
abbrev ScsiClientReply : ScsiClientCall → Type
  | .transport call => TransportReply call
  | .destroy => Unit

/-- The program behind each of them. -/
def scsiClient : (call : ScsiClientCall) → ScsiIo (ScsiClientReply call)
  | .transport call => scsiTransport call
  | .destroy => Scsi.macDestroy

/-- The calls on a transport that was just created. -/
abbrev ScsiSession : Type := Session scsiClient {}

/-- Nothing follows a destruction, and only with `selects` commands that send data are executed. -/
def scsiClientGate (selects : Bool) : Monitor ScsiClientReply Bool
  | false, _, _ => none
  | true, .destroy, _ => some false
  | true, .transport (.execute command), _ =>
      if command.direction = .dataOut → selects = true then some true else none
  | true, .transport _, _ => some true

/-- Every call of a client follows the protocol. -/
theorem scsiClient_obeys :
    Obeys scsiClient (scsiClientGate selects) (taskLifecycle selects) ScsiTracked := by
  intro call alive alive₁ phase c inner reply c' htracked hstep hexec
  cases alive with
  | false => cases hstep
  | true =>
    cases call with
    | destroy =>
      obtain rfl := Option.some.inj hstep
      exact macDestroy_releases htracked hexec
    | transport call =>
      cases call with
      | acquireExclusive detail =>
        obtain rfl := Option.some.inj hstep
        exact macAcquire_keeps detail htracked hexec
      | releaseExclusive detail =>
        obtain rfl := Option.some.inj hstep
        exact macRelease_keeps detail htracked hexec
      | execute command =>
        -- the gate lets a command through only when it may select
        simp only [scsiClientGate, Option.ite_none_right_eq_some, Option.some.injEq] at hstep
        obtain ⟨hselects, rfl⟩ := hstep
        exact macExecute_keeps hselects htracked hexec

/-! ## Every client -/

/-- In every session up to the destruction, each task is created while the access is exclusive,
told what the allowlist accepts, executed at most once and released before the next one. -/
theorem scsiSession_lifecycle (session : ScsiSession) {alive : Bool}
    (hclient : (scsiClientGate selects).run true (session.calls.map Handled.event) = some alive) :
    ∃ phase, (taskLifecycle selects).run .shared session.trace = some phase ∧
      ScsiTracked alive session.final phase :=
  scsiClient_obeys.chain session.chain hclient (scsiTracked_shared rfl rfl)

/-- A device on which everything succeeds but the end of the exclusive access. -/
def clingingDevice : ℕ → (call : ScsiCall) → ScsiReply call
  | _, .obtainExclusiveAccess => kIOReturnSuccess
  | _, .releaseExclusiveAccess => kIOReturnNotReady
  | n, .createScsiTask => some n
  | _, .setCommandDescriptorBlock _ _ => kIOReturnSuccess
  | _, .setScatterGatherEntries _ _ _ _ => kIOReturnSuccess
  | _, .setTimeoutDuration _ _ => kIOReturnSuccess
  | _, .executeTaskSync (n := n) _ buffer =>
      ⟨kIOReturnSuccess, Vector.replicate scsiSenseLength 0, 0, UInt64.ofNat n, buffer⟩
  | _, .releaseTask _ => 0
  | _, .releaseDevice => 0

/-- READ (10) of the first block. -/
def firstBlock : Command :=
  simpleCommand (cdbRead10 0 1) .dataIn (some (Vector.replicate blockSize 0))

/-- A block is read, also after a release that failed. -/
def clingingSession : ScsiSession := .replay
  [(.transport (.acquireExclusive Text.empty), clingingDevice),
    (.transport (.execute firstBlock), clingingDevice),
    (.transport (.releaseExclusive Text.empty), clingingDevice),
    (.transport (.execute firstBlock), clingingDevice),
    (.destroy, clingingDevice)] _

/-- A session whose release fails, and which is destroyed, follows the protocol to its end. -/
theorem clingingSession_lifecycle :
    (scsiClientGate false).run true (clingingSession.calls.map Handled.event) = some false ∧
      ∃ phase, (taskLifecycle false).run .shared clingingSession.trace = some phase ∧
        ScsiTracked false clingingSession.final phase :=
  have hclient : (scsiClientGate false).run true (clingingSession.calls.map Handled.event) =
      some false := by decide +kernel
  ⟨hclient, scsiSession_lifecycle clingingSession hclient⟩

end M65
