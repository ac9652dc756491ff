import FloppyProbe.Probe.CallShape

/-!
# The verdict SUPPORTED

What stands behind the verdict: the change was read back with the 1581 geometry, the medium was
read twice from the first block to the last, both passes returned the image of the report, the
saved page was written back, and the transport was released. Without the verdict there is no
image.
-/

namespace M65

open Interaction

variable {s : Bool} {t : List WorkflowEvent} {report report' : Report1581}

/-! ## Blocks -/

namespace Execution

/-- The device got the command of `request`. -/
def Sends (e : Execution) (request : Request) : Prop := e.command.wire = request.wire

/-- The command succeeded. -/
def Succeeded (e : Execution) : Prop := succeeded e.command e.reply = true

/-- The logical block address of a READ (10). -/
def lba (e : Execution) : ℕ := ((readBe32 e.command.cdb.toList 10 2).getD 0).toNat

/-- The number of blocks of a READ (10). -/
def blockCount (e : Execution) : ℕ := ((readBe16 e.command.cdb.toList 10 7).getD 0).toNat

/-- The blocks that a READ (10) covers. -/
def blocks (e : Execution) : List ℕ := List.range' e.lba e.blockCount

end Execution

/-- The command descriptor block of a READ (10) holds its address and its length. -/
theorem readBe_readCommand (lba : UInt32) (blocks : UInt16)
    (buffer : Vector UInt8 (blocks.toNat * blockSize)) :
    readBe32 (readCommand lba blocks buffer).cdb.toList 10 2 = some lba ∧
      readBe16 (readCommand lba blocks buffer).cdb.toList 10 7 = some blocks := by
  have hlba := be32_join lba
  have hblocks := be16_join blocks
  constructor
  · rw [readBe32, if_pos (by decide)]
    simpa [byteAt, readCommand, simpleCommand, cdbRead10, copyBytes, writeBe16, writeBe32,
      cdbWithOpcode] using hlba
  · rw [readBe16, if_pos (by decide)]
    simpa [byteAt, readCommand, simpleCommand, cdbRead10, copyBytes, writeBe16, writeBe32,
      cdbWithOpcode] using hblocks

/-- A read has its address and its size in its block. -/
theorem Execution.Sends.read {e : Execution} {lba : UInt32} {blocks : UInt16}
    (h : e.Sends (.read lba blocks)) :
    e.command.cdbByte 0 = opcodeRead10 ∧ e.lba = lba.toNat ∧ e.blockCount = blocks.toNat ∧
      e.command.dataLength = blocks.toNat * blockSize := by
  have hcdb : e.command.cdb = (readCommand lba blocks (Vector.replicate _ 0)).cdb :=
    congrArg Wire.cdb h
  have hfields := readBe_readCommand lba blocks (Vector.replicate _ 0)
  have hopcode := readCommand_opcode lba blocks (Vector.replicate _ 0)
  refine ⟨?_, ?_, ?_, congrArg Wire.dataLength h⟩
  · rw [Command.cdbByte, hcdb]
    exact hopcode
  · rw [Execution.lba, hcdb, hfields.1, Option.getD_some]
  · rw [Execution.blockCount, hcdb, hfields.2, Option.getD_some]

/-- A complete pass of READ (10) over the medium that returned `image`. -/
structure CompletePass (pass : List Execution) (image : List UInt8) : Prop where
  reads : ∀ e ∈ pass, e.command.cdbByte 0 = opcodeRead10
  /-- Every block once, in ascending order. -/
  covers : pass.flatMap Execution.blocks = List.range blocks1581
  full : ∀ e ∈ pass, commandGood e.reply.result = true ∧
    e.reply.result.transferred = e.blockCount * blockSize
  /-- Every block of the image is what the pass returned for it. -/
  block_eq : ∀ e ∈ pass, ∀ i < e.blockCount,
    (image.drop ((e.lba + i) * blockSize)).take blockSize =
      (e.returned.drop (i * blockSize)).take blockSize

/-- The first of several commands with consecutive blocks starts where they start. -/
theorem blocks_cons_eq {d : Execution} {pass : List Execution} {start count : ℕ}
    (h : (d :: pass).flatMap Execution.blocks = List.range' start count) :
    d.blocks = List.range' start d.blockCount ∧
      pass.flatMap Execution.blocks =
        List.range' (start + d.blockCount) (count - d.blockCount) := by
  rw [List.flatMap_cons] at h
  have hcount : d.blockCount ≤ count := by
    have hlength := congrArg List.length h
    simp only [List.length_append, Execution.blocks, List.length_range'] at hlength
    omega
  have hsplit : List.range' start count = List.range' start d.blockCount ++
      List.range' (start + d.blockCount) (count - d.blockCount) := by
    rw [List.range'_append_1, Nat.add_sub_cancel' hcount]
  rw [hsplit] at h
  exact List.append_inj h (by simp [Execution.blocks])

/-- The blocks of consecutive commands stand at their places in what the commands returned. -/
theorem block_eq_of_consecutive {pass : List Execution} {start count : ℕ} (before : List UInt8)
    (hblocks : pass.flatMap Execution.blocks = List.range' start count)
    (hlength : ∀ e ∈ pass, e.returned.length = e.blockCount * blockSize)
    (hbefore : before.length = start * blockSize) {e : Execution} (he : e ∈ pass) {i : ℕ}
    (hi : i < e.blockCount) :
    ((before ++ pass.flatMap (·.returned)).drop ((e.lba + i) * blockSize)).take blockSize =
      (e.returned.drop (i * blockSize)).take blockSize := by
  induction pass generalizing start count before with
  | nil => cases he
  | cons d pass ih =>
      obtain ⟨hfirst, hrest⟩ := blocks_cons_eq hblocks
      have hd := hlength d List.mem_cons_self
      rw [List.flatMap_cons]
      -- the command is the first of the rest, which starts where `before` ends, or a later one
      rcases List.mem_cons.1 he with rfl | he
      · have hlba : e.lba = start := by
          have hhead := congrArg List.head? hfirst
          simpa [Execution.blocks, List.head?_range', Nat.ne_of_gt (Nat.zero_lt_of_lt hi)]
            using hhead
        have hfits : i * blockSize + blockSize ≤ e.returned.length := by
          rw [hd, ← Nat.succ_mul]
          exact Nat.mul_le_mul_right _ hi
        have hdrop : (e.lba + i) * blockSize = before.length + i * blockSize := by
          rw [hlba, hbefore, Nat.add_mul]
        have hin : blockSize ≤ (e.returned.drop (i * blockSize)).length := by
          rw [List.length_drop]
          exact Nat.le_sub_of_add_le' hfits
        rw [hdrop, List.drop_length_add_append,
          List.drop_append_of_le_length ((Nat.le_add_right _ _).trans hfits),
          List.take_append_of_le_length hin]
      · rw [← List.append_assoc]
        refine ih _ hrest (fun e he => hlength e (List.mem_cons_of_mem _ he)) ?_ he
        rw [List.length_append, hbefore, hd, Nat.add_mul]

/-! ## Passes -/

/-- A read that succeeded transferred all of its blocks. -/
theorem Execution.Sends.succeeded_read {e : Execution} {lba : UInt32} {blocks : UInt16}
    (h : e.Sends (.read lba blocks)) (hsucceeded : e.Succeeded) :
    commandGood e.reply.result = true ∧
      e.reply.result.transferred = blocks.toNat * blockSize := by
  obtain ⟨hopcode, -, -, hlength⟩ := h.read
  unfold Execution.Succeeded succeeded at hsucceeded
  rw [if_neg (by rw [hopcode]; decide), if_pos hopcode, Bool.and_eq_true, beq_iff_eq]
    at hsucceeded
  exact ⟨hsucceeded.1, hsucceeded.2.trans hlength⟩

/-- The commands of a pass are reads of its chunks. -/
theorem Pass.sends {pass : List Execution} {image : List UInt8} (h : Pass pass image)
    {e : Execution} (he : e ∈ pass) :
    ∃ i < readChunks, e.Sends (.read (UInt32.ofNat (readChunkBlocks * i)) 10) := by
  have hmem := List.mem_map_of_mem (f := (·.command.wire)) he
  rw [h.wires, List.map_map, List.mem_map] at hmem
  obtain ⟨i, hi, hwire⟩ := hmem
  rw [List.mem_range'_1] at hi
  exact ⟨i, by omega, hwire.symm⟩

/-- The blocks of the chunks from `i` on. -/
theorem flatMap_blocks_chunks {pass : List Execution} {i count : ℕ} (hi : i + count ≤ readChunks)
    (h : pass.map (·.command.wire) = ((List.range' i count).map chunkRequest).map Request.wire) :
    pass.flatMap Execution.blocks =
      List.range' (readChunkBlocks * i) (readChunkBlocks * count) := by
  induction count generalizing pass i with
  | zero =>
      obtain rfl : pass = [] := by simpa using h
      rfl
  | succ count ih =>
      cases pass with
      | nil => simp [List.range'_succ] at h
      | cons e pass =>
          rw [List.range'_succ, List.map_cons, List.map_cons, List.map_cons, List.cons.injEq] at h
          have hsends : e.Sends (.read (UInt32.ofNat (readChunkBlocks * i)) 10) := h.1
          obtain ⟨-, hlba, hcount, -⟩ := hsends.read
          have hlba : e.lba = readChunkBlocks * i := by
            rw [hlba, UInt32.toNat_ofNat']
            exact Nat.mod_eq_of_lt (by simp only [readChunkBlocks, readChunks] at *; omega)
          rw [List.flatMap_cons, ih (by omega) h.2, Execution.blocks, hlba, hcount]
          show List.range' (readChunkBlocks * i) readChunkBlocks ++ _ = _
          rw [Nat.mul_succ, Nat.mul_succ, List.range'_append_1, Nat.add_comm readChunkBlocks]

/-- A pass of the plan is a complete pass of READ (10). -/
theorem completePass_of_pass {pass : List Execution} {image : List UInt8} (h : Pass pass image) :
    CompletePass pass image := by
  have hcovers : pass.flatMap Execution.blocks = List.range' 0 blocks1581 := by
    rw [flatMap_blocks_chunks (Nat.zero_add readChunks).le h.wires]
    rfl
  have hlength : ∀ e ∈ pass, e.returned.length = e.blockCount * blockSize := by
    intro e he
    obtain ⟨i, -, hsends⟩ := h.sends he
    obtain ⟨-, -, hcount, hdata⟩ := hsends.read
    rw [Execution.returned, Vector.length_toList, hdata, hcount]
  refine ⟨fun e he => ?_, ?_, fun e he => ?_, fun e he i hi => ?_⟩
  · obtain ⟨i, -, hsends⟩ := h.sends he
    exact hsends.read.1
  · rw [hcovers, List.range_eq_range']
  · obtain ⟨i, -, hsends⟩ := h.sends he
    rw [hsends.read.2.2.1]
    exact hsends.succeeded_read (h.succeeded e he)
  · have hblock := block_eq_of_consecutive [] hcovers hlength (by simp) he hi
    rwa [List.nil_append, h.returned] at hblock

/-! ## The verdict -/

/-- The six geometry fields of the page have the values of the 1581 geometry. -/
structure Has1581Geometry (page : FlexibleDiskPage) : Prop where
  transferRateKbit : page.transferRateKbit = 250
  heads : page.heads = 2
  sectorsPerTrack : page.sectorsPerTrack = 10
  bytesPerSector : page.bytesPerSector = 512
  cylinders : page.cylinders = 80
  mediumRotationRateRpm : page.mediumRotationRateRpm = 300

/-- A page that passes the test of the program has the fields of the geometry. -/
theorem has1581Geometry_of_geometryIs1581 {page : FlexibleDiskPage}
    (h : geometryIs1581 page = true) : Has1581Geometry page := by
  simp only [geometryIs1581, Bool.and_eq_true, beq_iff_eq] at h
  obtain ⟨⟨⟨⟨⟨hrate, hheads⟩, hsectors⟩, hbytes⟩, hcylinders⟩, hrotation⟩ := h
  exact ⟨hrate, hheads, hsectors, hbytes, hcylinders, hrotation⟩

/-- The device got the command of `request`, and it succeeded. -/
structure Execution.Completes (e : Execution) (request : Request) : Prop where
  sends : e.Sends request
  succeeded : e.Succeeded

/-- The commands of a run that ends with the verdict SUPPORTED. -/
structure SupportedCommands (report : Report1581) (sense mask select readback read9 read1599 :
    Execution) (pass₁ pass₂ : List Execution) (restore : Execution) (image : List UInt8) :
    Prop where
  saved : sense.Completes (.modeSense false)
  masked : mask.Completes (.modeSense true)
  selected : select.Completes (.modeSelect report.requested)
  verified : readback.Completes (.modeSense false)
  accepted : ∃ parameters, senseParameters readback.reply = .ok parameters ∧
    Has1581Geometry parameters.flexible
  boundary9 : read9.Completes (.read 9 1)
  boundary1599 : read1599.Completes (.read 1599 1)
  firstPass : CompletePass pass₁ image
  secondPass : CompletePass pass₂ image
  restored : restore.Completes (.modeSelect report.original)
  restoredGood : commandGood restore.reply.result = true

/-- The trace of a run that ends with the verdict SUPPORTED. -/
structure SupportedRun (report : Report1581) (t : List WorkflowEvent) : Prop where
  code_eq : report.code = .ok
  /-- The saved page and the requested one are made from what was read. -/
  named : PagesNamed report t
  /-- The length that the report gives for its image. -/
  imageLength_eq : report.imageLength = imageSize1581
  commands : ∃ sense mask select readback read9 read1599 pass₁ pass₂ restore image,
    executions t = [sense, mask, select, readback, read9, read1599] ++ (pass₁ ++ pass₂) ++
      [restore] ∧
    SupportedCommands report sense mask select readback read9 read1599 pass₁ pass₂ restore image ∧
    report.image = some image ∧ image.length = imageSize1581
  released : ∃ before e, t = before ++ [e] ∧ stepOf e = some .release ∧ Passed e

/-- The cleanup gives no verdict. -/
theorem Restored.status_of_supported {s₁ : Bool} {progress : Progress}
    (h : Restored progress s₁ t report) (hstatus : report.status = .supported) :
    progress.report.status = .supported := by
  cases h with
  | untouched => exact hstatus
  | written => exact hstatus
  | failed => cases hstatus

/-- A run whose cleanup keeps the verdict wrote the saved page back. -/
theorem Restored.of_supported {s₁ : Bool} {progress : Progress}
    (h : Restored progress s₁ t report) (hstatus : report.status = .supported)
    (hneeded : (progress.restoreNeeded && progress.report.originalSaved) = true) :
    report = { progress.report with controllerRestored := true } ∧
      ∃ restore, executions t = [restore] ∧
        restore.Completes (.modeSelect progress.originalMode.flexible) ∧
        commandGood restore.reply.result = true := by
  cases h with
  | untouched hunneeded => simp [hneeded] at hunneeded
  | failed => cases hstatus
  | @written n t' _ _ _ hselect hgood =>
      refine ⟨rfl, ?_⟩
      have hexecutions : executions (⟨s₁, .clearInterrupt, n⟩ :: t') = executions t' := rfl
      rw [hexecutions]
      cases selected_of_exec hselect with
      | refused _ hbad => simp [hgood] at hbad
      | interrupted _ _ hbad => simp [hgood] at hbad
      | handed => exact ⟨⟨_, _⟩, rfl, ⟨rfl, (succeeded_modeSelect _ _).trans hgood⟩, hgood⟩

/-- A run that stops before the change, or in it, has no verdict SUPPORTED. -/
theorem Probed.of_supported {progress : Progress} (h : Probed report t progress)
    (hstart : report.status ≠ .supported) (hstatus : progress.report.status = .supported) :
    ∃ t₁ t₂ t₃ mode mask, t = t₁ ++ (t₂ ++ t₃) ∧ Sensed false t₁ mode ∧ Sensed true t₂ mask ∧
      Follows stepOf Passed (changePlan progress.report.requested) t₃ true ∧
      ChangeMatch t₃ progress.report ∧ progress.originalMode = mode ∧
      progress.restoreNeeded = true ∧ progress.report.originalSaved = true := by
  cases h with
  | unsaved _ hdescribes => exact absurd (hdescribes.status_eq.symm.trans hstatus) hstart
  | unmasked _ _ hdescribes => exact absurd (hdescribes.status_eq.symm.trans hstatus) hstart
  | denied => cases hstatus
  | attempted hsaved hmask _ hchange =>
      have hphase := changeGeometry_outcome hchange
      obtain ⟨completed, hfollows, hsupported⟩ := hphase.follows
      obtain ⟨rfl, hmatch⟩ := hsupported hstart hstatus
      rw [← hphase.setup.requested] at hfollows
      exact ⟨_, _, _, _, _, rfl, hsaved, hmask, hfollows, hmatch, rfl, rfl,
        hphase.setup.originalSaved⟩

/-- A MODE SENSE that succeeded is one command that succeeded. -/
theorem Sensed.completes {changeable : Bool} {parameters : ModeParameters}
    (h : Sensed changeable t parameters) :
    ∃ e, executions t = [e] ∧ e.Completes (.modeSense changeable) := by
  obtain ⟨e, hexecutions, -⟩ := h.parsed
  have he : e ∈ executions t := by simp [hexecutions]
  have hwire := executions_wire t
  rw [hexecutions, steps, h.follows.labels_eq] at hwire
  exact ⟨e, hexecutions, (List.cons.inj hwire).1, succeeded_of_passed h.follows.passed e he⟩

/-- The first four commands of a change that was completed. -/
theorem completes_of_changePlan {requested : FlexibleDiskPage}
    {select readback read9 read1599 : Execution} {rest : List Execution}
    (h : Follows stepOf Passed (changePlan requested) t true)
    (hexecutions : executions t = [select, readback, read9, read1599] ++ rest) :
    select.Completes (.modeSelect requested) ∧ readback.Completes (.modeSense false) ∧
      read9.Completes (.read 9 1) ∧ read1599.Completes (.read 1599 1) := by
  have hsucceeded := succeeded_of_passed h.passed
  have hwires := executions_wire t
  rw [hexecutions] at hsucceeded hwires
  rw [steps, h.labels_eq] at hwires
  obtain ⟨hselect, hwires⟩ := List.cons.inj hwires
  obtain ⟨hreadback, hwires⟩ := List.cons.inj hwires
  obtain ⟨hread9, hwires⟩ := List.cons.inj hwires
  obtain ⟨hread1599, -⟩ := List.cons.inj hwires
  exact ⟨⟨hselect, hsucceeded _ (by simp)⟩, ⟨hreadback, hsucceeded _ (by simp)⟩,
    ⟨hread9, hsucceeded _ (by simp)⟩, ⟨hread1599, hsucceeded _ (by simp)⟩⟩

/-- The commands of a body with the verdict SUPPORTED, and of a cleanup that keeps it. -/
theorem Probed.supportedCommands {s₁ : Bool} {body cleanup : List WorkflowEvent}
    {progress : Progress} {start report₁ : Report1581} (hprobed : Probed start body progress)
    (hrestored : Restored progress s₁ cleanup report₁) (hstart : start.status ≠ .supported)
    (hstatus : report₁.status = .supported) :
    progress.restoreNeeded = true ∧ report₁.code = .ok ∧ report₁.imageLength = imageSize1581 ∧
      ∃ sense mask select readback read9 read1599 pass₁ pass₂ restore image,
        executions body ++ executions cleanup =
          [sense, mask, select, readback, read9, read1599] ++ (pass₁ ++ pass₂) ++ [restore] ∧
        SupportedCommands report₁ sense mask select readback read9 read1599 pass₁ pass₂ restore
          image ∧
        report₁.image = some image ∧ image.length = imageSize1581 := by
  obtain ⟨t₁, t₂, t₃, mode, changeable, rfl, hsense, hmask, hfollows, hmatch, hmode, hneeded,
    hsaved⟩ := hprobed.of_supported hstart (hrestored.status_of_supported hstatus)
  obtain ⟨rfl, restore, hrestore, hcompletes, hgood⟩ :=
    hrestored.of_supported hstatus (by rw [hneeded, hsaved]; rfl)
  obtain ⟨sense, hsense, hsenseDone⟩ := hsense.completes
  obtain ⟨mask, hmask, hmaskDone⟩ := hmask.completes
  obtain ⟨haccepted, select, readback, read9, read1599, parameters, hfound, hparsed,
    hparameters⟩ := hmatch
  obtain ⟨pass₁, pass₂, image, hexecutions, hpass₁, hpass₂, hreport, hlength⟩ := hfound.passes
  obtain ⟨hselect, hreadback, hread9, hread1599⟩ := completes_of_changePlan hfollows hexecutions
  -- the cleanup writes the page back that the report names
  have horiginal : (Request.modeSelect progress.originalMode.flexible).wire =
      (Request.modeSelect progress.report.original).wire :=
    WorkflowStep.command.inj (hprobed.original_wire hneeded)
  refine ⟨hneeded, hfound.code_eq, hfound.imageLength_eq, sense, mask, select, readback, read9,
    read1599, pass₁, pass₂, restore, image, ?_, ⟨hsenseDone, hmaskDone, hselect, hreadback,
      ⟨parameters, hparsed, ?_⟩, hread9, hread1599, completePass_of_pass hpass₁,
      completePass_of_pass hpass₂, ?_, hgood⟩, hreport, hlength⟩
  · simp only [executions_append, hsense, hmask, hexecutions, hrestore]
    simp
  · exact hparameters ▸ has1581Geometry_of_geometryIs1581 haccepted
  · exact ⟨hcompletes.sends.trans horiginal, hcompletes.succeeded⟩

/-- SUPPORTED is sound, and without it there is no image. -/
theorem test1581_supported {acknowledgement : Bool} {s : Bool}
    (r : Run (test1581 acknowledgement) s) :
    (r.result.status = .supported → SupportedRun r.result r.trace) ∧
      (r.result.status ≠ .supported → r.result.image = none ∧ r.result.imageLength = 0) := by
  have htested := tested_of_exec r.exec
  generalize r.trace = trace at htested
  generalize r.result = report at htested
  cases htested with
  | unacknowledged huntouched | refused _ huntouched =>
      exact ⟨fun h => absurd (huntouched.status_eq.symm.trans h) (by decide),
        fun _ => ⟨huntouched.image_eq, huntouched.imageLength_eq⟩⟩
  | @acquired s₀ s₁ s₂ n detail reply releaseReply body cleanup progress report₁ _ hacquired hprobe
      hrestored hreleased =>
      refine ⟨fun hstatus => ?_, hreleased.discarded⟩
      -- a verdict was not taken away by the release, nor by the restoration before it
      obtain ⟨hok, hcode, -, himage, himageLength⟩ := hreleased.supported hstatus
      have hstatus₁ : report₁.status = .supported := (hreleased.status_eq hok).symm.trans hstatus
      have hprobed := probed_of_exec hprobe
      obtain ⟨hneeded, hcode₁, himageLength₁, sense, mask, select, readback, read9, read1599, pass₁,
        pass₂, restore, image, hexecutions, hcommands, himage₁, hlength⟩ :=
        hprobed.supportedCommands hrestored nofun hstatus₁
      have hpages := hreleased.setup
      have hnamed := hprobed.pagesNamed hneeded hrestored hreleased
      refine ⟨hcode.trans hcode₁, hnamed.of_isPrefix executions_body_isPrefix,
        himageLength.trans himageLength₁, ⟨sense, mask, select, readback, read9, read1599, pass₁,
          pass₂, restore, image, executions_acquired.trans hexecutions, ?_, himage.trans himage₁,
          hlength⟩, ?_⟩
      · exact { hcommands with
          selected := hpages.requested ▸ hcommands.selected
          restored := hpages.original ▸ hcommands.restored }
      · refine ⟨⟨s₀, .clearInterrupt, n⟩ ::
          ⟨false, .transport (.acquireExclusive detail), reply⟩ :: (body ++ cleanup),
          ⟨s₂, .transport (.releaseExclusive Text.empty), releaseReply⟩, ?_, rfl, hok⟩
        rw [List.cons_append, List.cons_append, List.append_assoc]

end M65
