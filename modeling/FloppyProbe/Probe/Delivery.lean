import FloppyProbe.Cbi.GoodResult
import FloppyProbe.Cbi.Wire
import FloppyProbe.Probe.Inspection
import FloppyProbe.Probe.Verdict
import Mathlib.Algebra.BigOperators.Ring.List
import Mathlib.Data.List.Flatten

/-!
# What a device delivered

A delivery is what came in for a command block. A workflow sees its device only through the good
commands that fetched data (`Command.delivery`). This is said without the transport, so that it
holds on each of them.

* `inspectionDelivered_of_exec`: the report of a good inspection is made of five deliveries;
* `deliveredTwice_of_exec`: the image of a test with the verdict SUPPORTED is what two passes over
  the medium delivered.
-/

namespace M65

open Interaction

variable {s s' : Bool} {t : List WorkflowEvent} {report report' : Report1581}

/-! ## Deliveries -/

/-- Data that came in, with the command block that asked for them. -/
structure Delivery where
  block : CommandBlock
  data : List UInt8
deriving DecidableEq

instance (result : CommandResult) : Decidable result.IsGood :=
  inferInstanceAs (Decidable (result.transportStatus = .ok ∧ result.scsiStatus = 0))

/-- The data that a good command returned. -/
def Command.delivery (command : Command) (reply : ExecuteReply command.dataLength) :
    List Delivery :=
  if command.direction = .dataIn ∧ reply.result.IsGood then
    [⟨command.padded, reply.buffer.toList.take reply.result.transferred⟩]
  else []

/-- The data that the good commands of a workflow returned. -/
def deliveriesOf (t : List WorkflowEvent) : List Delivery :=
  (executions t).flatMap fun e => e.command.delivery e.reply

namespace Delivery

/-- The logical block address of a READ (10). -/
def lba (d : Delivery) : ℕ := ((readBe32 d.block.toList cbiCdbLength 2).getD 0).toNat

/-- The number of blocks of a READ (10). -/
def blockCount (d : Delivery) : ℕ := ((readBe16 d.block.toList cbiCdbLength 7).getD 0).toNat

/-- The blocks that a READ (10) covers. -/
def blocks (d : Delivery) : List ℕ := List.range' d.lba d.blockCount

end Delivery

/-- A pass of READ (10) over the medium: every block once, in ascending order, all of its bytes. -/
structure DeliversMedium (pass : List Delivery) : Prop where
  reads : ∀ d ∈ pass, d.block[0] = opcodeRead10
  covers : pass.flatMap Delivery.blocks = List.range blocks1581
  full : ∀ d ∈ pass, d.data.length = d.blockCount * blockSize

/-- Two passes over the medium both delivered the image. -/
def DeliveredTwice (image : List UInt8) (deliveries : List Delivery) : Prop :=
  ∃ first second, (first ++ second).Sublist deliveries ∧ DeliversMedium first ∧
    DeliversMedium second ∧ first.flatMap (·.data) = image ∧ second.flatMap (·.data) = image

/-- Further deliveries do not matter. -/
theorem DeliveredTwice.mono {image : List UInt8} {deliveries deliveries' : List Delivery}
    (h : DeliveredTwice image deliveries) (hsub : deliveries.Sublist deliveries') :
    DeliveredTwice image deliveries' := by
  obtain ⟨first, second, hpasses, hrest⟩ := h
  exact ⟨first, second, hpasses.trans hsub, hrest⟩

/-- A pass delivers as many bytes as the medium has. -/
theorem DeliversMedium.length_eq {pass : List Delivery} (h : DeliversMedium pass) :
    (pass.flatMap (·.data)).length = imageSize1581 := by
  have hblocks (d : Delivery) : d.blocks.length = d.blockCount := List.length_range'
  calc (pass.flatMap (·.data)).length
      = (pass.map fun d => d.blockCount * blockSize).sum := by
        rw [List.length_flatMap, List.map_congr_left h.full]
    _ = (pass.flatMap Delivery.blocks).length * blockSize := by
        rw [List.length_flatMap, List.map_congr_left fun d _ => hblocks d, List.sum_map_mul_right]
    _ = imageSize1581 := by rw [h.covers, List.length_range]; rfl

/-- An image that was delivered twice is complete. -/
theorem DeliveredTwice.length_eq {image : List UInt8} {deliveries : List Delivery}
    (h : DeliveredTwice image deliveries) : image.length = imageSize1581 := by
  obtain ⟨first, second, -, hfirst, -, rfl, -⟩ := h
  exact hfirst.length_eq

/-! ## Inspections -/

/-- The delivery was asked for with `cdb`, and its data parse to `response`. -/
structure Delivery.Answers {α : Type} (d : Delivery) (cdb : Vector UInt8 16 × ℕ)
    (parse : List UInt8 → ℕ → Except ErrorText α) (response : α) : Prop where
  block : d.block = padCdb cdb
  parsed : parse d.data d.data.length = .ok response

/-- The five deliveries of an inspection, and the report that they make. -/
structure InspectionDelivered (report : InspectReport)
    (inquiry capacity formats current changeable : Delivery) : Prop where
  inquiry : inquiry.Answers (cdbInquiry 96) parseInquiry report.inquiry
  capacity : capacity.Answers cdbReadCapacity10 parseReadCapacity10 report.capacity
  formats : formats.Answers (cdbReadFormatCapacities 252) parseFormatCapacities
    report.formatCapacities
  changeable : changeable.Answers (cdbModeSense10 true 256) parseModeParameters
    report.changeableMode
  /-- The page in effect, with the changeability of its fields taken from the mask. -/
  current : ∃ parameters,
    current.Answers (cdbModeSense10 false 256) parseModeParameters parameters ∧
      report.currentMode = { parameters with
        flexible := applyChangeability parameters.flexible report.changeableMode.flexible }

/-- A command's copy of its block is padded as the block itself. -/
theorem padCdb_copyBytes (cdb : Vector UInt8 16 × ℕ) :
    padCdb (copyBytes 16 cdb.1 cdb.2, cdb.2) = padCdb cdb := by
  ext i hi
  have hcopy : (copyBytes 16 cdb.1 cdb.2)[i]? =
      some (if i < cdb.2 then cdb.1[i]?.getD 0 else 0) := by
    rw [Vector.getElem?_eq_getElem (hi.trans (by decide)), copyBytes, Vector.getElem_ofFn]
  have hpadded := getElem_padCdb (copyBytes 16 cdb.1 cdb.2) cdb.2 ⟨i, hi⟩
  have hblock := getElem_padCdb cdb.1 cdb.2 ⟨i, hi⟩
  simp only [Fin.getElem_fin, hcopy, Option.getD_some] at hpadded hblock
  rw [hpadded, hblock]
  split <;> rfl

/-- What an accepted answer delivered. -/
theorem Execution.Delivers.answers {α : Type} {e : Execution} {cdb : Vector UInt8 16 × ℕ}
    {bufferSize : ℕ} {parse : List UInt8 → ℕ → Except ErrorText α} {response : α}
    (h : e.Delivers parse response)
    (hwire : e.command.wire = (inputCommand cdb bufferSize).wire) :
    e.command.delivery e.reply = [⟨e.command.padded, e.transferredBytes⟩] ∧
      Delivery.Answers ⟨e.command.padded, e.transferredBytes⟩ cdb parse response := by
  have hgood := h.good
  simp only [commandGood, Bool.and_eq_true, beq_iff_eq] at hgood
  have hdirection : e.command.direction = .dataIn := congrArg Wire.direction hwire
  have hlength : e.transferredBytes.length = e.reply.result.transferred := by
    rw [Execution.transferredBytes, List.length_take, Vector.length_toList]
    exact min_eq_left h.fits
  have hcdb : e.command.cdb = copyBytes 16 cdb.1 cdb.2 := congrArg Wire.cdb hwire
  have hcdbLength : e.command.cdbLength = cdb.2 := congrArg Wire.cdbLength hwire
  refine ⟨if_pos ⟨hdirection, hgood⟩, ?_, ?_⟩
  · show e.command.padded = padCdb cdb
    rw [Command.padded, hcdb, hcdbLength, padCdb_copyBytes]
  · show parse e.transferredBytes e.transferredBytes.length = .ok response
    rw [hlength]
    exact h.parsed

/-- The report of a good inspection is made of what its transport returned, and nothing else was
returned. -/
theorem inspectionDelivered_of_exec {report : InspectReport} {t : List WorkflowEvent}
    (h : Exec inspect s t report s') (hcode : report.code = .ok) :
    ∃ inquiry capacity formats current changeable,
      deliveriesOf t = [inquiry, capacity, formats, current, changeable] ∧
        InspectionDelivered report inquiry capacity formats current changeable := by
  have hinspected := inspected_of_exec h
  obtain ⟨inquiry, unit, capacity, formats, current, changeable, hexecutions, hfound⟩ :=
    hinspected.found hcode
  have hwires := hinspected.commands_isPrefix.eq_of_length (by rw [hexecutions]; rfl)
  rw [hexecutions] at hwires
  simp only [List.map_cons, List.map_nil, inspectStages, unitStages, capacityStages, modeStages,
    parsedStage, List.cons.injEq, and_true] at hwires
  obtain ⟨hinquiry, hunit, hcapacity, hformats, hcurrent, hchangeable⟩ := hwires
  obtain ⟨hdelivery₁, hanswers₁⟩ := hfound.inquiry.answers hinquiry
  obtain ⟨hdelivery₂, hanswers₂⟩ := hfound.capacity.answers hcapacity
  obtain ⟨hdelivery₃, hanswers₃⟩ := hfound.formatCapacities.answers hformats
  obtain ⟨parameters, hparameters, hmode⟩ := hfound.current
  obtain ⟨hdelivery₄, hanswers₄⟩ := hparameters.answers hcurrent
  obtain ⟨hdelivery₅, hanswers₅⟩ := hfound.changeable.answers hchangeable
  -- TEST UNIT READY returns no data
  have hnone : unit.command.delivery unit.reply = [] := by
    have hdirection : unit.command.direction = .none := congrArg Wire.direction hunit
    rw [Command.delivery, if_neg]
    rintro ⟨hin, -⟩
    exact absurd (hdirection.symm.trans hin) nofun
  refine ⟨_, _, _, _, _, ?_, hanswers₁, hanswers₂, hanswers₃, hanswers₅, parameters, hanswers₄,
    hmode⟩
  rw [deliveriesOf, hexecutions]
  simp only [List.flatMap_cons, List.flatMap_nil, hdelivery₁, hdelivery₂, hdelivery₃, hdelivery₄,
    hdelivery₅, hnone, List.nil_append, List.singleton_append]

/-! ## Passes of the workflow -/

/-- What a READ (10) of a pass returned. -/
def Execution.delivered (e : Execution) : Delivery := ⟨e.command.padded, e.returned⟩

/-- The padded block begins with the block. -/
theorem byteAt_padded {command : Command} {i : ℕ} (hi : i < command.cdbLength)
    (hblock : i < cbiCdbLength) :
    byteAt command.padded.toList i = byteAt command.cdb.toList i := by
  have hbyte := getElem_padCdb command.cdb command.cdbLength ⟨i, hblock⟩
  rw [if_pos hi] at hbyte
  rw [byteAt, byteAt, List.getD_eq_getElem?_getD, List.getD_eq_getElem?_getD,
    Vector.getElem?_toList, Vector.getElem?_toList, Vector.getElem?_eq_getElem hblock]
  exact hbyte

/-- The fields of a READ (10) are those of its block. -/
theorem Execution.delivered_fields {e : Execution} (hlength : e.command.cdbLength = 10) :
    e.delivered.lba = e.lba ∧ e.delivered.blockCount = e.blockCount := by
  have hbyte {i : ℕ} (hi : i < 10) :
      byteAt e.delivered.block.toList i = byteAt e.command.cdb.toList i :=
    byteAt_padded (hlength.symm ▸ hi) (hi.trans (by decide))
  constructor
  · rw [Delivery.lba, Execution.lba, readBe32, readBe32, if_pos (by decide), if_pos (by decide),
      hbyte (by decide), hbyte (by decide), hbyte (by decide), hbyte (by decide)]
  · rw [Delivery.blockCount, Execution.blockCount, readBe16, readBe16, if_pos (by decide),
      if_pos (by decide), hbyte (by decide), hbyte (by decide)]

/-- A command of a pass is a READ (10) that fetched all of its data. -/
theorem Pass.fetches {pass : List Execution} {image : List UInt8} (h : Pass pass image)
    {e : Execution} (he : e ∈ pass) : e.command.cdbLength = 10 ∧
      e.command.delivery e.reply = [e.delivered] := by
  obtain ⟨i, -, hsends⟩ := h.sends he
  obtain ⟨hgood, htransferred⟩ := hsends.succeeded_read (h.succeeded e he)
  have hdirection : e.command.direction = .dataIn := congrArg Wire.direction hsends
  have hlength : e.command.dataLength = _ := hsends.read.2.2.2
  simp only [commandGood, Bool.and_eq_true, beq_iff_eq] at hgood
  refine ⟨congrArg Wire.cdbLength hsends, ?_⟩
  rw [Command.delivery, if_pos ⟨hdirection, hgood⟩, htransferred, ← hlength, List.take_of_length_le]
  · rfl
  · rw [Vector.length_toList]

/-- A complete pass delivers the medium. -/
theorem Pass.deliversMedium {pass : List Execution} {image : List UInt8} (h : Pass pass image) :
    DeliversMedium (pass.map Execution.delivered) := by
  have hcomplete := completePass_of_pass h
  refine ⟨List.forall_mem_map.2 fun e he => ?_, ?_, List.forall_mem_map.2 fun e he => ?_⟩
  · have hopcode : e.command.padded[0] = e.command.cdbByte 0 :=
      opcode_padded (by rw [(h.fetches he).1]; decide)
    exact hopcode.trans (hcomplete.reads e he)
  · rw [List.flatMap_map, ← hcomplete.covers]
    refine List.flatMap_congr fun e he => ?_
    obtain ⟨hlba, hcount⟩ := Execution.delivered_fields (h.fetches he).1
    rw [Delivery.blocks, Execution.blocks, hlba, hcount]
  · obtain ⟨i, -, hsends⟩ := h.sends he
    obtain ⟨-, -, hcount, hlength⟩ := hsends.read
    rw [(Execution.delivered_fields (h.fetches he).1).2, hcount, ← hlength]
    exact Vector.length_toList

/-- The deliveries of a pass are those of its commands. -/
theorem Pass.deliveries {pass : List Execution} {image : List UInt8} (h : Pass pass image) :
    pass.flatMap (fun e => e.command.delivery e.reply) = pass.map Execution.delivered := by
  rw [← List.flatMap_pure_eq_map]
  exact List.flatMap_congr fun e he => (h.fetches he).2

/-! ## The image -/

/-- Two passes of a test with the verdict SUPPORTED delivered the image of its report. -/
theorem deliveredTwice_of_exec {acknowledgement : Bool}
    (h : Exec (test1581 acknowledgement) s t report s') (hstatus : report.status = .supported) :
    DeliveredTwice ((report.image.getD []).take report.imageLength) (deliveriesOf t) := by
  cases tested_of_exec h with
  | unacknowledged huntouched | refused _ huntouched =>
    exact absurd (huntouched.status_eq.symm.trans hstatus) (by decide)
  | @acquired s₀ s₁ s₂ n detail reply releaseReply body cleanup progress report₁ _ _ hprobe
      hrestored hreleased =>
    obtain ⟨hok, -, -, himage, hlength⟩ := hreleased.supported hstatus
    have hstatus₁ : report₁.status = .supported := (hreleased.status_eq hok).symm.trans hstatus
    obtain ⟨t₁, t₂, t₃, mode, mask, rfl, hsense, hmask, -, hmatch, -, hneeded, hsaved⟩ :=
      (probed_of_exec hprobe).of_supported nofun (hrestored.status_of_supported hstatus₁)
    obtain ⟨rfl, restore, -⟩ := hrestored.of_supported hstatus₁ (by rw [hneeded, hsaved]; rfl)
    obtain ⟨-, select, readback, read9, read1599, parameters, hfound, -⟩ := hmatch
    obtain ⟨-, himageLength, pass₁, pass₂, image, hexecutions, hpass₁, hpass₂, hreport, hsize⟩ :=
      hfound
    -- the report owns exactly the image that both passes returned
    have hcaptured : (report.image.getD []).take report.imageLength = image := by
      have himage₁ : report.image = some image := himage.trans hreport
      have hlength₁ : report.imageLength = imageSize1581 := hlength.trans himageLength
      rw [himage₁, hlength₁, Option.getD_some, List.take_of_length_le hsize.le]
    rw [hcaptured]
    refine ⟨pass₁.map Execution.delivered, pass₂.map Execution.delivered, ?_,
      hpass₁.deliversMedium, hpass₂.deliversMedium, ?_, ?_⟩
    · -- the passes are the last commands of the body
      rw [← hpass₁.deliveries, ← hpass₂.deliveries, ← List.flatMap_append]
      have hsub : (pass₁ ++ pass₂).Sublist (executions t₃) := by
        rw [hexecutions]
        exact List.sublist_append_right _ _
      have hbody : (executions t₃).Sublist (executions (t₁ ++ (t₂ ++ t₃))) := by
        rw [executions_append, executions_append]
        exact (List.sublist_append_right _ _).trans (List.sublist_append_right _ _)
      refine (hsub.trans (hbody.trans ?_)).flatMap fun e => e.command.delivery e.reply
      rw [executions_acquired]
      exact List.sublist_append_left _ _
    · rw [List.flatMap_map]
      exact hpass₁.returned
    · rw [List.flatMap_map]
      exact hpass₂.returned

end M65
