import FloppyProbe.Probe.Workflow

/-!
# `m65_test_1581`

The workflow proper: save the controller's mode page, check that the controller permits the
change, select the 1581 geometry, read the medium twice, restore the page and release the
transport. The body of the C function up to the label `cleanup` is `probeGeometry`, which returns
what the cleanup needs.
-/

namespace M65

open Interaction

/-- `M651581Status`. -/
inductive Status1581 where
  | supported
  | unsupported
  | inconclusive
deriving DecidableEq, Inhabited

/-- `M651581Report`. -/
structure Report1581 where
  code : ProbeCode := .transport
  status : Status1581 := .inconclusive
  reason : ErrorText := Text.empty
  sense : Sense := {}
  original : FlexibleDiskPage := {}
  changeable : FlexibleDiskPage := {}
  requested : FlexibleDiskPage := {}
  accepted : FlexibleDiskPage := {}
  acknowledgementSupplied : Bool := false
  exclusiveAcquired : Bool := false
  originalSaved : Bool := false
  controllerChanged : Bool := false
  controllerRestored : Bool := false
  boundaryLba9Read : Bool := false
  boundaryLba1599Read : Bool := false
  repeatedReadsMatch : Bool := false
  image : Option (List UInt8) := none
  imageLength : ℕ := 0

/-- The report after `copy_command_failure` for a failed `operation`. -/
def Report1581.commandFailure (report : Report1581) (operation : String)
    (result : CommandResult) : Report1581 :=
  let failure := copyCommandFailure report.sense operation result
  { report with code := failure.1, reason := failure.2.1, sense := failure.2.2 }

/-- The report after a verdict that the geometry is unsupported. -/
def Report1581.markUnsupported (report : Report1581) : Report1581 :=
  { report with code := .unsupported, status := .unsupported }

/-! ## Reads -/

/-- `M65_READ_CHUNK_BLOCKS`. -/
abbrev readChunkBlocks : ℕ := 10

/-- The `length` bytes of the buffer at `image` that start at `offset`. -/
def slice (image : List UInt8) (offset length : ℕ) : Vector UInt8 length :=
  Vector.ofFn fun i => byteAt image (offset + i)

/-- The buffer at `image` after `bytes` were stored from `offset` on. -/
def splice (image : List UInt8) (offset : ℕ) (bytes : List UInt8) : List UInt8 :=
  image.take offset ++ bytes ++ image.drop (offset + bytes.length)

/-- The number of blocks that the loop of `read_complete_image` reads next. -/
def chunkAt (lba : ℕ) : ℕ :=
  let remaining := blocks1581 - lba
  if readChunkBlocks < remaining then readChunkBlocks else remaining

/-- No chunk is empty. -/
theorem chunkAt_pos {lba : ℕ} (h : lba < blocks1581) : 0 < chunkAt lba := by
  simp only [chunkAt, readChunkBlocks, blocks1581] at *
  split <;> omega

/-- The loop of `read_complete_image`, from `lba` on. -/
def readImageFrom (lba : ℕ) (image : List UInt8) (report : Report1581) :
    Workflow (Bool × List UInt8 × Report1581) := do
  if _h : lba < blocks1581 then
    -- the flag is tested here, and once more before the command goes out
    if ← testInterrupted then
      let reason := errorText "operation interrupted"
      return (false, image, { report with code := .transport, reason := reason })
    let blocks := UInt16.ofNat (chunkAt lba)
    let (result, chunk) ← readBlocks (UInt32.ofNat lba) blocks (slice image (lba * blockSize) _)
    let image := splice image (lba * blockSize) chunk.toList
    -- the bytes of a failed read are in the buffer all the same
    if !commandGood result then
      return (false, image, report.commandFailure "complete READ (10)" result)
    readImageFrom (lba + chunkAt lba) image report
  else
    return (true, image, report)
termination_by blocks1581 - lba
decreasing_by
  have := chunkAt_pos ‹lba < blocks1581›
  omega

/-- `read_complete_image`. -/
def readCompleteImage (image : List UInt8) (report : Report1581) :
    Workflow (Bool × List UInt8 × Report1581) :=
  readImageFrom 0 image report

/-- A read of the single block `lba` under the new geometry. -/
def probeBoundary (lba : UInt32) (operation : String) (report : Report1581) :
    Workflow (Bool × Report1581) := do
  let (result, _) ← readBlocks lba 1 (Vector.replicate _ 0)
  if !commandGood result then
    let report := report.commandFailure operation result
    -- only a status of the device says something about the medium
    if result.transportStatus = .ok then
      return (false, report.markUnsupported)
    return (false, report)
  return (true, report)

/-- The two complete reads and the comparison of the buffers. -/
def readTwice (image secondImage : List UInt8) (report : Report1581) : Workflow Report1581 := do
  let (done, image, report) ← readCompleteImage image report
  let report := { report with image := some image }
  -- the report points at the buffer, complete or not
  if !done then
    return report
  let (done, secondImage, report) ← readCompleteImage secondImage report
  if !done then
    return report
  if image ≠ secondImage then
    let reason := errorText "the two complete 819200-byte reads differed"
    return { report with code := .mismatch, status := .inconclusive, reason := reason }
  let reason := errorText "controller accepted 1581 geometry and two complete reads matched"
  return { report with repeatedReadsMatch := true, imageLength := imageSize1581, code := .ok,
                       status := .supported, reason := reason }

/-- From the allocation of the two read buffers to the verdict. -/
def compareCompleteReads (report : Report1581) : Workflow Report1581 := do
  let image ← malloc imageSize1581
  let secondImage ← malloc imageSize1581
  -- both buffers are asked for before either is looked at
  match image, secondImage with
  | some image, some secondImage => readTwice image.toList secondImage.toList report
  -- the first buffer stays in the report, which loses it after the cleanup
  | image, _ =>
      let reason := errorText "unable to allocate two 819200-byte read buffers"
      let image := image.map Vector.toList
      return { report with image := image, code := .transport, reason := reason }

/-! ## The workflow -/

/-- From the read of LBA 9 on. -/
def readMedium (report : Report1581) : Workflow Report1581 := do
  let (read, report) ← probeBoundary 9 "probe READ (10) LBA 9" report
  if !read then
    return report
  let report := { report with boundaryLba9Read := true }
  let (read, report) ← probeBoundary 1599 "probe READ (10) LBA 1599" report
  if !read then
    return report
  compareCompleteReads { report with boundaryLba1599Read := true }

/-- From the MODE SENSE that reads the geometry back on. -/
def verifyGeometry (report : Report1581) : Workflow Report1581 := do
  let (result, readbackMode) ← modeSense false default
  if !commandGood result then
    return report.commandFailure "verify MODE SENSE parameters" result
  let report := { report with accepted := readbackMode.flexible }
  -- accepted is what the controller says after the change, not what it was sent
  if !geometryIs1581 report.accepted then
    let reason := errorText "controller did not accept every requested 1581 geometry field"
    return { report.markUnsupported with reason := reason }
  readMedium report

/-- From the MODE SELECT of the requested page on. -/
def changeGeometry (report : Report1581) : Workflow Report1581 := do
  let result ← modeSelect report.requested
  if !commandGood result then
    let report := report.commandFailure "MODE SELECT requested 1581 geometry" result
    -- refused by the controller, as opposed to lost on the way
    if result.transportStatus = .ok then
      return report.markUnsupported
    return report
  verifyGeometry { report with controllerChanged := true }

/-- What the code after the label `cleanup` looks at. -/
structure Progress where
  report : Report1581
  originalMode : ModeParameters
  restoreNeeded : Bool

/-- The report after the page in effect was read. -/
def Report1581.withSaved (report : Report1581) (page : FlexibleDiskPage) : Report1581 :=
  { report with originalSaved := true, original := page }

/-- The report after the changeable mask was read: the mask, and the page to request. -/
def Report1581.withMask (report : Report1581) (mask : FlexibleDiskPage) : Report1581 :=
  let original := applyChangeability report.original mask
  { report with changeable := mask, original := original, requested := set1581Geometry original }

/-- From the first MODE SENSE to the label `cleanup`. -/
def probeGeometry (report : Report1581) : Workflow Progress := do
  let (result, originalMode) ← modeSense false default
  if !commandGood result then
    let report := report.commandFailure "save original MODE SENSE parameters" result
    return ⟨report, originalMode, false⟩
  let report := report.withSaved originalMode.flexible
  let (result, changeableMode) ← modeSense true default
  if !commandGood result then
    let report := report.commandFailure "read changeable MODE SENSE mask" result
    return ⟨report, originalMode, false⟩
  let report := report.withMask changeableMode.flexible
  match geometryChangesAllowed report.original report.requested report.changeable with
  | .error detail =>
      return ⟨{ report.markUnsupported with reason := detail }, originalMode, false⟩
  | .ok () =>
      -- from here on the cleanup restores, also when the command never leaves the program
      let report ← changeGeometry report
      return ⟨report, originalMode, true⟩

/-- The report after a restoration that failed with `result`. -/
def Report1581.restoreFailure (report : Report1581) (result : CommandResult) : Report1581 :=
  let restoreReason : ErrorText :=
    if result.detail.bytes ≠ [] then
      Text.format [str "failed to restore original controller parameters: ", result.detail.bytes]
    else
      Text.format [str "failed to restore original controller parameters (SCSI 0x",
        hexDigits 2 result.scsiStatus.toNat, str ")"]
  let code := codeForTransport result.transportStatus
  { report with
    reason := reasonAppend report.reason restoreReason
    code := if code = .ok then .transport else code
    status := .inconclusive
    sense := if result.sense.valid then result.sense else report.sense }

/-- The restoration of the saved page. -/
def restoreController (progress : Progress) : Workflow Report1581 := do
  let report := progress.report
  if progress.restoreNeeded && report.originalSaved then
    -- an interrupt stops further reads, but never the restoration
    clearInterrupted
    let result ← modeSelect progress.originalMode.flexible
    if commandGood result then
      return { report with controllerRestored := true }
    return report.restoreFailure result
  -- nothing was changed, which the report calls restored
  if report.originalSaved then
    return { report with controllerRestored := true }
  return report

/-- The release of the transport and of an image that the verdict does not cover. -/
def releaseController (report : Report1581) : Workflow Report1581 := do
  let reply ← releaseExclusive Text.empty
  let report :=
    if reply.status ≠ .ok then
      let cleanupDetail :=
        if reply.detail.bytes = [] then errorText "failed to release exclusive SCSI access"
        else reply.detail
      let code := codeForTransport reply.status
      { report with
        reason := reasonAppend report.reason cleanupDetail
        -- a failed release overrides the verdict, since the device may still be held
        code := if code = .ok then .transport else code
        status := .inconclusive }
    else
      report
  let report := { report with exclusiveAcquired := false }
  -- an image leaves the workflow only with the verdict
  if report.status ≠ .supported then
    return { report with image := none, imageLength := 0 }
  return report

/-- `m65_test_1581`: without the acknowledgement nothing is asked of the device, and with it the
controller is restored and released whatever the probe finds. -/
def test1581 (acknowledgement : Bool) : Workflow Report1581 := do
  let report : Report1581 := { acknowledgementSupplied := acknowledgement }
  clearInterrupted
  if !acknowledgement then
    let reason := errorText "test-1581 requires --ack-temporary-controller-change"
    -- without it no access is asked for
    return { report with code := .usage, reason := reason }
  let reply ← acquireExclusive report.reason
  if reply.status ≠ .ok then
    let reason :=
      if reply.detail.bytes = [] then errorText "unable to obtain exclusive SCSI access"
      else reply.detail
    return { report with code := codeForTransport reply.status, reason := reason }
  let progress ← probeGeometry { report with reason := reply.detail, exclusiveAcquired := true }
  let report ← restoreController progress
  releaseController report

end M65
