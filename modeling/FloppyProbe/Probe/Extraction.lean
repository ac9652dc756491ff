import FloppyProbe.Layout.Layout
import FloppyProbe.Probe.CommandBlocks
import FloppyProbe.Probe.Verdict

/-!
# Logical sectors of a captured image

The reader numbers the bytes of an image by block, the layout by track and logical sector. An
image that `read_complete_image` assembled from a medium holds block `lba` of the medium at byte
`512 * lba`, so every logical sector is one half of the block that the layout names for it, and the
logical sectors in order are the image.
-/

namespace M65

open Interaction

/-! ## Slices -/

/-- The slices of width `w`, one after the other. -/
theorem flatMap_slices (l : List UInt8) (w n : ℕ) :
    (List.range n).flatMap (fun k => (l.drop (w * k)).take w) = l.take (w * n) := by
  induction n with
  | zero => simp
  | succ n ih =>
      rw [List.range_succ, List.flatMap_append, List.flatMap_singleton, ih, Nat.mul_succ,
        List.take_add]

/-- A half of a block of 512 bytes. -/
def halfBlock (block : Vector UInt8 blockSize) (half : ℕ) : List UInt8 :=
  (block.toList.drop (256 * half)).take 256

/-- The logical sectors of a disk, by track and then by sector. -/
def sectors1581 : List (UInt8 × UInt8) :=
  (List.range trackCount1581).flatMap fun cylinder =>
    (List.range logicalSectorsPerTrack1581).map fun sector =>
      (UInt8.ofNat (cylinder + 1), UInt8.ofNat sector)

/-- Cylinder and sector give an address. -/
theorem isSector1581_ofNat {cylinder sector : ℕ} (hcylinder : cylinder < 80)
    (hsector : sector < 40) : IsSector1581 (UInt8.ofNat (cylinder + 1)) (UInt8.ofNat sector) := by
  constructor <;> rw [UInt8.toNat_ofNat'] <;> omega

/-- The ordinal of an address counts forty sectors for each cylinder. -/
theorem sectorOrdinal_ofNat {cylinder sector : ℕ} (hcylinder : cylinder < 80)
    (hsector : sector < 40) :
    sectorOrdinal (UInt8.ofNat (cylinder + 1)) (UInt8.ofNat sector) = 40 * cylinder + sector := by
  rw [sectorOrdinal, UInt8.toNat_ofNat', UInt8.toNat_ofNat']
  omega

/-- The listed addresses are addresses. -/
theorem isSector1581_of_mem {address : UInt8 × UInt8} (h : address ∈ sectors1581) :
    IsSector1581 address.1 address.2 := by
  obtain ⟨cylinder, hcylinder, h⟩ := List.mem_flatMap.1 h
  obtain ⟨sector, hsector, rfl⟩ := List.mem_map.1 h
  exact isSector1581_ofNat (List.mem_range.1 hcylinder) (List.mem_range.1 hsector)

/-- The logical sectors in order are the image. -/
theorem flatMap_sectorBytes {image : List UInt8} (h : image.length = imageSize1581) :
    (sectors1581.flatMap fun address => sectorBytes image address.1 address.2) = image := by
  have htrack : ∀ cylinder ∈ List.range trackCount1581,
      (((List.range logicalSectorsPerTrack1581).map fun sector =>
        (UInt8.ofNat (cylinder + 1), UInt8.ofNat sector)).flatMap fun address =>
          sectorBytes image address.1 address.2) =
        (image.drop (10240 * cylinder)).take 10240 := by
    intro cylinder hcylinder
    have hcylinder := List.mem_range.1 hcylinder
    have hsectors := flatMap_slices (image.drop (10240 * cylinder)) 256 40
    rw [List.flatMap_map, ← hsectors]
    refine List.flatMap_congr fun sector hsector => ?_
    rw [sectorBytes, sectorOrdinal_ofNat hcylinder (List.mem_range.1 hsector), List.drop_drop]
    congr 2
    omega
  rw [sectors1581, List.flatMap_assoc, List.flatMap_congr htrack, flatMap_slices,
    List.take_of_length_le]
  exact h.le

/-! ## Media -/

/-- The blocks of a medium. -/
abbrev Medium1581 : Type := Fin blocks1581 → Vector UInt8 blockSize

/-- The READ (10) commands of the trace that succeeded returned blocks of the medium. -/
def ReadsMedium (medium : Medium1581) (t : List WorkflowEvent) : Prop :=
  ∀ e ∈ executions t, e.Succeeded → ∀ i < e.blockCount, ∀ lba : Fin blocks1581, e.lba + i = lba →
    (e.returned.drop (i * blockSize)).take blockSize = (medium lba).toList

/-- `read_complete_image` assembled the image from the medium. -/
inductive Assembled (medium : Medium1581) : List UInt8 → Prop
  | complete {buffer image : List UInt8} {report report' : Report1581} {s s' : Bool}
      {t : List WorkflowEvent} (hbuffer : buffer.length = imageSize1581)
      (hread : Exec (readCompleteImage buffer report) s t (true, image, report') s')
      (hmedium : ReadsMedium medium t) : Assembled medium image

variable {medium : Medium1581} {image : List UInt8} {track sector : UInt8}

/-- Block `lba` of the image is block `lba` of the medium. -/
theorem Pass.block_eq {t : List WorkflowEvent} (h : Pass (executions t) image)
    (hmedium : ReadsMedium medium t) (lba : Fin blocks1581) :
    (image.drop (lba * blockSize)).take blockSize = (medium lba).toList := by
  have hcomplete := completePass_of_pass h
  have hlba : (lba : ℕ) ∈ (executions t).flatMap Execution.blocks := by
    rw [hcomplete.covers]
    exact List.mem_range.2 lba.isLt
  obtain ⟨e, he, hmem⟩ := List.mem_flatMap.1 hlba
  obtain ⟨hfirst, hlast⟩ := List.mem_range'_1.1 hmem
  have hplace : e.lba + (lba - e.lba) = lba := Nat.add_sub_cancel' hfirst
  have hcount : (lba : ℕ) - e.lba < e.blockCount := by omega
  calc (image.drop (lba * blockSize)).take blockSize
      = (image.drop ((e.lba + (lba - e.lba)) * blockSize)).take blockSize := by rw [hplace]
    _ = (e.returned.drop ((lba - e.lba) * blockSize)).take blockSize :=
        hcomplete.block_eq e he _ hcount
    _ = (medium lba).toList := hmedium e he (h.succeeded e he) _ hcount lba hplace

namespace Assembled

/-- An assembled image is complete. -/
theorem length_eq (h : Assembled medium image) : image.length = imageSize1581 := by
  obtain ⟨hbuffer, hread, -⟩ := h
  exact (readCompleteImage_outcome hbuffer hread).length_eq.trans hbuffer

/-- The blocks of an assembled image are those of the medium. -/
theorem block_eq (h : Assembled medium image) (lba : Fin blocks1581) :
    (image.drop (lba * blockSize)).take blockSize = (medium lba).toList := by
  obtain ⟨hbuffer, hread, hmedium⟩ := h
  exact (pass_of_outcome (readCompleteImage_outcome hbuffer hread) rfl).block_eq hmedium lba

/-- A logical sector is a half of the block that the layout names for it. -/
theorem sectorBytes_eq (h : Assembled medium image) (hsector : IsSector1581 track sector) :
    sectorBytes image track sector =
      halfBlock (medium ⟨sectorBlock track sector, hsector.block_lt⟩) (sector.toNat % 2) := by
  have hhalf : 256 ≤ blockSize - 256 * (sector.toNat % 2) := by
    show 256 ≤ 512 - 256 * (sector.toNat % 2)
    omega
  have hplace : 256 * sectorOrdinal track sector =
      sectorBlock track sector * blockSize + 256 * (sector.toNat % 2) := by
    show _ = sectorBlock track sector * 512 + _
    rw [sectorOrdinal_eq]
    omega
  rw [halfBlock, ← h.block_eq, List.drop_take, List.take_take, List.drop_drop, ← hplace,
    Nat.min_eq_left hhalf, sectorBytes]

/-- The sectors of an assembled image can be extracted. -/
theorem holdsSector (h : Assembled medium image) (hsector : IsSector1581 track sector) :
    HoldsSector image track sector := by
  refine ⟨hsector, ?_⟩
  have hblock := hsector.block_lt
  have hlength : image.length = 819200 := h.length_eq
  have hordinal := sectorOrdinal_eq track sector
  have hlt : sectorBlock track sector < 1600 := hblock
  omega

end Assembled

/-! ## Every medium can be read -/

/-- The byte of a medium at a place of its image. -/
def mediumByte (medium : Medium1581) (place : ℕ) : UInt8 :=
  if h : place / blockSize < blocks1581 then
    byteAt (medium ⟨place / blockSize, h⟩).toList (place % blockSize)
  else 0

/-- What a device that holds the medium answers to the READ (10) of the chunk at `lba`. -/
def mediumReply (medium : Medium1581) (lba : ℕ) : ExecuteReply (chunkBytes lba) where
  result := { transferred := chunkBytes lba }
  buffer := Vector.ofFn fun i => mediumByte medium (lba * blockSize + i)

/-- The blocks of a chunk are those of the medium. -/
theorem mediumReply_block {lba i : ℕ} (hi : (i + 1) * blockSize ≤ chunkBytes lba)
    {block : Fin blocks1581} (hblock : lba + i = block) :
    ((mediumReply medium lba).buffer.toList.drop (i * blockSize)).take blockSize =
      (medium block).toList := by
  have hsize : (i + 1) * blockSize = i * blockSize + blockSize := Nat.succ_mul i blockSize
  apply List.ext_getElem
  · simp [mediumReply]
    omega
  · intro k hk hk'
    have hk : k < blockSize := by simpa using hk'
    have hplace : lba * blockSize + (i * blockSize + k) = blockSize * block + k := by
      rw [← hblock, Nat.mul_comm blockSize, Nat.add_mul, Nat.add_assoc]
    have hdiv : (blockSize * block + k) / blockSize = block := by
      rw [Nat.mul_add_div (by decide), Nat.div_eq_of_lt hk, Nat.add_zero]
    simp [mediumReply, mediumByte, hplace, hdiv, byteAt, List.getD_eq_getElem?_getD,
      Nat.mod_eq_of_lt hk, hk]

/-- A READ (10) that the device answers in full. -/
theorem exec_readBlocks {lba : UInt32} {blocks : UInt16} (hpos : blocks ≠ 0)
    {buffer : Vector UInt8 (blocks.toNat * blockSize)}
    {reply : ExecuteReply (blocks.toNat * blockSize)}
    (hsucceeded : succeeded (readCommand lba blocks buffer) reply = true) :
    ∃ t, Exec (readBlocks lba blocks buffer) false t (reply.result, reply.buffer) false ∧
      executions t = [⟨readCommand lba blocks buffer, reply⟩] := by
  have hvalid : validateCommand (readCommand lba blocks buffer) = .ok () :=
    BuiltCommand.valid_read10 hpos rfl buffer
  rw [succeeded_read, Bool.and_eq_true, beq_iff_eq] at hsucceeded
  have hchecked : Exec (executeChecked (readCommand lba blocks buffer)) false
      [⟨false, .testInterrupt, (0 : ℕ)⟩,
        ⟨false, .transport (.execute (readCommand lba blocks buffer)), reply⟩] reply false := by
    unfold executeChecked
    rw [hvalid]
    refine exec_bind.2 ⟨[_], false, false, [_], exec_testInterrupted.2 ⟨0, rfl, rfl, rfl⟩, ?_, rfl⟩
    exact exec_call.2 ⟨rfl, rfl⟩
  refine ⟨_, exec_bind.2 ⟨_, reply, false, [], hchecked, ?_, (List.append_nil _).symm⟩, rfl⟩
  rw [if_neg (by simp [hsucceeded.2])]
  exact exec_pure.2 ⟨rfl, rfl, rfl⟩

/-- A trace without commands reads nothing else. -/
theorem readsMedium_of_silent {t : List WorkflowEvent} (h : executions t = []) :
    ReadsMedium medium t := by
  intro e he
  rw [h] at he
  cases he

/-- Two traces that read the medium read it together. -/
theorem readsMedium_append {t t' : List WorkflowEvent} (h : ReadsMedium medium t)
    (h' : ReadsMedium medium t') : ReadsMedium medium (t ++ t') := by
  intro e he
  rw [executions_append] at he
  rcases List.mem_append.1 he with he | he
  · exact h e he
  · exact h' e he

/-- The READ (10) of a chunk, answered from the medium. -/
theorem exec_readChunk (medium : Medium1581) {i : ℕ} (hi : i < readChunks)
    (buffer : Vector UInt8 (chunkBytes (readChunkBlocks * i))) :
    ∃ t, Exec (readBlocks (UInt32.ofNat (readChunkBlocks * i))
        (UInt16.ofNat (chunkAt (readChunkBlocks * i))) buffer) false t
        ((mediumReply medium (readChunkBlocks * i)).result,
          (mediumReply medium (readChunkBlocks * i)).buffer) false ∧
      ReadsMedium medium t := by
  have hpos : UInt16.ofNat (chunkAt (readChunkBlocks * i)) ≠ 0 := by
    rw [chunkAt_chunk hi]
    decide
  have hsucceeded : succeeded (chunkCommand (readChunkBlocks * i) buffer)
      (mediumReply medium (readChunkBlocks * i)) = true := by
    rw [succeeded_read]
    exact Bool.and_eq_true_iff.2 ⟨rfl, beq_iff_eq.2 rfl⟩
  obtain ⟨t, hread, hexecutions⟩ := exec_readBlocks hpos hsucceeded
  refine ⟨t, hread, fun e he _ k hk lba hplace => ?_⟩
  rw [hexecutions, List.mem_singleton] at he
  have hsends : e.Sends (.read (UInt32.ofNat (readChunkBlocks * i)) 10) := by
    rw [he]
    exact chunkCommand_wire hi _
  obtain ⟨-, hfirst, hcount, -⟩ := hsends.read
  -- the address of a chunk is below 2 ^ 32, so the command names the place on the medium
  have hsmall : readChunkBlocks * i < 2 ^ 32 := by
    simp only [readChunks, readChunkBlocks] at *
    omega
  rw [hcount] at hk
  rw [hfirst, UInt32.toNat_ofNat', Nat.mod_eq_of_lt hsmall] at hplace
  rw [he]
  refine mediumReply_block ?_ hplace
  rw [chunkBytes, chunkAt_chunk hi]
  exact Nat.mul_le_mul_right _ hk

/-- From chunk `i` on, by induction on the number of chunks that are left. -/
theorem exists_readImageFrom (medium : Medium1581) (report : Report1581) {k i : ℕ}
    (hk : i + k = readChunks) (buffer : List UInt8) :
    ∃ t image, Exec (readImageFrom (readChunkBlocks * i) buffer report) false t
      (true, image, report) false ∧ ReadsMedium medium t := by
  induction k generalizing i buffer with
  | zero =>
      have hend : ¬readChunkBlocks * i < blocks1581 := by
        simp only [readChunks, readChunkBlocks, blocks1581] at *
        omega
      refine ⟨[], buffer, ?_, readsMedium_of_silent rfl⟩
      rw [readImageFrom, dif_neg hend]
      exact exec_pure.2 ⟨rfl, rfl, rfl⟩
  | succ k ih =>
      have hi : i < readChunks := by omega
      have hlba : readChunkBlocks * i < blocks1581 := by
        simp only [readChunks, readChunkBlocks, blocks1581] at *
        omega
      have hnext : readChunkBlocks * i + chunkAt (readChunkBlocks * i) =
          readChunkBlocks * (i + 1) := by rw [chunkAt_chunk hi, Nat.mul_succ]
      obtain ⟨t₁, hread, hmedium₁⟩ :=
        exec_readChunk medium hi (slice buffer (readChunkBlocks * i * blockSize) _)
      obtain ⟨t₂, image, hrest, hmedium₂⟩ := ih (i := i + 1) (by omega)
        (splice buffer (readChunkBlocks * i * blockSize)
          (mediumReply medium (readChunkBlocks * i)).buffer.toList)
      -- each round tests the flag, finds it clear, and reads one chunk
      refine ⟨[⟨false, .testInterrupt, (0 : ℕ)⟩] ++ (t₁ ++ t₂), image, ?_,
        readsMedium_append (readsMedium_of_silent rfl) (readsMedium_append hmedium₁ hmedium₂)⟩
      rw [readImageFrom, dif_pos hlba]
      refine exec_bind.2 ⟨_, false, false, _, exec_testInterrupted.2 ⟨0, rfl, rfl, rfl⟩, ?_, rfl⟩
      refine exec_bind.2 ⟨_, _, false, _, hread, ?_, rfl⟩
      rw [hnext]
      exact hrest

/-- Every medium can be assembled into an image. -/
theorem exists_assembled (medium : Medium1581) : ∃ image, Assembled medium image := by
  obtain ⟨t, image, hread, hmedium⟩ := exists_readImageFrom medium {} (Nat.zero_add readChunks)
    (List.replicate imageSize1581 0)
  exact ⟨image, .complete List.length_replicate hread hmedium⟩

/-- Every image that was read was assembled from some medium. -/
theorem exists_medium {buffer : List UInt8} {report report' : Report1581} {s s' : Bool}
    {t : List WorkflowEvent} (hbuffer : buffer.length = imageSize1581)
    (h : Exec (readCompleteImage buffer report) s t (true, image, report') s') :
    ∃ medium, Assembled medium image := by
  have houtcome := readCompleteImage_outcome hbuffer h
  have hlength : image.length = imageSize1581 := houtcome.length_eq.trans hbuffer
  refine ⟨fun lba => slice image (lba * blockSize) blockSize, .complete hbuffer h ?_⟩
  intro e he _ i hi lba hplace
  have hfits : lba * blockSize + blockSize ≤ image.length := by
    have hlt : (lba : ℕ) < 1600 := lba.isLt
    have hlength : image.length = 819200 := hlength
    show lba * 512 + 512 ≤ image.length
    omega
  refine Eq.trans ?_ (ofFn_byteAt hfits).symm
  rw [← hplace]
  exact ((completePass_of_pass (pass_of_outcome houtcome rfl)).block_eq e he i hi).symm

/-! ## Extraction -/

/-- What `m65_1581_copy_logical_sector` does with an image. -/
structure Extracts (image : List UInt8) (track sector : UInt8)
    (destination : Vector UInt8 logicalSectorSize1581)
    (out : Bool × Vector UInt8 logicalSectorSize1581) : Prop where
  succeeds_iff : out.1 = true ↔ 1 ≤ track.toNat ∧ track.toNat ≤ 80 ∧ sector.toNat < 40 ∧
    256 * (40 * (track.toNat - 1) + sector.toNat + 1) ≤ image.length
  copied : out.1 = true →
    out.2.toList = (image.drop (256 * (40 * (track.toNat - 1) + sector.toNat))).take 256
  unchanged : out.1 = false → out.2 = destination

/-- The logical sector that is extracted into a cleared destination. -/
def extractedSector (image : List UInt8) (track sector : UInt8) : List UInt8 :=
  (copyLogicalSector1581 image track sector (Vector.replicate _ 0)).2.toList

/-- What the logical sectors of an image say about the medium. -/
structure DividesMedium (medium : Medium1581) (image : List UInt8) : Prop where
  /-- A logical sector is half `sector % 2` of block `20 * (track - 1) + sector / 2`. -/
  sector_eq : ∀ track sector (h : IsSector1581 track sector) destination,
    ∃ copied, copyLogicalSector1581 image track sector destination = (true, copied) ∧
      copied.toList =
        halfBlock (medium ⟨sectorBlock track sector, h.block_lt⟩) (sector.toNat % 2)
  /-- The block and the half are those of the logical sector. -/
  logical_eq : ∀ track sector, IsSector1581 track sector →
    ∃ logical, lbaToLogical1581 (UInt32.ofNat (20 * (track.toNat - 1) + sector.toNat / 2))
        (UInt16.ofNat (256 * (sector.toNat % 2))) = some logical ∧
      logical.track = track ∧ logical.sector = sector
  count_eq : sectors1581.length = 3200
  image_eq : (sectors1581.flatMap fun address => extractedSector image address.1 address.2) = image

/-- `m65_1581_copy_logical_sector` extracts for every image and address. -/
theorem extracts_copyLogicalSector1581 (image : List UInt8) (track sector : UInt8)
    (destination : Vector UInt8 logicalSectorSize1581) :
    Extracts image track sector destination
      (copyLogicalSector1581 image track sector destination) := by
  have hiff : HoldsSector image track sector ↔ 1 ≤ track.toNat ∧ track.toNat ≤ 80 ∧
      sector.toNat < 40 ∧ 256 * (40 * (track.toNat - 1) + sector.toNat + 1) ≤ image.length :=
    ⟨fun ⟨⟨hpos, hle, hlt⟩, hlength⟩ => ⟨hpos, hle, hlt, hlength⟩,
      fun ⟨hpos, hle, hlt, hlength⟩ => ⟨⟨hpos, hle, hlt⟩, hlength⟩⟩
  by_cases h : HoldsSector image track sector
  · obtain ⟨copied, hcopy, hcopied⟩ := copyLogicalSector1581_of_holds h destination
    rw [hcopy]
    exact ⟨iff_of_true rfl (hiff.1 h), fun _ => hcopied, nofun⟩
  · rw [copyLogicalSector1581_of_not_holds h]
    exact ⟨iff_of_false nofun fun hholds => h (hiff.2 hholds), nofun, fun _ => rfl⟩

/-- The logical sectors of an assembled image are the halves of the blocks of the medium. -/
theorem Assembled.dividesMedium (h : Assembled medium image) : DividesMedium medium image := by
  have hextracted : ∀ address ∈ sectors1581,
      extractedSector image address.1 address.2 = sectorBytes image address.1 address.2 := by
    intro address haddress
    obtain ⟨copied, hcopy, hcopied⟩ := copyLogicalSector1581_of_holds
      (h.holdsSector (isSector1581_of_mem haddress)) (Vector.replicate _ 0)
    rw [extractedSector, hcopy, hcopied]
  refine ⟨fun track sector hsector destination => ?_, fun track sector hsector => ?_, ?_, ?_⟩
  · obtain ⟨copied, hcopy, hcopied⟩ :=
      copyLogicalSector1581_of_holds (h.holdsSector hsector) destination
    exact ⟨copied, hcopy, hcopied.trans (h.sectorBytes_eq hsector)⟩
  · exact ⟨_, lbaToLogical1581_of_isSector hsector, rfl, rfl⟩
  · simp [sectors1581, trackCount1581, logicalSectorsPerTrack1581]
  · rw [List.flatMap_congr hextracted, flatMap_sectorBytes h.length_eq]

/-- Logical extraction agrees with the captured image. -/
theorem logicalExtraction_exact :
    (∀ image track sector destination, Extracts image track sector destination
      (copyLogicalSector1581 image track sector destination)) ∧
    ∀ medium image, Assembled medium image → DividesMedium medium image :=
  ⟨extracts_copyLogicalSector1581, fun _ _ => Assembled.dividesMedium⟩

end M65
