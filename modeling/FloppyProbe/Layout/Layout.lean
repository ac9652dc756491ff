import FloppyProbe.Types

/-!
# The 1581 layout

The translation layer of `src/layout.c`. The bytes of a 1581 disk have two addresses: a track of
80 and a logical sector of 256 bytes, or a block of 512 bytes and one of its halves. Both number
the bytes of an image in the same order, so a logical sector is a slice of the image.
-/

namespace M65

/-- `M65_1581_TRACK_COUNT`. -/
abbrev trackCount1581 : ℕ := 80

/-- `M65_1581_PHYSICAL_SECTORS_PER_HEAD`. -/
abbrev physicalSectorsPerHead1581 : ℕ := 10

/-- `M65_1581_PHYSICAL_SECTORS_PER_TRACK`. -/
abbrev physicalSectorsPerTrack1581 : ℕ := 20

/-- `M65_1581_LOGICAL_SECTORS_PER_TRACK`. -/
abbrev logicalSectorsPerTrack1581 : ℕ := 40

/-- `M65_1581_LOGICAL_SECTOR_SIZE`. -/
abbrev logicalSectorSize1581 : ℕ := 256

/-- A logical sector and where it is in an image, `M651581LogicalAddress`. -/
structure LogicalAddress1581 where
  track : UInt8
  sector : UInt8
  imageOffset : ℕ
deriving DecidableEq

/-- Where a logical sector is on the disk and in an image, `M651581PhysicalAddress`. -/
structure PhysicalAddress1581 where
  cylinder : UInt8
  head : UInt8
  sectorIndex : UInt8
  lba : UInt32
  byteOffset : UInt16
  imageOffset : ℕ
deriving DecidableEq

/-- `m65_1581_logical_to_physical`. -/
def logicalToPhysical1581 (track sector : UInt8) : Option PhysicalAddress1581 :=
  if track = 0 ∨ trackCount1581 < track.toNat ∨ logicalSectorsPerTrack1581 ≤ sector.toNat then
    none
  else
    let cylinder := track.toNat - 1
    let physicalSector := sector.toNat / 2
    let lba := cylinder * physicalSectorsPerTrack1581 + physicalSector
    let half := sector.toNat % 2
    let byteOffset := UInt16.ofNat (half * logicalSectorSize1581)
    some {
      cylinder := UInt8.ofNat cylinder
      head := UInt8.ofNat (physicalSector / physicalSectorsPerHead1581)
      sectorIndex := UInt8.ofNat (physicalSector % physicalSectorsPerHead1581)
      lba := UInt32.ofNat lba
      byteOffset
      imageOffset := lba * blockSize + byteOffset.toNat }

/-- `m65_1581_lba_to_logical`. -/
def lbaToLogical1581 (lba : UInt32) (byteOffset : UInt16) : Option LogicalAddress1581 :=
  if blocks1581 ≤ lba.toNat ∨
      (byteOffset ≠ 0 ∧ byteOffset.toNat ≠ logicalSectorSize1581) then
    none
  else
    let cylinder := lba.toNat / physicalSectorsPerTrack1581
    let physicalSector := lba.toNat % physicalSectorsPerTrack1581
    let half := byteOffset.toNat / logicalSectorSize1581
    let logicalSector := physicalSector * 2 + half
    some {
      track := UInt8.ofNat (cylinder + 1)
      sector := UInt8.ofNat logicalSector
      imageOffset := lba.toNat * blockSize + byteOffset.toNat }

/-- Whether the sector was copied, and what `destination` holds afterwards. -/
def copyLogicalSector1581 (physicalImage : List UInt8) (track sector : UInt8)
    (destination : Vector UInt8 logicalSectorSize1581) :
    Bool × Vector UInt8 logicalSectorSize1581 :=
  match logicalToPhysical1581 track sector with
  | none => (false, destination)
  | some physical =>
      if physicalImage.length < physical.imageOffset ∨
          physicalImage.length - physical.imageOffset < logicalSectorSize1581 then
        (false, destination)
      else
        (true, Vector.ofFn fun i => byteAt physicalImage (physical.imageOffset + i))

/-! ## Addresses -/

/-- A track and a sector of a 1581 disk. -/
structure IsSector1581 (track sector : UInt8) : Prop where
  track_pos : 1 ≤ track.toNat
  track_le : track.toNat ≤ 80
  sector_lt : sector.toNat < 40

/-- The position of a logical sector among the 3200 of a disk. -/
def sectorOrdinal (track sector : UInt8) : ℕ := 40 * (track.toNat - 1) + sector.toNat

/-- The block that holds a logical sector. -/
def sectorBlock (track sector : UInt8) : ℕ := 20 * (track.toNat - 1) + sector.toNat / 2

variable {track sector : UInt8}

/-- A sector is one of the two halves of its block. -/
theorem sectorOrdinal_eq (track sector : UInt8) :
    sectorOrdinal track sector = 2 * sectorBlock track sector + sector.toNat % 2 := by
  unfold sectorOrdinal sectorBlock
  omega

/-- The block of a sector is on the disk. -/
theorem IsSector1581.block_lt (h : IsSector1581 track sector) :
    sectorBlock track sector < blocks1581 := by
  obtain ⟨hpos, hle, hlt⟩ := h
  show 20 * (track.toNat - 1) + sector.toNat / 2 < 1600
  omega

/-- A number that is no sector has no place on the disk. -/
theorem logicalToPhysical1581_eq_none (h : ¬IsSector1581 track sector) :
    logicalToPhysical1581 track sector = none := by
  refine if_pos ?_
  by_contra hbad
  simp only [not_or, Nat.not_lt, Nat.not_le] at hbad
  refine h ⟨Nat.one_le_iff_ne_zero.2 fun hzero => hbad.1 (UInt8.toNat_inj.1 hzero), hbad.2.1,
    hbad.2.2⟩

/-- Where a logical sector is: its block, the half of the block, and its place in the image. -/
theorem logicalToPhysical1581_eq_some (h : IsSector1581 track sector) :
    ∃ physical, logicalToPhysical1581 track sector = some physical ∧
      physical.lba = UInt32.ofNat (sectorBlock track sector) ∧
      physical.byteOffset = UInt16.ofNat (256 * (sector.toNat % 2)) ∧
      physical.imageOffset = 256 * sectorOrdinal track sector := by
  obtain ⟨hpos, hle, hlt⟩ := h
  have hvalid : ¬(track = 0 ∨ trackCount1581 < track.toNat ∨
      logicalSectorsPerTrack1581 ≤ sector.toNat) := by
    rintro (rfl | hlarge | hlarge)
    · exact absurd hpos (by decide)
    · exact absurd hle (Nat.not_le.2 hlarge)
    · exact absurd hlt (Nat.not_lt.2 hlarge)
  refine ⟨_, if_neg hvalid, ?_, ?_, ?_⟩
  · rw [sectorBlock, Nat.mul_comm 20]
  · rw [Nat.mul_comm 256]
  · show ((track.toNat - 1) * 20 + sector.toNat / 2) * 512 +
      (UInt16.ofNat (sector.toNat % 2 * 256)).toNat = 256 * (40 * (track.toNat - 1) + sector.toNat)
    rw [UInt16.toNat_ofNat']
    omega

/-- The logical address of a block and a half is the one it came from. -/
theorem lbaToLogical1581_of_isSector (h : IsSector1581 track sector) :
    lbaToLogical1581 (UInt32.ofNat (sectorBlock track sector))
      (UInt16.ofNat (256 * (sector.toNat % 2))) =
        some ⟨track, sector, 256 * sectorOrdinal track sector⟩ := by
  have hblock := h.block_lt
  obtain ⟨hpos, hle, hlt⟩ := h
  have hlba : (UInt32.ofNat (sectorBlock track sector)).toNat = sectorBlock track sector := by
    rw [UInt32.toNat_ofNat']
    exact Nat.mod_eq_of_lt (hblock.trans (by decide))
  have hoffset : (UInt16.ofNat (256 * (sector.toNat % 2))).toNat = 256 * (sector.toNat % 2) := by
    rw [UInt16.toNat_ofNat']
    omega
  -- the halves of a block are exactly the two offsets that the function accepts
  have hhalf : UInt16.ofNat (256 * (sector.toNat % 2)) = 0 ∨
      256 * (sector.toNat % 2) = logicalSectorSize1581 := by
    rcases Nat.mod_two_eq_zero_or_one sector.toNat with heven | hodd
    · rw [heven]
      exact .inl rfl
    · rw [hodd]
      exact .inr rfl
  have hvalid : ¬(blocks1581 ≤ sectorBlock track sector ∨
      (UInt16.ofNat (256 * (sector.toNat % 2)) ≠ 0 ∧
        256 * (sector.toNat % 2) ≠ logicalSectorSize1581)) := by
    rintro (hlarge | ⟨hzero, hsize⟩)
    · exact absurd hblock (Nat.not_lt.2 hlarge)
    · exact hhalf.elim hzero hsize
  -- the divisions undo `sector_block`, since there are twenty blocks to a track
  have htrack : UInt8.ofNat (sectorBlock track sector / 20 + 1) = track := by
    rw [← UInt8.toNat_inj, UInt8.toNat_ofNat', sectorBlock]
    omega
  have hsector : UInt8.ofNat (sectorBlock track sector % 20 * 2 +
      256 * (sector.toNat % 2) / 256) = sector := by
    rw [← UInt8.toNat_inj, UInt8.toNat_ofNat', sectorBlock]
    omega
  have himage : sectorBlock track sector * 512 + 256 * (sector.toNat % 2) =
      256 * sectorOrdinal track sector := by
    rw [sectorOrdinal_eq]
    omega
  simp only [lbaToLogical1581, hlba, hoffset]
  rw [if_neg hvalid, htrack, hsector, himage]

/-! ## Extraction -/

/-- The bytes of a logical sector in an image. -/
def sectorBytes (image : List UInt8) (track sector : UInt8) : List UInt8 :=
  (image.drop (256 * sectorOrdinal track sector)).take 256

/-- The image is long enough for the logical sector. -/
def HoldsSector (image : List UInt8) (track sector : UInt8) : Prop :=
  IsSector1581 track sector ∧ 256 * (sectorOrdinal track sector + 1) ≤ image.length

/-- The bytes that are read one by one are a piece of the image. -/
theorem ofFn_byteAt {image : List UInt8} {offset n : ℕ} (h : offset + n ≤ image.length) :
    (Vector.ofFn fun i : Fin n => byteAt image (offset + i)).toList =
      (image.drop offset).take n := by
  apply List.ext_getElem
  · simp
    omega
  · intro i hi hi'
    have hlt : offset + i < image.length := by
      simp only [Vector.length_toList] at hi
      omega
    simp [byteAt, List.getD_eq_getElem?_getD, hlt]

/-- A sector that the image holds is copied. -/
theorem copyLogicalSector1581_of_holds {image : List UInt8}
    (h : HoldsSector image track sector) (destination : Vector UInt8 logicalSectorSize1581) :
    ∃ copied, copyLogicalSector1581 image track sector destination = (true, copied) ∧
      copied.toList = sectorBytes image track sector := by
  obtain ⟨hsector, hlength⟩ := h
  obtain ⟨physical, hphysical, -, -, hoffset⟩ := logicalToPhysical1581_eq_some hsector
  have hfits : physical.imageOffset + 256 ≤ image.length := by omega
  refine ⟨Vector.ofFn fun i => byteAt image (physical.imageOffset + i), ?_, ?_⟩
  · rw [copyLogicalSector1581, hphysical]
    refine if_neg (not_or.2 ⟨?_, ?_⟩)
    · omega
    · show ¬image.length - physical.imageOffset < 256
      omega
  · rw [ofFn_byteAt hfits, hoffset, sectorBytes]

/-- A sector that the image does not hold leaves the destination alone. -/
theorem copyLogicalSector1581_of_not_holds {image : List UInt8}
    (h : ¬HoldsSector image track sector) (destination : Vector UInt8 logicalSectorSize1581) :
    copyLogicalSector1581 image track sector destination = (false, destination) := by
  by_cases hsector : IsSector1581 track sector
  · obtain ⟨physical, hphysical, -, -, hoffset⟩ := logicalToPhysical1581_eq_some hsector
    have hlength : image.length < 256 * (sectorOrdinal track sector + 1) :=
      Nat.lt_of_not_le fun hle => h ⟨hsector, hle⟩
    rw [copyLogicalSector1581, hphysical]
    refine if_pos ?_
    show _ ∨ image.length - physical.imageOffset < 256
    omega
  · rw [copyLogicalSector1581, logicalToPhysical1581_eq_none hsector]

end M65
