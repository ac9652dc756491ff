import FloppyProbe.Probe.Extraction
import Mathlib.Algebra.Group.Fin.Basic

/-!
# The interleave policy

The order in which `src/layout.c` reads or allocates the forty logical sectors of a track: every
other block, with the two halves of a block together, and then the blocks left out. A `Place` is
what a sector number means in this order. On places the two candidate calculations are simple
moves, which never leave the blocks of one parity.

* `candidates_followPlaces`: a chain of candidates, whichever calculation gives each of them, is a
  chain of moves of places;
* `interleave_readsBlocks`: a track in this order is its blocks, each as a whole.
-/

namespace M65

/-! ## The source -/

/-- `m65_1581_interleave_sector_at`. -/
def interleaveSectorAt1581 (ordinal : ℕ) : Option UInt8 :=
  if logicalSectorsPerTrack1581 ≤ ordinal then
    none
  else
    let pairOrdinal := ordinal / 2
    let half := ordinal % 2
    let physicalSector :=
      if pairOrdinal < physicalSectorsPerHead1581 then pairOrdinal * 2
      else (pairOrdinal - physicalSectorsPerHead1581) * 2 + 1
    some (UInt8.ofNat (physicalSector * 2 + half))

/-- `m65_1581_next_interleave_candidate`. -/
def nextInterleaveCandidate1581 (lastSector : UInt8) : Option UInt8 :=
  if logicalSectorsPerTrack1581 ≤ lastSector.toNat then
    none
  else
    let candidate := lastSector.toUInt32 + 1 + 2 * (lastSector.toUInt32 % 2)
    some (candidate % UInt32.ofNat logicalSectorsPerTrack1581).toUInt8

/-- `m65_1581_next_track_candidate`. -/
def nextTrackCandidate1581 (lastSector : UInt8) : Option UInt8 :=
  if logicalSectorsPerTrack1581 ≤ lastSector.toNat then
    none
  else
    let candidate := lastSector.toUInt32 + 8 - lastSector.toUInt32 % 2
    some (candidate % UInt32.ofNat logicalSectorsPerTrack1581).toUInt8

/-- Which of the two calculations gives the next sector. -/
inductive Candidate where
  | sameTrack
  | nextTrack
deriving DecidableEq

/-- The candidate that a calculation gives after a sector. -/
def Candidate.after : Candidate → UInt8 → Option UInt8
  | .sameTrack => nextInterleaveCandidate1581
  | .nextTrack => nextTrackCandidate1581

/-- The last sector of a chain of candidates that starts at `sector`. -/
def candidateChain (candidates : List Candidate) (sector : UInt8) : Option UInt8 :=
  candidates.foldlM (fun last candidate => candidate.after last) sector

/-! ## Places -/

/-- A place in the reading order: one of twenty logical sectors in the blocks of one parity. -/
structure Place where
  parity : Fin 2
  index : Fin 20
deriving DecidableEq

namespace Place

/-- The logical sector at a place. -/
def sector (place : Place) : UInt8 :=
  UInt8.ofNat (4 * (place.index / 2) + 2 * place.parity + place.index % 2)

/-- A candidate on the same track is the next half of a block; one on the next track leaves out a
block, and is the first half of the block after it. -/
def move (place : Place) : Candidate → Place
  | .sameTrack => { place with index := place.index + 1 }
  | .nextTrack => { place with index := Fin.ofNat 20 (2 * (place.index / 2) + 4) }

/-- The number of the sector at a place. -/
theorem toNat_sector (place : Place) :
    place.sector.toNat = 4 * (place.index / 2) + 2 * place.parity + place.index % 2 := by
  rw [sector, UInt8.toNat_ofNat']
  omega

/-- The sector at a place is on the track. -/
theorem sector_lt (place : Place) : place.sector.toNat < logicalSectorsPerTrack1581 := by
  rw [toNat_sector]
  show _ < 40
  omega

/-- A sector is at one place only. -/
theorem sector_injective : Function.Injective sector := by
  intro p q h
  have h := congrArg UInt8.toNat h
  rw [toNat_sector, toNat_sector] at h
  obtain ⟨parity, index⟩ := p
  obtain ⟨parity', index'⟩ := q
  have hparity : parity = parity' := Fin.ext (by simp only at h; omega)
  have hindex : index = index' := Fin.ext (by simp only at h; omega)
  rw [hparity, hindex]

/-- Every sector of a track has its place. -/
theorem exists_sector {sector : UInt8} (h : sector.toNat < logicalSectorsPerTrack1581) :
    ∃ place : Place, place.sector = sector := by
  have h : sector.toNat < 40 := h
  refine ⟨⟨⟨sector.toNat / 2 % 2, by omega⟩, ⟨2 * (sector.toNat / 4) + sector.toNat % 2, by omega⟩⟩,
    ?_⟩
  rw [← UInt8.toNat_inj, toNat_sector]
  show 4 * ((2 * (sector.toNat / 4) + sector.toNat % 2) / 2) + 2 * (sector.toNat / 2 % 2) +
    (2 * (sector.toNat / 4) + sector.toNat % 2) % 2 = sector.toNat
  omega

end Place

/-! ## Candidates -/

/-- The calculation on sectors is the move on places. -/
theorem after_sector (candidate : Candidate) (place : Place) :
    candidate.after place.sector = some (place.move candidate).sector := by
  obtain ⟨parity, index⟩ := place
  revert parity index
  cases candidate <;> decide

/-- There is no candidate after a number that is not on the track. -/
theorem after_eq_none (candidate : Candidate) {sector : UInt8}
    (h : logicalSectorsPerTrack1581 ≤ sector.toNat) : candidate.after sector = none := by
  cases candidate <;> exact if_pos h

/-- A chain of candidates is a chain of moves. -/
theorem candidateChain_sector (candidates : List Candidate) (place : Place) :
    candidateChain candidates place.sector = some (candidates.foldl Place.move place).sector := by
  induction candidates generalizing place with
  | nil => rfl
  | cons candidate candidates ih =>
    rw [candidateChain, List.foldlM_cons, after_sector]
    exact ih (place.move candidate)

/-- Moving on the same track goes round the places of one parity. -/
theorem foldl_sameTrack (n : ℕ) (place : Place) :
    (List.replicate n Candidate.sameTrack).foldl Place.move place =
      { place with index := place.index + Fin.ofNat 20 n } := by
  induction n generalizing place with
  | zero => simp
  | succ n ih =>
    rw [List.replicate_succ, List.foldl_cons, ih, Place.move]
    have hindex : place.index + 1 + Fin.ofNat 20 n = place.index + Fin.ofNat 20 (n + 1) := by
      refine Fin.ext ?_
      simp only [Fin.val_add, Fin.val_ofNat, Fin.val_one]
      omega
    exact congrArg (Place.mk place.parity) hindex

/-- Chains of candidates are chains of moves of places, and the candidates of one track go once
through all sectors in the blocks of one parity before they come back. -/
theorem candidates_followPlaces :
    (∀ sector : UInt8, sector.toNat < logicalSectorsPerTrack1581 ↔
      ∃ place : Place, place.sector = sector) ∧
    Function.Injective Place.sector ∧
    (∀ candidates (place : Place), candidateChain candidates place.sector =
      some (candidates.foldl Place.move place).sector) ∧
    (∀ candidate candidates sector, logicalSectorsPerTrack1581 ≤ sector.toNat →
      candidateChain (candidate :: candidates) sector = none) ∧
    ∀ parity index index', ∃! n : Fin 20,
      candidateChain (List.replicate n .sameTrack) (Place.mk parity index).sector =
        some (Place.mk parity index').sector := by
  refine ⟨fun sector => ⟨Place.exists_sector, ?_⟩, Place.sector_injective, candidateChain_sector,
    fun candidate candidates sector hlarge => ?_, fun parity index index' => ?_⟩
  · rintro ⟨place, rfl⟩
    exact place.sector_lt
  · rw [candidateChain, List.foldlM_cons, after_eq_none candidate hlarge]
    rfl
  · have hchain (n : Fin 20) :
        candidateChain (List.replicate n .sameTrack) (Place.mk parity index).sector =
          some (Place.mk parity (index + n)).sector := by
      rw [candidateChain_sector, foldl_sameTrack, Fin.ofNat_val_eq_self]
    -- twenty places on a track: the distance is the only number of steps below twenty
    refine ⟨index' - index, ?_, fun n hn => ?_⟩
    · show candidateChain _ _ = _
      rw [hchain, add_sub_cancel index index']
    · have hplace := Place.sector_injective (Option.some.inj ((hchain n).symm.trans hn))
      rw [eq_sub_iff_add_eq, add_comm]
      exact congrArg Place.index hplace

/-! ## Reading a track -/

/-- Block `block` of an image. -/
def imageBlock (image : List UInt8) (block : ℕ) : List UInt8 :=
  (image.drop (blockSize * block)).take blockSize

/-- What a reading of a track in interleaved order copies out of an image. -/
def readInterleaved (image : List UInt8) (track : UInt8) : List UInt8 :=
  (List.range logicalSectorsPerTrack1581).flatMap fun ordinal =>
    match interleaveSectorAt1581 ordinal with
    | some sector => extractedSector image track sector
    | none => []

/-- The blocks of a track in the order of the policy. -/
def interleavedBlocks (track : UInt8) : List ℕ :=
  ((List.range physicalSectorsPerHead1581).map fun i => 20 * (track.toNat - 1) + 2 * i) ++
    (List.range physicalSectorsPerHead1581).map fun i => 20 * (track.toNat - 1) + 2 * i + 1

/-- The even and the odd ordinals of a range, taken in pairs. -/
theorem flatMap_pairs {α : Type} (f : ℕ → List α) (n : ℕ) :
    (List.range (2 * n)).flatMap f =
      (List.range n).flatMap fun i => f (2 * i) ++ f (2 * i + 1) := by
  induction n with
  | zero => rfl
  | succ n ih =>
    have hrange : List.range (2 * (n + 1)) = List.range (2 * n) ++ [2 * n, 2 * n + 1] := by
      rw [Nat.mul_succ, List.range_succ, List.range_succ, List.append_assoc]
      rfl
    rw [hrange, List.flatMap_append, ih, List.range_succ, List.flatMap_append]
    simp

/-- The block of the track whose halves are at the ordinals `2 * i` and `2 * i + 1`. -/
def pairBlock (i : ℕ) : ℕ := if i < 10 then i * 2 else (i - 10) * 2 + 1

/-- Two ordinals in a row are the halves of one block. -/
theorem interleaveSectorAt1581_pair {i : ℕ} (hi : i < 20) (half : ℕ) (hhalf : half < 2) :
    interleaveSectorAt1581 (2 * i + half) = some (UInt8.ofNat (pairBlock i * 2 + half)) := by
  have hpair : (2 * i + half) / 2 = i := by omega
  have hrest : (2 * i + half) % 2 = half := by omega
  have hvalid : ¬40 ≤ 2 * i + half := by omega
  rw [interleaveSectorAt1581, if_neg hvalid]
  simp only [hpair, hrest]
  rfl

section Blocks

variable {image : List UInt8} {track : UInt8}

/-- A sector that is on the image is extracted as its bytes. -/
theorem extractedSector_eq (hlength : image.length = imageSize1581) {sector : UInt8}
    (h : IsSector1581 track sector) :
    extractedSector image track sector = sectorBytes image track sector := by
  have hholds : HoldsSector image track sector := by
    refine ⟨h, ?_⟩
    have hsize : imageSize1581 = 819200 := rfl
    obtain ⟨hpos, hle, hlt⟩ := h
    rw [hlength, hsize, sectorOrdinal]
    omega
  obtain ⟨copied, hcopy, hcopied⟩ :=
    copyLogicalSector1581_of_holds hholds (Vector.replicate _ 0)
  rw [extractedSector, hcopy, hcopied]

/-- The two halves of a block are the block. -/
theorem extracted_halves (hlength : image.length = imageSize1581) (hpos : 1 ≤ track.toNat)
    (hle : track.toNat ≤ 80) {block : ℕ} (hblock : block < 20) :
    extractedSector image track (UInt8.ofNat (block * 2)) ++
        extractedSector image track (UInt8.ofNat (block * 2 + 1)) =
      imageBlock image (20 * (track.toNat - 1) + block) := by
  have hsector (half : ℕ) (hhalf : half < 2) :
      (UInt8.ofNat (block * 2 + half)).toNat = block * 2 + half := by
    rw [UInt8.toNat_ofNat']
    omega
  -- both halves of a block lie in one piece of the image
  have hextracted (half : ℕ) (hhalf : half < 2) :
      extractedSector image track (UInt8.ofNat (block * 2 + half)) =
        (image.drop (512 * (20 * (track.toNat - 1) + block) + 256 * half)).take 256 := by
    have hplace : 256 * (40 * (track.toNat - 1) + (block * 2 + half)) =
        512 * (20 * (track.toNat - 1) + block) + 256 * half := by omega
    have hlt : (UInt8.ofNat (block * 2 + half)).toNat < 40 := by
      rw [hsector half hhalf]
      omega
    rw [extractedSector_eq hlength ⟨hpos, hle, hlt⟩, sectorBytes, sectorOrdinal,
      hsector half hhalf, hplace]
  have hfirst := hextracted 0 (by decide)
  rw [Nat.add_zero, Nat.mul_zero, Nat.add_zero] at hfirst
  rw [hfirst, hextracted 1 (by decide), Nat.mul_one, ← List.drop_drop, imageBlock]
  exact List.take_add.symm

/-- The block of a pair is on the track. -/
theorem pairBlock_lt {i : ℕ} (hi : i < 20) : pairBlock i < 20 := by
  unfold pairBlock
  split <;> omega

/-- The blocks of the pairs are the interleaved blocks of the track. -/
theorem map_pairBlock (track : UInt8) :
    (List.range 20).map (fun i => 20 * (track.toNat - 1) + pairBlock i) =
      interleavedBlocks track := by
  have hrange : List.range 20 = List.range 10 ++ (List.range 10).map (10 + ·) :=
    by decide
  rw [hrange, List.map_append, List.map_map]
  refine congrArg₂ (· ++ ·) (List.map_congr_left fun i hi => ?_)
    (List.map_congr_left fun i _ => ?_)
  · rw [pairBlock, if_pos (List.mem_range.1 hi), Nat.mul_comm i]
  · show 20 * (track.toNat - 1) + pairBlock (10 + i) = _
    rw [pairBlock, if_neg (by omega)]
    omega

/-- The blocks of a track each come once. -/
theorem interleavedBlocks_perm (track : UInt8) :
    (interleavedBlocks track).Perm
      (List.range' (20 * (track.toNat - 1)) physicalSectorsPerTrack1581) := by
  have hblocks : ((List.range 20).map pairBlock).Perm (List.range 20) := by decide
  rw [← map_pairBlock, List.range'_eq_map_range]
  have hmap := hblocks.map (20 * (track.toNat - 1) + ·)
  rwa [List.map_map] at hmap

/-- Read in interleaved order, a track of an image is its blocks, each once and as a whole: those
of even numbers first, then the others. -/
theorem interleave_readsBlocks (hlength : image.length = imageSize1581) (hpos : 1 ≤ track.toNat)
    (hle : track.toNat ≤ 80) :
    readInterleaved image track = (interleavedBlocks track).flatMap (imageBlock image) ∧
      (interleavedBlocks track).Perm
        (List.range' (20 * (track.toNat - 1)) physicalSectorsPerTrack1581) := by
  refine ⟨?_, interleavedBlocks_perm track⟩
  rw [readInterleaved, show logicalSectorsPerTrack1581 = 2 * 20 from rfl, flatMap_pairs,
    ← map_pairBlock, List.flatMap_map]
  refine List.flatMap_congr fun i hi => ?_
  have hi := List.mem_range.1 hi
  have hfirst := interleaveSectorAt1581_pair hi 0 (by decide)
  rw [Nat.add_zero, Nat.add_zero] at hfirst
  rw [hfirst, interleaveSectorAt1581_pair hi 1 (by decide)]
  exact extracted_halves hlength hpos hle (pairBlock_lt hi)

/-- The image in which every byte is the number of its block, modulo 256. -/
def numberedImage : List UInt8 :=
  (List.range imageSize1581).map fun i => UInt8.ofNat (i / blockSize)

/-- The last track of an image whose blocks all differ from their neighbours. -/
theorem interleave_readsBlocks_numbered :
    readInterleaved numberedImage 80 = (interleavedBlocks 80).flatMap (imageBlock numberedImage) ∧
    (interleavedBlocks 80).Perm (List.range' (20 * ((80 : UInt8).toNat - 1)) 20) :=
  interleave_readsBlocks (by rw [numberedImage, List.length_map, List.length_range]) (by decide)
    (by decide)

end Blocks

end M65
