import FloppyProbe.Ufi.ModePage

/-!
# Responses to the commands that only look

The parsers of `src/ufi.c` for INQUIRY, READ CAPACITY (10) and READ FORMAT CAPACITIES. A parser
gets a buffer and the number of bytes in it that count. None of them, nor the parser of MODE SENSE
responses, depends on any other byte of the buffer (`AgreeOn`).
-/

namespace M65

/-! ## INQUIRY -/

/-- The text fields, each without the terminator that ends it. -/
structure Inquiry where
  vendor : List UInt8 := []
  product : List UInt8 := []
  firmware : List UInt8 := []
deriving DecidableEq, Inhabited

/-- The loop of `trim_copy`: the length of `source` without the blanks and zeros at its end. -/
def trimmedLength (source : List UInt8) : ℕ → ℕ
  | 0 => 0
  | used + 1 =>
      if byteAt source used = 0x20 ∨ byteAt source used = 0 then trimmedLength source used
      else used + 1

/-- What `trim_copy` stores before the terminator. -/
def trimCopy (destinationSize : ℕ) (source : List UInt8) (sourceSize : ℕ) : List UInt8 :=
  let used := trimmedLength source sourceSize
  let used := if destinationSize ≤ used then destinationSize - 1 else used
  (List.range used).map (byteAt source)

/-- `m65_parse_inquiry`: the vendor, the product and the revision, without trailing blanks. -/
def parseInquiry (data : List UInt8) (length : ℕ) : Except ErrorText Inquiry :=
  if length < 36 then
    .error (errorText "INQUIRY response is shorter than 36 bytes")
  else
    .ok {
      vendor := trimCopy 9 (data.drop 8) 8
      product := trimCopy 17 (data.drop 16) 16
      firmware := trimCopy 5 (data.drop 32) 4 }

/-! ## READ CAPACITY (10) -/

/-- The answer to READ CAPACITY (10), `M65Capacity`. -/
structure Capacity where
  blocks : UInt32 := 0
  blockSize : UInt32 := 0
deriving DecidableEq, Inhabited

/-- `m65_parse_read_capacity_10`: the number of blocks is one more than the last LBA. -/
def parseReadCapacity10 (data : List UInt8) (length : ℕ) : Except ErrorText Capacity :=
  match readBe32 data length 0, readBe32 data length 4 with
  | some lastLba, some blockSize =>
      if lastLba = 0xffffffff then
        .error (errorText "READ CAPACITY (10) uses the unsupported 0xffffffff sentinel")
      else
        .ok ⟨lastLba + 1, blockSize⟩
  | _, _ => .error (errorText "READ CAPACITY (10) response is shorter than 8 bytes")

/-! ## READ FORMAT CAPACITIES -/

/-- The number of descriptors that a table can hold, `M65_MAX_FORMAT_DESCRIPTORS`. -/
abbrev maxFormatDescriptors : ℕ := 31

/-- One descriptor of READ FORMAT CAPACITIES, `M65FormatCapacityDescriptor`. -/
structure FormatCapacityDescriptor where
  blocks : UInt32
  blockSize : UInt32
  descriptorCode : UInt8
deriving DecidableEq, Inhabited

/-- `count` is the number of descriptors. -/
structure FormatCapacities where
  descriptors : List FormatCapacityDescriptor := []
deriving DecidableEq, Inhabited

/-- The descriptor in the eight bytes at `offset`. -/
def parseDescriptor (data : List UInt8) (length offset : ℕ) : Option FormatCapacityDescriptor :=
  match readBe32 data length offset, readBe24 data length (offset + 5) with
  | some blocks, some blockSize => some ⟨blocks, blockSize, byteAt data (offset + 4) &&& 0x03⟩
  | _, _ => none

/-- The loop of `m65_parse_format_capacities`: the next `count` descriptors from `offset` on. -/
def parseDescriptors (data : List UInt8) (length : ℕ) :
    ℕ → ℕ → Option (List FormatCapacityDescriptor)
  | _, 0 => some []
  | offset, count + 1 =>
      match parseDescriptor data length offset with
      | none => none
      | some descriptor =>
          (parseDescriptors data length (offset + 8) count).map (descriptor :: ·)

/-- `m65_parse_format_capacities`: the header gives the length of the list, which is taken
descriptor by descriptor. -/
def parseFormatCapacities (data : List UInt8) (length : ℕ) : Except ErrorText FormatCapacities :=
  if length < 4 then
    .error (errorText "READ FORMAT CAPACITIES response is shorter than 4 bytes")
  else
    let descriptorBytes := (byteAt data 3).toNat
    if descriptorBytes % 8 ≠ 0 then
      .error (errorText "format-capacity list length is not a multiple of 8")
    else if length - 4 < descriptorBytes then
      .error (errorText "format-capacity descriptor list is truncated")
    else if maxFormatDescriptors < descriptorBytes / 8 then
      .error (errorText "too many format-capacity descriptors")
    else
      match parseDescriptors data length 4 (descriptorBytes / 8) with
      | some descriptors => .ok ⟨descriptors⟩
      | none => .error (errorText "format-capacity descriptor is truncated")

/-- The loop stays inside the list that was checked before it. -/
theorem parseDescriptors_isSome {data : List UInt8} {length offset count : ℕ}
    (h : offset + 8 * count ≤ length) :
    ∃ descriptors, parseDescriptors data length offset count = some descriptors ∧
      descriptors.length = count := by
  induction count generalizing offset with
  | zero => exact ⟨[], rfl, rfl⟩
  | succ count ih =>
      obtain ⟨rest, hrest, hlength⟩ := @ih (offset + 8) (by omega)
      have h32 : available length offset 4 = true := by simp [available]; omega
      have h24 : available length (offset + 5) 3 = true := by simp [available]; omega
      obtain ⟨descriptor, hdescriptor⟩ :
          ∃ descriptor, parseDescriptor data length offset = some descriptor := by
        simp [parseDescriptor, readBe32, readBe24, h32, h24]
      refine ⟨descriptor :: rest, ?_, congrArg Nat.succ hlength⟩
      simp [parseDescriptors, hdescriptor, hrest]

/-! ## Bytes that count -/

section AgreeOn

variable {length : ℕ} {data data' : List UInt8}

/-- Trimming depends only on the bytes that are looked at. -/
theorem trimmedLength_congr {used : ℕ} (h : AgreeOn length data data') (hused : used ≤ length) :
    trimmedLength data used = trimmedLength data' used := by
  induction used with
  | zero => rfl
  | succ used ih => rw [trimmedLength, trimmedLength, h used hused, ih (by omega)]

/-- Trimming never lengthens. -/
theorem trimmedLength_le (source : List UInt8) (used : ℕ) : trimmedLength source used ≤ used := by
  induction used with
  | zero => exact le_rfl
  | succ used ih =>
      unfold trimmedLength
      split
      · exact ih.trans (Nat.le_succ used)
      · exact le_rfl

/-- A trimmed copy depends only on the bytes of its source. -/
theorem trimCopy_congr {destinationSize sourceSize : ℕ} (h : AgreeOn sourceSize data data') :
    trimCopy destinationSize data sourceSize = trimCopy destinationSize data' sourceSize := by
  have hle := trimmedLength_le data' sourceSize
  unfold trimCopy
  rw [trimmedLength_congr h le_rfl]
  refine List.map_congr_left fun i hi => h i ?_
  have hi := List.mem_range.1 hi
  split at hi <;> omega

/-- The parser of INQUIRY depends only on the bytes inside the length. -/
theorem parseInquiry_congr (h : AgreeOn length data data') :
    parseInquiry data length = parseInquiry data' length := by
  unfold parseInquiry
  split
  · rfl
  · have hvendor : AgreeOn 8 (data.drop 8) (data'.drop 8) := h.drop (by omega)
    have hproduct : AgreeOn 16 (data.drop 16) (data'.drop 16) := h.drop (by omega)
    have hfirmware : AgreeOn 4 (data.drop 32) (data'.drop 32) := h.drop (by omega)
    rw [trimCopy_congr hvendor, trimCopy_congr hproduct, trimCopy_congr hfirmware]

/-- The parser of READ CAPACITY (10) depends only on the bytes inside the length. -/
theorem parseReadCapacity10_congr (h : AgreeOn length data data') :
    parseReadCapacity10 data length = parseReadCapacity10 data' length := by
  unfold parseReadCapacity10
  rw [h.readBe32_eq, h.readBe32_eq]

/-- A descriptor depends only on the bytes inside the length. -/
theorem parseDescriptor_congr {offset : ℕ} (h : AgreeOn length data data') :
    parseDescriptor data length offset = parseDescriptor data' length offset := by
  unfold parseDescriptor
  rw [h.readBe32_eq, h.readBe24_eq]
  by_cases havailable : available length (offset + 5) 3 = true
  · have hlength : offset + 8 ≤ length := by
      simp only [available, Bool.and_eq_true, decide_eq_true_eq] at havailable
      omega
    rw [h (offset + 4) (by omega)]
  · have hnone : readBe24 data' length (offset + 5) = none := if_neg havailable
    rw [hnone]
    cases readBe32 data' length offset <;> rfl

/-- The descriptors of a list depend only on the bytes inside the length. -/
theorem parseDescriptors_congr {offset count : ℕ} (h : AgreeOn length data data') :
    parseDescriptors data length offset count = parseDescriptors data' length offset count := by
  induction count generalizing offset with
  | zero => rfl
  | succ count ih => rw [parseDescriptors, parseDescriptors, parseDescriptor_congr h, ih]

/-- The parser of READ FORMAT CAPACITIES depends only on the bytes inside the length. -/
theorem parseFormatCapacities_congr (h : AgreeOn length data data') :
    parseFormatCapacities data length = parseFormatCapacities data' length := by
  unfold parseFormatCapacities
  split
  · rfl
  · dsimp only
    rw [h 3 (by omega), parseDescriptors_congr h]

/-- The decoder of a page depends only on the bytes inside the length. -/
theorem decodeFlexible_congr (h : AgreeOn length data data') :
    decodeFlexible data length = decodeFlexible data' length := by
  unfold decodeFlexible
  split
  · rfl
  · next hlength =>
    have hlength : 32 ≤ length := Nat.le_of_not_lt hlength
    have hbytes : ∀ i : Fin flexPageLength, byteAt data i = byteAt data' i := fun i =>
      h i (i.isLt.trans_le hlength)
    rw [h 0 (by omega), h 1 (by omega), h 4 (by omega), h 5 (by omega), h.readBe16_eq,
      h.readBe16_eq, h.readBe16_eq, h.readBe16_eq, funext hbytes]

/-- The walk over the pages depends only on the bytes inside the declared length. -/
theorem walkModePages_congr {declared fuel offset : ℕ} (h : AgreeOn declared data data') :
    walkModePages data declared fuel offset = walkModePages data' declared fuel offset := by
  induction fuel generalizing offset with
  | zero => rfl
  | succ fuel ih =>
      unfold walkModePages
      split
      · split
        · rfl
        · dsimp only
          rw [h offset (by omega), h (offset + 1) (by omega), ih]
          split
          · rfl
          split
          · rfl
          · next hfits => rw [decodeFlexible_congr (h.drop (by omega))]
      · rfl

/-- The parser of MODE SENSE depends only on the bytes inside the length. -/
theorem parseModeParameters_congr (h : AgreeOn length data data') :
    parseModeParameters data length = parseModeParameters data' length := by
  unfold parseModeParameters
  dsimp only
  split
  · rfl
  · rw [h.readBe16_eq, h.readBe16_eq]
    split
    · next modeDataLength blockDescriptorLength hmode hblock =>
      split
      · rfl
      split
      · rfl
      · next hdeclared _ =>
        have hdeclared : modeDataLength.toNat + 2 ≤ length := by omega
        -- the walk stops at the declared length, which lies inside the reply
        have hagree : AgreeOn (modeDataLength.toNat + 2) data data' :=
          fun i hi => h i (by omega)
        have hraw : ∀ i : Fin modeBufferSize,
            (if (i : ℕ) < modeDataLength.toNat + 2 then byteAt data i else 0) =
              if (i : ℕ) < modeDataLength.toNat + 2 then byteAt data' i else 0 := by
          intro i
          split
          · next hi => exact hagree i hi
          · rfl
        rw [walkModePages_congr hagree, funext hraw]
    · rfl

end AgreeOn

end M65
