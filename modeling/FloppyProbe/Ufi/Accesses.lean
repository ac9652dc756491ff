import FloppyProbe.Memory.Checked
import FloppyProbe.Ufi.Commands
import FloppyProbe.Ufi.Responses

/-!
# What the parsers access

The parsers of `src/ufi.c` once more, access by access: `data` is a memory whose cells are loaded
one at a time, and what a parser leaves behind are the arrays of the source, which it stores into.
No parser makes an access outside its objects when the memory ends after the bytes that count, and
each of them leaves what its counterpart without accesses returns.
-/

namespace M65

open CheckedMemory

variable {n : ℕ}

/-! ## Fields -/

/-- `m65_read_be16` with its loads. -/
def readBe16Checked (data : List UInt8) (length offset : ℕ) : Checked (Option UInt16) :=
  if available length offset 2 then do
    let high ← load data offset
    let low ← load data (offset + 1)
    return some (high.toUInt16 <<< 8 ||| low.toUInt16)
  else
    return none

/-- `m65_read_be24` with its loads. -/
def readBe24Checked (data : List UInt8) (length offset : ℕ) : Checked (Option UInt32) :=
  if available length offset 3 then do
    let b₀ ← load data offset
    let b₁ ← load data (offset + 1)
    let b₂ ← load data (offset + 2)
    return some (b₀.toUInt32 <<< 16 ||| b₁.toUInt32 <<< 8 ||| b₂.toUInt32)
  else
    return none

/-- `m65_read_be32` with its loads. -/
def readBe32Checked (data : List UInt8) (length offset : ℕ) : Checked (Option UInt32) :=
  if available length offset 4 then do
    let b₀ ← load data offset
    let b₁ ← load data (offset + 1)
    let b₂ ← load data (offset + 2)
    let b₃ ← load data (offset + 3)
    return some (b₀.toUInt32 <<< 24 ||| b₁.toUInt32 <<< 16 ||| b₂.toUInt32 <<< 8 ||| b₃.toUInt32)
  else
    return none

/-! ## INQUIRY -/

/-- The `char` arrays of `M65Inquiry`. -/
structure InquiryArrays where
  vendor : Vector UInt8 9 := Vector.replicate 9 0
  product : Vector UInt8 17 := Vector.replicate 17 0
  firmware : Vector UInt8 5 := Vector.replicate 5 0

/-- The loop of `trim_copy` that leaves out trailing blanks and zeros, with its loads. -/
def trimmedLengthChecked (source : List UInt8) : ℕ → Checked ℕ
  | 0 => return 0
  | used + 1 => do
      let byte ← load source used
      if byte = 0x20 ∨ byte = 0 then trimmedLengthChecked source used
      else return used + 1

/-- `trim_copy` with its loads and stores, into an array of `n` bytes. -/
def trimCopyChecked (destination : Vector UInt8 n) (source : List UInt8) (sourceSize : ℕ) :
    Checked (Vector UInt8 n) := do
  let used ← trimmedLengthChecked source sourceSize
  let used := if n ≤ used then n - 1 else used
  let destination ← copy destination source used
  CheckedMemory.store destination used 0

/-- `m65_parse_inquiry` with its accesses. -/
def parseInquiryChecked (data : List UInt8) (length : ℕ) :
    Checked (Except ErrorText InquiryArrays) :=
  if length < 36 then
    return .error (errorText "INQUIRY response is shorter than 36 bytes")
  else do
    let out : InquiryArrays := {}
    let vendor ← trimCopyChecked out.vendor (data.drop 8) 8
    let product ← trimCopyChecked out.product (data.drop 16) 16
    let firmware ← trimCopyChecked out.firmware (data.drop 32) 4
    return .ok { vendor, product, firmware }

/-! ## Sense data -/

/-- `m65_parse_sense` with its loads. -/
def parseSenseChecked (data : List UInt8) (length : ℕ) : Checked (Bool × Sense) :=
  if length = 0 then
    return (false, {})
  else do
    let first ← load data 0
    let code := first &&& 0x7f
    if (code = 0x70 ∨ code = 0x71) ∧ 14 ≤ length then
      let key ← load data 2
      let asc ← load data 12
      let ascq ← load data 13
      return (true, ⟨true, code, key &&& 0x0f, asc, ascq⟩)
    else if (code = 0x72 ∨ code = 0x73) ∧ 4 ≤ length then
      let key ← load data 1
      let asc ← load data 2
      let ascq ← load data 3
      return (true, ⟨true, code, key &&& 0x0f, asc, ascq⟩)
    else
      return (false, { responseCode := code })

/-! ## Capacities -/

/-- `m65_parse_read_capacity_10` with its loads. -/
def parseReadCapacity10Checked (data : List UInt8) (length : ℕ) :
    Checked (Except ErrorText Capacity) := do
  let tooShort := errorText "READ CAPACITY (10) response is shorter than 8 bytes"
  match ← readBe32Checked data length 0 with
  | none => return .error tooShort
  | some lastLba =>
      match ← readBe32Checked data length 4 with
      | none => return .error tooShort
      | some blockSize =>
          if lastLba = 0xffffffff then
            return .error (errorText
              "READ CAPACITY (10) uses the unsupported 0xffffffff sentinel")
          else
            return .ok ⟨lastLba + 1, blockSize⟩

/-- `M65FormatCapacities`. -/
structure FormatTable where
  count : ℕ := 0
  descriptors : Vector FormatCapacityDescriptor maxFormatDescriptors :=
    Vector.replicate maxFormatDescriptors ⟨0, 0, 0⟩

/-- The loop of `m65_parse_format_capacities`; nothing when a descriptor is cut off. -/
def parseDescriptorsChecked (data : List UInt8) (length : ℕ) :
    ℕ → ℕ → FormatTable → Checked (Option FormatTable)
  | _, 0, out => return some out
  | offset, rounds + 1, out => do
      match ← readBe32Checked data length offset with
      | none => return none
      | some blocks =>
          let descriptors ← update out.descriptors out.count ({ · with blocks })
          match ← readBe24Checked data length (offset + 5) with
          | none => return none
          | some blockSize =>
              let descriptors ← update descriptors out.count ({ · with blockSize })
              let byte ← load data (offset + 4)
              let descriptors ←
                update descriptors out.count ({ · with descriptorCode := byte &&& 0x03 })
              parseDescriptorsChecked data length (offset + 8) rounds
                ⟨out.count + 1, descriptors⟩

/-- `m65_parse_format_capacities` with its loads and the stores into its table. -/
def parseFormatCapacitiesChecked (data : List UInt8) (length : ℕ) :
    Checked (Except ErrorText FormatTable) :=
  if length < 4 then
    return .error (errorText "READ FORMAT CAPACITIES response is shorter than 4 bytes")
  else do
    let byte ← load data 3
    let descriptorBytes := byte.toNat
    if descriptorBytes % 8 ≠ 0 then
      return .error (errorText "format-capacity list length is not a multiple of 8")
    else if length - 4 < descriptorBytes then
      return .error (errorText "format-capacity descriptor list is truncated")
    else if maxFormatDescriptors < descriptorBytes / 8 then
      return .error (errorText "too many format-capacity descriptors")
    else
      match ← parseDescriptorsChecked data length 4 (descriptorBytes / 8) {} with
      | some out => return .ok out
      | none => return .error (errorText "format-capacity descriptor is truncated")

/-! ## Mode parameters -/

/-- `decode_flexible` with its loads. -/
def decodeFlexibleChecked (page : List UInt8) (length : ℕ) :
    Checked (Except ErrorText FlexibleDiskPage) :=
  if length < flexPageLength then
    return .error (errorText "Flexible Disk page is shorter than 32 bytes")
  else do
    let code ← load page 0
    if code &&& 0x3f ≠ flexibleDiskPage ∨ code &&& 0x40 ≠ 0 then
      return .error (errorText "response does not contain a non-subpage Flexible Disk page")
    else
      let lengthByte ← load page 1
      if lengthByte < 30 ∨ length < lengthByte.toNat + 2 then
        return .error (errorText "Flexible Disk page length is malformed")
      else
        let bytes ← copy (Vector.replicate flexPageLength 0) page flexPageLength
        let transferRate ← readBe16Checked page length 2
        let heads ← load page 4
        let sectorsPerTrack ← load page 5
        let bytesPerSector ← readBe16Checked page length 6
        let cylinders ← readBe16Checked page length 8
        let rotationRate ← readBe16Checked page length 28
        return .ok {
          transferRateKbit := transferRate.getD 0
          heads
          sectorsPerTrack
          bytesPerSector := bytesPerSector.getD 0
          cylinders := cylinders.getD 0
          mediumRotationRateRpm := rotationRate.getD 0
          page := bytes }

/-- The `while` loop of `m65_parse_mode_parameters` with its loads. -/
def walkModePagesChecked (data : List UInt8) (declared : ℕ) :
    ℕ → ℕ → Checked (Except ErrorText (ℕ × FlexibleDiskPage))
  | 0, _ => return .error (errorText "MODE SENSE response has no Flexible Disk page")
  | fuel + 1, offset =>
      if offset < declared then
        if declared - offset < 2 then
          return .error (errorText "MODE SENSE page header is truncated")
        else do
          let code ← load data offset
          if code &&& 0x40 ≠ 0 then
            return .error (errorText "MODE SENSE subpages are not accepted for safety")
          else
            let lengthByte ← load data (offset + 1)
            let pageLength := lengthByte.toNat + 2
            if declared - offset < pageLength then
              return .error (errorText "MODE SENSE page data is truncated")
            else if code &&& 0x3f = flexibleDiskPage then
              let page ← decodeFlexibleChecked (data.drop offset) pageLength
              return page.map fun page => (offset, page)
            else
              walkModePagesChecked data declared fuel (offset + pageLength)
      else
        return .error (errorText "MODE SENSE response has no Flexible Disk page")

/-- `m65_parse_mode_parameters` with its accesses. -/
def parseModeParametersChecked (data : List UInt8) (length : ℕ) :
    Checked (Except ErrorText ModeParameters) :=
  let tooShort := errorText "MODE SENSE (10) response is shorter than its header"
  if length < 8 then
    return .error tooShort
  else do
    match ← readBe16Checked data length 0, ← readBe16Checked data length 6 with
    | some modeDataLength, some blockDescriptorLength =>
        let declared := modeDataLength.toNat + 2
        let offset := 8 + blockDescriptorLength.toNat
        if declared < 8 ∨ length < declared ∨ modeBufferSize < declared then
          return .error (errorText
            "MODE SENSE (10) declared length is truncated or too large")
        else if declared < offset then
          return .error (errorText "MODE SENSE block descriptor length exceeds the response")
        else
          let raw ← copy (Vector.replicate modeBufferSize 0) data declared
          let found ← walkModePagesChecked data declared declared offset
          return found.map fun found =>
            { raw, rawLength := declared, pageOffset := found.1, flexible := found.2 }
    | _, _ => return .error tooShort

/-! ## No fault -/

section Correct

variable {data : List UInt8} {length offset : ℕ}

/-- A load inside the buffer gives the byte there. -/
theorem load_byteAt {i : ℕ} (h : i < data.length) : load data i = .ok (byteAt data i) :=
  load_eq h 0

/-- A copy of `count` bytes into a cleared array leaves these bytes in front and zeros behind. -/
theorem copy_byteAt {count : ℕ} (hdata : count ≤ data.length) (hn : count ≤ n) :
    copy (Vector.replicate n 0) data count =
      .ok (Vector.ofFn fun i => if (i : ℕ) < count then byteAt data i else 0) := by
  rw [copy_eq 0 hdata hn]
  congr 1
  ext i hi
  simp [byteAt]

/-- Reading two bytes stays within a buffer that has `length` bytes. -/
theorem readBe16Checked_eq (h : length ≤ data.length) :
    readBe16Checked data length offset = .ok (readBe16 data length offset) := by
  unfold readBe16Checked readBe16
  split
  · next havailable =>
    simp only [available, Bool.and_eq_true, decide_eq_true_eq] at havailable
    rw [load_byteAt (by omega), load_byteAt (by omega)]
    rfl
  · rfl

/-- Reading three bytes stays within a buffer that has `length` bytes. -/
theorem readBe24Checked_eq (h : length ≤ data.length) :
    readBe24Checked data length offset = .ok (readBe24 data length offset) := by
  unfold readBe24Checked readBe24
  split
  · next havailable =>
    simp only [available, Bool.and_eq_true, decide_eq_true_eq] at havailable
    rw [load_byteAt (by omega), load_byteAt (by omega), load_byteAt (by omega)]
    rfl
  · rfl

/-- Reading four bytes stays within a buffer that has `length` bytes. -/
theorem readBe32Checked_eq (h : length ≤ data.length) :
    readBe32Checked data length offset = .ok (readBe32 data length offset) := by
  unfold readBe32Checked readBe32
  split
  · next havailable =>
    simp only [available, Bool.and_eq_true, decide_eq_true_eq] at havailable
    rw [load_byteAt (by omega), load_byteAt (by omega), load_byteAt (by omega),
      load_byteAt (by omega)]
    rfl
  · rfl

/-- The search for the last byte that counts stays within the source. -/
theorem trimmedLengthChecked_eq {used : ℕ} (h : used ≤ data.length) :
    trimmedLengthChecked data used = .ok (trimmedLength data used) := by
  induction used with
  | zero => rfl
  | succ used ih =>
    rw [trimmedLengthChecked, load_byteAt (by omega), ok_bind, trimmedLength, ih (by omega)]
    split <;> rfl

/-- The array holds the bytes, and zeros after them. -/
def HoldsBytes (array : Vector UInt8 n) (bytes : List UInt8) : Prop :=
  array.toList = bytes ++ List.replicate (n - bytes.length) 0 ∧ bytes.length < n

/-- The copy stays within both buffers and leaves the trimmed bytes with their terminator. -/
theorem trimCopyChecked_eq {sourceSize : ℕ} (hn : 0 < n) (h : sourceSize ≤ data.length) :
    ∃ array, trimCopyChecked (Vector.replicate n 0) data sourceSize = .ok array ∧
      HoldsBytes array (trimCopy n data sourceSize) := by
  have hle := trimmedLength_le data sourceSize
  unfold trimCopyChecked trimCopy
  rw [trimmedLengthChecked_eq h, ok_bind]
  dsimp only
  generalize hused : (if n ≤ trimmedLength data sourceSize then n - 1
    else trimmedLength data sourceSize) = used
  have hroom : used < n ∧ used ≤ sourceSize := by
    split at hused <;> omega
  rw [copy_byteAt (by omega) (by omega), ok_bind, store_eq hroom.1]
  refine ⟨_, rfl, ?_, by simpa using hroom.1⟩
  apply List.ext_getElem
  · simp
    omega
  · intro i hi hi'
    by_cases hlt : i < used
    · simp [hlt, hlt.ne']
    · simp [List.getElem_append, Vector.getElem_set, hlt]

/-- The decoder of sense data reads no byte beyond the length. -/
theorem parseSenseChecked_eq (h : length ≤ data.length) :
    parseSenseChecked data length = .ok (parseSense data length) := by
  unfold parseSenseChecked parseSense
  split
  · rfl
  · rw [load_byteAt (by omega)]
    dsimp only [ok_bind]
    split
    · next hfixed =>
      rw [load_byteAt (by omega), load_byteAt (by omega), load_byteAt (by omega)]
      rfl
    · split
      · next hdescriptor =>
        rw [load_byteAt (by omega), load_byteAt (by omega), load_byteAt (by omega)]
        rfl
      · rfl

/-- The parser of READ CAPACITY (10) reads no byte beyond the length. -/
theorem parseReadCapacity10Checked_eq (h : length ≤ data.length) :
    parseReadCapacity10Checked data length = .ok (parseReadCapacity10 data length) := by
  unfold parseReadCapacity10Checked parseReadCapacity10
  rw [readBe32Checked_eq h, ok_bind]
  cases readBe32 data length 0 with
  | none => rfl
  | some lastLba =>
    dsimp only
    rw [readBe32Checked_eq h, ok_bind]
    cases readBe32 data length 4 with
    | none => rfl
    | some blockSize => dsimp only; split <;> rfl

/-- The table holds the descriptors, and empty cells after them. -/
structure FormatTable.Holds (table : FormatTable) (descriptors : List FormatCapacityDescriptor) :
    Prop where
  count_eq : table.count = descriptors.length
  cells_eq : table.descriptors.toList =
    descriptors ++ List.replicate (maxFormatDescriptors - descriptors.length) ⟨0, 0, 0⟩

/-- A cell that is filled moves from the empty cells to the descriptors. -/
theorem FormatTable.Holds.push {table : FormatTable} {found : List FormatCapacityDescriptor}
    (h : table.Holds found) (hroom : table.count < maxFormatDescriptors)
    (descriptor : FormatCapacityDescriptor) :
    FormatTable.Holds ⟨table.count + 1, table.descriptors.set table.count descriptor⟩
      (found ++ [descriptor]) := by
  obtain ⟨room, hsize⟩ : ∃ room, maxFormatDescriptors - found.length = room + 1 :=
    ⟨maxFormatDescriptors - found.length - 1, by have := h.count_eq; omega⟩
  have hrest : maxFormatDescriptors - (found ++ [descriptor]).length = room := by
    rw [List.length_append, List.length_singleton]
    omega
  refine ⟨by simp [h.count_eq], ?_⟩
  show (table.descriptors.set table.count descriptor).toList = _
  rw [Vector.toList_set, h.cells_eq, h.count_eq, hsize, hrest,
    List.set_append_right _ _ le_rfl, Nat.sub_self, List.replicate_succ, List.set_cons_zero,
    List.append_assoc, List.singleton_append]

/-- Either both parsers refuse with the same error, or what the first one leaves behind holds the
result of the second. -/
def Leaves {α β : Type} (Holds : β → α → Prop) :
    Except ErrorText β → Except ErrorText α → Prop
  | .ok out, .ok result => Holds out result
  | .error error, .error error' => error = error'
  | _, _ => False

/-- Each round of the loop fills the next cell, and the table has room for all of them. -/
theorem parseDescriptorsChecked_eq {rounds : ℕ} {out : FormatTable}
    {found descriptors : List FormatCapacityDescriptor} (h : length ≤ data.length)
    (hlist : offset + 8 * rounds ≤ length) (hroom : out.count + rounds ≤ maxFormatDescriptors)
    (hout : out.Holds found) (hparsed : parseDescriptors data length offset rounds =
      some descriptors) :
    ∃ out', parseDescriptorsChecked data length offset rounds out = .ok (some out') ∧
      out'.Holds (found ++ descriptors) := by
  induction rounds generalizing offset out found descriptors with
  | zero =>
    obtain rfl := Option.some.inj hparsed
    exact ⟨out, rfl, by rwa [List.append_nil]⟩
  | succ rounds ih =>
    have hcount : out.count < maxFormatDescriptors := by omega
    obtain ⟨blocks, hblocks⟩ : ∃ blocks, readBe32 data length offset = some blocks :=
      ⟨_, if_pos (by simp [available]; omega)⟩
    obtain ⟨blockSize, hblockSize⟩ : ∃ size, readBe24 data length (offset + 5) = some size :=
      ⟨_, if_pos (by simp [available]; omega)⟩
    let descriptor : FormatCapacityDescriptor :=
      ⟨blocks, blockSize, byteAt data (offset + 4) &&& 0x03⟩
    have hdescriptor : parseDescriptor data length offset = some descriptor := by
      simp [parseDescriptor, hblocks, hblockSize, descriptor]
    rw [parseDescriptors, hdescriptor] at hparsed
    obtain ⟨rest, hrest, rfl⟩ := Option.map_eq_some_iff.1 hparsed
    have hnext := hout.push hcount descriptor
    obtain ⟨out', hout', hholds⟩ := ih (by omega) (by show out.count + 1 + rounds ≤ _; omega)
      hnext hrest
    refine ⟨out', ?_, by rwa [List.append_assoc] at hholds⟩
    -- three stores into the same cell, the last of which leaves the whole descriptor there
    rw [parseDescriptorsChecked, readBe32Checked_eq h, hblocks, ok_bind]
    dsimp only
    rw [update_eq hcount, ok_bind, readBe24Checked_eq h, hblockSize, ok_bind]
    dsimp only
    rw [update_eq hcount, ok_bind, load_byteAt (by omega), ok_bind, update_eq hcount, ok_bind]
    simp only [Vector.set_set, Vector.getElem_set_self]
    exact hout'

/-- The parser of READ FORMAT CAPACITIES reads no byte beyond the length and writes within its
table. -/
theorem parseFormatCapacitiesChecked_eq (h : length ≤ data.length) :
    ∃ out, parseFormatCapacitiesChecked data length = .ok out ∧
      Leaves (fun table formats => table.Holds formats.descriptors) out
        (parseFormatCapacities data length) := by
  unfold parseFormatCapacitiesChecked parseFormatCapacities
  by_cases hlength : length < 4
  · simp only [hlength, if_true]
    exact ⟨_, rfl, rfl⟩
  rw [if_neg hlength, if_neg hlength, load_byteAt (by omega), ok_bind]
  dsimp only
  split
  · exact ⟨_, rfl, rfl⟩
  split
  · exact ⟨_, rfl, rfl⟩
  split
  · exact ⟨_, rfl, rfl⟩
  -- the list length was checked against the reply, so no descriptor reaches over its end
  obtain ⟨descriptors, hdescriptors, -⟩ := @parseDescriptors_isSome data length 4
    ((byteAt data 3).toNat / 8) (by omega)
  have hempty : FormatTable.Holds {} [] := ⟨rfl, rfl⟩
  obtain ⟨table, htable, hholds⟩ := parseDescriptorsChecked_eq h (by omega)
    (by simpa using by omega) hempty hdescriptors
  rw [htable, hdescriptors]
  exact ⟨_, rfl, hholds⟩

/-- The decoder of a Flexible Disk page reads no byte beyond the length. -/
theorem decodeFlexibleChecked_eq (h : length ≤ data.length) :
    decodeFlexibleChecked data length = .ok (decodeFlexible data length) := by
  unfold decodeFlexibleChecked decodeFlexible
  split
  · rfl
  · next hlength =>
    -- every field of the page lies in its first 32 bytes
    have hlength : 32 ≤ length := Nat.le_of_not_lt hlength
    rw [load_byteAt (by omega), ok_bind]
    split
    · rfl
    · rw [load_byteAt (by omega), ok_bind]
      split
      · rfl
      · have hpage : (fun i : Fin flexPageLength => if (i : ℕ) < flexPageLength then
            byteAt data i else 0) = fun i : Fin flexPageLength => byteAt data i :=
          funext fun i => if_pos i.isLt
        rw [copy_byteAt (hlength.trans h) le_rfl, hpage, readBe16Checked_eq h,
          readBe16Checked_eq h, readBe16Checked_eq h, readBe16Checked_eq h,
          load_byteAt (by omega), load_byteAt (by omega)]
        rfl

/-- The walk over the pages reads no byte beyond the declared length. -/
theorem walkModePagesChecked_eq {declared fuel : ℕ} (h : declared ≤ data.length) :
    walkModePagesChecked data declared fuel offset =
      .ok (walkModePages data declared fuel offset) := by
  -- on the fuel, of which a page takes one
  induction fuel generalizing offset with
  | zero => rfl
  | succ fuel ih =>
    unfold walkModePagesChecked walkModePages
    split
    · split
      · rfl
      · rw [load_byteAt (by omega), ok_bind]
        split
        · rfl
        · rw [load_byteAt (by omega), ok_bind]
          dsimp only
          split
          · rfl
          · split
            · rw [decodeFlexibleChecked_eq (by rw [List.length_drop]; omega)]
              rfl
            · exact ih
    · rfl

/-- The parser of MODE SENSE (10) reads no byte beyond the length. -/
theorem parseModeParametersChecked_eq (h : length ≤ data.length) :
    parseModeParametersChecked data length = .ok (parseModeParameters data length) := by
  unfold parseModeParametersChecked parseModeParameters
  dsimp only
  split
  · rfl
  · rw [readBe16Checked_eq h, readBe16Checked_eq h]
    simp only [ok_bind]
    cases readBe16 data length 0 with
    | none => rfl
    | some modeDataLength =>
      cases readBe16 data length 6 with
      | none => rfl
      | some blockDescriptorLength =>
        dsimp only
        split
        · rfl
        · split
          · rfl
          · rw [copy_byteAt (by omega) (by omega), walkModePagesChecked_eq (by omega)]
            rfl

/-- The arrays hold the texts of the response, each ended by a zero byte. -/
structure InquiryArrays.Holds (arrays : InquiryArrays) (inquiry : Inquiry) : Prop where
  vendor : HoldsBytes arrays.vendor inquiry.vendor
  product : HoldsBytes arrays.product inquiry.product
  firmware : HoldsBytes arrays.firmware inquiry.firmware

/-- The parser of INQUIRY reads no byte beyond the length and writes within its arrays. -/
theorem parseInquiryChecked_eq (h : length ≤ data.length) :
    ∃ out, parseInquiryChecked data length = .ok out ∧
      Leaves InquiryArrays.Holds out (parseInquiry data length) := by
  unfold parseInquiryChecked parseInquiry
  by_cases hlength : length < 36
  · simp only [hlength, if_true]
    exact ⟨_, rfl, rfl⟩
  rw [if_neg hlength, if_neg hlength]
  dsimp only
  obtain ⟨vendor, hvendor, hholdsVendor⟩ := @trimCopyChecked_eq 9 (data.drop 8) 8 (by decide)
    (by rw [List.length_drop]; omega)
  obtain ⟨product, hproduct, hholdsProduct⟩ := @trimCopyChecked_eq 17 (data.drop 16) 16
    (by decide) (by rw [List.length_drop]; omega)
  obtain ⟨firmware, hfirmware, hholdsFirmware⟩ := @trimCopyChecked_eq 5 (data.drop 32) 4
    (by decide) (by rw [List.length_drop]; omega)
  rw [hvendor, ok_bind, hproduct, ok_bind, hfirmware, ok_bind]
  exact ⟨_, rfl, hholdsVendor, hholdsProduct, hholdsFirmware⟩

/-! ## One result for the bytes that count -/

/-- An array is determined by the string that it holds. -/
theorem HoldsBytes.unique {array array' : Vector UInt8 n} {bytes : List UInt8}
    (h : HoldsBytes array bytes) (h' : HoldsBytes array' bytes) : array = array' :=
  Vector.toList_inj.1 (h.1.trans h'.1.symm)

/-- The arrays of an inquiry are determined by what they hold. -/
theorem InquiryArrays.Holds.unique {arrays arrays' : InquiryArrays} {inquiry : Inquiry}
    (h : arrays.Holds inquiry) (h' : arrays'.Holds inquiry) : arrays = arrays' := by
  cases arrays
  cases arrays'
  rw [InquiryArrays.mk.injEq]
  exact ⟨h.vendor.unique h'.vendor, h.product.unique h'.product, h.firmware.unique h'.firmware⟩

/-- A table is determined by the descriptors that it holds. -/
theorem FormatTable.Holds.unique {table table' : FormatTable}
    {descriptors : List FormatCapacityDescriptor} (h : table.Holds descriptors)
    (h' : table'.Holds descriptors) : table = table' := by
  cases table
  cases table'
  rw [FormatTable.mk.injEq]
  exact ⟨h.count_eq.trans h'.count_eq.symm,
    Vector.toList_inj.1 (h.cells_eq.trans h'.cells_eq.symm)⟩

/-- What a parser leaves behind is determined by its result, when what holds each result is. -/
theorem Leaves.unique {α β : Type} {Holds : β → α → Prop}
    (hunique : ∀ out out' result, Holds out result → Holds out' result → out = out')
    {out out' : Except ErrorText β} {result : Except ErrorText α}
    (h : Leaves Holds out result) (h' : Leaves Holds out' result) : out = out' := by
  match out, out', result with
  | .ok _, .ok _, .ok _ => exact congrArg Except.ok (hunique _ _ _ h h')
  | .error _, .error _, .error _ =>
    have h : _ = _ := h
    have h' : _ = _ := h'
    rw [h, h']

end Correct

/-- The decoder of sense data depends only on the bytes inside the length. -/
theorem parseSense_congr {length : ℕ} {data data' : List UInt8} (h : AgreeOn length data data') :
    parseSense data length = parseSense data' length := by
  unfold parseSense
  by_cases hempty : length = 0
  · rw [if_pos hempty, if_pos hempty]
  rw [if_neg hempty, if_neg hempty, h 0 (by omega)]
  dsimp only
  split
  · next hfixed => rw [h 2 (by omega), h 12 (by omega), h 13 (by omega)]
  split
  · next hdescriptor => rw [h 1 (by omega), h 2 (by omega), h 3 (by omega)]
  · rfl

/-- What a parser returns depends on the `length` bytes that count alone. Access by access it
makes no fault in a memory that ends after them, and it leaves what it returns; in a longer memory
it leaves the same. -/
structure SeesTransferred {α β : Type} (Leaves : β → α → Prop)
    (checked : List UInt8 → ℕ → Checked β) (parse : List UInt8 → ℕ → α) : Prop where
  congr : ∀ length data data', AgreeOn length data data' → parse data length = parse data' length
  contained : ∀ transferred, ∃ out, checked transferred transferred.length = .ok out ∧
    Leaves out (parse transferred transferred.length)
  unseen : ∀ transferred stale, checked (transferred ++ stale) transferred.length =
    checked transferred transferred.length

/-- It is enough that a parser makes no fault where the memory is long enough, and that it leaves
one value only. -/
theorem SeesTransferred.of_leaves {α β : Type} {Leaves : β → α → Prop}
    {checked : List UInt8 → ℕ → Checked β} {parse : List UInt8 → ℕ → α}
    (hcongr : ∀ length data data', AgreeOn length data data' →
      parse data length = parse data' length)
    (hleaves : ∀ data length, length ≤ data.length →
      ∃ out, checked data length = .ok out ∧ Leaves out (parse data length))
    (hunique : ∀ out out' result, Leaves out result → Leaves out' result → out = out') :
    SeesTransferred Leaves checked parse := by
  refine ⟨hcongr, fun transferred => hleaves transferred _ le_rfl, fun transferred stale => ?_⟩
  obtain ⟨out, hout, hholds⟩ := hleaves transferred _ le_rfl
  obtain ⟨out', hout', hholds'⟩ := hleaves (transferred ++ stale) transferred.length (by simp)
  have hagree : AgreeOn transferred.length (transferred ++ stale) transferred := by
    have htake := AgreeOn.take (transferred ++ stale) transferred.length
    rw [List.take_left] at htake
    exact fun i hi => (htake i hi).symm
  rw [hcongr _ _ _ hagree] at hholds'
  rw [hout, hout', hunique _ _ _ hholds hholds']

/-- All parsers of responses see the transferred bytes alone, and store inside the arrays of
their results. -/
theorem parsers_seeTransferred :
    SeesTransferred (Leaves InquiryArrays.Holds) parseInquiryChecked parseInquiry ∧
      SeesTransferred (· = ·) parseSenseChecked parseSense ∧
      SeesTransferred (· = ·) parseReadCapacity10Checked parseReadCapacity10 ∧
      SeesTransferred (Leaves fun table formats => FormatTable.Holds table formats.descriptors)
        parseFormatCapacitiesChecked parseFormatCapacities ∧
      SeesTransferred (· = ·) parseModeParametersChecked parseModeParameters := by
  refine ⟨?inquiry, ?sense, ?capacity, ?formats, ?mode⟩
  case inquiry =>
    exact .of_leaves (fun _ _ _ => parseInquiry_congr) (fun _ _ => parseInquiryChecked_eq)
      (fun _ _ _ h h' => Leaves.unique (fun _ _ _ h h' => h.unique h') h h')
  case sense =>
    exact .of_leaves (fun _ _ _ => parseSense_congr)
      (fun _ _ h => ⟨_, parseSenseChecked_eq h, rfl⟩) (fun _ _ _ h h' => h.trans h'.symm)
  case capacity =>
    exact .of_leaves (fun _ _ _ => parseReadCapacity10_congr)
      (fun _ _ h => ⟨_, parseReadCapacity10Checked_eq h, rfl⟩) (fun _ _ _ h h' => h.trans h'.symm)
  case formats =>
    exact .of_leaves (fun _ _ _ => parseFormatCapacities_congr)
      (fun _ _ => parseFormatCapacitiesChecked_eq)
      (fun _ _ _ h h' => Leaves.unique (fun _ _ _ h h' => h.unique h') h h')
  case mode =>
    exact .of_leaves (fun _ _ _ => parseModeParameters_congr)
      (fun _ _ h => ⟨_, parseModeParametersChecked_eq h, rfl⟩)
      (fun _ _ _ h h' => h.trans h'.symm)

end M65
