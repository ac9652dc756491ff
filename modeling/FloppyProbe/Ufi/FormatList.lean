import FloppyProbe.Ufi.Responses

/-!
# The format of format-capacity lists

READ FORMAT CAPACITIES answers with a header and a list of descriptors. The list is stated here
without the parser, with the bits that mean nothing left open (`FormatList`). Every such list is
parsed back, and `m65_parse_format_capacities` accepts no other responses.
-/

namespace M65

/-! ## The list -/

/-- The four bytes of a block count. -/
def be32Bytes (value : UInt32) : List UInt8 :=
  [(value >>> 24).toUInt8, ((value >>> 16) &&& 0xff).toUInt8, ((value >>> 8) &&& 0xff).toUInt8,
    (value &&& 0xff).toUInt8]

/-- The three bytes of a block size. -/
def be24Bytes (value : UInt32) : List UInt8 := (be32Bytes value).drop 1

/-- A descriptor whose code has two bits and whose block size has three bytes. -/
structure FormatEntry where
  descriptor : FormatCapacityDescriptor
  /-- Of this byte, only the six bits above the code are sent. -/
  reserved : UInt8
  code_lt : descriptor.descriptorCode < 4
  blockSize_lt : descriptor.blockSize < 0x1000000

/-- The eight bytes of an entry. -/
def FormatEntry.encode (entry : FormatEntry) : List UInt8 :=
  be32Bytes entry.descriptor.blocks ++
    (entry.reserved &&& 0xfc ||| entry.descriptor.descriptorCode) ::
      be24Bytes entry.descriptor.blockSize

/-- The list, with the three bytes before the byte that holds its length. -/
structure FormatList where
  reserved : Vector UInt8 3
  entries : List FormatEntry
  length_le : entries.length ≤ maxFormatDescriptors

namespace FormatList

/-- The four bytes in front of the entries, the last of which is the length of the list. -/
def header (list : FormatList) : List UInt8 :=
  list.reserved.toList ++ [UInt8.ofNat (8 * list.entries.length)]

/-- The bytes of the list. -/
def encode (list : FormatList) : List UInt8 :=
  list.header ++ list.entries.flatMap FormatEntry.encode

/-- The descriptors of the entries, in order. -/
def descriptors (list : FormatList) : List FormatCapacityDescriptor :=
  list.entries.map FormatEntry.descriptor

end FormatList

/-! ## Reading an entry -/

/-- Behind a prefix, the bytes are those of the rest. -/
theorem byteAt_append_length (before after : List UInt8) (i : ℕ) :
    byteAt (before ++ after) (before.length + i) = byteAt after i := by
  simp only [byteAt, List.getD_eq_getElem?_getD]
  rw [List.getElem?_append_right (Nat.le_add_right _ i), Nat.add_sub_cancel_left]

/-- A value of 24 bits is put together again from its three bytes. -/
theorem be24_join {value : UInt32} (h : value < 0x1000000) :
    ((value >>> 16) &&& 0xff).toUInt8.toUInt32 <<< 16 |||
      ((value >>> 8) &&& 0xff).toUInt8.toUInt32 <<< 8 ||| (value &&& 0xff).toUInt8.toUInt32 =
      value := by
  have htop : (value >>> 24).toUInt8 = 0 := by
    have hlt : value.toNat < 2 ^ 24 := h
    rw [← UInt8.toNat_inj]
    simp [Nat.shiftRight_eq_div_pow]
    omega
  have hjoin := be32_join value
  rw [htop] at hjoin
  simpa using hjoin

/-- Four bytes that were written behind a prefix are read back from there. -/
theorem readBe32_append {before after : List UInt8} {length : ℕ} (value : UInt32)
    (h : before.length + 4 ≤ length) :
    readBe32 (before ++ (be32Bytes value ++ after)) length before.length = some value := by
  have havailable : available length before.length 4 = true := by simp [available]; omega
  have hzero := byteAt_append_length before (be32Bytes value ++ after) 0
  rw [Nat.add_zero] at hzero
  rw [readBe32, if_pos havailable, hzero, byteAt_append_length, byteAt_append_length,
    byteAt_append_length]
  exact congrArg some (be32_join value)

/-- Three bytes that were written behind a prefix are read back from there. -/
theorem readBe24_append {before after : List UInt8} {length : ℕ} {value : UInt32}
    (hvalue : value < 0x1000000) (h : before.length + 3 ≤ length) :
    readBe24 (before ++ (be24Bytes value ++ after)) length before.length = some value := by
  have havailable : available length before.length 3 = true := by simp [available]; omega
  have hzero := byteAt_append_length before (be24Bytes value ++ after) 0
  rw [Nat.add_zero] at hzero
  rw [readBe24, if_pos havailable, hzero, byteAt_append_length, byteAt_append_length]
  exact congrArg some (be24_join hvalue)

/-- The code survives whatever is sent in the bits above it. -/
theorem code_of_reserved {code : UInt8} (reserved : UInt8) (h : code < 4) :
    (reserved &&& 0xfc ||| code) &&& 0x03 = code := by
  have hcases : ∀ code < 4, ∀ reserved < 256,
      (UInt8.ofNat reserved &&& 0xfc ||| UInt8.ofNat code) &&& 0x03 = UInt8.ofNat code := by
    decide +kernel
  have hcode := hcases code.toNat h reserved.toNat reserved.toNat_lt
  rwa [UInt8.ofNat_toNat, UInt8.ofNat_toNat] at hcode

/-- An entry takes eight bytes. -/
theorem FormatEntry.length_encode (entry : FormatEntry) : entry.encode.length = 8 := rfl

/-- The entries take eight bytes each. -/
theorem FormatEntry.length_flatMap_encode (entries : List FormatEntry) :
    (entries.flatMap FormatEntry.encode).length = 8 * entries.length := by
  induction entries with
  | nil => rfl
  | cons entry entries ih =>
    rw [List.flatMap_cons, List.length_append, ih, entry.length_encode, List.length_cons]
    omega

/-- The descriptor of an entry is read back from its bytes. -/
theorem FormatEntry.parseDescriptor_encode (entry : FormatEntry) {before after : List UInt8}
    {length : ℕ} (h : before.length + 8 ≤ length) :
    parseDescriptor (before ++ (entry.encode ++ after)) length before.length =
      some entry.descriptor := by
  obtain ⟨⟨blocks, blockSize, code⟩, reserved, hcode, hsize⟩ := entry
  have hblocks : readBe32 (before ++ (be32Bytes blocks ++
      ((reserved &&& 0xfc ||| code) :: (be24Bytes blockSize ++ after)))) length before.length =
        some blocks := readBe32_append blocks (by omega)
  have hblockSize : readBe24 ((before ++ be32Bytes blocks ++ [reserved &&& 0xfc ||| code]) ++
      (be24Bytes blockSize ++ after)) length (before.length + 5) = some blockSize := by
    have hread := @readBe24_append (before ++ be32Bytes blocks ++ [reserved &&& 0xfc ||| code])
      after length blockSize hsize (by simp [be32Bytes]; omega)
    simpa [be32Bytes] using hread
  have hbyte : byteAt (before ++ (be32Bytes blocks ++
      ((reserved &&& 0xfc ||| code) :: (be24Bytes blockSize ++ after)))) (before.length + 4) =
        reserved &&& 0xfc ||| code := by
    rw [byteAt_append_length]
    rfl
  simp only [List.append_assoc, List.singleton_append] at hblockSize
  simp only [parseDescriptor, FormatEntry.encode, List.append_assoc, List.cons_append, hblocks,
    hblockSize, hbyte, code_of_reserved reserved hcode]

/-- The loop goes through the entries in order. -/
theorem parseDescriptors_encode (entries : List FormatEntry) {before after : List UInt8}
    {length : ℕ} (h : before.length + 8 * entries.length ≤ length) :
    parseDescriptors (before ++ (entries.flatMap FormatEntry.encode ++ after)) length
      before.length entries.length = some (entries.map FormatEntry.descriptor) := by
  induction entries generalizing before with
  | nil => rfl
  | cons entry entries ih =>
    rw [List.length_cons] at h
    have hentry := @FormatEntry.parseDescriptor_encode entry before
      (entries.flatMap FormatEntry.encode ++ after) length (by omega)
    have hlength : (before ++ entry.encode).length = before.length + 8 := by
      rw [List.length_append, entry.length_encode]
    have hrest := @ih (before ++ entry.encode) (by omega)
    rw [hlength, List.append_assoc] at hrest
    rw [List.flatMap_cons, List.append_assoc, List.length_cons, parseDescriptors, hentry]
    simp only [hrest, Option.map_some, List.map_cons]

namespace FormatList

/-- The header takes four bytes. -/
theorem length_header (list : FormatList) : list.header.length = 4 := by
  simp [header]

/-- The list takes four bytes and eight for each of its entries. -/
theorem length_encode (list : FormatList) :
    list.encode.length = 4 + 8 * list.entries.length := by
  rw [encode, List.length_append, length_header, FormatEntry.length_flatMap_encode]

/-- The descriptors of a list are read back from its bytes. -/
theorem parseDescriptors_encode (list : FormatList) {trailing : List UInt8} {length : ℕ}
    (h : list.encode.length ≤ length) :
    parseDescriptors (list.encode ++ trailing) length 4 list.entries.length =
      some list.descriptors := by
  rw [length_encode] at h
  have hparsed := @M65.parseDescriptors_encode list.entries list.header trailing length
    (by rwa [length_header])
  rwa [length_header, ← List.append_assoc] at hparsed

end FormatList

/-! ## Acceptance -/

/-- What the length byte of a response says. -/
def listLength (data : List UInt8) : ℕ := (byteAt data 3).toNat

/-- The header of an encoded list gives the length of its entries. -/
theorem FormatList.listLength_encode (list : FormatList) (trailing : List UInt8) :
    listLength (list.encode ++ trailing) = 8 * list.entries.length := by
  have hle : list.entries.length ≤ 31 := list.length_le
  have hbyte : byteAt (list.encode ++ trailing) 3 = UInt8.ofNat (8 * list.entries.length) := by
    simp [FormatList.encode, FormatList.header, byteAt]
  rw [listLength, hbyte, UInt8.toNat_ofNat']
  omega

/-- What a response has to satisfy: the length byte is there, and counts whole entries that are
there as well. -/
structure IsFormatList (data : List UInt8) (length : ℕ) : Prop where
  length_ge : 4 ≤ length
  whole : listLength data % 8 = 0
  listLength_le : listLength data ≤ length - 4

/-- The bytes of a list are a format list, whatever follows them. -/
theorem FormatList.isFormatList_encode (list : FormatList) (trailing : List UInt8) :
    IsFormatList (list.encode ++ trailing) (list.encode ++ trailing).length := by
  have hlist := list.listLength_encode trailing
  have hlength : (list.encode ++ trailing).length =
      4 + 8 * list.entries.length + trailing.length := by
    rw [List.length_append, list.length_encode]
  exact ⟨by omega, by omega, by omega⟩

/-- A byte never counts more entries than the output has room for. -/
theorem listLength_div_le (data : List UInt8) : listLength data / 8 ≤ maxFormatDescriptors := by
  have hlt : listLength data < 256 := (byteAt data 3).toNat_lt
  show _ ≤ 31
  omega

/-- A format list is parsed, and its descriptors are those at their places. -/
theorem parseFormatCapacities_of_isFormatList {data : List UInt8} {length : ℕ}
    (h : IsFormatList data length) :
    ∃ out, parseFormatCapacities data length = .ok out ∧
      parseDescriptors data length 4 (listLength data / 8) = some out.descriptors := by
  obtain ⟨hlength, hwhole, hle⟩ := h
  have hcount := listLength_div_le data
  obtain ⟨descriptors, hdescriptors, -⟩ := @parseDescriptors_isSome data length 4
    (listLength data / 8) (by omega)
  refine ⟨⟨descriptors⟩, ?_, hdescriptors⟩
  unfold listLength at *
  simp only [parseFormatCapacities, hdescriptors]
  rw [if_neg (by omega), if_neg (by omega), if_neg (by omega), if_neg (by omega)]

/-- Every other response is refused by one of the first three checks. -/
theorem parseFormatCapacities_of_not_isFormatList {data : List UInt8} {length : ℕ}
    (h : ¬IsFormatList data length) :
    parseFormatCapacities data length =
        .error (errorText "READ FORMAT CAPACITIES response is shorter than 4 bytes") ∨
      parseFormatCapacities data length =
        .error (errorText "format-capacity list length is not a multiple of 8") ∨
      parseFormatCapacities data length =
        .error (errorText "format-capacity descriptor list is truncated") := by
  unfold parseFormatCapacities
  by_cases hlength : length < 4
  · exact .inl (if_pos hlength)
  by_cases hwhole : (byteAt data 3).toNat % 8 = 0
  · have htruncated : length - 4 < (byteAt data 3).toNat :=
      Nat.lt_of_not_le fun hle => h ⟨Nat.le_of_not_lt hlength, hwhole, hle⟩
    simp [hlength, hwhole, htruncated]
  · simp [hlength, hwhole]

/-- Every list is parsed back, whatever its reserved bits and whatever follows it; exactly the
responses with a whole list are accepted, and no response is refused because of the number of
descriptors or because one of them is cut off. -/
theorem parseFormatCapacities_exact :
    (∀ (list : FormatList) (trailing : List UInt8),
      parseFormatCapacities (list.encode ++ trailing) (list.encode ++ trailing).length =
        .ok ⟨list.descriptors⟩) ∧
    ∀ (data : List UInt8) (length : ℕ),
      ((∃ out, parseFormatCapacities data length = .ok out) ↔ IsFormatList data length) ∧
      (∀ out, parseFormatCapacities data length = .ok out →
        out.descriptors.length = listLength data / 8 ∧ listLength data / 8 ≤ 31) ∧
      parseFormatCapacities data length ≠
        .error (errorText "too many format-capacity descriptors") ∧
      parseFormatCapacities data length ≠
        .error (errorText "format-capacity descriptor is truncated") := by
  constructor
  · intro list trailing
    obtain ⟨out, hout, hparsed⟩ :=
      parseFormatCapacities_of_isFormatList (list.isFormatList_encode trailing)
    rw [list.listLength_encode, Nat.mul_div_cancel_left _ (by decide),
      list.parseDescriptors_encode (by simp)] at hparsed
    rw [hout, Option.some.inj hparsed]
  · intro data length
    by_cases h : IsFormatList data length
    · obtain ⟨out, hout, hparsed⟩ := parseFormatCapacities_of_isFormatList h
      obtain ⟨hlength, hwhole, hle⟩ := h
      obtain ⟨descriptors, hdescriptors, hcount⟩ := @parseDescriptors_isSome data length 4
        (listLength data / 8) (by omega)
      rw [hdescriptors] at hparsed
      rw [hout]
      refine ⟨iff_of_true ⟨out, rfl⟩ ⟨hlength, hwhole, hle⟩, ?_, nofun, nofun⟩
      rintro _ ⟨⟩
      rw [← Option.some.inj hparsed]
      exact ⟨hcount, listLength_div_le data⟩
    -- the three texts of a refusal are none of the two
    · rcases parseFormatCapacities_of_not_isFormatList h with herror | herror | herror
      all_goals
        rw [herror]
        refine ⟨iff_of_false (fun ⟨_, hok⟩ => nomatch hok) h, nofun, ?_, ?_⟩
        · exact fun heq => absurd (Except.error.inj heq) (by decide)
        · exact fun heq => absurd (Except.error.inj heq) (by decide)

end M65
