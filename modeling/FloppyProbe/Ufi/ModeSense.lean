import FloppyProbe.Ufi.Geometry

/-!
# The format of MODE SENSE responses

`m65_parse_mode_parameters` accepts exactly the responses of a format that is stated here without
the parser: a header that declares the length of the response, block descriptors, and a chain of
pages, each of which declares its own length, that leads to a Flexible Disk page
(`IsModeResponse`).
-/

namespace M65

variable {data : List UInt8} {length declared offset found : ℕ}

/-! ## The format -/

/-- The length that the header of a response declares for all of it. -/
def declaredLength (data : List UInt8) : ℕ := be16Value (byteAt data 0) (byteAt data 1) + 2

/-- The length of the block descriptors, which follow the header. -/
def descriptorLength (data : List UInt8) : ℕ := be16Value (byteAt data 6) (byteAt data 7)

/-- The length of the page at `offset`, with the two bytes of its header. -/
def pageLengthAt (data : List UInt8) (offset : ℕ) : ℕ := (byteAt data (offset + 1)).toNat + 2

/-- The code of the page at `offset`. -/
def pageCodeAt (data : List UInt8) (offset : ℕ) : UInt8 := byteAt data offset &&& 0x3f

/-- A page without the subpage bit, wholly inside the first `declared` bytes. -/
structure HasPageAt (data : List UInt8) (declared offset : ℕ) : Prop where
  header_le : offset + 2 ≤ declared
  page_le : offset + pageLengthAt data offset ≤ declared
  not_subpage : byteAt data offset &&& 0x40 = 0

/-- The chain of pages from the first offset on leads to the second one, where its first Flexible
Disk page is. -/
inductive PageChain (data : List UInt8) (declared : ℕ) : ℕ → ℕ → Prop
  | found {offset : ℕ} (hpage : HasPageAt data declared offset)
      (hcode : pageCodeAt data offset = flexibleDiskPage) : PageChain data declared offset offset
  | next {offset found : ℕ} (hpage : HasPageAt data declared offset)
      (hcode : pageCodeAt data offset ≠ flexibleDiskPage)
      (hrest : PageChain data declared (offset + pageLengthAt data offset) found) :
      PageChain data declared offset found

/-- The bytes are a MODE SENSE (10) response whose first Flexible Disk page is at `offset`. -/
structure IsModeResponse (data : List UInt8) (length offset : ℕ) : Prop where
  length_ge : 8 ≤ length
  declared_ge : 8 ≤ declaredLength data
  declared_le : declaredLength data ≤ min length modeBufferSize
  descriptors_le : 8 + descriptorLength data ≤ declaredLength data
  chain : PageChain data (declaredLength data) (8 + descriptorLength data) offset
  length_byte : 30 ≤ byteAt data (offset + 1)

/-- The parameters hold the response, and the page at `offset`. -/
structure ModeParameters.Holds (params : ModeParameters) (data : List UInt8) (offset : ℕ) :
    Prop where
  raw_eq : ∀ i < modeBufferSize,
    params.raw[i]?.getD 0 = if i < declaredLength data then byteAt data i else 0
  rawLength_eq : params.rawLength = declaredLength data
  pageOffset_eq : params.pageOffset = offset
  page_eq : ∀ i < flexPageLength, params.flexible.byte i = byteAt data (offset + i)

/-! ## The walk -/

/-- The bytes of a suffix are those of the whole from its start on. -/
theorem byteAt_drop (data : List UInt8) (offset i : ℕ) :
    byteAt (data.drop offset) i = byteAt data (offset + i) := by
  simp [byteAt, List.getD_eq_getElem?_getD]

/-- A Flexible Disk page is decoded exactly when its length byte is 30 at least. -/
theorem decodeFlexible_isOk_iff (hsubpage : byteAt data offset &&& 0x40 = 0)
    (hcode : pageCodeAt data offset = flexibleDiskPage) :
    (∃ page, decodeFlexible (data.drop offset) (pageLengthAt data offset) = .ok page) ↔
      30 ≤ byteAt data (offset + 1) := by
  have hbyte0 : byteAt (data.drop offset) 0 = byteAt data offset := byteAt_drop data offset 0
  have hbyte1 := byteAt_drop data offset 1
  have hcode : byteAt data offset &&& 0x3f = flexibleDiskPage := hcode
  have hlength : pageLengthAt data offset < flexPageLength ↔ byteAt data (offset + 1) < 30 := by
    rw [UInt8.lt_iff_toNat_lt]
    show _ + 2 < 32 ↔ _ < 30
    omega
  have hfits : ¬ pageLengthAt data offset < (byteAt data (offset + 1)).toNat + 2 :=
    lt_irrefl (pageLengthAt data offset)
  unfold decodeFlexible
  simp only [hbyte0, hbyte1, hcode, hsubpage, hlength, hfits, ne_eq, not_true_eq_false, or_self,
    or_false, if_false]
  by_cases hshort : byteAt data (offset + 1) < 30
  · simp [hshort]
  · simp [hshort, UInt8.not_lt.1 hshort]

/-- A decoded page keeps the bytes that it was decoded from. -/
theorem byte_of_decodeFlexible {page : FlexibleDiskPage}
    (h : decodeFlexible data length = .ok page) {i : ℕ} (hi : i < flexPageLength) :
    page.byte i = byteAt data i := by
  unfold decodeFlexible at h
  split at h
  · cases h
  split at h
  · cases h
  split at h
  · cases h
  · obtain rfl := Except.ok.inj h
    simp [FlexibleDiskPage.byte, hi]

/-- The walk finds the first Flexible Disk page of the chain. Every page takes two bytes at least,
so that `declared - offset` rounds are enough. -/
theorem walkModePages_eq_ok_iff {fuel : ℕ} {page : FlexibleDiskPage}
    (hfuel : declared ≤ offset + fuel) :
    walkModePages data declared fuel offset = .ok (found, page) ↔
      PageChain data declared offset found ∧
        decodeFlexible (data.drop found) (pageLengthAt data found) = .ok page := by
  induction fuel generalizing offset with
  | zero =>
      refine iff_of_false nofun fun ⟨hchain, _⟩ => ?_
      have hheader : offset + 2 ≤ declared := by
        cases hchain with
        | found hpage => exact hpage.header_le
        | next hpage => exact hpage.header_le
      omega
  | succ fuel ih =>
      have hnone (hbad : ¬ HasPageAt data declared offset) {text : ErrorText} :
          (.error text : Except ErrorText (ℕ × FlexibleDiskPage)) = .ok (found, page) ↔
            PageChain data declared offset found ∧
              decodeFlexible (data.drop found) (pageLengthAt data found) = .ok page := by
        refine iff_of_false nofun fun ⟨hchain, _⟩ => hbad ?_
        cases hchain with
        | found hpage => exact hpage
        | next hpage => exact hpage
      unfold walkModePages
      split
      case isFalse hend => exact hnone fun hpage => by have := hpage.header_le; omega
      split
      case isTrue hshort => exact hnone fun hpage => by have := hpage.header_le; omega
      split
      case isTrue hsubpage => exact hnone fun hpage => hsubpage hpage.not_subpage
      case isFalse hsubpage =>
      have hsubpage : byteAt data offset &&& 0x40 = 0 := of_not_not hsubpage
      dsimp only
      rw [show (byteAt data (offset + 1)).toNat + 2 = pageLengthAt data offset from rfl]
      split
      case isTrue hlong => exact hnone fun hpage => by have := hpage.page_le; omega
      case isFalse hinside =>
      have hpage : HasPageAt data declared offset := ⟨by omega, by omega, hsubpage⟩
      split
      case isTrue hcode =>
        -- the first Flexible Disk page is here
        constructor
        · intro h
          cases hdecode : decodeFlexible (data.drop offset) (pageLengthAt data offset) with
          | error text =>
              rw [hdecode] at h
              cases h
          | ok page' =>
              rw [hdecode] at h
              obtain ⟨rfl, rfl⟩ := Prod.mk.inj (Except.ok.inj h)
              exact ⟨.found hpage hcode, hdecode⟩
        · rintro ⟨hchain, hdecode⟩
          cases hchain with
          | found =>
              rw [hdecode]
              rfl
          | next _ hother => exact absurd hcode hother
      case isFalse hcode =>
        have hfuel : declared ≤ offset + pageLengthAt data offset + fuel := by
          unfold pageLengthAt
          omega
        rw [ih hfuel]
        refine and_congr_left fun _ => ⟨fun hrest => .next hpage hcode hrest, fun hchain => ?_⟩
        cases hchain with
        | found _ hcode' => exact absurd hcode' hcode
        | next _ _ hrest => exact hrest

/-- A chain of pages ends at a Flexible Disk page inside the response. -/
theorem PageChain.hasPage (h : PageChain data declared offset found) :
    HasPageAt data declared found ∧ pageCodeAt data found = flexibleDiskPage := by
  induction h with
  | found hpage hcode => exact ⟨hpage, hcode⟩
  | next _ _ _ ih => exact ih

/-- A chain leads to one page only. -/
theorem PageChain.unique {found' : ℕ} (h : PageChain data declared offset found)
    (h' : PageChain data declared offset found') : found = found' := by
  induction h with
  | found _ hcode =>
      cases h' with
      | found => rfl
      | next _ hcode' => exact absurd hcode hcode'
  | next _ hcode _ ih =>
      cases h' with
      | found _ hcode' => exact absurd hcode' hcode
      | next _ _ hrest => exact ih hrest

/-! ## The parser -/

/-- The parameters of a response whose Flexible Disk page was found at `offset`. -/
def responseParameters (data : List UInt8) (offset : ℕ) (page : FlexibleDiskPage) :
    ModeParameters where
  raw := Vector.ofFn fun i => if i < declaredLength data then byteAt data i else 0
  rawLength := declaredLength data
  pageOffset := offset
  flexible := page

/-- The parser checks the lengths of the header and walks the pages. -/
theorem parseModeParameters_eq_ok_iff {params : ModeParameters} :
    parseModeParameters data length = .ok params ↔ 8 ≤ length ∧ 8 ≤ declaredLength data ∧
      declaredLength data ≤ min length modeBufferSize ∧
      8 + descriptorLength data ≤ declaredLength data ∧ ∃ offset page,
        walkModePages data (declaredLength data) (declaredLength data)
            (8 + descriptorLength data) = .ok (offset, page) ∧
          params = responseParameters data offset page := by
  unfold parseModeParameters
  dsimp only
  split
  · next hshort => exact iff_of_false nofun fun h => absurd h.1 (by omega)
  next hlength =>
  -- with eight bytes both fields of the header can be read
  obtain ⟨modeDataLength, hmode, hmodeValue⟩ :=
    @readBe16_eq_some data length 0 (by omega)
  obtain ⟨blockLength, hblock, hblockValue⟩ :=
    @readBe16_eq_some data length 6 (by omega)
  have hmodeValue : modeDataLength.toNat + 2 = declaredLength data := by rw [hmodeValue]; rfl
  have hblockValue : blockLength.toNat = descriptorLength data := hblockValue
  simp only [hmode, hblock, hmodeValue, hblockValue]
  rw [le_min_iff]
  split
  · next hbad => exact iff_of_false nofun fun h => by omega
  next hfits =>
  split
  · next hbad => exact iff_of_false nofun fun h => by omega
  next hdescriptors =>
  cases walkModePages data (declaredLength data) (declaredLength data)
      (8 + descriptorLength data) with
  | error text => exact iff_of_false nofun (by simp)
  | ok found =>
      have hsizes : 8 ≤ length ∧ 8 ≤ declaredLength data ∧ (declaredLength data ≤ length ∧
          declaredLength data ≤ modeBufferSize) ∧
          8 + descriptorLength data ≤ declaredLength data := by omega
      obtain ⟨h₁, h₂, h₃, h₄⟩ := hsizes
      simp only [h₁, h₂, h₃, h₄, true_and, Except.ok.injEq]
      constructor
      · rintro h
        obtain rfl := Except.ok.inj h
        exact ⟨found.1, found.2, rfl, rfl⟩
      · rintro ⟨offset, page, rfl, rfl⟩
        rfl

/-- The parser accepts exactly the responses of the format, and then returns what they hold: the
response, the offset of its first Flexible Disk page and the bytes there. -/
theorem parseModeParameters_accepts_iff (data : List UInt8) (length : ℕ) :
    ((∃ params, parseModeParameters data length = .ok params) ↔
        ∃ offset, IsModeResponse data length offset) ∧
      ∀ params, parseModeParameters data length = .ok params →
        ∃ offset, IsModeResponse data length offset ∧ params.Holds data offset ∧
          offset + flexPageLength ≤ params.rawLength ∧ params.rawLength ≤ modeBufferSize := by
  -- what is accepted has the shape, and every bound follows from the declared length
  have hsound (params : ModeParameters) (h : parseModeParameters data length = .ok params) :
      ∃ offset, IsModeResponse data length offset ∧ params.Holds data offset ∧
        offset + flexPageLength ≤ params.rawLength ∧ params.rawLength ≤ modeBufferSize := by
    obtain ⟨hlength, hdeclared, hdeclared', hdescriptors, offset, page, hwalk, rfl⟩ :=
      parseModeParameters_eq_ok_iff.1 h
    obtain ⟨hchain, hdecode⟩ := (walkModePages_eq_ok_iff (by omega)).1 hwalk
    obtain ⟨hpage, hcode⟩ := hchain.hasPage
    have hbyte := (decodeFlexible_isOk_iff hpage.not_subpage hcode).1 ⟨page, hdecode⟩
    refine ⟨offset, ⟨hlength, hdeclared, hdeclared', hdescriptors, hchain, hbyte⟩,
      ⟨fun i hi => ?_, rfl, rfl, fun i hi => ?_⟩, ?_, (le_min_iff.1 hdeclared').2⟩
    · simp [responseParameters, hi]
    · rw [← byteAt_drop]
      exact byte_of_decodeFlexible hdecode hi
    · have hle := hpage.page_le
      have hbyte : 30 ≤ (byteAt data (offset + 1)).toNat := UInt8.le_iff_toNat_le.1 hbyte
      show offset + 32 ≤ declaredLength data
      unfold pageLengthAt at hle
      omega
  refine ⟨⟨fun ⟨params, h⟩ => ?_, ?_⟩, hsound⟩
  · obtain ⟨offset, hresponse, -⟩ := hsound params h
    exact ⟨offset, hresponse⟩
  · rintro ⟨offset, hlength, hdeclared, hdeclared', hdescriptors, hchain, hbyte⟩
    obtain ⟨hpage, hcode⟩ := hchain.hasPage
    obtain ⟨page, hdecode⟩ := (decodeFlexible_isOk_iff hpage.not_subpage hcode).2 hbyte
    exact ⟨_, parseModeParameters_eq_ok_iff.2 ⟨hlength, hdeclared, hdeclared', hdescriptors,
      offset, page, (walkModePages_eq_ok_iff (by omega)).2 ⟨hchain, hdecode⟩, rfl⟩⟩

/-! ## Fields -/

/-- The fields of the page are the big-endian values of its bytes. -/
structure FlexibleDiskPage.Typed (page : FlexibleDiskPage) : Prop where
  transferRate : page.transferRateKbit.toNat = be16Value (page.byte 2) (page.byte 3)
  heads : page.heads = page.byte 4
  sectorsPerTrack : page.sectorsPerTrack = page.byte 5
  bytesPerSector : page.bytesPerSector.toNat = be16Value (page.byte 6) (page.byte 7)
  cylinders : page.cylinders.toNat = be16Value (page.byte 8) (page.byte 9)
  rotationRate : page.mediumRotationRateRpm.toNat = be16Value (page.byte 28) (page.byte 29)

/-- The decoded fields of a page are those of its bytes. -/
theorem typed_of_decodeFlexible {page : FlexibleDiskPage}
    (h : decodeFlexible data length = .ok page) : page.Typed := by
  have hbyte {i : ℕ} (hi : i < flexPageLength) : page.byte i = byteAt data i :=
    byte_of_decodeFlexible h hi
  -- a two-byte field is read in place, the first byte being the high one
  have hfield {i : ℕ} (hi : i + 1 < flexPageLength) (hlength : flexPageLength ≤ length) :
      ((readBe16 data length i).getD 0).toNat = be16Value (page.byte i) (page.byte (i + 1)) := by
    obtain ⟨value, hread, hvalue⟩ :=
      @readBe16_eq_some data length i (by omega)
    rw [hread, hbyte (by omega), hbyte hi]
    exact hvalue
  have hheads := hbyte (i := 4) (by decide)
  have hsectors := hbyte (i := 5) (by decide)
  unfold decodeFlexible at h
  split at h
  · cases h
  next hshort =>
  split at h
  · cases h
  split at h
  · cases h
  · have hlength : flexPageLength ≤ length := Nat.le_of_not_lt hshort
    obtain rfl := Except.ok.inj h
    exact ⟨hfield (by decide) hlength, hheads.symm, hsectors.symm, hfield (by decide) hlength,
      hfield (by decide) hlength, hfield (by decide) hlength⟩

/-- The page of a parsed response has the fields of its bytes. -/
theorem typed_of_parse {params : ModeParameters}
    (h : parseModeParameters data length = .ok params) : params.flexible.Typed := by
  obtain ⟨-, -, -, -, offset, page, hwalk, rfl⟩ := parseModeParameters_eq_ok_iff.1 h
  exact typed_of_decodeFlexible ((walkModePages_eq_ok_iff (by omega)).1 hwalk).2

/-- A page that the parser accepts has the header of a Flexible Disk page; only its length byte may
keep the payload builder from accepting it too. -/
theorem selectable_iff_of_parse {params : ModeParameters}
    (h : parseModeParameters data length = .ok params) :
    params.flexible.Selectable ↔ params.flexible.byte 1 = 30 := by
  obtain ⟨-, -, -, -, offset, page, hwalk, rfl⟩ := parseModeParameters_eq_ok_iff.1 h
  obtain ⟨hchain, hdecode⟩ := (walkModePages_eq_ok_iff (by omega)).1 hwalk
  obtain ⟨hpage, hcode⟩ := hchain.hasPage
  have hbyte : page.byte 0 = byteAt data offset := by
    rw [byte_of_decodeFlexible hdecode (by decide), byteAt_drop, Nat.add_zero]
  constructor
  · exact fun hselectable => hselectable.length_eq
  · intro hlength
    exact ⟨hbyte ▸ hcode, hbyte ▸ hpage.not_subpage, hlength⟩

/-- A two-byte field holds a value exactly when its bytes are those of the value. -/
theorem eq_iff_of_be16Value {field value : UInt16} {high low a b : UInt8}
    (h : field.toNat = be16Value high low) (hvalue : value.toNat = be16Value a b) :
    field = value ↔ high = a ∧ low = b := by
  rw [← UInt16.toNat_inj, h, hvalue, be16Value_inj]

/-- The bytes of the page are those of the 1581 geometry. -/
def FlexibleDiskPage.Stores1581 (page : FlexibleDiskPage) : Prop :=
  ∀ i b, geometryByte1581 i = some b → page.byte i = b

/-- The test of the decoded fields is a test of the bytes of the page. -/
theorem FlexibleDiskPage.Typed.geometryIs1581_iff {page : FlexibleDiskPage} (h : page.Typed) :
    geometryIs1581 page = true ↔ page.Stores1581 := by
  -- the comparison goes field by field, and the bytes of each field follow from its value
  have hbytes : page.Stores1581 ↔ (((((page.byte 2 = 0x00 ∧ page.byte 3 = 0xfa) ∧
      page.byte 4 = 2) ∧ page.byte 5 = 10) ∧ (page.byte 6 = 0x02 ∧ page.byte 7 = 0x00)) ∧
      (page.byte 8 = 0 ∧ page.byte 9 = 80)) ∧ (page.byte 28 = 0x01 ∧ page.byte 29 = 0x2c) := by
    constructor
    · intro h
      exact ⟨⟨⟨⟨⟨⟨h 2 _ rfl, h 3 _ rfl⟩, h 4 _ rfl⟩, h 5 _ rfl⟩, h 6 _ rfl, h 7 _ rfl⟩,
        h 8 _ rfl, h 9 _ rfl⟩, h 28 _ rfl, h 29 _ rfl⟩
    · rintro h i b hb
      unfold geometryByte1581 at hb
      split at hb <;> simp_all
  have hrate : page.transferRateKbit = 250 ↔ page.byte 2 = 0x00 ∧ page.byte 3 = 0xfa :=
    eq_iff_of_be16Value h.transferRate (by decide)
  have hsize : page.bytesPerSector = 512 ↔ page.byte 6 = 0x02 ∧ page.byte 7 = 0x00 :=
    eq_iff_of_be16Value h.bytesPerSector (by decide)
  have hcylinders : page.cylinders = 80 ↔ page.byte 8 = 0 ∧ page.byte 9 = 80 :=
    eq_iff_of_be16Value h.cylinders (by decide)
  have hrotation : page.mediumRotationRateRpm = 300 ↔ page.byte 28 = 0x01 ∧ page.byte 29 = 0x2c :=
    eq_iff_of_be16Value h.rotationRate (by decide)
  rw [hbytes]
  simp only [geometryIs1581, Bool.and_eq_true, beq_iff_eq, hrate, hsize, hcylinders, hrotation,
    h.heads, h.sectorsPerTrack]

end M65
