import FloppyProbe.Bytes

/-!
# The Flexible Disk mode page

MODE SENSE responses, the 1581 geometry and the MODE SELECT payload of `src/ufi.c`: the parser
of a response, the setter and the test of the geometry, the gate that compares a change with
the controller's changeable mask, and the builder of the 40-byte payload.
-/

namespace M65

/-- The code of the Flexible Disk page, `M65_FLEXIBLE_DISK_PAGE`. -/
abbrev flexibleDiskPage : UInt8 := 0x05

/-- The size of a Flexible Disk page with its header, `M65_FLEX_PAGE_LENGTH`. -/
abbrev flexPageLength : ℕ := 32

/-- The size of the buffer for MODE SENSE, `M65_MODE_BUFFER_SIZE`. -/
abbrev modeBufferSize : ℕ := 256

/-- The fields of the page, in the order of the table `flexible_fields`. -/
inductive FlexibleField where
  | transferRate
  | heads
  | sectorsPerTrack
  | bytesPerSector
  | cylinders
  | writePrecomp
  | reducedWriteCurrent
  | stepRate
  | stepPulseWidth
  | headSettleDelay
  | motorOnDelay
  | motorOffDelay
  | trdySsnMo
  | spc
  | writeCompensation
  | headLoadDelay
  | headUnloadDelay
  | pin34Pin2
  | pin4Pin1
  | rotationRate
deriving DecidableEq

/-- Where a field of the page is, how many bytes it has and what it is called. -/
structure FlexibleFieldInfo where
  offset : ℕ
  length : ℕ
  name : String

/-- The table `flexible_fields`. -/
def flexibleFields : FlexibleField → FlexibleFieldInfo
  | .transferRate => ⟨2, 2, "transfer_rate"⟩
  | .heads => ⟨4, 1, "heads"⟩
  | .sectorsPerTrack => ⟨5, 1, "sectors_per_track"⟩
  | .bytesPerSector => ⟨6, 2, "bytes_per_sector"⟩
  | .cylinders => ⟨8, 2, "cylinders"⟩
  | .writePrecomp => ⟨10, 2, "write_precompensation_start"⟩
  | .reducedWriteCurrent => ⟨12, 2, "reduced_write_current_start"⟩
  | .stepRate => ⟨14, 2, "step_rate"⟩
  | .stepPulseWidth => ⟨16, 1, "step_pulse_width"⟩
  | .headSettleDelay => ⟨17, 2, "head_settle_delay"⟩
  | .motorOnDelay => ⟨19, 1, "motor_on_delay"⟩
  | .motorOffDelay => ⟨20, 1, "motor_off_delay"⟩
  | .trdySsnMo => ⟨21, 1, "trdy_ssn_mo"⟩
  | .spc => ⟨22, 1, "spc"⟩
  | .writeCompensation => ⟨23, 1, "write_compensation"⟩
  | .headLoadDelay => ⟨24, 1, "head_load_delay"⟩
  | .headUnloadDelay => ⟨25, 1, "head_unload_delay"⟩
  | .pin34Pin2 => ⟨26, 1, "pin_34_pin_2"⟩
  | .pin4Pin1 => ⟨27, 1, "pin_4_pin_1"⟩
  | .rotationRate => ⟨28, 2, "medium_rotation_rate"⟩

/-- The bytes of the page that hold a field. -/
def FlexibleField.offsets (field : FlexibleField) : List ℕ :=
  (List.range (flexibleFields field).length).map ((flexibleFields field).offset + ·)

/-- A decoded Flexible Disk page with the bytes that it was decoded from, `M65FlexibleDiskPage`. -/
structure FlexibleDiskPage where
  transferRateKbit : UInt16 := 0
  heads : UInt8 := 0
  sectorsPerTrack : UInt8 := 0
  bytesPerSector : UInt16 := 0
  cylinders : UInt16 := 0
  mediumRotationRateRpm : UInt16 := 0
  fieldChangeable : FlexibleField → Bool := fun _ => false
  page : Vector UInt8 flexPageLength := Vector.replicate flexPageLength 0

instance : Inhabited FlexibleDiskPage := ⟨{}⟩

/-- Byte `i` of the page. -/
def FlexibleDiskPage.byte (page : FlexibleDiskPage) (i : ℕ) : UInt8 := page.page[i]?.getD 0

/-- A MODE SENSE response with its Flexible Disk page, `M65ModeParameters`. -/
structure ModeParameters where
  raw : Vector UInt8 modeBufferSize := Vector.replicate modeBufferSize 0
  rawLength : ℕ := 0
  pageOffset : ℕ := 0
  flexible : FlexibleDiskPage := {}

instance : Inhabited ModeParameters := ⟨{}⟩

/-- `decode_flexible(page, length, ...)`. -/
def decodeFlexible (page : List UInt8) (length : ℕ) : Except ErrorText FlexibleDiskPage :=
  if length < flexPageLength then
    .error (errorText "Flexible Disk page is shorter than 32 bytes")
  else if byteAt page 0 &&& 0x3f ≠ flexibleDiskPage ∨ byteAt page 0 &&& 0x40 ≠ 0 then
    .error (errorText "response does not contain a non-subpage Flexible Disk page")
  -- the length byte counts what follows it, and may declare more than the 32 bytes decoded here
  else if byteAt page 1 < 30 ∨ length < (byteAt page 1).toNat + 2 then
    .error (errorText "Flexible Disk page length is malformed")
  else
    .ok {
      -- the reads cannot fail: `length` is at least 32
      transferRateKbit := (readBe16 page length 2).getD 0
      heads := byteAt page 4
      sectorsPerTrack := byteAt page 5
      bytesPerSector := (readBe16 page length 6).getD 0
      cylinders := (readBe16 page length 8).getD 0
      mediumRotationRateRpm := (readBe16 page length 28).getD 0
      page := Vector.ofFn fun i => byteAt page i }

/-- The `while` loop of `m65_parse_mode_parameters`, from `offset` on. Every round advances by
two bytes at least, so `declared` rounds of fuel are never used up. -/
def walkModePages (data : List UInt8) (declared : ℕ) :
    ℕ → ℕ → Except ErrorText (ℕ × FlexibleDiskPage)
  | 0, _ => .error (errorText "MODE SENSE response has no Flexible Disk page")
  | fuel + 1, offset =>
      if offset < declared then
        if declared - offset < 2 then
          .error (errorText "MODE SENSE page header is truncated")
        else if byteAt data offset &&& 0x40 ≠ 0 then
          .error (errorText "MODE SENSE subpages are not accepted for safety")
        else
          -- the two bytes of the header are not counted
          let pageLength := (byteAt data (offset + 1)).toNat + 2
          if declared - offset < pageLength then
            .error (errorText "MODE SENSE page data is truncated")
          else if byteAt data offset &&& 0x3f = flexibleDiskPage then
            (decodeFlexible (data.drop offset) pageLength).map fun page => (offset, page)
          else
            walkModePages data declared fuel (offset + pageLength)
      else
        .error (errorText "MODE SENSE response has no Flexible Disk page")

/-- `m65_parse_mode_parameters`: the header, the lengths that it declares, and the first Flexible
Disk page. -/
def parseModeParameters (data : List UInt8) (length : ℕ) : Except ErrorText ModeParameters :=
  let tooShort := errorText "MODE SENSE (10) response is shorter than its header"
  if length < 8 then
    .error tooShort
  else
    match readBe16 data length 0, readBe16 data length 6 with
    | some modeDataLength, some blockDescriptorLength =>
        let declared := modeDataLength.toNat + 2
        let offset := 8 + blockDescriptorLength.toNat
        -- the device may send less than it declares, and it may declare more than the buffer holds
        if declared < 8 ∨ length < declared ∨ modeBufferSize < declared then
          .error (errorText "MODE SENSE (10) declared length is truncated or too large")
        else if declared < offset then
          .error (errorText "MODE SENSE block descriptor length exceeds the response")
        else
          (walkModePages data declared declared offset).map fun found =>
            -- bytes behind the declared length are not kept
            { raw := Vector.ofFn fun i => if i < declared then byteAt data i else 0
              rawLength := declared
              pageOffset := found.1
              flexible := found.2 }
    | _, _ => .error tooShort

/-- A field is changeable when some bit of it is set in the mask. -/
def applyChangeability (current mask : FlexibleDiskPage) : FlexibleDiskPage :=
  { current with
    fieldChangeable := fun field => field.offsets.any fun offset => mask.byte offset ≠ 0 }

/-- `m65_set_1581_geometry`: the six fields of the geometry, in the page and in its decoded form. -/
def set1581Geometry (page : FlexibleDiskPage) : FlexibleDiskPage :=
  let bytes := writeBe16 page.page 2 250
  let bytes := bytes.setIfInBounds 4 2
  let bytes := bytes.setIfInBounds 5 10
  let bytes := writeBe16 bytes 6 512
  let bytes := writeBe16 bytes 8 80
  let bytes := writeBe16 bytes 28 300
  { page with
    page := bytes
    transferRateKbit := 250
    heads := 2
    sectorsPerTrack := 10
    bytesPerSector := 512
    cylinders := 80
    mediumRotationRateRpm := 300 }

/-- `m65_geometry_is_1581`, on the decoded fields. -/
def geometryIs1581 (page : FlexibleDiskPage) : Bool :=
  page.transferRateKbit == 250 && page.heads == 2 && page.sectorsPerTrack == 10 &&
    page.bytesPerSector == 512 && page.cylinders == 80 && page.mediumRotationRateRpm == 300

/-- The fields that the 1581 geometry sets, in the order of the gate's table `required`. -/
def requiredFields : List FlexibleField :=
  [.transferRate, .heads, .sectorsPerTrack, .bytesPerSector, .cylinders, .rotationRate]

/-- Whether every bit of `field` in which the pages differ is set in the mask. -/
def fieldChangeAllowed (current desired mask : FlexibleDiskPage) (field : FlexibleField) : Bool :=
  field.offsets.all fun offset =>
    (current.byte offset ^^^ desired.byte offset) &&& ~~~ mask.byte offset == 0

/-- `m65_geometry_changes_allowed`: the first field of the table that the mask does not permit to
change is an error. -/
def geometryChangesAllowed (current desired mask : FlexibleDiskPage) : Except ErrorText Unit :=
  match requiredFields.find? fun field => !fieldChangeAllowed current desired mask field with
  | some field => .error (Text.format [str "controller mask does not permit requested ",
      str (flexibleFields field).name, str " change"])
  | none => .ok ()

/-- The size of a MODE SELECT payload: an empty header and one page. -/
abbrev modeSelectPayloadLength : ℕ := 8 + flexPageLength

/-- The parameter list that selects `page`: an empty header, and the page without its PS bit. -/
def modeSelectPayload (page : FlexibleDiskPage) : Vector UInt8 modeSelectPayloadLength :=
  Vector.ofFn fun i =>
    if (i : ℕ) < 8 then 0
    else if (i : ℕ) = 8 then page.byte 0 &&& 0x3f
    else page.byte (i - 8)

/-- `m65_build_mode_select_payload` for a buffer of 40 bytes. -/
def buildModeSelectPayload (page : FlexibleDiskPage) :
    Except ErrorText (Vector UInt8 modeSelectPayloadLength) :=
  if page.byte 0 &&& 0x3f ≠ flexibleDiskPage ∨ page.byte 0 &&& 0x40 ≠ 0 ∨ page.byte 1 ≠ 30 then
    .error (errorText "MODE SELECT payload is not exactly Flexible Disk page 0x05")
  else
    .ok (modeSelectPayload page)

end M65
