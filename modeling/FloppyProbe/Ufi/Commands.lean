import FloppyProbe.Ufi.ModePage

/-!
# UFI commands

The CDB builders of `src/ufi.c`, the decoder of sense data, and `m65_validate_command`, the
allowlist in front of every transport.
-/

namespace M65

/-- `M65_OPCODE_TEST_UNIT_READY`. -/
abbrev opcodeTestUnitReady : UInt8 := 0x00

/-- `M65_OPCODE_REQUEST_SENSE`. -/
abbrev opcodeRequestSense : UInt8 := 0x03

/-- `M65_OPCODE_INQUIRY`. -/
abbrev opcodeInquiry : UInt8 := 0x12

/-- `M65_OPCODE_READ_FORMAT_CAPACITIES`. -/
abbrev opcodeReadFormatCapacities : UInt8 := 0x23

/-- `M65_OPCODE_READ_CAPACITY_10`. -/
abbrev opcodeReadCapacity10 : UInt8 := 0x25

/-- `M65_OPCODE_READ_10`. -/
abbrev opcodeRead10 : UInt8 := 0x28

/-- `M65_OPCODE_MODE_SELECT_10`. -/
abbrev opcodeModeSelect10 : UInt8 := 0x55

/-- `M65_OPCODE_MODE_SENSE_10`. -/
abbrev opcodeModeSense10 : UInt8 := 0x5a

/-! ## Builders

A builder fills a 16-byte array and returns the length of the command descriptor block. -/

/-- `cdb_clear` followed by storing the opcode. -/
def cdbWithOpcode (opcode : UInt8) : Vector UInt8 16 :=
  (Vector.replicate 16 0).setIfInBounds 0 opcode

/-- `m65_cdb_request_sense`. -/
def cdbRequestSense (allocationLength : UInt8) : Vector UInt8 16 × ℕ :=
  ((cdbWithOpcode opcodeRequestSense).setIfInBounds 4 allocationLength, 6)

/-- `m65_cdb_test_unit_ready`. -/
def cdbTestUnitReady : Vector UInt8 16 × ℕ := (cdbWithOpcode opcodeTestUnitReady, 6)

/-- `m65_cdb_inquiry`. -/
def cdbInquiry (allocationLength : UInt8) : Vector UInt8 16 × ℕ :=
  ((cdbWithOpcode opcodeInquiry).setIfInBounds 4 allocationLength, 6)

/-- `m65_cdb_read_capacity_10`. -/
def cdbReadCapacity10 : Vector UInt8 16 × ℕ := (cdbWithOpcode opcodeReadCapacity10, 10)

/-- `m65_cdb_read_format_capacities`. -/
def cdbReadFormatCapacities (allocationLength : UInt16) : Vector UInt8 16 × ℕ :=
  (writeBe16 (cdbWithOpcode opcodeReadFormatCapacities) 7 allocationLength, 10)

/-- `m65_cdb_mode_sense_10`, for the current page or for the mask of its changeable bits. -/
def cdbModeSense10 (changeable : Bool) (allocationLength : UInt16) : Vector UInt8 16 × ℕ :=
  (writeBe16 ((cdbWithOpcode opcodeModeSense10).setIfInBounds 2
    (flexibleDiskPage ||| if changeable then 0x40 else 0x00)) 7 allocationLength, 10)

/-- `m65_cdb_mode_select_10`, with the PF bit set. -/
def cdbModeSelect10 (parameterLength : UInt16) : Vector UInt8 16 × ℕ :=
  (writeBe16 ((cdbWithOpcode opcodeModeSelect10).setIfInBounds 1 0x10) 7 parameterLength, 10)

/-- `m65_cdb_read_10`. -/
def cdbRead10 (lba : UInt32) (blocks : UInt16) : Vector UInt8 16 × ℕ :=
  (writeBe16 (writeBe32 (cdbWithOpcode opcodeRead10) 2 lba) 7 blocks, 10)

/-! ## Sense data -/

/-- `m65_parse_sense(data, length, out)` for an `out` that is zero before the call: whether the
data were decoded, and what `out` holds afterwards. -/
def parseSense (data : List UInt8) (length : ℕ) : Bool × Sense :=
  if length = 0 then
    (false, {})
  else
    let code := byteAt data 0 &&& 0x7f
    if (code = 0x70 ∨ code = 0x71) ∧ 14 ≤ length then
      (true, ⟨true, code, byteAt data 2 &&& 0x0f, byteAt data 12, byteAt data 13⟩)
    else if (code = 0x72 ∨ code = 0x73) ∧ 4 ≤ length then
      (true, ⟨true, code, byteAt data 1 &&& 0x0f, byteAt data 2, byteAt data 3⟩)
    else
      (false, { responseCode := code })

/-! ## The allowlist -/

/-- `validate_data`: the direction and the buffer belong together. -/
def validateData (command : Command) (direction : DataDirection) : Except ErrorText Unit :=
  if command.direction ≠ direction then
    .error (errorText "opcode has an invalid data direction")
  else if direction = .none then
    if command.data.isSome ∨ command.dataLength ≠ 0 then
      .error (errorText "no-data opcode was given a data buffer")
    else
      .ok ()
  else if command.data.isNone ∨ command.dataLength = 0 then
    .error (errorText "data-transfer opcode has no data buffer")
  else
    .ok ()

/-- The `cases` of `m65_validate_command` that check a length and the data direction only; the
detail stays empty when the length is wrong. -/
def validateShape (command : Command) (cdbLength : ℕ) (direction : DataDirection) :
    Except ErrorText Unit :=
  if command.cdbLength ≠ cdbLength then .error Text.empty else validateData command direction

/-- Byte `i` of the command descriptor block. -/
def Command.cdbByte (command : Command) (i : ℕ) : UInt8 := command.cdb[i]?.getD 0

/-- The bytes of the data buffer, none when the pointer is NULL. -/
def Command.bytes (command : Command) : List UInt8 :=
  (command.data.map Vector.toList).getD []

/-- The case of `m65_validate_command` for REQUEST SENSE: its reserved bytes are zero and its length
is that of the buffer. -/
def validateRequestSense (command : Command) : Except ErrorText Unit :=
  if command.cdbLength ≠ 6 ∨ (validateData command .dataIn).toBool = false ∨
      command.cdbByte 1 ≠ 0 ∨ command.cdbByte 2 ≠ 0 ∨ command.cdbByte 3 ≠ 0 ∨
      command.cdbByte 5 ≠ 0 ∨ command.cdbByte 4 = 0 ∨
      command.dataLength ≠ (command.cdbByte 4).toNat then
    .error (errorText "REQUEST SENSE length or reserved fields are invalid")
  else
    .ok ()

/-- The case of `m65_validate_command` for READ (10): its length is that of the buffer, in
blocks. -/
def validateRead10 (command : Command) : Except ErrorText Unit :=
  let failure := errorText "READ (10) length does not match its 512-byte buffer"
  if command.cdbLength ≠ 10 ∨ (validateData command .dataIn).toBool = false then
    .error failure
  else
    match readBe16 command.cdb.toList command.cdbLength 7 with
    | some encodedLength =>
        if encodedLength = 0 ∨ command.dataLength ≠ encodedLength.toNat * blockSize then
          .error failure
        else
          .ok ()
    | none => .error failure

/-- The case of `m65_validate_command` for MODE SELECT (10): the payload is one Flexible Disk page
behind an empty header. -/
def validateModeSelect10 (command : Command) : Except ErrorText Unit :=
  let failure := errorText "MODE SELECT (10) length is invalid"
  if command.cdbLength ≠ 10 ∨ (validateData command .dataOut).toBool = false ∨
      command.cdbByte 1 ≠ 0x10 ∨ command.cdbByte 2 ≠ 0 ∨ command.cdbByte 3 ≠ 0 ∨
      command.cdbByte 4 ≠ 0 ∨ command.cdbByte 5 ≠ 0 ∨ command.cdbByte 6 ≠ 0 ∨
      command.cdbByte 9 ≠ 0 then
    .error failure
  else
    match readBe16 command.cdb.toList command.cdbLength 7 with
    | some encodedLength =>
        if encodedLength.toNat ≠ command.dataLength ∨ command.dataLength ≠ 40 then
          .error failure
        -- no medium type, no write protection and no block descriptor goes out
        else if (List.range 8).any fun i => byteAt command.bytes i ≠ 0 then
          .error (errorText "MODE SELECT parameter header must be empty")
        else if byteAt command.bytes 8 ≠ flexibleDiskPage ∨ byteAt command.bytes 9 ≠ 30 then
          .error (errorText
            "MODE SELECT data-out is not the single permitted Flexible Disk page")
        else
          .ok ()
    | none => .error failure

/-- `m65_validate_command`, the allowlist: every opcode with the shape it may have. -/
def validateCommand (command : Command) : Except ErrorText Unit :=
  if command.cdbLength = 0 then
    .error (errorText "missing command descriptor block")
  else if command.cdbByte 0 = opcodeTestUnitReady then
    validateShape command 6 .none
  else if command.cdbByte 0 = opcodeRequestSense then
    validateRequestSense command
  else if command.cdbByte 0 = opcodeInquiry then
    validateShape command 6 .dataIn
  else if command.cdbByte 0 = opcodeReadFormatCapacities ∨
      command.cdbByte 0 = opcodeReadCapacity10 ∨ command.cdbByte 0 = opcodeModeSense10 then
    validateShape command 10 .dataIn
  else if command.cdbByte 0 = opcodeRead10 then
    validateRead10 command
  else if command.cdbByte 0 = opcodeModeSelect10 then
    validateModeSelect10 command
  else
    .error (errorText "opcode is not on the explicit diagnostic allowlist")

/-- Whether `m65_validate_command` accepts the command. -/
def Command.Valid (command : Command) : Prop := validateCommand command = .ok ()

end M65
