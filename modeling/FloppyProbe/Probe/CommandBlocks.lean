import FloppyProbe.Cbi.GoodResult
import FloppyProbe.Probe.Select

/-!
# From the builders to the wire

A command of the probe is the block of a builder of `src/ufi.c`, put together with a buffer by
`execute_simple`. The allowlist accepts every such command, and in the padded block that
`cbi_execute` passes to the adapter, the fields of the command hold the arguments of the builder.
-/

namespace M65

open Interaction

/-! ## Commands -/

/-- The calls of the builders, each with a buffer for the data of its command. -/
inductive BuiltCommand where
  | testUnitReady
  | requestSense (allocationLength : UInt8) (hpos : allocationLength ≠ 0)
      (buffer : Vector UInt8 allocationLength.toNat)
  | inquiry (allocationLength : UInt8) {n : ℕ} (hpos : 0 < n) (buffer : Vector UInt8 n)
  | readCapacity10 {n : ℕ} (hpos : 0 < n) (buffer : Vector UInt8 n)
  | readFormatCapacities (allocationLength : UInt16) {n : ℕ} (hpos : 0 < n)
      (buffer : Vector UInt8 n)
  | modeSense10 (changeable : Bool) (allocationLength : UInt16) {n : ℕ} (hpos : 0 < n)
      (buffer : Vector UInt8 n)
  | modeSelect10 (page : FlexibleDiskPage) (payload : Vector UInt8 modeSelectPayloadLength)
      (hbuilt : buildModeSelectPayload page = .ok payload)
  | read10 (lba : UInt32) (blocks : UInt16) (hpos : blocks ≠ 0) {n : ℕ}
      (hsize : n = blocks.toNat * blockSize) (buffer : Vector UInt8 n)

namespace BuiltCommand

/-- What the builder returns. -/
def cdb : BuiltCommand → Vector UInt8 16 × ℕ
  | testUnitReady => cdbTestUnitReady
  | requestSense allocationLength _ _ => cdbRequestSense allocationLength
  | inquiry allocationLength _ _ => cdbInquiry allocationLength
  | readCapacity10 _ _ => cdbReadCapacity10
  | readFormatCapacities allocationLength _ _ => cdbReadFormatCapacities allocationLength
  | modeSense10 changeable allocationLength _ _ => cdbModeSense10 changeable allocationLength
  | modeSelect10 _ _ _ => cdbModeSelect10 40
  | read10 lba blocks _ _ _ => cdbRead10 lba blocks

/-- The command that `execute_simple` puts together. -/
def command (built : BuiltCommand) : Command :=
  match built with
  | testUnitReady => simpleCommand built.cdb .none (none : Option (Vector UInt8 0))
  | modeSelect10 _ payload _ => simpleCommand built.cdb .dataOut (some payload)
  | requestSense _ _ buffer => simpleCommand built.cdb .dataIn (some buffer)
  | inquiry _ _ buffer => simpleCommand built.cdb .dataIn (some buffer)
  | readCapacity10 _ buffer => simpleCommand built.cdb .dataIn (some buffer)
  | readFormatCapacities _ _ buffer => simpleCommand built.cdb .dataIn (some buffer)
  | modeSense10 _ _ _ buffer => simpleCommand built.cdb .dataIn (some buffer)
  | read10 _ _ _ _ buffer => simpleCommand built.cdb .dataIn (some buffer)

/-- The fields of a command block: the operation code, and the arguments of the builder. -/
def Fields (built : BuiltCommand) (block : List UInt8) : Prop :=
  match built with
  | testUnitReady => byteAt block 0 = opcodeTestUnitReady
  | requestSense allocationLength _ _ =>
      byteAt block 0 = opcodeRequestSense ∧ byteAt block 4 = allocationLength
  | inquiry allocationLength _ _ =>
      byteAt block 0 = opcodeInquiry ∧ byteAt block 4 = allocationLength
  | readCapacity10 _ _ => byteAt block 0 = opcodeReadCapacity10
  | readFormatCapacities allocationLength _ _ =>
      byteAt block 0 = opcodeReadFormatCapacities ∧
        readBe16 block cbiCdbLength 7 = some allocationLength
  | modeSense10 changeable allocationLength _ _ =>
      byteAt block 0 = opcodeModeSense10 ∧
        byteAt block 2 = (flexibleDiskPage ||| if changeable then 0x40 else 0x00) ∧
        readBe16 block cbiCdbLength 7 = some allocationLength
  | modeSelect10 _ _ _ =>
      byteAt block 0 = opcodeModeSelect10 ∧ byteAt block 1 = 0x10 ∧
        readBe16 block cbiCdbLength 7 = some 40
  | read10 lba blocks _ _ _ =>
      byteAt block 0 = opcodeRead10 ∧ readBe32 block cbiCdbLength 2 = some lba ∧
        readBe16 block cbiCdbLength 7 = some blocks

/-- The block holds the fields of the command, and zeros after its last byte. -/
structure CarriedBy (built : BuiltCommand) (block : Vector UInt8 cbiCdbLength) : Prop where
  fields : built.Fields block.toList
  zero_eq : ∀ i, built.cdb.2 ≤ i → byteAt block.toList i = 0

/-! ## The block -/

/-- A built block has at most ten bytes. -/
theorem cdb_length_le (built : BuiltCommand) : built.cdb.2 ≤ 10 := by
  cases built <;> exact Nat.le_of_ble_eq_true rfl

/-- The command carries the block that was built. -/
theorem cdb_command (built : BuiltCommand) :
    built.command.cdb = copyBytes 16 built.cdb.1 built.cdb.2 := by
  cases built <;> rfl

/-- The command has the length of the block that was built. -/
theorem cdbLength_command (built : BuiltCommand) : built.command.cdbLength = built.cdb.2 := by
  cases built <;> rfl

/-- A byte of the padded block is that byte of the builder's array, or zero. -/
theorem byteAt_padded (built : BuiltCommand) (i : ℕ) :
    byteAt built.command.padded.toList i =
      if i < built.cdb.2 then built.cdb.1[i]?.getD 0 else 0 := by
  have hlength := built.cdb_length_le
  rw [Command.padded, padCdb, cdb_command, cdbLength_command]
  by_cases hi : i < built.cdb.2
  · have hblock : i < 12 := by omega
    have hcdb : i < 16 := by omega
    simp [byteAt, copyBytes, hi, hblock, hcdb]
  · by_cases hblock : i < 12 <;> simp [byteAt, copyBytes, hi, hblock]

/-- The fields stand in the padded block. -/
theorem fields_padded (built : BuiltCommand) : built.Fields built.command.padded.toList := by
  have hread16 (block : List UInt8) : readBe16 block cbiCdbLength 7 =
      some ((byteAt block 7).toUInt16 <<< 8 ||| (byteAt block 8).toUInt16) := if_pos rfl
  have hread32 (block : List UInt8) : readBe32 block cbiCdbLength 2 =
      some ((byteAt block 2).toUInt32 <<< 24 ||| (byteAt block 3).toUInt32 <<< 16 |||
        (byteAt block 4).toUInt32 <<< 8 ||| (byteAt block 5).toUInt32) := if_pos rfl
  have hbyte := built.byteAt_padded
  -- one case per builder; a field of two or four bytes joins what the builder split
  cases built with
  | testUnitReady => exact hbyte 0
  | requestSense => exact ⟨hbyte 0, hbyte 4⟩
  | inquiry => exact ⟨hbyte 0, hbyte 4⟩
  | readCapacity10 => exact hbyte 0
  | readFormatCapacities allocationLength =>
    refine ⟨hbyte 0, ?_⟩
    rw [hread16, hbyte, hbyte]
    exact congrArg some (be16_join allocationLength)
  | modeSense10 changeable allocationLength =>
    refine ⟨hbyte 0, hbyte 2, ?_⟩
    rw [hread16, hbyte, hbyte]
    exact congrArg some (be16_join allocationLength)
  | modeSelect10 =>
    refine ⟨hbyte 0, hbyte 1, ?_⟩
    rw [hread16, hbyte, hbyte]
    exact congrArg some (be16_join 40)
  | read10 lba blocks =>
    refine ⟨hbyte 0, ?_, ?_⟩
    · rw [hread32, hbyte, hbyte, hbyte, hbyte]
      exact congrArg some (be32_join lba)
    · rw [hread16, hbyte, hbyte]
      exact congrArg some (be16_join blocks)

/-- The padded block carries the command. -/
theorem carriedBy_padded (built : BuiltCommand) : built.CarriedBy built.command.padded :=
  ⟨built.fields_padded, fun i hi => (built.byteAt_padded i).trans (if_neg (Nat.not_lt.2 hi))⟩

/-! ## The allowlist -/

/-- The bytes of the command are those of the block, and zeros behind them. -/
theorem cdbByte_command (built : BuiltCommand) (i : ℕ) :
    built.command.cdbByte i = if i < built.cdb.2 then built.cdb.1[i]?.getD 0 else 0 := by
  have hlength := built.cdb_length_le
  rw [Command.cdbByte, cdb_command]
  by_cases hi : i < built.cdb.2
  · have hcdb : i < 16 := by omega
    simp [copyBytes, hi, hcdb]
  · by_cases hcdb : i < 16 <;> simp [copyBytes, hi, hcdb]

/-- A payload is built for selectable pages only. -/
theorem selectable_of_buildModeSelectPayload {page : FlexibleDiskPage}
    {payload : Vector UInt8 modeSelectPayloadLength}
    (h : buildModeSelectPayload page = .ok payload) : page.Selectable := by
  refine buildModeSelectPayload_eq_ok_iff.1 ?_
  unfold buildModeSelectPayload at *
  split at h
  · cases h
  · next hpage => exact if_neg hpage

/-- A command whose block has the right length passes a check of the data only. -/
theorem validateShape_eq {n length : ℕ} {cdb : Vector UInt8 16 × ℕ} (hpos : 0 < n)
    (hlength : cdb.2 = length) (buffer : Vector UInt8 n) :
    validateShape (simpleCommand cdb .dataIn (some buffer)) length .dataIn = .ok () := by
  simp [validateShape, validateData, simpleCommand, hpos.ne', hlength]

/-- An INQUIRY that passed the checks is valid. -/
theorem valid_of_inquiryShape {command : Command} (hlength : command.cdbLength = 6)
    (hopcode : command.cdbByte 0 = opcodeInquiry)
    (hshape : validateShape command 6 .dataIn = .ok ()) : command.Valid := by
  rw [Command.Valid, validateCommand, hlength, hopcode]
  exact hshape

/-- A ten-byte reading command that passed the checks is valid. -/
theorem valid_of_longShape {command : Command} (hlength : command.cdbLength = 10)
    (hopcode : command.cdbByte 0 = opcodeReadFormatCapacities ∨
      command.cdbByte 0 = opcodeReadCapacity10 ∨ command.cdbByte 0 = opcodeModeSense10)
    (hshape : validateShape command 10 .dataIn = .ok ()) : command.Valid := by
  rw [Command.Valid, validateCommand, hlength]
  rcases hopcode with hopcode | hopcode | hopcode
  all_goals
    rw [hopcode]
    exact hshape

/-- A built REQUEST SENSE is valid. -/
theorem valid_requestSense {allocationLength : UInt8} (hpos : allocationLength ≠ 0)
    (buffer : Vector UInt8 allocationLength.toNat) :
    (command (.requestSense allocationLength hpos buffer)).Valid := by
  have hbyte := (requestSense allocationLength hpos buffer).cdbByte_command
  have hlength := (requestSense allocationLength hpos buffer).cdbLength_command
  have hcount : allocationLength.toNat ≠ 0 := fun hzero => hpos (UInt8.toNat_inj.1 hzero)
  -- the validator sees the bytes only, so the builder is forgotten here
  generalize hcommand : command (.requestSense allocationLength hpos buffer) = built at *
  have hdata : validateData built .dataIn = .ok () := by
    rw [← hcommand]
    simp [command, validateData, simpleCommand, hcount]
  have hsize : built.dataLength = allocationLength.toNat := by rw [← hcommand]; rfl
  have hopcode : built.cdbByte 0 = opcodeRequestSense := hbyte 0
  have hcdbLength : built.cdbLength = 6 := hlength
  have hrequest : validateRequestSense built = .ok () := by
    have h₁ : built.cdbByte 1 = 0 := hbyte 1
    have h₂ : built.cdbByte 2 = 0 := hbyte 2
    have h₃ : built.cdbByte 3 = 0 := hbyte 3
    have h₄ : built.cdbByte 4 = allocationLength := hbyte 4
    have h₅ : built.cdbByte 5 = 0 := hbyte 5
    simp [validateRequestSense, hdata, hsize, hcdbLength, h₁, h₂, h₃, h₄, h₅, hpos, Except.toBool]
  rw [Command.Valid, validateCommand, hcdbLength, hopcode]
  exact hrequest

/-- A built READ (10) is valid. -/
theorem valid_read10 {lba : UInt32} {blocks : UInt16} (hpos : blocks ≠ 0) {n : ℕ}
    (hsize : n = blocks.toNat * blockSize) (buffer : Vector UInt8 n) :
    (command (.read10 lba blocks hpos hsize buffer)).Valid := by
  have hbyte := (read10 lba blocks hpos hsize buffer).cdbByte_command
  have hlength := (read10 lba blocks hpos hsize buffer).cdbLength_command
  generalize hcommand : command (.read10 lba blocks hpos hsize buffer) = built at *
  have hcount : n ≠ 0 := by
    have hblocks : blocks.toNat ≠ 0 := fun hzero => hpos (UInt16.toNat_inj.1 hzero)
    rw [hsize]
    exact Nat.mul_ne_zero hblocks (by decide)
  have hdata : validateData built .dataIn = .ok () := by
    rw [← hcommand]
    simp [command, validateData, simpleCommand, hcount]
  have hdataLength : built.dataLength = blocks.toNat * blockSize := by rw [← hcommand]; exact hsize
  have hopcode : built.cdbByte 0 = opcodeRead10 := hbyte 0
  have hcdbLength : built.cdbLength = 10 := hlength
  -- the number of blocks goes through two bytes and comes back
  have hencoded : readBe16 built.cdb.toList 10 7 = some blocks := by
    have h₇ : byteAt built.cdb.toList 7 = built.cdbByte 7 := by simp [byteAt, Command.cdbByte]
    have h₈ : byteAt built.cdb.toList 8 = built.cdbByte 8 := by simp [byteAt, Command.cdbByte]
    rw [readBe16, if_pos (by decide), h₇, h₈, hbyte, hbyte]
    exact congrArg some (be16_join blocks)
  have hread : validateRead10 built = .ok () := by
    simp [validateRead10, hdata, hdataLength, hcdbLength, hencoded, hpos, Except.toBool]
  rw [Command.Valid, validateCommand, hcdbLength, hopcode]
  exact hread

/-- Every built command is valid. -/
theorem valid_command (built : BuiltCommand) : built.command.Valid := by
  have hbyte := built.cdbByte_command 0
  have hlength := built.cdbLength_command
  cases built with
  | testUnitReady => rfl
  | requestSense allocationLength hpos buffer => exact valid_requestSense hpos buffer
  | inquiry allocationLength hpos buffer =>
    exact valid_of_inquiryShape hlength hbyte
      (@validateShape_eq _ 6 (cdbInquiry allocationLength) hpos rfl buffer)
  | readCapacity10 hpos buffer =>
    exact valid_of_longShape hlength (.inr (.inl hbyte))
      (@validateShape_eq _ 10 cdbReadCapacity10 hpos rfl buffer)
  | readFormatCapacities allocationLength hpos buffer =>
    exact valid_of_longShape hlength (.inl hbyte)
      (@validateShape_eq _ 10 (cdbReadFormatCapacities allocationLength) hpos rfl buffer)
  | modeSense10 changeable allocationLength hpos buffer =>
    exact valid_of_longShape hlength (.inr (.inr hbyte))
      (@validateShape_eq _ 10 (cdbModeSense10 changeable allocationLength) hpos rfl buffer)
  | modeSelect10 page payload hbuilt =>
    -- the builder of the payload succeeds only for a page that the validator takes
    have hselectable : page.Selectable := selectable_of_buildModeSelectPayload hbuilt
    obtain rfl : modeSelectPayload page = payload := by
      rw [buildModeSelectPayload_eq_ok_iff.2 hselectable] at hbuilt
      exact Except.ok.inj hbuilt
    exact hselectable.valid
  | read10 lba blocks hpos hsize buffer => exact valid_read10 hpos hsize buffer

end BuiltCommand

/-! ## The wire -/

variable {c c' : CbiContext} {t : List EngineEvent} {n : ℕ}

/-- The block that an event passes to `adsc`. -/
def adscBlock : EngineEvent → Option (Vector UInt8 cbiCdbLength)
  | ⟨_, .adsc block _ _, _⟩ => some block
  | _ => none

/-- Only `adsc` passes a block. -/
theorem adscBlock_eq_none {e : EngineEvent} (h : e.call.op ≠ .adsc) : adscBlock e = none := by
  obtain ⟨s, call, reply⟩ := e
  cases call <;> first | rfl | exact absurd rfl h

/-- The events begin with passing the block to `adsc`, and pass no other block than the engine's
REQUEST SENSE after it. -/
structure StartsWith (block : Vector UInt8 cbiCdbLength) (c : CbiContext) (t : List EngineEvent) :
    Prop where
  split : ∃ timeoutMs detail reply rest, t = ⟨c, .adsc block timeoutMs detail, reply⟩ :: rest ∧
    ∀ e ∈ rest, ∀ later, adscBlock e = some later → later = senseCdb

/-- Events that pass no other block than REQUEST SENSE may follow. -/
theorem StartsWith.append {block : Vector UInt8 cbiCdbLength} {t' : List EngineEvent}
    (h : StartsWith block c t)
    (h' : ∀ e ∈ t', ∀ later, adscBlock e = some later → later = senseCdb) :
    StartsWith block c (t ++ t') := by
  obtain ⟨timeoutMs, detail, reply, rest, rfl, hrest⟩ := h
  exact ⟨timeoutMs, detail, reply, rest ++ t', rfl, List.forall_mem_append.2 ⟨hrest, h'⟩⟩

/-- An exchange passes its own block only. -/
theorem Exchanged.startsWith {cdb : Vector UInt8 cbiCdbLength} {direction : DataDirection}
    {buffer : Vector UInt8 n} {out : ExchangeReply n}
    (h : Exchanged cdb direction buffer c t out c') : StartsWith cdb c t := by
  obtain ⟨timeoutMs, detail, accepted, moved, tail, rfl, hmoved, htail⟩ := h.shape
  refine ⟨timeoutMs, detail, accepted, _, rfl, fun e he later hlater => ?_⟩
  have hnone : adscBlock e = none := by
    rcases List.mem_append.1 he with he | he
    · rcases hmoved with rfl | ⟨data, hmoved⟩
      · simp at he
      · cases hmoved with
        | none => simp at he
        | dataIn => rw [List.mem_singleton.1 he]; rfl
        | dataOut => rw [List.mem_singleton.1 he]; rfl
    · rcases htail e he with hop | hop <;> exact adscBlock_eq_none (by simp [hop])
  rw [hnone] at hlater
  cases hlater

/-- Fetching sense data passes REQUEST SENSE only. -/
theorem Fetched.senseBlocks {out : SenseReply} (h : Fetched c t out c') :
    ∀ e ∈ t, ∀ later, adscBlock e = some later → later = senseCdb := by
  have hexchange {reply : ExchangeReply ufiSenseLength} {c₁ : CbiContext}
      (h : Exchanged senseCdb .dataIn (Vector.replicate ufiSenseLength 0) c t reply c₁) :
      ∀ e ∈ t, ∀ later, adscBlock e = some later → later = senseCdb := by
    obtain ⟨timeoutMs, detail, accepted, rest, rfl, hrest⟩ := h.startsWith
    exact List.forall_mem_cons.2 ⟨fun later hlater => (Option.some.inj hlater).symm, hrest⟩
  cases h with
  | failed hexchanged => exact hexchange hexchanged
  | rejected hexchanged => exact hexchange hexchanged
  | fetched hexchanged => exact hexchange hexchanged

/-- A REQUEST SENSE passes its block. -/
theorem SenseExecuted.startsWith {padded : Vector UInt8 cbiCdbLength} {buffer : Vector UInt8 n}
    {out : ExecuteReply n} (h : SenseExecuted padded buffer c t out c') :
    StartsWith padded c t := by
  cases h with
  | failed hexchanged => exact hexchanged.startsWith
  | rejected hexchanged => exact hexchanged.startsWith
  | answered hexchanged => exact hexchanged.startsWith

/-- Any other command passes its block, and after it REQUEST SENSE at most. -/
theorem CommandExecuted.startsWith {opcode : UInt8} {padded : Vector UInt8 cbiCdbLength}
    {direction : DataDirection} {buffer : Vector UInt8 n} {out : ExecuteReply n}
    (h : CommandExecuted opcode padded direction buffer c t out c') : StartsWith padded c t := by
  cases h with
  | failed hexchanged => exact hexchanged.startsWith
  | unsensed hexchanged _ hfetched => exact hexchanged.startsWith.append hfetched.senseBlocks
  | rejected hexchanged _ hfetched => exact hexchanged.startsWith.append hfetched.senseBlocks
  | answered hexchanged _ hfetched => exact hexchanged.startsWith.append hfetched.senseBlocks

/-- On an open interface, an accepted command is passed on as soon as no recovery is pending. -/
theorem passed_of_exec {command : Command} {out : ExecuteReply command.dataLength}
    (hopened : c.opened = true) (hvalid : command.Valid)
    (h : Exec (cbiExecute command) c t out c') :
    ∃ t₁ recovery c₁ t₂, t = t₁ ++ t₂ ∧
      Exec (recoverIfRequired command.timeoutMs Text.empty) c t₁ recovery c₁ ∧
      if recovery.status = .ok then StartsWith command.padded c₁ t₂ else t₂ = [] := by
  unfold cbiExecute at h
  rw [exec_get_bind, refuseCommand_eq_none_iff.2 ⟨hopened, hvalid⟩] at h
  dsimp only at h
  rw [exec_bind] at h
  obtain ⟨t₁, recovery, c₁, t₂, hrecover, h, rfl⟩ := h
  refine ⟨t₁, recovery, c₁, t₂, rfl, hrecover, ?_⟩
  simp only [exec_ite, exec_pure] at h
  rcases h with ⟨hfailed, rfl, -, -⟩ | ⟨hok, h⟩
  · rw [if_neg hfailed]
  · rw [if_pos (of_not_not hok)]
    rcases h with ⟨hopcode, h⟩ | ⟨hopcode, h⟩
    · exact (senseExecuted_of_exec h).startsWith
    · exact (commandExecuted_of_exec h).startsWith

/-- The allowlist accepts every command of the builders. On an open interface, and once a pending
recovery has succeeded, `cbi_execute` starts with passing a block to `adsc` that carries the
arguments of the builder, and passes no other block but that of its own REQUEST SENSE. -/
theorem builtCommand_reachesWire (built : BuiltCommand) :
    built.command.Valid ∧
    ∀ (c : CbiContext) (r : Run (cbiExecute built.command) c), c.opened = true →
      ∃ t₁ recovery c₁ t₂, r.trace = t₁ ++ t₂ ∧
        Exec (recoverIfRequired built.command.timeoutMs Text.empty) c t₁ recovery c₁ ∧
        if recovery.status = .ok then
          ∃ block, built.CarriedBy block ∧ StartsWith block c₁ t₂
        else t₂ = [] := by
  refine ⟨built.valid_command, fun c r hopened => ?_⟩
  obtain ⟨t₁, recovery, c₁, t₂, htrace, hrecover, hpassed⟩ :=
    passed_of_exec hopened built.valid_command r.exec
  refine ⟨t₁, recovery, c₁, t₂, htrace, hrecover, ?_⟩
  split
  · next hok =>
    rw [if_pos hok] at hpassed
    exact ⟨_, built.carriedBy_padded, hpassed⟩
  · next hfailed => rwa [if_neg hfailed] at hpassed

end M65
