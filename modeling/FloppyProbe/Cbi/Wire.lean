import FloppyProbe.Cbi.Containment
import FloppyProbe.Interaction.Monitor

/-!
# The wire protocol

What a device may see: command blocks that neither write to the medium nor save a page, and after
an accepted block at most one transfer, in the direction of that block. Data go out only as the
parameter list of an accepted MODE SELECT, and only for a client that asks for one.

`adapterWire` watches this at the adapter interface. Every run of the engine is accepted by it,
whatever the state of the wire before (`Executed.wire`).
-/

namespace M65

open Interaction

variable {c c' : CbiContext} {t : List EngineEvent} {n : ℕ} {command : Command}
  {selects : Bool}

/-! ## Command blocks -/

/-- A command block on the wire. -/
abbrev CommandBlock : Type := Vector UInt8 cbiCdbLength

/-- A command block has an opcode. -/
theorem opcode_lt : 0 < cbiCdbLength := by decide

/-- A command block has a byte of flags. -/
theorem flags_lt : 1 < cbiCdbLength := by decide

/-- The opcodes of the allowlist that fetch data. -/
def dataInOpcodes : List UInt8 :=
  [opcodeRequestSense, opcodeInquiry, opcodeReadFormatCapacities, opcodeReadCapacity10,
    opcodeModeSense10, opcodeRead10]

/-- The opcode of the block is one that fetches data. -/
def FetchesData (block : CommandBlock) : Prop := getElem block 0 opcode_lt ∈ dataInOpcodes

/-- A MODE SELECT (10) with PF and without SP, which the device forgets when it is reset. -/
def SelectsTemporarily (block : CommandBlock) : Prop :=
  getElem block 0 opcode_lt = opcodeModeSelect10 ∧ getElem block 1 flags_lt = 0x10

/-- The blocks that a device may see; `selects` tells whether a MODE SELECT is among them. -/
def IsHarmless (selects : Bool) (block : CommandBlock) : Prop :=
  block = resetCdb ∨ getElem block 0 opcode_lt = opcodeTestUnitReady ∨ FetchesData block ∨
    selects = true ∧ SelectsTemporarily block

instance : DecidablePred FetchesData := fun block =>
  inferInstanceAs (Decidable (getElem block 0 opcode_lt ∈ dataInOpcodes))

instance : DecidablePred SelectsTemporarily := fun block =>
  inferInstanceAs (Decidable
    (getElem block 0 opcode_lt = opcodeModeSelect10 ∧ getElem block 1 flags_lt = 0x10))

instance (selects : Bool) : DecidablePred (IsHarmless selects) := fun block =>
  inferInstanceAs (Decidable (_ ∨ _ ∨ FetchesData block ∨ _ ∧ SelectsTemporarily block))

/-- The bytes of a parameter list, written out. -/
theorem isParameterList_iff {data : List UInt8} : IsParameterList data ↔
    data.length = 40 ∧ (∀ i < 8, byteAt data i = 0) ∧ byteAt data 8 = 0x05 ∧ byteAt data 9 = 0x1e :=
  ⟨fun h => ⟨h.length_eq, h.header_eq, h.page_eq⟩, fun h => ⟨h.1, h.2.1, h.2.2⟩⟩

instance : DecidablePred IsParameterList := fun _ => decidable_of_iff' _ isParameterList_iff

/-- The first byte of a command block is its opcode. -/
theorem opcode_padded (hlength : command.cdbLength ≠ 0) :
    command.padded[0] = command.cdbByte 0 :=
  (getElem_padCdb command.cdb command.cdbLength 0).trans (if_pos (Nat.pos_of_ne_zero hlength))

/-- A MODE SELECT that was let through sends data. -/
theorem direction_of_validateModeSelect10 (h : validateModeSelect10 command = .ok ()) :
    command.direction = .dataOut := by
  simp only [validateModeSelect10] at h
  split at h
  · cases h
  · next hfields =>
    simp only [not_or] at hfields
    exact direction_of_validateData hfields.2.1

/-- The blocks of accepted commands, by their data direction. -/
structure Command.Directed (command : Command) : Prop where
  none : command.direction = .none → command.padded[0] = opcodeTestUnitReady
  dataIn : command.direction = .dataIn → FetchesData command.padded
  dataOut : command.direction = .dataOut → SelectsTemporarily command.padded

/-- A directed command is harmless where MODE SELECT is allowed, if it sends data at all. -/
theorem Command.Directed.harmless (h : command.Directed)
    (hselects : command.direction = .dataOut → selects = true) :
    IsHarmless selects command.padded := by
  cases hdirection : command.direction with
  | none => exact .inr (.inl (h.none hdirection))
  | dataIn => exact .inr (.inr (.inl (h.dataIn hdirection)))
  | dataOut => exact .inr (.inr (.inr ⟨hselects hdirection, h.dataOut hdirection⟩))

/-- A command that fetches data is directed when its opcode is one that does. -/
theorem directed_of_dataIn {cdbLength : ℕ} (hshape : command.HasShape cdbLength .dataIn)
    (hlength : cdbLength ≠ 0) (hopcode : command.cdbByte 0 ∈ dataInOpcodes) : command.Directed := by
  have hpadded : command.padded[0] = command.cdbByte 0 :=
    opcode_padded (by rwa [hshape.cdbLength_eq])
  refine ⟨fun h => ?_, fun _ => ?_, fun h => ?_⟩
  · rw [hshape.direction_eq] at h
    cases h
  · unfold FetchesData
    rwa [hpadded]
  · rw [hshape.direction_eq] at h
    cases h

/-- A validated command is directed. -/
theorem Command.Valid.directed (h : command.Valid) : command.Directed := by
  unfold Command.Valid validateCommand at h
  -- the cases are those of the validator, one for each command that it knows
  split at h
  · cases h
  split at h
  · next hopcode =>
    have hshape := hasShape_of_validateShape h
    refine ⟨fun _ => ?_, fun h => ?_, fun h => ?_⟩
    · rw [opcode_padded (by rw [hshape.cdbLength_eq]; decide), hopcode]
    · rw [hshape.direction_eq] at h
      cases h
    · rw [hshape.direction_eq] at h
      cases h
  split at h
  · next hopcode =>
    exact directed_of_dataIn (hasShape_of_validateRequestSense h) (by decide)
      (by simp [hopcode, dataInOpcodes])
  split at h
  · next hopcode =>
    exact directed_of_dataIn (hasShape_of_validateShape h) (by decide)
      (by simp [hopcode, dataInOpcodes])
  split at h
  · next hopcode =>
    refine directed_of_dataIn (hasShape_of_validateShape h) (by decide) ?_
    rcases hopcode with hopcode | hopcode | hopcode <;> simp [hopcode, dataInOpcodes]
  split at h
  · next hopcode =>
    exact directed_of_dataIn (hasShape_of_validateRead10 h) (by decide)
      (by simp [hopcode, dataInOpcodes])
  split at h
  · next hopcode =>
    -- MODE SELECT is the only command with outgoing data
    have hpage := selectsPage_of_validateModeSelect10 h
    have hdirection : command.direction = .dataOut := direction_of_validateModeSelect10 h
    refine ⟨fun h => ?_, fun h => ?_, fun _ => ⟨?_, ?_⟩⟩
    · rw [hdirection] at h
      cases h
    · rw [hdirection] at h
      cases h
    · rw [opcode_padded (by rw [hpage.cdbLength_eq]; decide), hopcode]
    · have hflags : ((1 : Fin cbiCdbLength) : ℕ) < command.cdbLength := by
        rw [hpage.cdbLength_eq]
        decide
      exact ((getElem_padCdb command.cdb command.cdbLength 1).trans (if_pos hflags)).trans
        hpage.flags_eq
  · cases h

/-! ## At the adapter -/

/-- The accepted command block that no transfer has followed yet. -/
abbrev PendingBlock : Type := Option CommandBlock

instance (P : CommandBlock → Prop) [DecidablePred P] (pending : PendingBlock) :
    Decidable (∃ block ∈ pending, P block) := Option.decidableExistsMem pending

/-- The operations that move data follow an accepted block with their direction. -/
def adapterWire (selects : Bool) : Monitor CbiIoReply PendingBlock
  | _, .adsc block _ _, reply =>
      if IsHarmless selects block then some (if reply.status = .ok then some block else none)
      else none
  | pending, .bulkIn _ _ _, _ => if ∃ block ∈ pending, FetchesData block then some none else none
  | pending, .bulkOut buffer _ _, _ =>
      if selects = true ∧ (∃ block ∈ pending, SelectsTemporarily block) ∧
        IsParameterList buffer.toList then some none
      else none
  | _, _, _ => some none

/-- Operations that move nothing. -/
theorem adapterWire_of_op {pending : PendingBlock} {e : EngineEvent} (hadsc : e.call.op ≠ .adsc)
    (hbulk : ¬e.call.op.IsBulk) : adapterWire selects pending e.call e.reply = some none := by
  obtain ⟨s, call, reply⟩ := e
  cases call with
  | adsc => exact absurd rfl hadsc
  | bulkIn => exact absurd (.inl rfl) hbulk
  | bulkOut => exact absurd (.inr rfl) hbulk
  | _ => rfl

/-- A trace that may happen in every state of the wire. -/
def WireSafe (selects : Bool) (t : List EngineEvent) : Prop :=
  ∀ pending, ∃ pending', (adapterWire selects).run pending t = some pending'

/-- Two safe traces make a safe one. -/
theorem WireSafe.append {t' : List EngineEvent} (h : WireSafe selects t)
    (h' : WireSafe selects t') : WireSafe selects (t ++ t') := by
  intro pending
  obtain ⟨pending₁, hrun⟩ := h pending
  obtain ⟨pending', hrun'⟩ := h' pending₁
  exact ⟨pending', Monitor.run_append_of_some hrun hrun'⟩

/-- A trace without command blocks and bulk transfers is safe. -/
theorem wireSafe_of_op (h : ∀ e ∈ t, e.call.op ≠ .adsc ∧ ¬e.call.op.IsBulk) :
    WireSafe selects t := by
  induction t with
  | nil => exact fun pending => ⟨pending, rfl⟩
  | cons e t ih =>
    obtain ⟨⟨hadsc, hbulk⟩, ht⟩ := List.forall_mem_cons.1 h
    intro pending
    obtain ⟨pending', hrun⟩ := ih ht none
    refine ⟨pending', ?_⟩
    rw [Monitor.run_cons, adapterWire_of_op hadsc hbulk, Option.bind_some, hrun]

/-- A block with its data, which the engine sends in the direction of the block. -/
structure WirePair (selects : Bool) (cdb : CommandBlock) (direction : DataDirection)
    (buffer : Vector UInt8 n) : Prop where
  harmless : IsHarmless selects cdb
  dataIn : direction = .dataIn → FetchesData cdb
  dataOut : direction = .dataOut →
    selects = true ∧ SelectsTemporarily cdb ∧ IsParameterList buffer.toList

section Exchange

variable {cdb : CommandBlock} {direction : DataDirection} {buffer : Vector UInt8 n}
  {out : ExchangeReply n}

/-- A data phase fits the block that was sent before it. -/
theorem Moved.wire {data : BulkInReply n} (h : Moved direction buffer c t data)
    (hpair : WirePair selects cdb direction buffer) :
    ∃ pending', (adapterWire selects).run (some cdb) t = some pending' := by
  cases h with
  | none => exact ⟨some cdb, rfl⟩
  | dataIn hdirection =>
    refine ⟨.none, ?_⟩
    rw [Monitor.run_cons]
    simp [adapterWire, hpair.dataIn hdirection]
  | dataOut hdirection =>
    refine ⟨.none, ?_⟩
    rw [Monitor.run_cons]
    simp [adapterWire, hpair.dataOut hdirection]

/-- The transfer of an exchange follows a block that was accepted. -/
theorem Exchanged.wire (h : Exchanged cdb direction buffer c t out c')
    (hpair : WirePair selects cdb direction buffer) : WireSafe selects t := by
  -- a block that is not accepted is the end of the exchange
  have hblock {timeoutMs : ℕ} {detail : ErrorText} {accepted : CbiReply} :
      WireSafe selects [⟨c, .adsc cdb timeoutMs detail, accepted⟩] := by
    intro pending
    refine ⟨if accepted.status = .ok then some cdb else none, ?_⟩
    rw [Monitor.run_cons]
    simp [adapterWire, hpair.harmless]
  have hmoved {timeoutMs : ℕ} {detail : ErrorText} {accepted : CbiReply} {data : BulkInReply n}
      {moved : List EngineEvent} (haccepted : accepted.status = .ok)
      (hmoved : Moved direction buffer c moved data) :
      WireSafe selects (⟨c, .adsc cdb timeoutMs detail, accepted⟩ :: moved) := by
    intro pending
    obtain ⟨pending', hrun⟩ := hmoved.wire hpair
    refine ⟨pending', ?_⟩
    rw [Monitor.run_cons]
    simp only [adapterWire, hpair.harmless, if_true, haccepted, Option.bind_some]
    exact hrun
  have hphase {timeoutMs : ℕ} {detail : ErrorText} {accepted : CbiReply} {data : BulkInReply n}
      {moved : List EngineEvent} {stalled : Bool} (haccepted : accepted.status = .ok)
      (hphase : DataPhase direction buffer c moved stalled data) :
      WireSafe selects (⟨c, .adsc cdb timeoutMs detail, accepted⟩ :: moved) := by
    cases hphase with
    | moved h => exact hmoved haccepted h
    | cleared h =>
      rw [← List.cons_append]
      exact (hmoved haccepted h).append (wireSafe_of_op (by simp [CbiIoCall.op, CbiIoOp.IsBulk]))
  cases h with
  | adscStalled | adscFailed => exact hblock
  | bulkFailed haccepted h | overrun haccepted h => exact hmoved haccepted h
  | clearFailed haccepted h =>
    rw [← List.cons_append]
    exact (hmoved haccepted h).append (wireSafe_of_op (by simp [CbiIoCall.op, CbiIoOp.IsBulk]))
  | interruptFailed haccepted h | interruptShort haccepted h | completed haccepted h =>
    rw [← List.cons_append]
    exact (hphase haccepted h).append (wireSafe_of_op (by simp [CbiIoCall.op, CbiIoOp.IsBulk]))

end Exchange

/-! ## Calls of the transport -/

/-- The reset block goes with no data. -/
theorem wirePair_reset : WirePair selects resetCdb .none #v[] := ⟨.inl rfl, nofun, nofun⟩

/-- The block of REQUEST SENSE goes with its data. -/
theorem wirePair_sense : WirePair selects senseCdb .dataIn (Vector.replicate ufiSenseLength 0) := by
  have hfetches : FetchesData senseCdb := by decide
  exact ⟨.inr (.inr (.inl hfetches)), fun _ => hfetches, nofun⟩

/-- A recovery is safe on the wire. -/
theorem Recovered.wire {out : CbiReply} (h : Recovered c t out c') : WireSafe selects t := by
  have hprepare {detail : ErrorText} {prepared : CbiReply} :
      WireSafe selects [⟨c, .prepareCommandBlockReset detail, prepared⟩] :=
    wireSafe_of_op (by simp [CbiIoCall.op, CbiIoOp.IsBulk])
  cases h with
  | idle => exact fun pending => ⟨pending, rfl⟩
  | unprepared => exact hprepare
  | unreset _ _ hexchanged | unfinished _ _ hexchanged | reset _ _ hexchanged =>
    exact hprepare.append ((hexchanged.wire wirePair_reset).append (wireSafe_of_op (by
      simp [CbiIoCall.op, CbiIoOp.IsBulk])))

/-- A REQUEST SENSE is safe on the wire. -/
theorem Fetched.wire {out : SenseReply} (h : Fetched c t out c') : WireSafe selects t := by
  cases h with
  | failed hexchanged | rejected hexchanged | fetched hexchanged =>
    exact hexchanged.wire wirePair_sense

/-- The engine keeps to the wire protocol with every command that it does not refuse. -/
theorem Executed.wire {out : ExecuteReply command.dataLength} (h : Executed command c t out c')
    (hselects : command.direction = .dataOut → selects = true) : WireSafe selects t := by
  -- what the validator accepts may go over the wire with its own data
  have hcommand (haccepted : refuseCommand c command = none) :
      WirePair selects command.padded command.direction command.buffer := by
    obtain ⟨-, hvalid, hopcode⟩ := refuseCommand_eq_none haccepted
    refine ⟨hvalid.directed.harmless hselects, hvalid.directed.dataIn, fun hdirection => ?_⟩
    exact ⟨hselects hdirection, hvalid.directed.dataOut hdirection,
      isParameterList_of_selectsPage (hvalid.selectsPage (hopcode hdirection))⟩
  have hsense (haccepted : refuseCommand c command = none)
      (hopcode : command.cdbByte 0 = opcodeRequestSense) :
      WirePair selects command.padded .dataIn command.buffer := by
    obtain ⟨-, hvalid, -⟩ := refuseCommand_eq_none haccepted
    have hdirection := hvalid.fits.dataIn_of_requestSense hopcode
    exact ⟨hvalid.directed.harmless hselects, fun _ => hvalid.directed.dataIn hdirection, nofun⟩
  cases h with
  | refused => exact fun pending => ⟨pending, rfl⟩
  | unrecovered _ hrecovered => exact hrecovered.wire
  | sense haccepted hrecovered _ hopcode hexecuted =>
    refine hrecovered.wire.append ?_
    cases hexecuted with
    | failed hexchanged | rejected hexchanged | answered hexchanged =>
      exact hexchanged.wire (hsense haccepted hopcode)
  | command haccepted hrecovered _ _ hexecuted =>
    refine hrecovered.wire.append ?_
    cases hexecuted with
    | failed hexchanged => exact hexchanged.wire (hcommand haccepted)
    | unsensed hexchanged _ hfetched | rejected hexchanged _ hfetched
    | answered hexchanged _ hfetched =>
      exact (hexchanged.wire (hcommand haccepted)).append hfetched.wire

/-- Opening and closing move nothing. -/
theorem wireSafe_of_seizure (h : ∀ e ∈ t, e.call.op = .openSeize ∨ e.call.op = .close) :
    WireSafe selects t := by
  refine wireSafe_of_op fun e he => ?_
  rcases h e he with hop | hop <;> simp [hop, CbiIoOp.IsBulk]

/-- Opening the interface is safe on the wire. -/
theorem Acquired.wire {out : StatusReply} (h : Acquired c t out c') : WireSafe selects t := by
  cases h <;> exact wireSafe_of_seizure (by simp [CbiIoCall.op])

/-- Closing the interface is safe on the wire. -/
theorem Closed.wire {out : StatusReply} (h : Closed c t out c') : WireSafe selects t := by
  cases h <;> exact wireSafe_of_seizure (by simp [CbiIoCall.op])

end M65
