import FloppyProbe.Ufi.Commands

/-!
# What the allowlist accepts

The consequences of `m65_validate_command` that the results about the transport use: an accepted
command fits into a CBI command block, and the only accepted command that sends data is a
MODE SELECT (10) of one Flexible Disk page.
-/

namespace M65

variable {command : Command}

/-- The command is a MODE SELECT (10), without SP, of a single Flexible Disk page. -/
structure Command.SelectsPage (command : Command) : Prop where
  cdbLength_eq : command.cdbLength = 10
  flags_eq : command.cdbByte 1 = 0x10
  dataLength_eq : command.dataLength = 40
  data_isSome : command.data.isSome = true
  header_eq : ∀ i < 8, byteAt command.bytes i = 0
  code_eq : byteAt command.bytes 8 = flexibleDiskPage
  length_eq : byteAt command.bytes 9 = 30

/-- A command with a data phase that passes the check has a buffer. -/
theorem isSome_of_validateData {direction : DataDirection}
    (h : (validateData command direction).toBool ≠ false) (hdirection : direction ≠ .none) :
    command.data.isSome = true := by
  unfold validateData at h
  by_contra hnone
  have hnone : command.data.isNone = true := by simpa using hnone
  apply h
  simp only [hdirection, if_false, hnone, true_or, if_true]
  split <;> rfl

/-- The check of MODE SELECT (10) lets only a Flexible Disk page through. -/
theorem selectsPage_of_validateModeSelect10 (h : validateModeSelect10 command = .ok ()) :
    command.SelectsPage := by
  simp only [validateModeSelect10] at h
  split at h
  · cases h
  next hfields =>
  simp only [not_or] at hfields
  obtain ⟨hlength, hdata, hflags, -⟩ := hfields
  split at h
  · next encodedLength _ =>
      split at h
      · cases h
      next hsizes =>
      split at h
      · cases h
      next hheader =>
      split at h
      · cases h
      next hpage =>
      simp only [not_or] at hsizes hpage
      refine ⟨of_not_not hlength, of_not_not hflags, of_not_not hsizes.2,
        isSome_of_validateData hdata nofun, ?_, of_not_not hpage.1, of_not_not hpage.2⟩
      intro i hi
      -- a byte of the header that is not zero would have been found
      by_contra hne
      refine hheader (List.any_eq_true.2 ⟨i, List.mem_range.2 hi, ?_⟩)
      simpa using hne
  · cases h

/-- A validated MODE SELECT (10) carries a Flexible Disk page. -/
theorem Command.Valid.selectsPage (h : command.Valid)
    (hopcode : command.cdbByte 0 = opcodeModeSelect10) : command.SelectsPage := by
  unfold Command.Valid validateCommand at h
  rw [hopcode] at h
  split at h
  · cases h
  · exact selectsPage_of_validateModeSelect10 h

/-! ## Lengths and directions -/

/-- A command that passes the check has the direction that was asked for. -/
theorem direction_of_validateData {direction : DataDirection}
    (h : (validateData command direction).toBool ≠ false) : command.direction = direction := by
  by_contra hdirection
  exact h (by simp [validateData, hdirection, Except.toBool])

/-- A command block of the given length, for a command with the given data direction. -/
structure Command.HasShape (command : Command) (cdbLength : ℕ) (direction : DataDirection) :
    Prop where
  cdbLength_eq : command.cdbLength = cdbLength
  direction_eq : command.direction = direction

/-- A command that passes the check has the length and the direction that were asked for. -/
theorem hasShape_of_validateShape {cdbLength : ℕ} {direction : DataDirection}
    (h : validateShape command cdbLength direction = .ok ()) :
    command.HasShape cdbLength direction := by
  unfold validateShape at h
  split at h
  · cases h
  · next hlength =>
      refine ⟨of_not_not hlength, direction_of_validateData ?_⟩
      rw [h]
      exact nofun

/-- The check of REQUEST SENSE fixes the length of the block and the direction. -/
theorem hasShape_of_validateRequestSense (h : validateRequestSense command = .ok ()) :
    command.HasShape 6 .dataIn := by
  unfold validateRequestSense at h
  split at h
  · cases h
  · next hfields =>
      simp only [not_or] at hfields
      exact ⟨of_not_not hfields.1, direction_of_validateData hfields.2.1⟩

/-- The check of READ (10) fixes the length of the block and the direction. -/
theorem hasShape_of_validateRead10 (h : validateRead10 command = .ok ()) :
    command.HasShape 10 .dataIn := by
  simp only [validateRead10] at h
  split at h
  · cases h
  · next hfields =>
      simp only [not_or] at hfields
      exact ⟨of_not_not hfields.1, direction_of_validateData hfields.2⟩

/-- An accepted command fits into a command block, sends data only as a MODE SELECT, and fetches
data as a REQUEST SENSE. -/
structure Command.Fits (command : Command) : Prop where
  cdbLength_le : command.cdbLength ≤ 10
  select_of_dataOut : command.direction = .dataOut → command.cdbByte 0 = opcodeModeSelect10
  dataIn_of_requestSense : command.cdbByte 0 = opcodeRequestSense → command.direction = .dataIn

/-- A validated command fits into what every transport can send. -/
theorem Command.Valid.fits (h : command.Valid) : command.Fits := by
  have hshape {cdbLength : ℕ} {direction : DataDirection}
      (hshape : command.HasShape cdbLength direction) (hlength : cdbLength ≤ 10)
      (hout : direction ≠ .dataOut)
      (hsense : command.cdbByte 0 = opcodeRequestSense → direction = .dataIn) : command.Fits := by
    refine ⟨by rw [hshape.cdbLength_eq]; exact hlength, fun hdirection => ?_, fun hopcode => ?_⟩
    · exact absurd (hshape.direction_eq.symm.trans hdirection) hout
    · rw [hshape.direction_eq, hsense hopcode]
  -- one split per opcode of the allowlist; only MODE SELECT may send data
  unfold Command.Valid validateCommand at h
  split at h
  · cases h
  split at h
  · next hopcode =>
      refine hshape (hasShape_of_validateShape h) (by omega) nofun fun hsense => ?_
      rw [hopcode] at hsense
      cases hsense
  split at h
  · exact hshape (hasShape_of_validateRequestSense h) (by omega) nofun fun _ => rfl
  split at h
  · exact hshape (hasShape_of_validateShape h) (by omega) nofun fun _ => rfl
  split at h
  · exact hshape (hasShape_of_validateShape h) le_rfl nofun fun _ => rfl
  split at h
  · exact hshape (hasShape_of_validateRead10 h) le_rfl nofun fun _ => rfl
  split at h
  · next hopcode =>
      refine ⟨(selectsPage_of_validateModeSelect10 h).cdbLength_eq.le, fun _ => hopcode, ?_⟩
      intro hsense
      rw [hopcode] at hsense
      cases hsense
  · cases h

end M65
