import FloppyProbe.Probe.Runs
import FloppyProbe.Ufi.Geometry

/-!
# MODE SELECT in the workflow

A page that the payload builder accepts makes a command that the allowlist accepts, so MODE SELECT
of such a page can only be kept from the transport by an interrupt request.
-/

namespace M65

open Interaction

variable {s s' : Bool} {t : List WorkflowEvent} {report report' : Report1581}

/-- The data of a MODE SELECT are its payload. -/
theorem modeSelectCommand_bytes (page : FlexibleDiskPage) :
    (modeSelectCommand page).bytes = (modeSelectPayload page).toList := rfl

/-- The command descriptor block of every MODE SELECT. -/
theorem modeSelectCommand_cdbByte (page : FlexibleDiskPage) (i : ℕ) :
    (modeSelectCommand page).cdbByte i = [0x55, 0x10, 0, 0, 0, 0, 0, 0, 40, 0].getD i 0 := by
  have hcdb : (copyBytes 16 (cdbModeSelect10 40).1 10).toList =
    [0x55, 0x10, 0, 0, 0, 0, 0, 0, 40, 0, 0, 0, 0, 0, 0, 0] := by decide
  show (copyBytes 16 (cdbModeSelect10 40).1 10)[i]?.getD 0 = _
  rw [← Vector.getElem?_toList, hcdb]
  by_cases hi : i < 16
  · interval_cases i <;> rfl
  · rw [List.getElem?_eq_none (by simpa using hi), List.getD_eq_getElem?_getD,
      List.getElem?_eq_none (by simp; omega)]

/-- The MODE SELECT of a selectable page passes the validation. -/
theorem FlexibleDiskPage.Selectable.valid {page : FlexibleDiskPage} (h : page.Selectable) :
    (modeSelectCommand page).Valid := by
  have hzero : ∀ i < 8, byteAt (modeSelectCommand page).bytes i = 0 := by
    intro i hi
    have hlt : i < modeSelectPayloadLength := by
      unfold modeSelectPayloadLength flexPageLength
      omega
    have hbyte := byteAt_modeSelectPayload page hlt
    rw [if_pos hi] at hbyte
    exact hbyte
  have hheader : ((List.range 8).any fun i => byteAt (modeSelectCommand page).bytes i ≠ 0)
      = false := by
    rw [List.any_eq_false]
    intro i hi
    simp [hzero i (List.mem_range.1 hi)]
  have hcode : byteAt (modeSelectCommand page).bytes 8 = flexibleDiskPage := by
    rw [modeSelectCommand_bytes, byteAt_modeSelectPayload page (by decide)]
    exact h.code_eq
  have hlength : byteAt (modeSelectCommand page).bytes 9 = 30 := by
    rw [modeSelectCommand_bytes, byteAt_modeSelectPayload page (by decide)]
    exact h.length_eq
  have hencoded : readBe16 (modeSelectCommand page).cdb.toList 10 7 = some 40 := by
    show readBe16 (copyBytes 16 (cdbModeSelect10 40).1 10).toList 10 7 = some 40
    decide
  have hdata : (validateData (modeSelectCommand page) .dataOut).toBool = true := rfl
  have hcdbLength : (modeSelectCommand page).cdbLength = 10 := rfl
  have hdataLength : (modeSelectCommand page).dataLength = 40 := rfl
  -- the checks of the payload, of the command block and of the data, in the validator's order
  have hselect : validateModeSelect10 (modeSelectCommand page) = .ok () := by
    unfold validateModeSelect10
    simp only [hencoded, hheader, hcode, hlength, hdata, hcdbLength, hdataLength,
      modeSelectCommand_cdbByte]
    rfl
  unfold Command.Valid validateCommand
  simp only [modeSelectCommand_cdbByte, hcdbLength, hselect]
  rfl

/-- What a MODE SELECT can do from the flag `s`. -/
inductive Selected (page : FlexibleDiskPage) (s : Bool) :
    List WorkflowEvent → CommandResult → Prop
  | refused {result : CommandResult} (hpage : ¬ page.Selectable)
      (hbad : commandGood result = false) : Selected page s [] result
  | interrupted {n : ℕ} {result : CommandResult} (hpage : page.Selectable)
      (hobserved : requestInterrupt^[n] s = true) (hbad : commandGood result = false) :
      Selected page s [⟨s, .testInterrupt, n⟩] result
  | handed {n : ℕ} {reply : ExecuteReply (modeSelectCommand page).dataLength}
      (hpage : page.Selectable) (hquiet : requestInterrupt^[n] s = false) :
      Selected page s [⟨s, .testInterrupt, n⟩,
        ⟨false, .transport (.execute (modeSelectCommand page)), reply⟩] reply.result

/-- Every execution of `mode_select` is one of its cases. -/
theorem selected_of_exec {page : FlexibleDiskPage} {result : CommandResult}
    (h : Exec (modeSelect page) s t result s') : Selected page s t result := by
  rcases modeSelect_attempt h with ⟨hbuild, rfl, -, hbad⟩ | ⟨reply, hbuild, hattempt, rfl⟩
  · refine .refused (fun hpage => ?_) hbad
    rw [buildModeSelectPayload_eq_ok_iff.2 hpage] at hbuild
    cases hbuild
  · have hpage := buildModeSelectPayload_eq_ok_iff.1 hbuild
    cases hattempt with
    | refused hvalid _ => exact absurd hpage.valid hvalid
    | interrupted n hobserved hstatus =>
        exact .interrupted hpage hobserved (commandGood_eq_false (by simp [hstatus]))
    | handed n _ hquiet => exact .handed hpage hquiet

end M65
