import FloppyProbe.Interaction.Plan
import FloppyProbe.Probe.Trace

/-!
# What one command does

Every command of the workflow goes through `executeChecked`: it is refused by the allowlist,
dropped because an interrupt request was pending, or handed to the transport (`Attempt`). From
this come the traces of `modeSense`, `modeSelect` and `readBlocks`: each of them follows the plan
of its one command, to the end exactly when it returns a good result.
-/

namespace M65

open Interaction

variable {s s' : Bool} {t : List WorkflowEvent}

/-! ## The flag -/

/-- However often the handler runs, the flag is set once it has run. -/
@[simp]
theorem requestInterrupt_iterate (n : ℕ) (interrupted : Bool) :
    requestInterrupt^[n] interrupted = (interrupted || decide (0 < n)) := by
  cases n with
  | zero => simp
  | succ n => rw [Function.iterate_succ_apply']; simp [requestInterrupt]

/-- The reading of the flag when the handler ran `n` times since the last access. -/
theorem exec_testInterrupted {b : Bool} :
    Exec testInterrupted s t b s' ↔
      ∃ n : ℕ, t = [⟨s, .testInterrupt, n⟩] ∧ b = requestInterrupt^[n] s ∧ s' = b := by
  simp only [testInterrupted, exec_bind, exec_call, exec_modify, exec_get]
  constructor
  · rintro ⟨_, n, _, _, ⟨rfl, rfl⟩, ⟨_, _, _, _, ⟨rfl, rfl⟩, ⟨rfl, rfl, rfl⟩, rfl⟩, rfl⟩
    exact ⟨n, rfl, rfl, rfl⟩
  · rintro ⟨n, rfl, rfl, rfl⟩
    exact ⟨_, n, s, [], ⟨rfl, rfl⟩, ⟨[], ⟨⟩, _, [], ⟨rfl, rfl⟩, ⟨rfl, rfl, rfl⟩, rfl⟩, rfl⟩

/-- Clearing the flag is one event, which may count runs of the handler that are lost. -/
theorem exec_clearInterrupted {u : Unit} :
    Exec clearInterrupted s t u s' ↔ ∃ n : ℕ, t = [⟨s, .clearInterrupt, n⟩] ∧ s' = false := by
  simp only [clearInterrupted, exec_bind, exec_call, exec_modify, exec_set]
  constructor
  · rintro ⟨_, n, _, _, ⟨rfl, rfl⟩, ⟨_, _, _, _, ⟨rfl, rfl⟩, ⟨rfl, rfl⟩, rfl⟩, rfl⟩
    exact ⟨n, rfl, rfl⟩
  · rintro ⟨n, rfl, rfl⟩
    exact ⟨_, n, s, [], ⟨rfl, rfl⟩, ⟨[], ⟨⟩, _, [], ⟨rfl, rfl⟩, ⟨rfl, rfl⟩, rfl⟩, rfl⟩

/-! ## One command -/

/-- A command that the transport did not carry out is not good. -/
theorem commandGood_eq_false {result : CommandResult} (h : result.transportStatus ≠ .ok) :
    commandGood result = false := by
  simp [commandGood, h]

/-- What can become of a command: the trace from the flag `s` to the flag `s'`, and the reply. -/
inductive Attempt (command : Command) :
    Bool → List WorkflowEvent → ExecuteReply command.dataLength → Bool → Prop
  | refused {s : Bool} {reply} (hvalid : ¬ command.Valid)
      (hstatus : reply.result.transportStatus = .protocol) : Attempt command s [] reply s
  | interrupted {s : Bool} {reply} (n : ℕ) (hobserved : requestInterrupt^[n] s = true)
      (hstatus : reply.result.transportStatus = .io) :
      Attempt command s [⟨s, .testInterrupt, n⟩] reply true
  | handed {s : Bool} {reply} (n : ℕ) (hvalid : command.Valid)
      (hquiet : requestInterrupt^[n] s = false) :
      Attempt command s [⟨s, .testInterrupt, n⟩, ⟨false, .transport (.execute command), reply⟩]
        reply false

/-- Every execution of `execute_checked` is one of its cases. -/
theorem attempt_of_exec {command : Command} {reply : ExecuteReply command.dataLength}
    (h : Exec (executeChecked command) s t reply s') : Attempt command s t reply s' := by
  unfold executeChecked at h
  cases hv : validateCommand command with
  | error detail =>
      simp only [hv, exec_pure] at h
      obtain ⟨rfl, rfl, rfl⟩ := h
      exact .refused (by simp [Command.Valid, hv]) rfl
  | ok =>
      simp only [hv, exec_bind, exec_testInterrupted, exec_ite, exec_pure] at h
      obtain ⟨_, _, _, t₂, ⟨n, rfl, rfl, rfl⟩, h, rfl⟩ := h
      rcases h with ⟨hobserved, rfl, rfl, rfl⟩ | ⟨hquiet, h⟩
      · rw [hobserved]
        exact .interrupted n hobserved rfl
      · rw [execute, exec_call] at h
        obtain ⟨rfl, rfl⟩ := h
        have hquiet : requestInterrupt^[n] s = false := by simpa using hquiet
        rw [hquiet]
        exact .handed n hv hquiet

namespace Attempt

variable {command : Command} {reply : ExecuteReply command.dataLength}

/-- A command that the transport did not carry out did not succeed. -/
theorem succeeded_eq_false (h : reply.result.transportStatus ≠ .ok) :
    succeeded command reply = false := by
  simp [succeeded, commandGood_eq_false h]

/-- A command follows the plan that lists it alone, to the end when it succeeds. -/
theorem follows (h : Attempt command s t reply s') :
    Follows stepOf Passed [.command command.wire] t (succeeded command reply) := by
  cases h with
  | refused _ hstatus =>
      rw [succeeded_eq_false (by simp [hstatus])]
      exact .stop _
  | interrupted n hobserved hstatus =>
      rw [succeeded_eq_false (by simp [hstatus])]
      exact .haltSilent _ rfl (Observed.not_passed hobserved)
  | handed n _ hquiet =>
      refine .silent rfl hquiet ?_
      cases hs : succeeded command reply with
      | false => exact .haltStep _ rfl (by simp [Passed, hs])
      | true => exact .step rfl hs .done

/-- The commands of a trace are this one at most, with the reply to it. -/
theorem executions_eq (h : Attempt command s t reply s') :
    executions t = [] ∨ executions t = [⟨command, reply⟩] := by
  cases h with
  | refused => exact .inl rfl
  | interrupted => exact .inl rfl
  | handed => exact .inr rfl

/-- The only command of a trace that succeeded. -/
theorem executions_of_succeeded (h : Attempt command s t reply s')
    (hs : succeeded command reply = true) :
    command.Valid ∧ executions t = [⟨command, reply⟩] ∧ s' = false := by
  cases h with
  | refused _ hstatus => simp [succeeded, commandGood, hstatus] at hs
  | interrupted _ _ hstatus => simp [succeeded, commandGood, hstatus] at hs
  | handed n hvalid _ => exact ⟨hvalid, rfl, rfl⟩

end Attempt

/-! ## The commands of the workflow -/

/-- MODE SENSE succeeds when its status is GOOD and its response has acceptable parameters. -/
theorem succeeded_modeSense (changeable : Bool) (reply : ExecuteReply modeBufferSize) :
    succeeded (modeSenseCommand changeable) reply =
      (commandGood reply.result && (senseParameters reply).toBool) := by
  have hopcode : (modeSenseCommand changeable).cdbByte 0 = opcodeModeSense10 := by
    cases changeable <;> decide
  unfold succeeded
  rw [if_pos hopcode]
  rfl

/-- A MODE SENSE is one attempt, and is good when it succeeded with parameters that can be
parsed. -/
theorem modeSense_attempt {changeable : Bool} {parameters : ModeParameters}
    {out : CommandResult × ModeParameters}
    (h : Exec (modeSense changeable parameters) s t out s') :
    ∃ reply, Attempt (modeSenseCommand changeable) s t reply s' ∧
      commandGood out.1 = succeeded (modeSenseCommand changeable) reply ∧
      (commandGood out.1 = true → senseParameters reply = .ok out.2) := by
  unfold modeSense at h
  simp only [exec_bind] at h
  obtain ⟨t₁, reply, s₁, t₂, hcommand, h, rfl⟩ := h
  have hattempt : Attempt (modeSenseCommand changeable) s t₁ reply s₁ := attempt_of_exec hcommand
  refine ⟨reply, ?_⟩
  rw [succeeded_modeSense]
  by_cases hgood : commandGood reply.result = true
  · simp only [hgood, if_true, exec_ite, exec_pure] at h
    -- a GOOD status is given up when the reply is too long, or does not parse
    rcases h with ⟨hlarge, rfl, rfl, rfl⟩ | ⟨hfits, h⟩
    · have hsense : senseParameters reply =
          .error (errorText "MODE SENSE response exceeds its buffer") := if_pos hlarge
      refine ⟨by simpa using hattempt, ?_, by simp [commandGood]⟩
      rw [hsense, commandGood_eq_false (by simp)]
      simp [Except.toBool]
    · have hsense : senseParameters reply =
          parseModeParameters reply.buffer.toList reply.result.transferred := if_neg hfits
      cases hparse : parseModeParameters reply.buffer.toList reply.result.transferred with
      | error detail =>
          simp only [hparse, exec_pure] at h
          obtain ⟨rfl, rfl, rfl⟩ := h
          refine ⟨by simpa using hattempt, ?_, by simp [commandGood]⟩
          rw [hsense, hparse, commandGood_eq_false (by simp)]
          simp [Except.toBool]
      | ok parsed =>
          simp only [hparse, exec_pure] at h
          obtain ⟨rfl, rfl, rfl⟩ := h
          refine ⟨by simpa using hattempt, ?_, fun _ => hsense.trans hparse⟩
          simp [hgood, hsense, hparse, Except.toBool]
  · rw [if_neg hgood, exec_pure] at h
    obtain ⟨rfl, rfl, rfl⟩ := h
    refine ⟨by simpa using hattempt, ?_, fun h => absurd h hgood⟩
    simp [hgood]

/-- MODE SELECT succeeds when its status is GOOD. -/
theorem succeeded_modeSelect (page : FlexibleDiskPage)
    (reply : ExecuteReply (modeSelectCommand page).dataLength) :
    succeeded (modeSelectCommand page) reply = commandGood reply.result := by
  have hopcode : (modeSelectCommand page).cdbByte 0 = opcodeModeSelect10 := rfl
  simp [succeeded, hopcode, opcodeModeSelect10, opcodeModeSense10, opcodeRead10]

/-- Either the payload builder refuses the page and nothing happens, or its command is tried. -/
theorem modeSelect_attempt {page : FlexibleDiskPage} {result : CommandResult}
    (h : Exec (modeSelect page) s t result s') :
    ((buildModeSelectPayload page).toBool = false ∧ t = [] ∧ s' = s ∧
        commandGood result = false) ∨
      ∃ reply, buildModeSelectPayload page = .ok (modeSelectPayload page) ∧
        Attempt (modeSelectCommand page) s t reply s' ∧ result = reply.result := by
  unfold modeSelect at h
  -- a page that is not well formed is refused before anything is sent
  cases hbuild : buildModeSelectPayload page with
  | error detail =>
      simp only [hbuild, exec_pure] at h
      obtain ⟨rfl, rfl, rfl⟩ := h
      exact .inl ⟨rfl, rfl, rfl, by simp [commandGood]⟩
  | ok payload =>
      have hpayload : payload = modeSelectPayload page := by
        simp only [buildModeSelectPayload] at hbuild
        split at hbuild
        · cases hbuild
        · simpa using hbuild.symm
      subst hpayload
      simp only [hbuild, exec_bind, exec_pure] at h
      obtain ⟨t₁, reply, s₁, t₂, hcommand, ⟨rfl, rfl, rfl⟩, rfl⟩ := h
      refine .inr ⟨reply, rfl, ?_, rfl⟩
      rw [List.append_nil]
      exact attempt_of_exec hcommand

/-- A read is a READ (10). -/
theorem readCommand_opcode (lba : UInt32) (blocks : UInt16)
    (buffer : Vector UInt8 (blocks.toNat * blockSize)) :
    (readCommand lba blocks buffer).cdbByte 0 = opcodeRead10 := by
  simp [Command.cdbByte, readCommand, simpleCommand, cdbRead10, copyBytes, writeBe16, writeBe32,
    cdbWithOpcode]

/-- READ (10) succeeds when its status is GOOD and its transfer is complete. -/
theorem succeeded_read (lba : UInt32) (blocks : UInt16)
    (buffer : Vector UInt8 (blocks.toNat * blockSize))
    (reply : ExecuteReply (blocks.toNat * blockSize)) :
    succeeded (readCommand lba blocks buffer) reply =
      (commandGood reply.result && reply.result.transferred == blocks.toNat * blockSize) := by
  have hopcode := readCommand_opcode lba blocks buffer
  unfold succeeded
  rw [if_neg (by rw [hopcode]; decide), if_pos hopcode]
  rfl

/-- A read is one attempt, and is good when it succeeded. -/
theorem readBlocks_attempt {lba : UInt32} {blocks : UInt16}
    {buffer : Vector UInt8 (blocks.toNat * blockSize)}
    {out : CommandResult × Vector UInt8 (blocks.toNat * blockSize)}
    (h : Exec (readBlocks lba blocks buffer) s t out s') :
    ∃ reply, Attempt (readCommand lba blocks buffer) s t reply s' ∧
      commandGood out.1 = succeeded (readCommand lba blocks buffer) reply ∧
      out.2 = reply.buffer := by
  unfold readBlocks at h
  simp only [exec_bind, exec_ite, exec_pure] at h
  obtain ⟨t₁, reply, s₁, t₂, hcommand, h, rfl⟩ := h
  have hattempt : Attempt (readCommand lba blocks buffer) s t₁ reply s₁ := attempt_of_exec hcommand
  refine ⟨reply, ?_⟩
  rw [succeeded_read]
  rcases h with ⟨hshort, rfl, rfl, rfl⟩ | ⟨hfull, rfl, rfl, rfl⟩
  · refine ⟨by simpa using hattempt, ?_, rfl⟩
    have hshort : reply.result.transferred ≠ blocks.toNat * blockSize := by simp_all
    rw [commandGood_eq_false (by simp)]
    simp [hshort]
  · refine ⟨by simpa using hattempt, ?_, rfl⟩
    cases hgood : commandGood reply.result <;> simp_all

end M65
