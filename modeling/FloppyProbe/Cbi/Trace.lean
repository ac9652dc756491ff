import FloppyProbe.Cbi.Runs
import FloppyProbe.Interaction.Session

/-!
# What a trace of the engine says

The vocabulary of the results about the adapter's view of the engine: the operation and the status
of an event, and the shape of an exchange. The operations of an exchange after its command block
are at most one bulk transfer and then clears and interrupts (`Exchanged.shape`).
-/

namespace M65

open Interaction

/-- The members of `M65CbiIoOps`. -/
inductive CbiIoOp where
  | openSeize
  | close
  | adsc
  | bulkIn
  | bulkOut
  | interruptInWithDeadline
  | clearStall
  | prepareCommandBlockReset
  | finishCommandBlockReset
deriving DecidableEq

/-- The operation of a call, without its arguments. -/
def CbiIoCall.op : CbiIoCall → CbiIoOp
  | .openSeize _ => .openSeize
  | .close _ => .close
  | .adsc _ _ _ => .adsc
  | .bulkIn _ _ _ => .bulkIn
  | .bulkOut _ _ _ => .bulkOut
  | .interruptInWithDeadline _ _ _ => .interruptInWithDeadline
  | .clearStall _ _ => .clearStall
  | .prepareCommandBlockReset _ => .prepareCommandBlockReset
  | .finishCommandBlockReset _ _ => .finishCommandBlockReset

/-- The status that an operation returned. -/
def ioStatusOf : EngineEvent → CbiIoStatus
  | ⟨_, .openSeize _, reply⟩ => reply.status
  | ⟨_, .close _, reply⟩ => reply.status
  | ⟨_, .adsc _ _ _, reply⟩ => reply.status
  | ⟨_, .bulkIn _ _ _, reply⟩ => reply.status
  | ⟨_, .bulkOut _ _ _, reply⟩ => reply.status
  | ⟨_, .interruptInWithDeadline _ _ _, reply⟩ => reply.status
  | ⟨_, .clearStall _ _, reply⟩ => reply.status
  | ⟨_, .prepareCommandBlockReset _, reply⟩ => reply.status
  | ⟨_, .finishCommandBlockReset _ _, reply⟩ => reply.status

/-- The bulk transfers. -/
def CbiIoOp.IsBulk (op : CbiIoOp) : Prop := op = .bulkIn ∨ op = .bulkOut

variable {c c' : CbiContext} {t : List EngineEvent} {n : ℕ}

/-! ## Exchanges -/

section Exchange

variable {cdb : Vector UInt8 cbiCdbLength} {direction : DataDirection} {buffer : Vector UInt8 n}
  {out : ExchangeReply n}

/-- The events of an exchange: its command block, at most one bulk transfer, and then nothing but
clears of the bulk pipe and interrupts. -/
structure ExchangeShape (cdb : Vector UInt8 cbiCdbLength) (direction : DataDirection)
    (buffer : Vector UInt8 n) (c : CbiContext) (t : List EngineEvent) : Prop where
  split : ∃ timeoutMs detail accepted moved tail,
    t = ⟨c, .adsc cdb timeoutMs detail, accepted⟩ :: (moved ++ tail) ∧
      (moved = [] ∨ ∃ data, Moved direction buffer c moved data) ∧
      ∀ e ∈ tail, e.call.op = .clearStall ∨ e.call.op = .interruptInWithDeadline

/-- A data phase moves data and then clears a stall at most. -/
theorem DataPhase.shape {stalled : Bool} {data : BulkInReply n}
    (h : DataPhase direction buffer c t stalled data) :
    ∃ moved tail, t = moved ++ tail ∧ Moved direction buffer c moved data ∧
      ∀ e ∈ tail, e.call.op = .clearStall ∨ e.call.op = .interruptInWithDeadline := by
  cases h with
  | moved hmoved => exact ⟨_, [], (List.append_nil _).symm, hmoved, by simp⟩
  | cleared hmoved => exact ⟨_, _, rfl, hmoved, by simp [CbiIoCall.op]⟩

/-- An exchange sends its block, moves data and ends with the interrupt pipe or a cleared stall. -/
theorem Exchanged.shape (h : Exchanged cdb direction buffer c t out c') :
    ExchangeShape cdb direction buffer c t := by
  -- the exchanges that reached the interrupt
  have hinterrupt {timeoutMs : ℕ} {detail detail' : ErrorText} {accepted : CbiReply}
      {t : List EngineEvent} {stalled : Bool} {data : BulkInReply n}
      {completion : Vector UInt8 cbiStatusLength} {interrupt : InterruptReply}
      (hphase : DataPhase direction buffer c t stalled data) :
      ExchangeShape cdb direction buffer c (⟨c, .adsc cdb timeoutMs detail, accepted⟩ ::
        (t ++ [⟨c, .interruptInWithDeadline completion timeoutMs detail', interrupt⟩])) := by
    obtain ⟨moved, tail, rfl, hmoved, htail⟩ := hphase.shape
    refine ⟨_, _, _, moved, _, by rw [List.append_assoc], .inr ⟨data, hmoved⟩, ?_⟩
    intro e he
    rcases List.mem_append.1 he with he | he
    · exact htail e he
    · rw [List.mem_singleton.1 he]
      exact .inr rfl
  cases h with
  | adscStalled => exact ⟨_, _, _, [], [], rfl, .inl rfl, by simp⟩
  | adscFailed => exact ⟨_, _, _, [], [], rfl, .inl rfl, by simp⟩
  | bulkFailed _ hmoved =>
      exact ⟨_, _, _, _, [], by rw [List.append_nil], .inr ⟨_, hmoved⟩, by simp⟩
  | overrun _ hmoved =>
      exact ⟨_, _, _, _, [], by rw [List.append_nil], .inr ⟨_, hmoved⟩, by simp⟩
  | clearFailed _ hmoved => exact ⟨_, _, _, _, _, rfl, .inr ⟨_, hmoved⟩, by simp [CbiIoCall.op]⟩
  | interruptFailed _ hphase => exact hinterrupt hphase
  | interruptShort _ hphase => exact hinterrupt hphase
  | completed _ hphase => exact hinterrupt hphase

end Exchange

/-! ## What an execution keeps -/

/-- An exchange neither opens nor closes the interface. -/
theorem Exchanged.opened_eq {cdb : Vector UInt8 cbiCdbLength} {direction : DataDirection}
    {buffer : Vector UInt8 n} {out : ExchangeReply n}
    (h : Exchanged cdb direction buffer c t out c') : c'.opened = c.opened := by
  obtain ⟨lost, hmarked⟩ := h.marked
  exact hmarked.opened

/-- A REQUEST SENSE neither opens nor closes the interface. -/
theorem Fetched.opened_eq {out : SenseReply} (h : Fetched c t out c') : c'.opened = c.opened := by
  cases h with
  | failed hexchanged => exact hexchanged.opened_eq
  | rejected _ _ _ hmarked => exact hmarked.opened
  | fetched => rfl

/-- No execution changes whether the interface is open. -/
theorem Executed.opened_eq {command : Command} {out : ExecuteReply command.dataLength}
    (h : Executed command c t out c') : c'.opened = c.opened := by
  have hrecovered {t : List EngineEvent} {out : CbiReply} {c₁ : CbiContext}
      (h : Recovered c t out c₁) : c₁.opened = c.opened := by
    cases h <;> rfl
  cases h with
  | refused => rfl
  | unrecovered _ hrecovery => exact hrecovered hrecovery
  | sense _ hrecovery _ _ hexecuted =>
      rw [← hrecovered hrecovery]
      cases hexecuted with
      | failed hexchanged => exact hexchanged.opened_eq
      | rejected _ _ _ hmarked => exact hmarked.opened
      | answered => rfl
  | command _ hrecovery _ _ hexecuted =>
      rw [← hrecovered hrecovery]
      cases hexecuted with
      | failed hexchanged => exact hexchanged.opened_eq
      | unsensed _ _ hfetched => exact hfetched.opened_eq
      | rejected _ _ _ _ _ hmarked => exact hmarked.opened
      | answered => rfl

end M65
