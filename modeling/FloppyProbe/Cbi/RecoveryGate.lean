import FloppyProbe.Cbi.Trace

/-!
# The recovery gate

While a recovery is required, the only command block that reaches the adapter is the reset block
and no data move. A reset is bracketed by one `prepare_command_block_reset` and one
`finish_command_block_reset`, which is told the truth about it, and only such a reset or a new
acquisition clears the flag.
-/

namespace M65

open Interaction

variable {c c' : CbiContext} {t : List EngineEvent} {n : ℕ}

/-! ## The statement -/

/-- The event may happen while a recovery is required. -/
def PassesGate (e : EngineEvent) : Prop :=
  ¬ e.call.op.IsBulk ∧
    ∀ block timeoutMs detail, e.call = .adsc block timeoutMs detail → block = resetCdb

/-- The interrupt delivers a completion of two zero bytes. -/
def CompletesWithZeros : EngineEvent → Prop
  | ⟨_, .interruptInWithDeadline _ _ _, reply⟩ =>
      reply.status = .ok ∧ reply.transferred = 2 ∧ reply.completion = #v[0, 0]
  | _ => False

/-- The bulk pipe of the direction is cleared. -/
def ClearsPipe (direction : DataDirection) : EngineEvent → Prop
  | ⟨_, .clearStall cleared _, reply⟩ => cleared = direction ∧ reply.status = .ok
  | _ => False

/-- The reset is ended, and the adapter told whether the engine recovered. -/
def Finishes (recovered : Bool) : EngineEvent → Prop
  | ⟨_, .finishCommandBlockReset told _, _⟩ => told = recovered
  | _ => False

/-- The reset block was accepted without a stall, its completion was two zero bytes, and both bulk
pipes were cleared. -/
def ResetSucceeded (block : EngineEvent) (between : List EngineEvent) : Prop :=
  ioStatusOf block = .ok ∧ ∃ interrupt clearedIn clearedOut,
    between = [interrupt, clearedIn, clearedOut] ∧ CompletesWithZeros interrupt ∧
      ClearsPipe .dataIn clearedIn ∧ ClearsPipe .dataOut clearedOut

/-- The operation belongs to a reset of its own. -/
def CbiIoOp.IsBracket (op : CbiIoOp) : Prop :=
  op = .prepareCommandBlockReset ∨ op = .finishCommandBlockReset

/-- What follows a successful `prepare_command_block_reset` in `rest`: one command block, one
`finish_command_block_reset` with the right argument, and no other reset afterwards. -/
structure ResetSequence (rest : List EngineEvent) (block : EngineEvent)
    (between : List EngineEvent) (finish : EngineEvent) (after : List EngineEvent) : Prop where
  split : rest = block :: (between ++ finish :: after)
  block_op : block.call.op = .adsc
  between_op : ∀ e ∈ between, e.call.op ≠ .adsc ∧ ¬ e.call.op.IsBracket
  told : ∃ recovered, Finishes recovered finish ∧
    (recovered = true ↔ ResetSucceeded block between)
  after_op : ∀ e ∈ after, ¬ e.call.op.IsBracket

/-- Every reset of the trace is a complete one. -/
structure Bracketed (t : List EngineEvent) : Prop where
  prepared : ∀ u e v, t = u ++ e :: v → e.call.op = .prepareCommandBlockReset →
    ioStatusOf e = .ok → ∃ block between finish after, ResetSequence v block between finish after
  unprepared : ∀ u e v, t = u ++ e :: v → e.call.op = .prepareCommandBlockReset →
    ioStatusOf e ≠ .ok →
      ∀ e' ∈ v, e'.call.op ≠ .adsc ∧ e'.call.op ≠ .finishCommandBlockReset
  finished : ∀ u e v, t = u ++ e :: v → e.call.op = .finishCommandBlockReset →
    ∃ e' ∈ u, e'.call.op = .prepareCommandBlockReset ∧ ioStatusOf e' = .ok

/-- The event may clear the flag: a reset that succeeded and was finished, or an acquisition. -/
def ClearsRecovery (e : EngineEvent) : Prop :=
  (Finishes true e ∨ e.call.op = .openSeize) ∧ ioStatusOf e = .ok

/-- The flag is set before the event and clear after it, and the event may do that. -/
def ClearedByReset (e : EngineEvent) (after : CbiContext) : Prop :=
  e.state.recoveryRequired = true → after.recoveryRequired = false → ClearsRecovery e

/-- The recovery gate of a session. -/
structure RecoveryGate {c : CbiContext} (r : Session cbiTransport c) : Prop where
  gated : ∀ e ∈ r.trace, e.state.recoveryRequired = true → PassesGate e
  bracketed : ∀ call ∈ r.calls, Bracketed call.trace
  starts : nextState r.trace r.final = c
  cleared : EveryStep ClearedByReset r.trace r.final

/-! ## Contexts -/

/-- Steps after which the flag is still set if it was. -/
theorem clearedByReset_of_kept {e : EngineEvent} {after : CbiContext}
    (h : e.state.recoveryRequired = true → after.recoveryRequired = true) :
    ClearedByReset e after := by
  intro hset hclear
  rw [h hset] at hclear
  cases hclear

/-- A trace with one context throughout clears nothing when the flag is still set at its end. -/
theorem everyStep_of_kept (hstate : ∀ e ∈ t, e.state = c)
    (hkept : c.recoveryRequired = true → c'.recoveryRequired = true) :
    EveryStep ClearedByReset t c' := by
  refine .of_forall fun e he => ⟨?_, fun e' he' => ?_⟩
  · exact clearedByReset_of_kept (by rw [hstate e he]; exact hkept)
  · exact clearedByReset_of_kept (by rw [hstate e he, hstate e' he']; exact id)

/-- Marking a context keeps its flag. -/
theorem Marked.kept_flag {lost : Bool} (h : Marked c lost c') (hset : c.recoveryRequired = true) :
    c'.recoveryRequired = true := by
  rw [h.recoveryRequired, hset, Bool.true_or]

section Exchange

variable {cdb : Vector UInt8 cbiCdbLength} {direction : DataDirection} {buffer : Vector UInt8 n}
  {out : ExchangeReply n}

/-- The context before an exchange is the one it starts with. -/
theorem Exchanged.nextState_eq (h : Exchanged cdb direction buffer c t out c') (s : CbiContext) :
    nextState t s = c := by
  obtain ⟨_, _, _, _, _, rfl, -⟩ := h.shape
  rfl

/-- An exchange clears nothing. -/
theorem Exchanged.everyStep (h : Exchanged cdb direction buffer c t out c') :
    EveryStep ClearedByReset t c' := by
  obtain ⟨lost, hmarked⟩ := h.marked
  exact everyStep_of_kept h.state_eq hmarked.kept_flag

/-- No operation of an exchange is one of a reset. -/
theorem Exchanged.not_isBracket (h : Exchanged cdb direction buffer c t out c') :
    ∀ e ∈ t, ¬ e.call.op.IsBracket := by
  obtain ⟨timeoutMs, detail, accepted, moved, tail, rfl, hmoved, htail⟩ := h.shape
  intro e he
  rcases List.mem_cons.1 he with rfl | he
  · simp [CbiIoOp.IsBracket, CbiIoCall.op]
  rcases List.mem_append.1 he with he | he
  · rcases hmoved with rfl | ⟨data, hmoved⟩
    · cases he
    · cases hmoved with
      | none => cases he
      | dataIn | dataOut =>
          rw [List.mem_singleton.1 he]
          simp [CbiIoOp.IsBracket, CbiIoCall.op]
  · rcases htail e he with hop | hop <;> simp [CbiIoOp.IsBracket, hop]

end Exchange

/-! ## The reset -/

/-- The exchange of the reset block: it ends at the block, or with an interrupt. -/
inductive ResetExchange (c : CbiContext) : List EngineEvent → ExchangeReply 0 → Prop
  | short {timeoutMs : ℕ} {detail : ErrorText} {accepted : CbiReply} {reset : ExchangeReply 0}
      (hundone : ¬ ResetDone reset) :
      ResetExchange c [⟨c, .adsc resetCdb timeoutMs detail, accepted⟩] reset
  | full {timeoutMs : ℕ} {detail detail' : ErrorText} {accepted : CbiReply}
      {reset : ExchangeReply 0} {completion : Vector UInt8 cbiStatusLength}
      {interrupt : InterruptReply} (haccepted : accepted.status = .ok)
      (hdone : ResetDone reset ↔
        CompletesWithZeros ⟨c, .interruptInWithDeadline completion timeoutMs detail', interrupt⟩) :
      ResetExchange c [⟨c, .adsc resetCdb timeoutMs detail, accepted⟩,
        ⟨c, .interruptInWithDeadline completion timeoutMs detail', interrupt⟩] reset

/-- The exchange of the reset block sends that block only. -/
theorem resetExchange_of_exchanged {reset : ExchangeReply 0}
    (h : Exchanged resetCdb .none #v[] c t reset c') : ResetExchange c t reset := by
  -- without a bulk transfer, the data phase is empty and ends well
  have hnone {t : List EngineEvent} {data : BulkInReply 0} (hm : Moved .none #v[] c t data) :
      t = [] ∧ data.status = .ok ∧ data.transferred = 0 := by
    cases hm with
    | none => exact ⟨rfl, rfl, rfl⟩
    | dataIn hdirection => cases hdirection
    | dataOut hdirection => cases hdirection
  have hphase {t : List EngineEvent} {stalled : Bool} {data : BulkInReply 0}
      (hp : DataPhase .none #v[] c t stalled data) : t = [] ∧ stalled = false := by
    cases hp with
    | moved hm => exact ⟨(hnone hm).1, rfl⟩
    | cleared hm hstall =>
        rw [(hnone hm).2.1] at hstall
        cases hstall
  cases h with
  | adscStalled _ _ hexchange =>
      refine .short fun hdone => ?_
      have haccepted := hdone.accepted
      rw [hexchange] at haccepted
      cases haccepted
  | adscFailed hfailed _ hstatus _ =>
      exact .short fun hdone => hfailed (hstatus ▸ hdone.status)
  | bulkFailed _ hm hfailed => exact absurd (hnone hm).2.1 hfailed
  | overrun _ hm _ hlarge =>
      rw [(hnone hm).2.2] at hlarge
      exact absurd hlarge (Nat.lt_irrefl 0)
  | clearFailed _ hm hstall =>
      rw [(hnone hm).2.1] at hstall
      cases hstall
  | interruptFailed haccepted hp hfailed hstatus =>
      obtain ⟨rfl, rfl⟩ := hphase hp
      refine .full haccepted (iff_of_false (fun hdone => hfailed ?_) fun hzeros => hfailed hzeros.1)
      rw [← hstatus]
      exact hdone.status
  | interruptShort haccepted hp _ hlength hstatus =>
      obtain ⟨rfl, rfl⟩ := hphase hp
      refine .full haccepted (iff_of_false (fun hdone => ?_) fun hzeros => hlength hzeros.2.1)
      have hok := hdone.status
      rw [hstatus] at hok
      cases hok
  | completed haccepted hp hok hlength hstatus hexchange =>
      obtain ⟨rfl, rfl⟩ := hphase hp
      refine .full haccepted ⟨fun hdone => ⟨hok, hlength, ?_⟩, fun hzeros => ?_⟩
      · have hcompletion := hdone.completion
        rw [hexchange] at hcompletion
        exact hcompletion
      · refine ⟨hstatus, ?_, ?_, ?_⟩ <;> rw [hexchange]
        exact hzeros.2.2

/-- An operation other than `adsc` and the bulk transfers passes the gate. -/
theorem passesGate_of_op {e : EngineEvent}
    (h : e.call.op ≠ .adsc ∧ e.call.op ≠ .bulkIn ∧ e.call.op ≠ .bulkOut) : PassesGate e := by
  refine ⟨fun hbulk => hbulk.elim h.2.1 h.2.2, fun block timeoutMs detail hcall => ?_⟩
  rw [hcall] at h
  exact absurd rfl h.1

/-- The exchange of the reset block passes the gate. -/
theorem ResetExchange.gated {reset : ExchangeReply 0} (h : ResetExchange c t reset) :
    ∀ e ∈ t, PassesGate e := by
  have hblock {timeoutMs : ℕ} {detail : ErrorText} {accepted : CbiReply} :
      PassesGate ⟨c, .adsc resetCdb timeoutMs detail, accepted⟩ := by
    refine ⟨by simp [CbiIoOp.IsBulk, CbiIoCall.op], fun block timeoutMs detail hcall => ?_⟩
    cases hcall
    rfl
  cases h with
  | short => exact List.forall_mem_singleton.2 hblock
  | full =>
      refine List.forall_mem_cons.2 ⟨hblock, List.forall_mem_singleton.2 ?_⟩
      exact passesGate_of_op (by simp [CbiIoCall.op])

/-- All calls of a recovery pass the gate. -/
theorem Recovered.gated {out : CbiReply} (h : Recovered c t out c') : ∀ e ∈ t, PassesGate e := by
  -- the calls around the reset move no data, so the gate has nothing to say about them
  have hprepare {detail : ErrorText} {prepared : CbiReply} :
      PassesGate ⟨c, .prepareCommandBlockReset detail, prepared⟩ :=
    passesGate_of_op (by simp [CbiIoCall.op])
  have hpipes {d₂ d₃ d₄ : ErrorText} {clearedIn clearedOut finished : CbiReply}
      {recovered : Bool} : ∀ e ∈ ([⟨c, .clearStall .dataIn d₂, clearedIn⟩,
        ⟨c, .clearStall .dataOut d₃, clearedOut⟩,
        ⟨c, .finishCommandBlockReset recovered d₄, finished⟩] : List EngineEvent),
        PassesGate e := by
    intro e he
    apply passesGate_of_op
    simp only [List.mem_cons, List.not_mem_nil, or_false] at he
    rcases he with rfl | rfl | rfl <;> simp [CbiIoCall.op]
  cases h with
  | idle => exact fun e he => absurd he List.not_mem_nil
  | unprepared => exact List.forall_mem_singleton.2 hprepare
  | unreset _ _ hexchanged =>
      have hreset := (resetExchange_of_exchanged hexchanged).gated
      refine List.forall_mem_cons.2 ⟨hprepare, List.forall_mem_append.2 ⟨hreset, ?_⟩⟩
      exact List.forall_mem_singleton.2 (passesGate_of_op (by simp [CbiIoCall.op]))
  | unfinished _ _ hexchanged | reset _ _ hexchanged =>
      have hreset := (resetExchange_of_exchanged hexchanged).gated
      exact List.forall_mem_cons.2 ⟨hprepare, List.forall_mem_append.2 ⟨hreset, hpipes⟩⟩

/-- A recovery that succeeded is no longer required. -/
theorem Recovered.not_required {out : CbiReply} (h : Recovered c t out c')
    (hok : out.status = .ok) : c'.recoveryRequired = false := by
  cases h with
  | idle hidle => exact hidle
  | unprepared _ hfailed hstatus => exact absurd (hstatus ▸ hok) hfailed
  | unreset _ _ _ _ hstatus => exact absurd hok hstatus
  | unfinished _ _ _ _ _ hstatus => exact absurd hok hstatus
  | reset => rfl

/-- The context before a recovery is the one it starts with. -/
theorem Recovered.nextState_eq {out : CbiReply} (h : Recovered c t out c') :
    nextState t c' = c := by
  cases h <;> rfl

/-- Only the end of a recovery clears the flag. -/
theorem Recovered.everyStep {out : CbiReply} (h : Recovered c t out c') :
    EveryStep ClearedByReset t c' := by
  -- every call but the last one of a completed recovery leaves the context as it was
  have hkept {e : EngineEvent} (hstate : e.state = c) : ClearedByReset e c :=
    clearedByReset_of_kept (by rw [hstate]; exact id)
  have hprepare {detail : ErrorText} {prepared : CbiReply} {t : List EngineEvent}
      {reset : ExchangeReply 0} {s : CbiContext}
      (hexchanged : Exchanged resetCdb .none #v[] c t reset c) :
      ClearedByReset ⟨c, .prepareCommandBlockReset detail, prepared⟩ (nextState t s) := by
    rw [hexchanged.nextState_eq]
    exact hkept rfl
  cases h with
  | idle => exact .nil
  | unprepared => exact .cons (hkept rfl) .nil
  | unreset _ _ hexchanged =>
      rw [← List.cons_append]
      exact .append (.cons (hprepare hexchanged) hexchanged.everyStep) (.cons (hkept rfl) .nil)
  | unfinished _ _ hexchanged =>
      rw [← List.cons_append]
      refine .append (.cons (hprepare hexchanged) hexchanged.everyStep) ?_
      exact .cons (hkept rfl) (.cons (hkept rfl) (.cons (hkept rfl) .nil))
  | reset _ _ hexchanged _ _ _ hfinished =>
      rw [← List.cons_append]
      refine .append (.cons (hprepare hexchanged) hexchanged.everyStep) ?_
      refine .cons (hkept rfl) (.cons (hkept rfl) (.cons ?_ .nil))
      -- the flag is lowered only here, after the pipes were cleared and the reset was finished
      exact fun _ _ => ⟨.inl rfl, hfinished⟩

/-! ## Brackets -/

/-- A trace without operations of a reset. -/
def Unbracketed (t : List EngineEvent) : Prop := ∀ e ∈ t, ¬ e.call.op.IsBracket

/-- A trace without a recovery is bracketed. -/
theorem Bracketed.of_unbracketed (h : Unbracketed t) : Bracketed t := by
  refine ⟨fun u e v heq hop => ?_, fun u e v heq hop => ?_, fun u e v heq hop => ?_⟩
  · exact absurd (.inl hop) (h e (by simp [heq]))
  · exact absurd (.inl hop) (h e (by simp [heq]))
  · exact absurd (.inr hop) (h e (by simp [heq]))

/-- A reset in full, followed by events of no reset. -/
theorem Bracketed.of_prepared {prepare block finish : EngineEvent}
    {between after : List EngineEvent} (hprepare : prepare.call.op = .prepareCommandBlockReset)
    (hok : ioStatusOf prepare = .ok)
    (hrest : ResetSequence (block :: (between ++ finish :: after)) block between finish after) :
    Bracketed (prepare :: block :: (between ++ finish :: after)) := by
  have hblock : ¬ block.call.op.IsBracket := by simp [CbiIoOp.IsBracket, hrest.block_op]
  have hfinish : finish.call.op = .finishCommandBlockReset := by
    obtain ⟨recovered, hfinishes, -⟩ := hrest.told
    obtain ⟨s, call, reply⟩ := finish
    cases call <;> first | rfl | exact hfinishes.elim
  -- the only bracket operations are the first event and `finish`
  have hsplit {u v : List EngineEvent} {e : EngineEvent}
      (heq : prepare :: block :: (between ++ finish :: after) = u ++ e :: v)
      (he : e.call.op.IsBracket) :
      (u = [] ∧ e = prepare ∧ v = block :: (between ++ finish :: after)) ∨
        (e = finish ∧ prepare ∈ u) := by
    rcases u with _ | ⟨e₀, _ | ⟨e₁, u⟩⟩
    · obtain ⟨rfl, rfl⟩ := List.cons.inj heq
      exact .inl ⟨rfl, rfl, rfl⟩
    · simp only [List.cons_append, List.nil_append, List.cons.injEq] at heq
      exact absurd (heq.2.1 ▸ he) hblock
    · simp only [List.cons_append, List.cons.injEq] at heq
      obtain ⟨rfl, rfl, heq⟩ := heq
      have hmem : e ∈ between ++ finish :: after := by simp [heq]
      rcases List.mem_append.1 hmem with hmem | hmem
      · exact absurd he (hrest.between_op e hmem).2
      · rcases List.mem_cons.1 hmem with rfl | hmem
        · exact .inr ⟨rfl, List.mem_cons_self⟩
        · exact absurd he (hrest.after_op e hmem)
  refine ⟨fun u e v heq hop _ => ?_, fun u e v heq hop hfailed => ?_, fun u e v heq hop => ?_⟩
  · rcases hsplit heq (.inl hop) with ⟨-, -, rfl⟩ | ⟨rfl, -⟩
    · exact ⟨block, between, finish, after, hrest⟩
    · rw [hfinish] at hop
      cases hop
  · rcases hsplit heq (.inl hop) with ⟨-, rfl, -⟩ | ⟨rfl, -⟩
    · exact absurd hok hfailed
    · rw [hfinish] at hop
      cases hop
  · rcases hsplit heq (.inr hop) with ⟨-, rfl, -⟩ | ⟨-, hmem⟩
    · rw [hprepare] at hop
      cases hop
    · exact ⟨prepare, hmem, hprepare, hok⟩

/-- The clears and the end after the exchange of the reset block. -/
theorem ResetExchange.bracketed {reset : ExchangeReply 0} {after : List EngineEvent}
    {finish prepare : EngineEvent} {recovered : Bool} (h : ResetExchange c t reset)
    (tail : List EngineEvent) (hprepare : prepare.call.op = .prepareCommandBlockReset)
    (hok : ioStatusOf prepare = .ok)
    (htail : ∀ e ∈ tail, e.call.op = .clearStall) (hfinish : Finishes recovered finish)
    (hafter : Unbracketed after)
    (htold : recovered = true ↔ ResetDone reset ∧ ∃ clearedIn clearedOut,
      tail = [clearedIn, clearedOut] ∧ ClearsPipe .dataIn clearedIn ∧
        ClearsPipe .dataOut clearedOut) :
    Bracketed (prepare :: (t ++ (tail ++ finish :: after))) := by
  have hclear : ∀ e ∈ tail, e.call.op ≠ .adsc ∧ ¬ e.call.op.IsBracket := by
    intro e he
    simp [htail e he, CbiIoOp.IsBracket]
  cases h with
  | short hundone =>
      refine .of_prepared hprepare hok ⟨rfl, rfl, hclear, ⟨recovered, hfinish, ?_⟩, hafter⟩
      rw [htold]
      refine iff_of_false (fun hdone => hundone hdone.1) ?_
      -- without an interrupt, there are at most clears between the block and the end
      rintro ⟨-, interrupt, _, _, rfl, hzeros, -⟩
      have hop := htail interrupt (by simp)
      obtain ⟨s, call, reply⟩ := interrupt
      cases call <;> first | exact hzeros.elim | cases hop
  | full haccepted hdone =>
      refine .of_prepared hprepare hok
        (⟨rfl, rfl, ?_, ⟨recovered, hfinish, ?_⟩, hafter⟩ : ResetSequence _ _ (_ :: tail) _ _)
      · refine List.forall_mem_cons.2 ⟨?_, hclear⟩
        simp [CbiIoCall.op, CbiIoOp.IsBracket]
      · rw [htold, hdone]
        constructor
        · rintro ⟨hzeros, clearedIn, clearedOut, rfl, hin, hout⟩
          exact ⟨haccepted, _, clearedIn, clearedOut, rfl, hzeros, hin, hout⟩
        · rintro ⟨-, interrupt, clearedIn, clearedOut, heq, hzeros, hin, hout⟩
          obtain ⟨rfl, rfl⟩ := List.cons.inj heq
          exact ⟨hzeros, clearedIn, clearedOut, rfl, hin, hout⟩

/-- A recovery brackets its exchange, and what follows it has no bracket. -/
theorem Recovered.bracketed {out : CbiReply} (h : Recovered c t out c') {t' : List EngineEvent}
    (hafter : Unbracketed t') (hfailed : out.status ≠ .ok → t' = []) :
    Bracketed (t ++ t') := by
  cases h with
  | idle => exact .of_unbracketed hafter
  | unprepared _ hbad hstatus =>
      -- nothing follows a failed preparation
      rw [hfailed (hstatus ▸ hbad)]
      refine ⟨fun u e v heq hop hok => ?_, fun u e v heq _ _ => ?_, fun u e v heq hop => ?_⟩
      all_goals
        rcases u with _ | ⟨e₁, u⟩
        · obtain ⟨rfl, rfl⟩ := List.cons.inj heq
          first
            | exact absurd hok hbad
            | exact fun e' he' => absurd he' List.not_mem_nil
            | cases hop
        · simp at heq
  | unreset _ hprepared hexchanged hundone =>
      rw [List.cons_append, List.append_assoc]
      refine (resetExchange_of_exchanged hexchanged).bracketed [] rfl hprepared (by simp)
        rfl hafter ?_
      simp
  | @unfinished _ _ _ _ _ _ clearedIn clearedOut _ _ _ _ hprepared hexchanged hdone =>
      rw [List.cons_append, List.append_assoc]
      refine (resetExchange_of_exchanged hexchanged).bracketed [_, _] rfl hprepared
        (by simp [CbiIoCall.op]) rfl hafter ?_
      simp [hdone, ClearsPipe]
  | reset _ hprepared hexchanged hdone hin hout =>
      rw [List.cons_append, List.append_assoc]
      refine (resetExchange_of_exchanged hexchanged).bracketed [_, _] rfl hprepared
        (by simp [CbiIoCall.op]) rfl hafter ?_
      simp [hdone, ClearsPipe, hin, hout]

/-! ## Calls -/

/-- The context before the engine's REQUEST SENSE is the one it starts with. -/
theorem Fetched.nextState_eq {out : SenseReply} (h : Fetched c t out c') (s : CbiContext) :
    nextState t s = c := by
  cases h with
  | failed hexchanged => exact hexchanged.nextState_eq s
  | rejected hexchanged => exact hexchanged.nextState_eq s
  | fetched hexchanged => exact hexchanged.nextState_eq s

/-- What the gate sees of a part of `cbi_execute` that starts in the context `c`. -/
structure Passage (c : CbiContext) (t : List EngineEvent) (c' : CbiContext) : Prop where
  starts : nextState t c' = c
  state_eq : ∀ e ∈ t, e.state = c
  cleared : EveryStep ClearedByReset t c'
  unbracketed : Unbracketed t

/-- An exchange that leaves the context alone or marks it, and a mark of the engine after it. -/
theorem Exchanged.passage {cdb : Vector UInt8 cbiCdbLength} {direction : DataDirection}
    {buffer : Vector UInt8 n} {out : ExchangeReply n} {c₁ : CbiContext}
    (h : Exchanged cdb direction buffer c t out c₁)
    (hkept : c.recoveryRequired = true → c'.recoveryRequired = true) : Passage c t c' :=
  ⟨h.nextState_eq c', h.state_eq, everyStep_of_kept h.state_eq hkept, h.not_isBracket⟩

/-- Two passages follow each other. -/
theorem Passage.append {t' : List EngineEvent} (h : Passage c t c) (h' : Passage c t' c') :
    Passage c (t ++ t') c' := by
  refine ⟨?_, fun e he => ?_, .append ?_ h'.cleared, fun e he => ?_⟩
  · rw [nextState_append, h'.starts]
    exact h.starts
  · exact (List.mem_append.1 he).elim (h.state_eq e) (h'.state_eq e)
  · rw [h'.starts]
    exact h.cleared
  · exact (List.mem_append.1 he).elim (h.unbracketed e) (h'.unbracketed e)

/-- The engine's REQUEST SENSE passes the gate. -/
theorem Fetched.passage {out : SenseReply} {c₁ : CbiContext} (h : Fetched c t out c₁)
    (hkept : c₁.recoveryRequired = true → c'.recoveryRequired = true) : Passage c t c' := by
  cases h with
  | failed hexchanged =>
      obtain ⟨lost, hmarked⟩ := hexchanged.marked
      exact hexchanged.passage fun hset => hkept (hmarked.kept_flag hset)
  | rejected hexchanged _ _ hmarked =>
      exact hexchanged.passage fun hset => hkept (hmarked.kept_flag hset)
  | fetched hexchanged => exact hexchanged.passage hkept

/-- A REQUEST SENSE of the caller passes the gate. -/
theorem SenseExecuted.passage {padded : Vector UInt8 cbiCdbLength} {buffer : Vector UInt8 n}
    {out : ExecuteReply n} (h : SenseExecuted padded buffer c t out c') : Passage c t c' := by
  cases h with
  | failed hexchanged =>
      obtain ⟨lost, hmarked⟩ := hexchanged.marked
      exact hexchanged.passage hmarked.kept_flag
  | rejected hexchanged _ _ hmarked => exact hexchanged.passage hmarked.kept_flag
  | answered hexchanged => exact hexchanged.passage id

/-- Any other command passes the gate. -/
theorem CommandExecuted.passage {opcode : UInt8} {padded : Vector UInt8 cbiCdbLength}
    {direction : DataDirection} {buffer : Vector UInt8 n} {out : ExecuteReply n}
    (h : CommandExecuted opcode padded direction buffer c t out c') : Passage c t c' := by
  cases h with
  | failed hexchanged =>
      obtain ⟨lost, hmarked⟩ := hexchanged.marked
      exact hexchanged.passage hmarked.kept_flag
  | unsensed hexchanged _ hfetched => exact (hexchanged.passage id).append (hfetched.passage id)
  | rejected hexchanged _ hfetched _ _ hmarked =>
      exact (hexchanged.passage id).append (hfetched.passage hmarked.kept_flag)
  | answered hexchanged _ hfetched => exact (hexchanged.passage id).append (hfetched.passage id)

/-- What one call does about recovery. -/
structure GatedCall (before : CbiContext) (t : List EngineEvent) (after : CbiContext) : Prop where
  gated : ∀ e ∈ t, e.state.recoveryRequired = true → PassesGate e
  bracketed : Bracketed t
  starts : nextState t after = before
  cleared : EveryStep ClearedByReset t after

/-- A recovery, and what follows it when it succeeded. -/
theorem Recovered.gatedCall {out : CbiReply} {c₁ : CbiContext} {t' : List EngineEvent}
    (h : Recovered c t out c₁) (hok : out.status = .ok) (hpassage : Passage c₁ t' c') :
    GatedCall c (t ++ t') c' := by
  refine ⟨fun e he hset => ?_, ?_, ?_, ?_⟩
  · rcases List.mem_append.1 he with he | he
    · exact h.gated e he
    · rw [hpassage.state_eq e he, h.not_required hok] at hset
      cases hset
  · exact h.bracketed hpassage.unbracketed fun hbad => absurd hok hbad
  · rw [nextState_append, hpassage.starts]
    exact h.nextState_eq
  · refine .append ?_ hpassage.cleared
    rw [hpassage.starts]
    exact h.everyStep

/-- The execution of a command keeps to the gate. -/
theorem Executed.gatedCall {command : Command} {out : ExecuteReply command.dataLength}
    (h : Executed command c t out c') : GatedCall c t c' := by
  cases h with
  | refused => exact ⟨by simp, .of_unbracketed (by simp [Unbracketed]), rfl, .nil⟩
  | unrecovered _ hrecovered =>
      have hbracketed : Bracketed (t ++ []) :=
        hrecovered.bracketed (by simp [Unbracketed]) fun _ => rfl
      rw [List.append_nil] at hbracketed
      exact ⟨fun e he _ => hrecovered.gated e he, hbracketed, hrecovered.nextState_eq,
        hrecovered.everyStep⟩
  | sense _ hrecovered hok _ hexecuted => exact hrecovered.gatedCall hok hexecuted.passage
  | command _ hrecovered hok _ hexecuted => exact hrecovered.gatedCall hok hexecuted.passage

/-- Opening the interface keeps to the gate. -/
theorem Acquired.gatedCall {out : StatusReply} (h : Acquired c t out c') : GatedCall c t c' := by
  have hcall {detail : ErrorText} {reply : CbiReply} {c' : CbiContext}
      (hstep : ClearedByReset ⟨c, .openSeize detail, reply⟩ c') :
      GatedCall c [⟨c, .openSeize detail, reply⟩] c' := by
    refine ⟨fun e he _ => ?_, .of_unbracketed ?_, rfl, .cons hstep .nil⟩
    · rw [List.mem_singleton.1 he]
      exact passesGate_of_op (by simp [CbiIoCall.op])
    · simp [Unbracketed, CbiIoOp.IsBracket, CbiIoCall.op]
  cases h with
  | held => exact ⟨by simp, .of_unbracketed (by simp [Unbracketed]), rfl, .nil⟩
  | opened _ hok => exact hcall fun _ _ => ⟨.inr rfl, hok⟩
  | failed => exact hcall (clearedByReset_of_kept id)

/-- Closing the interface keeps to the gate. -/
theorem Closed.gatedCall {out : StatusReply} (h : Closed c t out c') : GatedCall c t c' := by
  have hcall {detail : ErrorText} {reply : CbiReply} {c' : CbiContext}
      (hkept : c'.recoveryRequired = c.recoveryRequired) :
      GatedCall c [⟨c, .close detail, reply⟩] c' := by
    refine ⟨fun e he _ => ?_, .of_unbracketed ?_, rfl, .cons ?_ .nil⟩
    · rw [List.mem_singleton.1 he]
      exact passesGate_of_op (by simp [CbiIoCall.op])
    · simp [Unbracketed, CbiIoOp.IsBracket, CbiIoCall.op]
    · exact clearedByReset_of_kept fun hset => hkept.trans hset
  cases h with
  | idle => exact ⟨by simp, .of_unbracketed (by simp [Unbracketed]), rfl, .nil⟩
  | closed => exact hcall rfl
  | failed => exact hcall rfl

/-- Every call of the transport keeps to the gate. -/
theorem gatedCall_of_handled (call : Handled cbiTransport) :
    GatedCall call.before call.trace call.after := by
  obtain ⟨call, reply, before, trace, after, hexec⟩ := call
  cases call with
  | acquireExclusive => exact (acquired_of_exec hexec).gatedCall
  | execute => exact (executed_of_exec hexec).gatedCall
  | releaseExclusive => exact (closed_of_exec hexec).gatedCall

/-- The recovery gate holds in every session. -/
theorem cbiTransport_recoveryGate {c : CbiContext} (r : Session cbiTransport c) :
    RecoveryGate r := by
  obtain ⟨hstarts, hcleared⟩ := r.everyStep fun call =>
    ⟨(gatedCall_of_handled call).starts, (gatedCall_of_handled call).cleared⟩
  refine ⟨fun e he => ?_, fun call _ => (gatedCall_of_handled call).bracketed, hstarts, hcleared⟩
  obtain ⟨call, -, he⟩ := List.mem_flatMap.1 he
  exact (gatedCall_of_handled call).gated e he

end M65
