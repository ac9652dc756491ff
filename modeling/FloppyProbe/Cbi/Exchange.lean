import FloppyProbe.Cbi.Engine

/-!
# What the engine can do

The cases of the functions of the engine, as inductive relations with one constructor for each
way through the function, and a lemma for each function that every execution of it is one of these
cases. The results about the engine are read off these relations.

Of the error texts, the relations keep nothing; `Marked` says what becomes of the context.
-/

namespace M65

open Interaction

variable {c c' : CbiContext} {t : List EngineEvent} {n : ℕ}

/-! ## Flags -/

/-- From the context `c` to `c'`, nothing happens but that a recovery became required if `lost` is
true. -/
structure Marked (c : CbiContext) (lost : Bool) (c' : CbiContext) : Prop where
  opened : c'.opened = c.opened
  recoveryRequired : c'.recoveryRequired = (c.recoveryRequired || lost)
  kept : c.recoveryRequired = true → c' = c

/-- A context that was left alone is marked with nothing. -/
theorem Marked.refl (c : CbiContext) : Marked c false c := ⟨rfl, by simp, fun _ => rfl⟩

/-- Requiring the recovery marks the context. -/
theorem marked_requireRecovery (c : CbiContext) (detail : ErrorText) (fallback : String) :
    Marked c true (c.requireRecovery detail fallback) := by
  unfold CbiContext.requireRecovery
  by_cases h : c.recoveryRequired = true
  · rw [if_pos h]
    exact ⟨rfl, by simp [h], fun _ => rfl⟩
  · rw [if_neg h]
    exact ⟨rfl, by simp, fun hrequired => absurd hrequired h⟩

/-- Requiring the recovery makes no call. -/
theorem exec_requireRecovery {detail : ErrorText} {fallback : String} {u : Unit} :
    Exec (requireRecovery detail fallback) c t u c' ↔
      t = [] ∧ c' = c.requireRecovery detail fallback := exec_modify

/-- A failed operation of an exchange marks the context when its status loses the phase. -/
theorem marked_of_phaseIoFailure {status : CbiIoStatus} {operation : String} {detail : ErrorText}
    {reply : CbiReply} (h : Exec (phaseIoFailure status operation detail) c t reply c') :
    t = [] ∧ reply.status = status ∧ Marked c (ioStatusLosesPhase status) c' := by
  unfold phaseIoFailure at h
  simp only [exec_ite, exec_bind, exec_pure, exec_requireRecovery] at h
  rcases h with ⟨hloses, _, _, _, _, ⟨rfl, rfl⟩, ⟨rfl, rfl, rfl⟩, rfl⟩ | ⟨hkeeps, rfl, rfl, rfl⟩
  · exact ⟨rfl, rfl, by rw [hloses]; exact marked_requireRecovery _ _ _⟩
  · refine ⟨rfl, rfl, ?_⟩
    rw [Bool.eq_false_iff.2 hkeeps]
    exact .refl _

/-! ## One exchange -/

/-- The bulk transfer of an exchange. -/
inductive Moved (direction : DataDirection) (buffer : Vector UInt8 n) (c : CbiContext) :
    List EngineEvent → BulkInReply n → Prop
  | none {detail : ErrorText} (hdirection : direction = .none) :
      Moved direction buffer c [] ⟨⟨.ok, detail⟩, buffer, 0⟩
  | dataIn {timeoutMs : ℕ} {detail : ErrorText} {reply : BulkInReply n}
      (hdirection : direction = .dataIn) :
      Moved direction buffer c [⟨c, .bulkIn buffer timeoutMs detail, reply⟩] reply
  | dataOut {timeoutMs : ℕ} {detail : ErrorText} {reply : BulkOutReply}
      (hdirection : direction = .dataOut) :
      Moved direction buffer c [⟨c, .bulkOut buffer timeoutMs detail, reply⟩]
        ⟨⟨reply.status, reply.detail⟩, buffer, reply.transferred⟩

/-- The data phase is one bulk transfer at most. -/
theorem moved_of_exec {direction : DataDirection} {buffer : Vector UInt8 n} {timeoutMs : ℕ}
    {detail : ErrorText} {reply : BulkInReply n}
    (h : Exec (bulkTransfer direction buffer timeoutMs detail) c t reply c') :
    Moved direction buffer c t reply ∧ c' = c := by
  cases direction with
  | none =>
      obtain ⟨rfl, rfl, rfl⟩ := exec_pure.1 h
      exact ⟨.none rfl, rfl⟩
  | dataIn =>
      obtain ⟨rfl, rfl⟩ := exec_call.1 h
      exact ⟨.dataIn rfl, rfl⟩
  | dataOut =>
      simp only [bulkTransfer, exec_bind, exec_call, exec_pure] at h
      obtain ⟨_, reply, _, _, ⟨rfl, rfl⟩, ⟨rfl, rfl, rfl⟩, rfl⟩ := h
      exact ⟨.dataOut rfl, rfl⟩

/-- A data phase after which the completion is awaited: whether the bulk pipe stalled, and what was
moved. -/
inductive DataPhase (direction : DataDirection) (buffer : Vector UInt8 n) (c : CbiContext) :
    List EngineEvent → Bool → BulkInReply n → Prop
  | moved {t : List EngineEvent} {data : BulkInReply n} (hmoved : Moved direction buffer c t data)
      (hok : data.status = .ok) (hfits : data.transferred ≤ n) :
      DataPhase direction buffer c t false data
  | cleared {t : List EngineEvent} {data : BulkInReply n} {detail : ErrorText} {reply : CbiReply}
      (hmoved : Moved direction buffer c t data) (hstall : data.status = .stall)
      (hok : reply.status = .ok) :
      DataPhase direction buffer c (t ++ [⟨c, .clearStall direction detail, reply⟩]) true data

/-- What `run_exchange` can do: the trace, what the caller gets, and the context after it. -/
inductive Exchanged (cdb : Vector UInt8 cbiCdbLength) (direction : DataDirection)
    (buffer : Vector UInt8 n) (c : CbiContext) :
    List EngineEvent → ExchangeReply n → CbiContext → Prop
  | adscStalled {timeoutMs : ℕ} {detail : ErrorText} {accepted : CbiReply}
      {out : ExchangeReply n} (hstall : accepted.status = .stall) (hstatus : out.status = .ok)
      (hexchange : out.exchange = { adscStalled := true }) (hbuffer : out.buffer = buffer) :
      Exchanged cdb direction buffer c [⟨c, .adsc cdb timeoutMs detail, accepted⟩] out c
  | adscFailed {timeoutMs : ℕ} {detail : ErrorText} {accepted : CbiReply}
      {out : ExchangeReply n} {c' : CbiContext} (hfailed : accepted.status ≠ .ok)
      (hnostall : accepted.status ≠ .stall) (hstatus : out.status = accepted.status)
      (hmarked : Marked c (ioStatusLosesPhase accepted.status) c') :
      Exchanged cdb direction buffer c [⟨c, .adsc cdb timeoutMs detail, accepted⟩] out c'
  | bulkFailed {timeoutMs : ℕ} {detail : ErrorText} {accepted : CbiReply}
      {t : List EngineEvent} {data : BulkInReply n} {out : ExchangeReply n} {c' : CbiContext}
      (haccepted : accepted.status = .ok) (hmoved : Moved direction buffer c t data)
      (hfailed : data.status ≠ .ok) (hnostall : data.status ≠ .stall)
      (hstatus : out.status = data.status)
      (hmarked : Marked c (ioStatusLosesPhase data.status) c') :
      Exchanged cdb direction buffer c (⟨c, .adsc cdb timeoutMs detail, accepted⟩ :: t) out c'
  | overrun {timeoutMs : ℕ} {detail : ErrorText} {accepted : CbiReply}
      {t : List EngineEvent} {data : BulkInReply n} {out : ExchangeReply n} {c' : CbiContext}
      (haccepted : accepted.status = .ok) (hmoved : Moved direction buffer c t data)
      (hok : data.status = .ok) (hlarge : n < data.transferred)
      (hstatus : out.status = .protocol) (hmarked : Marked c true c') :
      Exchanged cdb direction buffer c (⟨c, .adsc cdb timeoutMs detail, accepted⟩ :: t) out c'
  | clearFailed {timeoutMs : ℕ} {detail detail' : ErrorText} {accepted cleared : CbiReply}
      {t : List EngineEvent} {data : BulkInReply n} {out : ExchangeReply n} {c' : CbiContext}
      (haccepted : accepted.status = .ok) (hmoved : Moved direction buffer c t data)
      (hstall : data.status = .stall) (hfailed : cleared.status ≠ .ok)
      (hstatus : out.status = cleared.status)
      (hmarked : Marked c (ioStatusLosesPhase cleared.status) c') :
      Exchanged cdb direction buffer c (⟨c, .adsc cdb timeoutMs detail, accepted⟩ ::
        (t ++ [⟨c, .clearStall direction detail', cleared⟩])) out c'
  | interruptFailed {timeoutMs : ℕ} {detail detail' : ErrorText} {accepted : CbiReply}
      {t : List EngineEvent} {stalled : Bool} {data : BulkInReply n}
      {completion : Vector UInt8 cbiStatusLength} {interrupt : InterruptReply}
      {out : ExchangeReply n} {c' : CbiContext} (haccepted : accepted.status = .ok)
      (hphase : DataPhase direction buffer c t stalled data) (hfailed : interrupt.status ≠ .ok)
      (hstatus : out.status = interrupt.status)
      (hmarked : Marked c (ioStatusLosesPhase interrupt.status) c') :
      Exchanged cdb direction buffer c (⟨c, .adsc cdb timeoutMs detail, accepted⟩ ::
        (t ++ [⟨c, .interruptInWithDeadline completion timeoutMs detail', interrupt⟩])) out c'
  | interruptShort {timeoutMs : ℕ} {detail detail' : ErrorText} {accepted : CbiReply}
      {t : List EngineEvent} {stalled : Bool} {data : BulkInReply n}
      {completion : Vector UInt8 cbiStatusLength} {interrupt : InterruptReply}
      {out : ExchangeReply n} {c' : CbiContext} (haccepted : accepted.status = .ok)
      (hphase : DataPhase direction buffer c t stalled data) (hok : interrupt.status = .ok)
      (hlength : interrupt.transferred ≠ cbiStatusLength) (hstatus : out.status = .protocol)
      (hmarked : Marked c true c') :
      Exchanged cdb direction buffer c (⟨c, .adsc cdb timeoutMs detail, accepted⟩ ::
        (t ++ [⟨c, .interruptInWithDeadline completion timeoutMs detail', interrupt⟩])) out c'
  | completed {timeoutMs : ℕ} {detail detail' : ErrorText} {accepted : CbiReply}
      {t : List EngineEvent} {stalled : Bool} {data : BulkInReply n}
      {completion : Vector UInt8 cbiStatusLength} {interrupt : InterruptReply}
      {out : ExchangeReply n} (haccepted : accepted.status = .ok)
      (hphase : DataPhase direction buffer c t stalled data) (hok : interrupt.status = .ok)
      (hlength : interrupt.transferred = cbiStatusLength) (hstatus : out.status = .ok)
      (hexchange : out.exchange = ⟨false, stalled, data.transferred, interrupt.completion⟩)
      (hbuffer : out.buffer = data.buffer) :
      Exchanged cdb direction buffer c (⟨c, .adsc cdb timeoutMs detail, accepted⟩ ::
        (t ++ [⟨c, .interruptInWithDeadline completion timeoutMs detail', interrupt⟩])) out c

/-- Every execution of `run_exchange` is one of its cases. -/
theorem exchanged_of_exec {cdb : Vector UInt8 cbiCdbLength} {direction : DataDirection}
    {buffer : Vector UInt8 n} {timeoutMs : ℕ} {detail : ErrorText} {out : ExchangeReply n}
    (h : Exec (runExchange cdb direction buffer timeoutMs detail) c t out c') :
    Exchanged cdb direction buffer c t out c' := by
  -- the end of an exchange whose data phase is over
  have hawait {accepted : CbiReply} {t₁ t₂ : List EngineEvent} {stalled : Bool}
      {data : BulkInReply n} {detail' : ErrorText} (haccepted : accepted.status = .ok)
      (hphase : DataPhase direction buffer c t₁ stalled data)
      (hrest : Exec (awaitCompletion ⟨false, stalled, data.transferred, Vector.replicate _ 0⟩
        data.buffer timeoutMs detail') c t₂ out c') :
      Exchanged cdb direction buffer c
        (⟨c, .adsc cdb timeoutMs detail, accepted⟩ :: (t₁ ++ t₂)) out c' := by
    unfold awaitCompletion at hrest
    simp only [exec_bind, exec_call, exec_ite, exec_pure, exec_requireRecovery] at hrest
    obtain ⟨_, interrupt, _, _, ⟨rfl, rfl⟩, hrest, rfl⟩ := hrest
    rcases hrest with ⟨hfailed, _, _, _, _, hphaseFailure, ⟨rfl, rfl, rfl⟩, rfl⟩ | ⟨hok, hrest⟩
    · obtain ⟨rfl, hstatus, hmarked⟩ := marked_of_phaseIoFailure hphaseFailure
      exact .interruptFailed haccepted hphase hfailed hstatus hmarked
    have hok : interrupt.status = .ok := of_not_not hok
    rcases hrest with ⟨hlength, _, _, _, _, ⟨rfl, rfl⟩, ⟨rfl, rfl, rfl⟩, rfl⟩ |
      ⟨hlength, rfl, rfl, rfl⟩
    · exact .interruptShort haccepted hphase hok hlength rfl (marked_requireRecovery _ _ _)
    · exact .completed haccepted hphase hok (of_not_not hlength) rfl rfl rfl
  unfold runExchange at h
  simp only [exec_bind, exec_call, exec_ite, exec_pure, exec_requireRecovery] at h
  obtain ⟨_, accepted, _, _, ⟨rfl, rfl⟩, h, rfl⟩ := h
  rcases h with ⟨hstall, rfl, rfl, rfl⟩ | ⟨hnostall, h⟩
  · exact .adscStalled hstall rfl rfl rfl
  rcases h with ⟨hfailed, _, _, _, _, hphaseFailure, ⟨rfl, rfl, rfl⟩, rfl⟩ | ⟨haccepted, h⟩
  · obtain ⟨rfl, hstatus, hmarked⟩ := marked_of_phaseIoFailure hphaseFailure
    exact .adscFailed hfailed hnostall hstatus hmarked
  have haccepted : accepted.status = .ok := of_not_not haccepted
  obtain ⟨t₁, data, _, _, hbulk, h, rfl⟩ := h
  obtain ⟨hmoved, rfl⟩ := moved_of_exec hbulk
  rcases h with ⟨hstall, h⟩ | ⟨hnostall, h⟩
  · obtain ⟨_, cleared, _, _, ⟨rfl, rfl⟩, h, rfl⟩ := h
    rcases h with ⟨hfailed, _, _, _, _, hphaseFailure, ⟨rfl, rfl, rfl⟩, rfl⟩ | ⟨hok, h⟩
    · obtain ⟨rfl, hstatus, hmarked⟩ := marked_of_phaseIoFailure hphaseFailure
      exact .clearFailed haccepted hmoved hstall hfailed hstatus hmarked
    · have hphase : DataPhase direction buffer _
          (t₁ ++ [⟨_, .clearStall direction data.detail, cleared⟩]) true data :=
        .cleared hmoved hstall (of_not_not hok)
      have hexchanged := hawait haccepted hphase h
      rwa [List.append_assoc] at hexchanged
  rcases h with ⟨hfailed, _, _, _, _, hphaseFailure, ⟨rfl, rfl, rfl⟩, rfl⟩ | ⟨hok, h⟩
  · obtain ⟨rfl, hstatus, hmarked⟩ := marked_of_phaseIoFailure hphaseFailure
    simp only [List.append_nil, List.singleton_append]
    exact .bulkFailed haccepted hmoved hfailed hnostall hstatus hmarked
  have hok : data.status = .ok := of_not_not hok
  rcases h with ⟨hlarge, _, _, _, _, ⟨rfl, rfl⟩, ⟨rfl, rfl, rfl⟩, rfl⟩ | ⟨hfits, h⟩
  · simp only [List.append_nil, List.singleton_append]
    exact .overrun haccepted hmoved hok hlarge rfl (marked_requireRecovery _ _ _)
  · have hphase := DataPhase.moved hmoved hok (Nat.le_of_not_lt hfits)
    have hexchanged := hawait haccepted hphase h
    exact hexchanged

namespace Exchanged

variable {cdb : Vector UInt8 cbiCdbLength} {direction : DataDirection} {buffer : Vector UInt8 n}
  {out : ExchangeReply n}

/-- The context changes after the last call only. -/
theorem state_eq (h : Exchanged cdb direction buffer c t out c') : ∀ e ∈ t, e.state = c := by
  have hmoved {t : List EngineEvent} {data : BulkInReply n} (hm : Moved direction buffer c t data) :
      ∀ e ∈ t, e.state = c := by
    cases hm <;> simp
  have hphase {t : List EngineEvent} {stalled : Bool} {data : BulkInReply n}
      (hp : DataPhase direction buffer c t stalled data) : ∀ e ∈ t, e.state = c := by
    cases hp with
    | moved hm => exact hmoved hm
    | cleared hm => simpa [or_imp, forall_and] using hmoved hm
  cases h with
  | adscStalled => simp
  | adscFailed => simp
  | bulkFailed _ hm => simpa using hmoved hm
  | overrun _ hm => simpa using hmoved hm
  | clearFailed _ hm => simpa [or_imp, forall_and] using hmoved hm
  | interruptFailed _ hp => simpa [or_imp, forall_and] using hphase hp
  | interruptShort _ hp => simpa [or_imp, forall_and] using hphase hp
  | completed _ hp => simpa [or_imp, forall_and] using hphase hp

/-- An exchange marks the context at most. -/
theorem marked (h : Exchanged cdb direction buffer c t out c') : ∃ lost, Marked c lost c' := by
  cases h with
  | adscStalled => exact ⟨_, .refl c⟩
  | completed => exact ⟨_, .refl c⟩
  | _ => exact ⟨_, ‹_›⟩

/-- An exchange that went well leaves the context alone. -/
theorem context_of_ok (h : Exchanged cdb direction buffer c t out c') (hok : out.status = .ok) :
    c' = c := by
  cases h <;> first | rfl | simp_all

end Exchanged

end M65
