import FloppyProbe.Cbi.Exchange

/-!
# What a call of the transport can do

The cases of `recoverIfRequired`, `fetchSense` and of the three operations of the transport, on
top of the cases of an exchange. An execution that the adapter sees is a recovery (`Recovered`), an
exchange, and mostly the engine's own REQUEST SENSE (`Fetched`).
-/

namespace M65

open Interaction

variable {c c' : CbiContext} {t : List EngineEvent} {n : ℕ}

/-- Only a success of the adapter is a success of the transport. -/
@[simp]
theorem mapIoStatus_eq_ok_iff {status : CbiIoStatus} : mapIoStatus status = .ok ↔ status = .ok := by
  cases status <;> simp [mapIoStatus]

/-! ## Recovery -/

/-- The context after a successful recovery. -/
def CbiContext.recovered (c : CbiContext) : CbiContext :=
  { c with recoveryRequired := false, recoveryDetail := Text.empty }

/-- The reset block was accepted and completed with two zero bytes. -/
structure ResetDone (reset : ExchangeReply 0) : Prop where
  status : reset.status = .ok
  accepted : reset.exchange.adscStalled = false
  unstalled : reset.exchange.dataStalled = false
  completion : reset.exchange.completion = Vector.replicate cbiStatusLength 0

/-- The reset has no failure exactly when its exchange went well. -/
theorem resetFailure_first_eq_ok_iff {reset : ExchangeReply 0} :
    (resetFailure reset).first = .ok ↔ ResetDone reset := by
  unfold resetFailure
  constructor
  · intro h
    split at h
    · contradiction
    · next hok =>
        simp only [apply_ite RecoveryFailure.first] at h
        refine ⟨of_not_not hok, ?_, ?_, ?_⟩ <;> by_contra hbad <;> simp_all
  · rintro ⟨hok, haccepted, hunstalled, hcompletion⟩
    simp [hok, haccepted, hunstalled, hcompletion]

/-- What `recover_if_required` can do. -/
inductive Recovered (c : CbiContext) : List EngineEvent → CbiReply → CbiContext → Prop
  | idle {out : CbiReply} (hidle : c.recoveryRequired = false) (hstatus : out.status = .ok) :
      Recovered c [] out c
  | unprepared {detail : ErrorText} {prepared out : CbiReply}
      (hrequired : c.recoveryRequired = true) (hfailed : prepared.status ≠ .ok)
      (hstatus : out.status = prepared.status) :
      Recovered c [⟨c, .prepareCommandBlockReset detail, prepared⟩] out c
  /-- The exchange of the reset block failed. -/
  | unreset {t : List EngineEvent} {detail detail' : ErrorText} {prepared finished out : CbiReply}
      {reset : ExchangeReply 0} (hrequired : c.recoveryRequired = true)
      (hprepared : prepared.status = .ok)
      (hexchanged : Exchanged resetCdb .none #v[] c t reset c) (hundone : ¬ ResetDone reset)
      (hstatus : out.status ≠ .ok) :
      Recovered c (⟨c, .prepareCommandBlockReset detail, prepared⟩ ::
        (t ++ [⟨c, .finishCommandBlockReset false detail', finished⟩])) out c
  /-- Clearing the bulk pipes or the end of the reset failed. -/
  | unfinished {t : List EngineEvent} {d₁ d₂ d₃ d₄ : ErrorText}
      {prepared clearedIn clearedOut finished out : CbiReply} {reset : ExchangeReply 0}
      (hrequired : c.recoveryRequired = true) (hprepared : prepared.status = .ok)
      (hexchanged : Exchanged resetCdb .none #v[] c t reset c) (hdone : ResetDone reset)
      (hfailed : ¬ (clearedIn.status = .ok ∧ clearedOut.status = .ok ∧ finished.status = .ok))
      (hstatus : out.status ≠ .ok) :
      Recovered c (⟨c, .prepareCommandBlockReset d₁, prepared⟩ :: (t ++
        [⟨c, .clearStall .dataIn d₂, clearedIn⟩, ⟨c, .clearStall .dataOut d₃, clearedOut⟩,
          ⟨c, .finishCommandBlockReset
            (decide (clearedIn.status = .ok ∧ clearedOut.status = .ok)) d₄, finished⟩])) out c
  | reset {t : List EngineEvent} {d₁ d₂ d₃ d₄ : ErrorText}
      {prepared clearedIn clearedOut finished out : CbiReply} {reset : ExchangeReply 0}
      (hrequired : c.recoveryRequired = true) (hprepared : prepared.status = .ok)
      (hexchanged : Exchanged resetCdb .none #v[] c t reset c) (hdone : ResetDone reset)
      (hin : clearedIn.status = .ok) (hout : clearedOut.status = .ok)
      (hfinished : finished.status = .ok) (hstatus : out.status = .ok) :
      Recovered c (⟨c, .prepareCommandBlockReset d₁, prepared⟩ :: (t ++
        [⟨c, .clearStall .dataIn d₂, clearedIn⟩, ⟨c, .clearStall .dataOut d₃, clearedOut⟩,
          ⟨c, .finishCommandBlockReset true d₄, finished⟩])) out c.recovered

/-- A failure stays, and a call that fails adds one. -/
theorem RecoveryFailure.add_first_eq_ok_iff (failure : RecoveryFailure) (reply : CbiReply)
    (operation : String) :
    (failure.add reply operation).first = .ok ↔ failure.first = .ok ∧ reply.status = .ok := by
  unfold RecoveryFailure.add
  by_cases h : reply.status = .ok
  · simp [h]
  · by_cases hfirst : failure.first = .ok <;> simp [h, hfirst]

/-- Every execution of `recover_if_required` is one of its cases. -/
theorem recovered_of_exec {timeoutMs : ℕ} {detail : ErrorText} {out : CbiReply}
    (h : Exec (recoverIfRequired timeoutMs detail) c t out c') : Recovered c t out c' := by
  unfold recoverIfRequired at h
  simp only [exec_get_bind, exec_call_bind, exec_ite, exec_pure] at h
  rcases h with ⟨hidle, rfl, rfl, rfl⟩ | ⟨hrequired, prepared, _, h, rfl⟩
  · exact .idle (by simpa using hidle) rfl
  have hrequired : c.recoveryRequired = true := by simpa using hrequired
  rcases h with ⟨hfailed, rfl, rfl, rfl⟩ | ⟨hprepared, h⟩
  · exact .unprepared hrequired hfailed rfl
  have hprepared : prepared.status = .ok := of_not_not hprepared
  -- the reset exchange marks nothing new: the requirement is already set
  unfold resetCommandBlock at h
  rw [exec_bind] at h
  obtain ⟨t₁, reset, c₁, _, hreset, h, rfl⟩ := h
  have hexchanged := exchanged_of_exec hreset
  obtain ⟨lost, hmarked⟩ := hexchanged.marked
  obtain rfl := hmarked.kept hrequired
  rw [exec_bind] at h
  obtain ⟨t₂, failure, c₂, _, hpipes, h, rfl⟩ := h
  -- the pipes are cleared only when the reset block itself was done
  unfold clearBulkPipes at hpipes
  simp only [exec_call_bind, exec_ite, exec_pure, ne_eq, resetFailure_first_eq_ok_iff] at hpipes
  simp only [exec_call_bind, exec_get_bind, exec_modify_bind, exec_ite, exec_pure,
    RecoveryFailure.add_first_eq_ok_iff] at h
  obtain ⟨finished, _, h, rfl⟩ := h
  rcases hpipes with ⟨hundone, rfl, rfl, rfl⟩ |
    ⟨hdone, clearedIn, _, ⟨clearedOut, _, ⟨rfl, rfl, rfl⟩, rfl⟩, rfl⟩
  -- no reset: the adapter is told that nothing was recovered, and the first failure is kept
  · have hfirst : (resetFailure reset).first ≠ .ok := by rwa [ne_eq, resetFailure_first_eq_ok_iff]
    rcases h with ⟨⟨hok, -⟩, -⟩ | ⟨-, rfl, rfl, rfl⟩
    · exact absurd hok hfirst
    · have hrecovered : ((resetFailure reset).first == .ok) = false := by simpa using hfirst
      rw [hrecovered]
      refine .unreset hrequired hprepared hexchanged hundone ?_
      rw [ne_eq, RecoveryFailure.add_first_eq_ok_iff]
      exact fun hok => hfirst hok.1
  -- reset: what the adapter is told is whether both pipes were cleared
  · have hdone : ResetDone reset := of_not_not hdone
    have hfirst : (((resetFailure reset).add clearedIn "clear bulk-IN after CBI reset").add
        clearedOut "clear bulk-OUT after CBI reset").first = .ok ↔
          clearedIn.status = .ok ∧ clearedOut.status = .ok := by
      simp only [RecoveryFailure.add_first_eq_ok_iff, resetFailure_first_eq_ok_iff, hdone,
        true_and]
    have hrecovered : ((((resetFailure reset).add clearedIn "clear bulk-IN after CBI reset").add
        clearedOut "clear bulk-OUT after CBI reset").first == .ok) =
          decide (clearedIn.status = .ok ∧ clearedOut.status = .ok) := by
      rw [beq_eq_decide, decide_eq_decide]
      exact hfirst
    rcases h with ⟨⟨hok, hfinished⟩, rfl, rfl, rfl⟩ | ⟨hfailed, rfl, rfl, rfl⟩
    · obtain ⟨hin, hout⟩ := hfirst.1 hok
      rw [hrecovered, decide_eq_true ⟨hin, hout⟩]
      exact .reset hrequired hprepared hexchanged hdone hin hout hfinished rfl
    · rw [hrecovered]
      refine .unfinished hrequired hprepared hexchanged hdone (fun hok => hfailed ?_) ?_
      · exact ⟨hfirst.2 ⟨hok.1, hok.2.1⟩, hok.2.2⟩
      · rwa [ne_eq, RecoveryFailure.add_first_eq_ok_iff]

/-- Without a requirement there is nothing to recover. -/
theorem Recovered.of_idle {out : CbiReply} (h : Recovered c t out c')
    (hidle : c.recoveryRequired = false) : t = [] ∧ out.status = .ok ∧ c' = c := by
  cases h with
  | idle _ hstatus => exact ⟨rfl, hstatus, rfl⟩
  | unprepared hrequired | unreset hrequired | unfinished hrequired | reset hrequired =>
      rw [hidle] at hrequired
      cases hrequired

/-- A recovery that makes a call was required. -/
theorem Recovered.required_of_mem {out : CbiReply} (h : Recovered c t out c') {e : EngineEvent}
    (he : e ∈ t) : c.recoveryRequired = true := by
  by_contra hidle
  obtain ⟨rfl, -⟩ := h.of_idle (by simpa using hidle)
  cases he

/-! ## Sense data -/

/-- What `fetch_sense` can do. -/
inductive Fetched (c : CbiContext) : List EngineEvent → SenseReply → CbiContext → Prop
  | failed {t : List EngineEvent} {reply : ExchangeReply ufiSenseLength} {out : SenseReply}
      {c' : CbiContext}
      (hexchanged : Exchanged senseCdb .dataIn (Vector.replicate ufiSenseLength 0) c t reply c')
      (hfailed : reply.status ≠ .ok) (hstatus : out.status = mapIoStatus reply.status) :
      Fetched c t out c'
  /-- The exchange ended without acceptable sense data. -/
  | rejected {t : List EngineEvent} {reply : ExchangeReply ufiSenseLength} {out : SenseReply}
      {c' : CbiContext}
      (hexchanged : Exchanged senseCdb .dataIn (Vector.replicate ufiSenseLength 0) c t reply c)
      (hok : reply.status = .ok) (hstatus : out.status = .protocol) (hmarked : Marked c true c') :
      Fetched c t out c'
  | fetched {t : List EngineEvent} {reply : ExchangeReply ufiSenseLength} {out : SenseReply}
      (hexchanged : Exchanged senseCdb .dataIn (Vector.replicate ufiSenseLength 0) c t reply c)
      (hok : reply.status = .ok) (haccepted : reply.exchange.adscStalled = false)
      (hunstalled : reply.exchange.dataStalled = false)
      (htransferred : reply.exchange.transferred = ufiSenseLength)
      (hparsed : parseSense reply.buffer.toList ufiSenseLength = (true, out.sense))
      (hstatus : out.status = .ok) : Fetched c t out c

/-- A REQUEST SENSE that succeeded leaves the context alone. -/
theorem Fetched.context_of_ok {out : SenseReply} (h : Fetched c t out c') (hok : out.status = .ok) :
    c' = c := by
  cases h with
  | failed _ hfailed hstatus =>
      rw [hok, eq_comm, mapIoStatus_eq_ok_iff] at hstatus
      exact absurd hstatus hfailed
  | rejected _ _ hstatus _ =>
      rw [hok] at hstatus
      cases hstatus
  | fetched => rfl

/-- Sense data that cannot be used require the recovery. -/
theorem marked_of_senseFailure {sense : Sense} {text fallback : String} {out : SenseReply}
    (h : Exec (senseFailure sense text fallback) c t out c') :
    t = [] ∧ out.status = .protocol ∧ Marked c true c' := by
  unfold senseFailure at h
  simp only [exec_bind, exec_requireRecovery, exec_pure] at h
  obtain ⟨_, _, _, _, ⟨rfl, rfl⟩, ⟨rfl, rfl, rfl⟩, rfl⟩ := h
  exact ⟨rfl, rfl, marked_requireRecovery _ _ _⟩

/-- Every execution of `fetch_sense` is one of its cases. -/
theorem fetched_of_exec {timeoutMs : ℕ} {detail : ErrorText} {out : SenseReply}
    (h : Exec (fetchSense timeoutMs detail) c t out c') : Fetched c t out c' := by
  unfold fetchSense at h
  rw [exec_bind] at h
  obtain ⟨t₁, reply, c₁, _, hexchange, h, rfl⟩ := h
  have hexchanged := exchanged_of_exec hexchange
  simp only [exec_ite, exec_pure] at h
  rcases h with ⟨hfailed, rfl, rfl, rfl⟩ | ⟨hok, h⟩
  · rw [List.append_nil]
    exact .failed hexchanged hfailed rfl
  have hok : reply.status = .ok := of_not_not hok
  obtain rfl := hexchanged.context_of_ok hok
  -- the four ends at which the exchange succeeded and its result is refused
  have hrejected {t₂ : List EngineEvent} {sense : Sense} {text fallback : String}
      (hfailure : Exec (senseFailure sense text fallback) c₁ t₂ out c') :
      Fetched c₁ (t₁ ++ t₂) out c' := by
    obtain ⟨rfl, hstatus, hmarked⟩ := marked_of_senseFailure hfailure
    rw [List.append_nil]
    exact .rejected hexchanged hok hstatus hmarked
  rcases h with ⟨-, h⟩ | ⟨haccepted, h⟩
  · exact hrejected h
  rcases h with ⟨-, h⟩ | ⟨hunstalled, h⟩
  · exact hrejected h
  rcases h with ⟨-, h⟩ | ⟨htransferred, h⟩
  · exact hrejected h
  rcases hparse : parseSense reply.buffer.toList ufiSenseLength with ⟨parsed, sense⟩
  simp only [hparse] at h
  rcases h with ⟨-, h⟩ | ⟨hparsed, rfl, rfl, rfl⟩
  · exact hrejected h
  · obtain rfl : parsed = true := by simpa using hparsed
    rw [List.append_nil]
    exact .fetched hexchanged hok (by simpa using haccepted) (by simpa using hunstalled)
      (of_not_not htransferred) hparse rfl

/-! ## Commands -/

/-- What `execute_request_sense` can do. -/
inductive SenseExecuted (padded : Vector UInt8 cbiCdbLength) (buffer : Vector UInt8 n)
    (c : CbiContext) : List EngineEvent → ExecuteReply n → CbiContext → Prop
  | failed {t : List EngineEvent} {reply : ExchangeReply n} {out : ExecuteReply n}
      {c' : CbiContext} (hexchanged : Exchanged padded .dataIn buffer c t reply c')
      (hfailed : reply.status ≠ .ok)
      (hstatus : out.result.transportStatus = mapIoStatus reply.status) :
      SenseExecuted padded buffer c t out c'
  | rejected {t : List EngineEvent} {reply : ExchangeReply n} {out : ExecuteReply n}
      {c' : CbiContext} (hexchanged : Exchanged padded .dataIn buffer c t reply c)
      (hok : reply.status = .ok) (hstatus : out.result.transportStatus = .protocol)
      (hmarked : Marked c true c') : SenseExecuted padded buffer c t out c'
  | answered {t : List EngineEvent} {reply : ExchangeReply n} {out : ExecuteReply n}
      (hexchanged : Exchanged padded .dataIn buffer c t reply c) (hok : reply.status = .ok)
      (haccepted : reply.exchange.adscStalled = false)
      (hunstalled : reply.exchange.dataStalled = false)
      (htransferred : out.result.transferred = reply.exchange.transferred)
      (hparsed : parseSense reply.buffer.toList out.result.transferred = (true, out.result.sense))
      (hbuffer : out.buffer = reply.buffer) (hstatus : out.result.transportStatus = .ok)
      (hscsi : out.result.scsiStatus = 0) : SenseExecuted padded buffer c t out c

/-- What `cbi_execute` can do with a command other than REQUEST SENSE, from its exchange on. -/
inductive CommandExecuted (opcode : UInt8) (padded : Vector UInt8 cbiCdbLength)
    (direction : DataDirection) (buffer : Vector UInt8 n) (c : CbiContext) :
    List EngineEvent → ExecuteReply n → CbiContext → Prop
  | failed {t : List EngineEvent} {reply : ExchangeReply n} {out : ExecuteReply n}
      {c' : CbiContext} (hexchanged : Exchanged padded direction buffer c t reply c')
      (hfailed : reply.status ≠ .ok)
      (hstatus : out.result.transportStatus = mapIoStatus reply.status) :
      CommandExecuted opcode padded direction buffer c t out c'
  | unsensed {t t' : List EngineEvent} {reply : ExchangeReply n} {fetched : SenseReply}
      {out : ExecuteReply n} {c' : CbiContext}
      (hexchanged : Exchanged padded direction buffer c t reply c) (hok : reply.status = .ok)
      (hfetched : Fetched c t' fetched c') (hfailed : fetched.status ≠ .ok)
      (hstatus : out.result.transportStatus = fetched.status) :
      CommandExecuted opcode padded direction buffer c (t ++ t') out c'
  /-- The completion does not match the sense data, or not all data were moved. -/
  | rejected {t t' : List EngineEvent} {reply : ExchangeReply n} {fetched : SenseReply}
      {out : ExecuteReply n} {c' : CbiContext}
      (hexchanged : Exchanged padded direction buffer c t reply c) (hok : reply.status = .ok)
      (hfetched : Fetched c t' fetched c) (hsensed : fetched.status = .ok)
      (hstatus : out.result.transportStatus = .protocol) (hmarked : Marked c true c') :
      CommandExecuted opcode padded direction buffer c (t ++ t') out c'
  | answered {t t' : List EngineEvent} {reply : ExchangeReply n} {fetched : SenseReply}
      {out : ExecuteReply n}
      (hexchanged : Exchanged padded direction buffer c t reply c) (hok : reply.status = .ok)
      (hfetched : Fetched c t' fetched c) (hsensed : fetched.status = .ok)
      (hmatch : reply.exchange.adscStalled = true ∨
        reply.exchange.completion = #v[fetched.sense.asc, fetched.sense.ascq])
      (hexact : direction = .dataOut ∨ opcode = opcodeRead10 →
        reply.exchange.adscStalled = false → reply.exchange.dataStalled = false →
          reply.exchange.transferred = n)
      (hsense : out.result.sense = fetched.sense)
      (htransferred : out.result.transferred = reply.exchange.transferred)
      (hbuffer : out.buffer = reply.buffer) (hstatus : out.result.transportStatus = .ok)
      (hgood : out.result.scsiStatus = 0 ↔ reply.exchange.adscStalled = false ∧
        reply.exchange.dataStalled = false ∧ fetched.sense.key ≤ 1) :
      CommandExecuted opcode padded direction buffer c (t ++ t') out c

/-- A result that is not to be trusted requires the recovery. -/
theorem marked_of_protocolFailure {result : CommandResult} {buffer : Vector UInt8 n}
    {text fallback : String} {out : ExecuteReply n}
    (h : Exec (protocolFailure result buffer text fallback) c t out c') :
    t = [] ∧ out.result.transportStatus = .protocol ∧ Marked c true c' := by
  unfold protocolFailure at h
  simp only [exec_bind, exec_requireRecovery, exec_pure] at h
  obtain ⟨_, _, _, _, ⟨rfl, rfl⟩, ⟨rfl, rfl, rfl⟩, rfl⟩ := h
  exact ⟨rfl, rfl, marked_requireRecovery _ _ _⟩

/-- Every execution of `execute_request_sense` is one of its cases. -/
theorem senseExecuted_of_exec {padded : Vector UInt8 cbiCdbLength} {buffer : Vector UInt8 n}
    {timeoutMs : ℕ} {out : ExecuteReply n}
    (h : Exec (executeRequestSense padded buffer timeoutMs) c t out c') :
    SenseExecuted padded buffer c t out c' := by
  unfold executeRequestSense at h
  rw [exec_bind] at h
  obtain ⟨t₁, reply, c₁, _, hexchange, h, rfl⟩ := h
  have hexchanged := exchanged_of_exec hexchange
  simp only [exec_ite, exec_pure] at h
  rcases h with ⟨hfailed, rfl, rfl, rfl⟩ | ⟨hok, h⟩
  · rw [List.append_nil]
    exact .failed hexchanged hfailed rfl
  have hok : reply.status = .ok := of_not_not hok
  -- only a lost phase touches the context, and this exchange completed
  obtain rfl := hexchanged.context_of_ok hok
  -- a stalled data phase leaves no sense data to parse
  rcases h with ⟨-, h⟩ | ⟨hnostall, h⟩
  · obtain ⟨rfl, hstatus, hmarked⟩ := marked_of_protocolFailure h
    rw [List.append_nil]
    exact .rejected hexchanged hok hstatus hmarked
  rcases hparse : parseSense reply.buffer.toList reply.exchange.transferred with ⟨parsed, sense⟩
  simp only [hparse] at h
  rcases h with ⟨-, h⟩ | ⟨hparsed, rfl, rfl, rfl⟩
  · obtain ⟨rfl, hstatus, hmarked⟩ := marked_of_protocolFailure h
    rw [List.append_nil]
    exact .rejected hexchanged hok hstatus hmarked
  · obtain rfl : parsed = true := by simpa using hparsed
    simp only [Bool.or_eq_true, not_or, Bool.not_eq_true] at hnostall
    rw [List.append_nil]
    exact .answered hexchanged hok hnostall.1 hnostall.2 rfl hparse rfl
      (mapIoStatus_eq_ok_iff.2 hok) rfl

/-- Every execution of any other command is one of its cases. -/
theorem commandExecuted_of_exec {opcode : UInt8} {padded : Vector UInt8 cbiCdbLength}
    {direction : DataDirection} {buffer : Vector UInt8 n} {timeoutMs : ℕ} {detail : ErrorText}
    {out : ExecuteReply n}
    (h : Exec (executeCommand opcode padded direction buffer timeoutMs detail) c t out c') :
    CommandExecuted opcode padded direction buffer c t out c' := by
  unfold executeCommand at h
  rw [exec_bind] at h
  obtain ⟨t₁, reply, c₁, _, hexchange, h, rfl⟩ := h
  have hexchanged := exchanged_of_exec hexchange
  simp only [exec_ite, exec_pure] at h
  rcases h with ⟨hfailed, rfl, rfl, rfl⟩ | ⟨hok, h⟩
  · rw [List.append_nil]
    exact .failed hexchanged hfailed rfl
  have hok : reply.status = .ok := of_not_not hok
  obtain rfl := hexchanged.context_of_ok hok
  rw [exec_bind] at h
  obtain ⟨t₂, fetched, c₂, _, hfetch, h, rfl⟩ := h
  have hfetched := fetched_of_exec hfetch
  simp only [exec_ite, exec_pure] at h
  rcases h with ⟨hfailed, rfl, rfl, rfl⟩ | ⟨hsensed, h⟩
  · rw [List.append_nil]
    exact .unsensed hexchanged hok hfetched hfailed rfl
  have hsensed : fetched.status = .ok := of_not_not hsensed
  obtain rfl : c₂ = c₁ := hfetched.context_of_ok hsensed
  -- the two refusals of the answer leave through `protocol_failure` alike
  have hrejected {t₃ : List EngineEvent} {result : CommandResult} {text fallback : String}
      (hfailure : Exec (protocolFailure result reply.buffer text fallback) c₂ t₃ out c') :
      CommandExecuted opcode padded direction buffer c₂ (t₁ ++ (t₂ ++ t₃)) out c' := by
    obtain ⟨rfl, hstatus, hmarked⟩ := marked_of_protocolFailure hfailure
    rw [List.append_nil]
    exact .rejected hexchanged hok hfetched hsensed hstatus hmarked
  rcases h with ⟨-, h⟩ | ⟨hmatch, h⟩
  · exact hrejected h
  rcases h with ⟨-, h⟩ | ⟨hexact, h⟩
  · exact hrejected h
  -- what the checks that let the answer through say of it
  have hmatch : reply.exchange.adscStalled = true ∨
      reply.exchange.completion = #v[fetched.sense.asc, fetched.sense.ascq] := by
    cases hstalled : reply.exchange.adscStalled <;> simp_all
  have hexact : direction = .dataOut ∨ opcode = opcodeRead10 →
      reply.exchange.adscStalled = false → reply.exchange.dataStalled = false →
        reply.exchange.transferred = n := by
    intro hrequired haccepted hunstalled
    by_contra hne
    rcases hrequired with hrequired | hrequired <;>
      simp [hrequired, haccepted, hunstalled, hne] at hexact
  -- CHECK CONDITION exactly when something stalled or the sense key is past RECOVERED ERROR
  rcases h with ⟨hfailed, rfl, rfl, rfl⟩ | ⟨hpassed, rfl, rfl, rfl⟩
  · rw [List.append_nil]
    refine .answered hexchanged hok hfetched hsensed hmatch hexact rfl rfl rfl rfl ?_
    refine iff_of_false (show scsiStatusCheckCondition ≠ 0 by decide) ?_
    rintro ⟨haccepted, hunstalled, hkey⟩
    simp [haccepted, hunstalled, UInt8.not_lt.2 hkey] at hfailed
  · rw [List.append_nil]
    refine .answered hexchanged hok hfetched hsensed hmatch hexact rfl rfl rfl rfl ?_
    refine iff_of_true rfl ?_
    simp only [Bool.or_eq_true, not_or, Bool.not_eq_true, decide_eq_true_eq, UInt8.not_lt]
      at hpassed
    exact ⟨hpassed.1.1, hpassed.1.2, hpassed.2⟩

/-! ## The transport -/

/-- The buffer of a command, which is not NULL when the engine uses it. -/
abbrev Command.buffer (command : Command) : Vector UInt8 command.dataLength :=
  command.data.getD (Vector.replicate command.dataLength 0)

/-- The command block of a command, padded with zeros. -/
abbrev Command.padded (command : Command) : Vector UInt8 cbiCdbLength :=
  padCdb (command.cdb, command.cdbLength)

/-- What `cbi_execute` can do. -/
inductive Executed (command : Command) (c : CbiContext) :
    List EngineEvent → ExecuteReply command.dataLength → CbiContext → Prop
  | refused {detail : ErrorText} {out : ExecuteReply command.dataLength}
      (hrefused : refuseCommand c command = some detail)
      (hstatus : out.result.transportStatus = .protocol) : Executed command c [] out c
  | unrecovered {t : List EngineEvent} {recovery : CbiReply}
      {out : ExecuteReply command.dataLength} {c' : CbiContext}
      (haccepted : refuseCommand c command = none) (hrecovered : Recovered c t recovery c')
      (hfailed : recovery.status ≠ .ok)
      (hstatus : out.result.transportStatus = mapIoStatus recovery.status) :
      Executed command c t out c'
  | sense {t t' : List EngineEvent} {recovery : CbiReply} {out : ExecuteReply command.dataLength}
      {c₁ c' : CbiContext} (haccepted : refuseCommand c command = none)
      (hrecovered : Recovered c t recovery c₁) (hok : recovery.status = .ok)
      (hopcode : command.cdbByte 0 = opcodeRequestSense)
      (hexecuted : SenseExecuted command.padded command.buffer c₁ t' out c') :
      Executed command c (t ++ t') out c'
  | command {t t' : List EngineEvent} {recovery : CbiReply}
      {out : ExecuteReply command.dataLength} {c₁ c' : CbiContext}
      (haccepted : refuseCommand c command = none) (hrecovered : Recovered c t recovery c₁)
      (hok : recovery.status = .ok) (hopcode : command.cdbByte 0 ≠ opcodeRequestSense)
      (hexecuted : CommandExecuted (command.cdbByte 0) command.padded command.direction
        command.buffer c₁ t' out c') : Executed command c (t ++ t') out c'

/-- Every execution of `cbi_execute` is one of its cases. -/
theorem executed_of_exec {command : Command} {out : ExecuteReply command.dataLength}
    (h : Exec (cbiExecute command) c t out c') : Executed command c t out c' := by
  unfold cbiExecute at h
  rw [exec_get_bind] at h
  -- a command that is refused never reaches the wire
  cases hrefusal : refuseCommand c command with
  | some detail =>
      simp only [hrefusal, exec_pure] at h
      obtain ⟨rfl, rfl, rfl⟩ := h
      exact .refused hrefusal rfl
  | none =>
      simp only [hrefusal] at h
      rw [exec_bind] at h
      obtain ⟨t₁, recovery, c₁, t₂, hrecover, h, rfl⟩ := h
      have hrecovered := recovered_of_exec hrecover
      simp only [exec_ite, exec_pure] at h
      rcases h with ⟨hfailed, rfl, rfl, rfl⟩ | ⟨hok, h⟩
      · rw [List.append_nil]
        exact .unrecovered hrefusal hrecovered hfailed rfl
      have hok : recovery.status = .ok := of_not_not hok
      rcases h with ⟨hopcode, h⟩ | ⟨hopcode, h⟩
      · exact .sense hrefusal hrecovered hok hopcode (senseExecuted_of_exec h)
      · exact .command hrefusal hrecovered hok hopcode (commandExecuted_of_exec h)

/-- What `cbi_acquire` can do. -/
inductive Acquired (c : CbiContext) : List EngineEvent → StatusReply → CbiContext → Prop
  | held {out : StatusReply} (hopened : c.opened = true) (hstatus : out.status = .ok) :
      Acquired c [] out c
  | opened {detail : ErrorText} {reply : CbiReply} {out : StatusReply}
      (hclosed : c.opened = false) (hok : reply.status = .ok) (hstatus : out.status = .ok) :
      Acquired c [⟨c, .openSeize detail, reply⟩] out { c.recovered with opened := true }
  | failed {detail : ErrorText} {reply : CbiReply} {out : StatusReply}
      (hclosed : c.opened = false) (hfailed : reply.status ≠ .ok)
      (hstatus : out.status = mapIoStatus reply.status) :
      Acquired c [⟨c, .openSeize detail, reply⟩] out c

/-- Every execution of `cbi_acquire` is one of its cases. -/
theorem acquired_of_exec {detail : ErrorText} {out : StatusReply}
    (h : Exec (cbiAcquire detail) c t out c') : Acquired c t out c' := by
  unfold cbiAcquire at h
  simp only [exec_get_bind, exec_call_bind, exec_ite, exec_pure] at h
  rcases h with ⟨hopened, rfl, rfl, rfl⟩ | ⟨hclosed, reply, _, h, rfl⟩
  · exact .held hopened rfl
  have hclosed : c.opened = false := Bool.eq_false_iff.2 hclosed
  rcases h with ⟨hok, h⟩ | ⟨hfailed, rfl, rfl, rfl⟩
  · simp only [exec_bind, exec_set, exec_pure] at h
    obtain ⟨_, _, _, _, ⟨rfl, rfl⟩, ⟨rfl, rfl, rfl⟩, rfl⟩ := h
    exact .opened hclosed hok rfl
  · exact .failed hclosed hfailed rfl

/-- What `cbi_release` can do. -/
inductive Closed (c : CbiContext) : List EngineEvent → StatusReply → CbiContext → Prop
  | idle {out : StatusReply} (hclosed : c.opened = false) (hstatus : out.status = .ok) :
      Closed c [] out c
  | closed {detail : ErrorText} {reply : CbiReply} {out : StatusReply} (hopened : c.opened = true)
      (hgone : reply.status = .ok ∨ reply.status = .noDevice)
      (hstatus : out.status = mapIoStatus reply.status) :
      Closed c [⟨c, .close detail, reply⟩] out { c with opened := false }
  | failed {detail : ErrorText} {reply : CbiReply} {out : StatusReply} (hopened : c.opened = true)
      (hfailed : ¬ (reply.status = .ok ∨ reply.status = .noDevice))
      (hstatus : out.status = mapIoStatus reply.status) :
      Closed c [⟨c, .close detail, reply⟩] out c

/-- Every execution of `cbi_release` is one of its cases. -/
theorem closed_of_exec {detail : ErrorText} {out : StatusReply}
    (h : Exec (cbiRelease detail) c t out c') : Closed c t out c' := by
  unfold cbiRelease at h
  simp only [exec_get_bind, exec_call_bind, exec_ite, exec_pure] at h
  rcases h with ⟨hclosed, rfl, rfl, rfl⟩ | ⟨hopened, reply, _, h, rfl⟩
  · exact .idle (by simpa using hclosed) rfl
  have hopened : c.opened = true := by simpa using hopened
  rcases h with ⟨hgone, h⟩ | ⟨hfailed, h⟩
  · simp only [exec_bind, exec_set, exec_ite, exec_pure] at h
    obtain ⟨_, _, _, _, ⟨rfl, rfl⟩, h, rfl⟩ := h
    rcases h with ⟨-, rfl, rfl, rfl⟩ | ⟨hok, rfl, rfl, rfl⟩
    · exact .closed hopened hgone rfl
    · exact .closed hopened hgone (mapIoStatus_eq_ok_iff.2 (of_not_not hok)).symm
  · rcases h with ⟨-, rfl, rfl, rfl⟩ | ⟨hok, rfl, rfl, rfl⟩
    · exact .failed hopened hfailed rfl
    · exact absurd (.inl (of_not_not hok)) hfailed

end M65
