import FloppyProbe.Cbi.Containment

/-!
# When a command is GOOD

The result of `cbi_execute` is OK and GOOD exactly when its exchanges went well: the recovery, if
one was pending, the command's own exchange, and the engine's REQUEST SENSE, whose data have to
match the completion of the command. The conditions speak of the calls of the adapter and their
replies only, and the result repeats the count and the bytes of the data phase.
-/

namespace M65

open Interaction

variable {c c' c₁ : CbiContext} {t t' u v w : List EngineEvent} {n : ℕ}

/-! ## The statement -/

/-- The command block was accepted, the data phase (if there is one) ended without a stall and
moved no more than the buffer holds, and a completion of two bytes was read. -/
structure ExchangeCompleted (cdb : Vector UInt8 cbiCdbLength) (direction : DataDirection)
    (buffer : Vector UInt8 n) (c : CbiContext) (t : List EngineEvent) (data : BulkInReply n)
    (completion : Vector UInt8 cbiStatusLength) : Prop where
  split : ∃ timeoutMs detail detail' accepted moved old interrupt,
    t = ⟨c, .adsc cdb timeoutMs detail, accepted⟩ ::
        (moved ++ [⟨c, .interruptInWithDeadline old timeoutMs detail', interrupt⟩]) ∧
      accepted.status = .ok ∧ Moved direction buffer c moved data ∧ interrupt.status = .ok ∧
      interrupt.transferred = cbiStatusLength ∧ interrupt.completion = completion
  data_ok : data.status = .ok
  data_fits : data.transferred ≤ n

/-- No recovery is pending, or all of it succeeds: the preparation, the exchange of the reset block
with a completion of two zero bytes, both clears, and the end that tells the adapter so. -/
inductive RecoveryCompleted (c : CbiContext) : List EngineEvent → CbiContext → Prop
  | idle (hidle : c.recoveryRequired = false) : RecoveryCompleted c [] c
  | reset {t : List EngineEvent} {d₁ d₂ d₃ d₄ : ErrorText}
      {prepared clearedIn clearedOut finished : CbiReply} {data : BulkInReply 0}
      (hrequired : c.recoveryRequired = true) (hprepared : prepared.status = .ok)
      (hcompleted : ExchangeCompleted resetCdb .none #v[] c t data
        (Vector.replicate cbiStatusLength 0))
      (hin : clearedIn.status = .ok) (hout : clearedOut.status = .ok)
      (hfinished : finished.status = .ok) :
      RecoveryCompleted c (⟨c, .prepareCommandBlockReset d₁, prepared⟩ :: (t ++
        [⟨c, .clearStall .dataIn d₂, clearedIn⟩, ⟨c, .clearStall .dataOut d₃, clearedOut⟩,
          ⟨c, .finishCommandBlockReset true d₄, finished⟩])) c.recovered

/-- The engine's REQUEST SENSE after a command whose exchange ended with `data` and `completion`:
it moves 18 bytes of sense data that repeat the completion and report no error, and the command
moved all its data where that matters. -/
def SenseConfirms (command : Command) (c : CbiContext) (t : List EngineEvent)
    (data : BulkInReply command.dataLength) (completion : Vector UInt8 cbiStatusLength) : Prop :=
  ∃ senseData senseCompletion sense,
    ExchangeCompleted senseCdb .dataIn (Vector.replicate ufiSenseLength 0) c t senseData
        senseCompletion ∧
      senseData.transferred = ufiSenseLength ∧
      parseSense senseData.buffer.toList ufiSenseLength = (true, sense) ∧
      completion = #v[sense.asc, sense.ascq] ∧ sense.key ≤ 1 ∧
      (command.direction = .dataOut ∨ command.cdbByte 0 = opcodeRead10 →
        data.transferred = command.dataLength)

/-- What the calls of a GOOD execution look like whose data phase was answered by `data`. -/
structure GoodExecution (command : Command) (c : CbiContext) (t : List EngineEvent)
    (data : BulkInReply command.dataLength) : Prop where
  opened : c.opened = true
  valid : command.Valid
  exchanges : ∃ c₁ t₁ t₂ t₃ completion, t = t₁ ++ (t₂ ++ t₃) ∧ RecoveryCompleted c t₁ c₁ ∧
    ExchangeCompleted command.padded command.direction command.buffer c₁ t₂ data completion ∧
    if command.cdbByte 0 = opcodeRequestSense then
      t₃ = [] ∧ (parseSense data.buffer.toList data.transferred).1 = true
    else
      SenseConfirms command c₁ t₃ data completion

/-- The result is OK and GOOD. -/
def CommandResult.IsGood (result : CommandResult) : Prop :=
  result.transportStatus = .ok ∧ result.scsiStatus = 0

/-- The result is OK and GOOD, and returns what the data phase moved. -/
structure ExecuteReply.Returns (out : ExecuteReply n) (data : BulkInReply n) : Prop where
  good : out.result.IsGood
  transferred_eq : out.result.transferred = data.transferred
  buffer_eq : out.buffer = data.buffer

/-- No more than the buffer holds was moved. -/
theorem GoodExecution.transferred_le {command : Command} {data : BulkInReply command.dataLength}
    (h : GoodExecution command c t data) : data.transferred ≤ command.dataLength := by
  obtain ⟨_, _, _, _, _, _, _, hcompleted, _⟩ := h.exchanges
  exact hcompleted.data_fits

/-! ## Uniqueness of exchanges -/

section Exchange

variable {cdb : Vector UInt8 cbiCdbLength} {direction : DataDirection} {buffer : Vector UInt8 n}
  {data data' : BulkInReply n} {completion : Vector UInt8 cbiStatusLength}

/-- The calls of a data phase determine what was moved. -/
theorem Moved.unique (h : Moved direction buffer c t data) (h' : Moved direction buffer c t' data')
    (heq : t ++ v = t' ++ w) :
    t = t' ∧ v = w ∧ data.status = data'.status ∧ data.transferred = data'.transferred ∧
      data.buffer = data'.buffer := by
  -- the direction of the exchange decides whether a bulk transfer stands at the head
  cases h with
  | none hdirection =>
      cases h' with
      | none => exact ⟨rfl, heq, rfl, rfl, rfl⟩
      | dataIn hdirection' => exact absurd (hdirection.symm.trans hdirection') nofun
      | dataOut hdirection' => exact absurd (hdirection.symm.trans hdirection') nofun
  | dataIn hdirection =>
      cases h' with
      | none hdirection' => exact absurd (hdirection.symm.trans hdirection') nofun
      | dataIn =>
          obtain ⟨hevent, hrest⟩ := List.cons.inj heq
          cases hevent
          exact ⟨rfl, hrest, rfl, rfl, rfl⟩
      | dataOut hdirection' => exact absurd (hdirection.symm.trans hdirection') nofun
  | dataOut hdirection =>
      cases h' with
      | none hdirection' => exact absurd (hdirection.symm.trans hdirection') nofun
      | dataIn hdirection' => exact absurd (hdirection.symm.trans hdirection') nofun
      | dataOut =>
          obtain ⟨hevent, hrest⟩ := List.cons.inj heq
          cases hevent
          exact ⟨rfl, hrest, rfl, rfl, rfl⟩

/-- An exchange whose calls start like those of a completed one is that one. -/
theorem Exchanged.of_completed {reply : ExchangeReply n}
    (h : Exchanged cdb direction buffer c u reply c')
    (hcompleted : ExchangeCompleted cdb direction buffer c t data completion)
    (heq : u ++ v = t ++ w) :
    u = t ∧ v = w ∧ c' = c ∧ reply.status = .ok ∧
      reply.exchange = ⟨false, false, data.transferred, completion⟩ ∧
      reply.buffer = data.buffer := by
  obtain ⟨⟨timeoutMs, detail, detail', accepted, moved, old, interrupt, rfl, haccepted, hmoved,
    hinterrupt, htransferred, rfl⟩, hdata, hfits⟩ := hcompleted
  have hblock : ioStatusOf (⟨c, .adsc cdb timeoutMs detail, accepted⟩ : EngineEvent) = .ok :=
    haccepted
  simp only [List.cons_append, List.append_assoc, List.nil_append] at heq
  -- the data phase of `u` is that of the completed exchange
  have hphase {l rest : List EngineEvent} {stalled : Bool} {data' : BulkInReply n}
      (hphase : DataPhase direction buffer c l stalled data')
      (heq : l ++ rest =
        moved ++ ⟨c, .interruptInWithDeadline old timeoutMs detail', interrupt⟩ :: w) :
      l = moved ∧ rest = ⟨c, .interruptInWithDeadline old timeoutMs detail', interrupt⟩ :: w ∧
        stalled = false ∧ data'.transferred = data.transferred ∧ data'.buffer = data.buffer := by
    cases hphase with
    | moved hmoved' =>
        obtain ⟨rfl, hrest, -, hcount, hbuffer⟩ := hmoved'.unique hmoved heq
        exact ⟨rfl, hrest, rfl, hcount, hbuffer⟩
    | cleared hmoved' hstall =>
        rw [List.append_assoc] at heq
        obtain ⟨-, -, hstatus, -⟩ := hmoved'.unique hmoved heq
        rw [hstall, hdata] at hstatus
        cases hstatus
  -- every other end of `u` contradicts a reply that the completed exchange has in its place
  cases h with
  | adscStalled hstall =>
      rw [← (List.cons.inj heq).1] at hblock
      exact absurd (hstall.symm.trans hblock) nofun
  | adscFailed hfailed =>
      rw [← (List.cons.inj heq).1] at hblock
      exact absurd hblock hfailed
  | bulkFailed _ hmoved' hfailed =>
      obtain ⟨-, -, hstatus, -⟩ := hmoved'.unique hmoved (List.cons.inj heq).2
      exact absurd (hstatus.trans hdata) hfailed
  | overrun _ hmoved' _ hlarge =>
      obtain ⟨-, -, -, hcount, -⟩ := hmoved'.unique hmoved (List.cons.inj heq).2
      omega
  | clearFailed _ hmoved' hstall =>
      obtain ⟨-, -, hstatus, -⟩ := hmoved'.unique hmoved
        (by simpa [List.append_assoc] using (List.cons.inj heq).2)
      rw [hstall, hdata] at hstatus
      cases hstatus
  | interruptFailed _ hphase' hfailed =>
      obtain ⟨-, hrest, -⟩ := hphase hphase'
        (by simpa [List.append_assoc] using (List.cons.inj heq).2)
      cases (List.cons.inj hrest).1
      exact absurd hinterrupt hfailed
  | interruptShort _ hphase' _ hlength =>
      obtain ⟨-, hrest, -⟩ := hphase hphase'
        (by simpa [List.append_assoc] using (List.cons.inj heq).2)
      cases (List.cons.inj hrest).1
      exact absurd htransferred hlength
  | completed _ hphase' _ _ hstatus hexchange hbuffer =>
      obtain ⟨rfl, hrest, rfl, hcount, hbuffer'⟩ := hphase hphase'
        (by simpa [List.append_assoc] using (List.cons.inj heq).2)
      obtain ⟨hlast, rfl⟩ := List.cons.inj hrest
      cases (List.cons.inj heq).1
      cases hlast
      refine ⟨rfl, rfl, rfl, hstatus, ?_, hbuffer.trans hbuffer'⟩
      rw [hexchange, hcount]

/-- An exchange that succeeded without a stall was completed. -/
theorem Exchanged.completed_of_ok {reply : ExchangeReply n}
    (h : Exchanged cdb direction buffer c t reply c') (hok : reply.status = .ok)
    (haccepted : reply.exchange.adscStalled = false)
    (hunstalled : reply.exchange.dataStalled = false) :
    ∃ data, ExchangeCompleted cdb direction buffer c t data reply.exchange.completion ∧
      reply.exchange.transferred = data.transferred ∧ reply.buffer = data.buffer := by
  cases h with
  | adscStalled _ _ hexchange => simp [hexchange] at haccepted
  | adscFailed hfailed _ hstatus => exact absurd (hstatus.symm.trans hok) hfailed
  | bulkFailed _ _ hfailed _ hstatus => exact absurd (hstatus.symm.trans hok) hfailed
  | overrun _ _ _ _ hstatus => simp [hstatus] at hok
  | clearFailed _ _ _ hfailed hstatus => exact absurd (hstatus.symm.trans hok) hfailed
  | interruptFailed _ _ hfailed hstatus => exact absurd (hstatus.symm.trans hok) hfailed
  | interruptShort _ _ _ _ hstatus => simp [hstatus] at hok
  | completed hstarted hphase hinterrupt hlength _ hexchange hbuffer =>
      rw [hexchange] at hunstalled ⊢
      cases hphase with
      | moved hmoved hdata hfits =>
          exact ⟨_, ⟨⟨_, _, _, _, _, _, _, rfl, hstarted, hmoved, hinterrupt, hlength, rfl⟩, hdata,
            hfits⟩, rfl, hbuffer⟩
      | cleared => cases hunstalled

end Exchange

/-! ## Recovery -/

/-- A recovery that succeeded was completed. -/
theorem Recovered.completed_of_ok {out : CbiReply} (h : Recovered c t out c')
    (hok : out.status = .ok) : RecoveryCompleted c t c' := by
  cases h with
  | idle hidle => exact .idle hidle
  | unprepared _ hfailed hstatus => exact absurd (hstatus.symm.trans hok) hfailed
  | unreset _ _ _ _ hstatus => exact absurd hok hstatus
  | unfinished _ _ _ _ _ hstatus => exact absurd hok hstatus
  | reset hrequired hprepared hexchanged hdone hin hout hfinished =>
      obtain ⟨data, hcompleted, -⟩ :=
        hexchanged.completed_of_ok hdone.status hdone.accepted hdone.unstalled
      rw [hdone.completion] at hcompleted
      exact .reset hrequired hprepared hcompleted hin hout hfinished

/-- A recovery whose calls start like those of a completed one succeeds. -/
theorem Recovered.of_completed {out : CbiReply} (h : Recovered c u out c')
    (hcompleted : RecoveryCompleted c t c₁) (heq : u ++ v = t ++ w) :
    out.status = .ok ∧ c' = c₁ ∧ v = w := by
  cases hcompleted with
  | idle hidle =>
      obtain ⟨rfl, hstatus, rfl⟩ := h.of_idle hidle
      exact ⟨hstatus, rfl, heq⟩
  | @reset t _ _ _ _ _ _ _ _ _ hrequired hprepared hcompleted hin hout hfinished =>
      -- the exchange of the reset block is the completed one
      have hdone {l rest rest' : List EngineEvent} {reset : ExchangeReply 0}
          (hexchanged : Exchanged resetCdb .none #v[] c l reset c)
          (heq : l ++ rest = t ++ rest') : ResetDone reset ∧ rest = rest' := by
        obtain ⟨rfl, hrest, -, hok, hexchange, -⟩ := hexchanged.of_completed hcompleted heq
        exact ⟨⟨hok, by rw [hexchange], by rw [hexchange], by rw [hexchange]⟩, hrest⟩
      simp only [List.cons_append, List.append_assoc, List.nil_append] at heq
      cases h with
      | idle hidle => simp [hrequired] at hidle
      | unprepared _ hfailed =>
          cases (List.cons.inj heq).1
          exact absurd hprepared hfailed
      | unreset _ _ hexchanged hundone =>
          exact absurd (hdone hexchanged (by
            simpa [List.append_assoc] using (List.cons.inj heq).2)).1 hundone
      | unfinished _ _ hexchanged _ hfailed =>
          obtain ⟨-, hrest⟩ := hdone hexchanged (by
            simpa [List.append_assoc] using (List.cons.inj heq).2)
          simp only [List.cons.injEq] at hrest
          obtain ⟨hclearIn, hclearOut, hfinish, -⟩ := hrest
          exact absurd ⟨(congrArg ioStatusOf hclearIn).trans hin,
            (congrArg ioStatusOf hclearOut).trans hout,
            (congrArg ioStatusOf hfinish).trans hfinished⟩ hfailed
      | reset _ _ hexchanged _ _ _ _ hstatus =>
          obtain ⟨-, hrest⟩ := hdone hexchanged (by
            simpa [List.append_assoc] using (List.cons.inj heq).2)
          simp only [List.cons.injEq] at hrest
          exact ⟨hstatus, rfl, hrest.2.2.2⟩

/-! ## The engine's REQUEST SENSE -/

/-- A REQUEST SENSE that succeeded moved 18 bytes of sense data. -/
theorem Fetched.confirms {out : SenseReply} (h : Fetched c t out c') (hok : out.status = .ok) :
    ∃ data completion, ExchangeCompleted senseCdb .dataIn (Vector.replicate ufiSenseLength 0) c t
        data completion ∧ data.transferred = ufiSenseLength ∧
      parseSense data.buffer.toList ufiSenseLength = (true, out.sense) := by
  cases h with
  | failed _ hfailed hstatus =>
      rw [hok, eq_comm, mapIoStatus_eq_ok_iff] at hstatus
      exact absurd hstatus hfailed
  | rejected _ _ hstatus => simp [hstatus] at hok
  | fetched hexchanged hexchangeOk haccepted hunstalled htransferred hparsed =>
      obtain ⟨data, hcompleted, hcount, hbuffer⟩ :=
        hexchanged.completed_of_ok hexchangeOk haccepted hunstalled
      rw [hbuffer] at hparsed
      exact ⟨data, _, hcompleted, hcount.symm.trans htransferred, hparsed⟩

/-- A REQUEST SENSE whose calls are those of a completed exchange with 18 bytes of sense data. -/
theorem fetchSense_ok {timeoutMs : ℕ} {detail : ErrorText} {out : SenseReply}
    {data : BulkInReply ufiSenseLength} {completion : Vector UInt8 cbiStatusLength} {sense : Sense}
    (h : Exec (fetchSense timeoutMs detail) c u out c')
    (hcompleted : ExchangeCompleted senseCdb .dataIn (Vector.replicate ufiSenseLength 0) c t data
      completion) (htransferred : data.transferred = ufiSenseLength)
    (hparsed : parseSense data.buffer.toList ufiSenseLength = (true, sense))
    (heq : u ++ v = t ++ w) : out.status = .ok ∧ out.sense = sense ∧ c' = c ∧ v = w := by
  unfold fetchSense at h
  rw [exec_bind] at h
  obtain ⟨t₁, reply, c₁, t₂, hexchange, h, rfl⟩ := h
  rw [List.append_assoc] at heq
  obtain ⟨rfl, hrest, rfl, hok, hexchange, hbuffer⟩ :=
    (exchanged_of_exec hexchange).of_completed hcompleted heq
  simp only [hok, hexchange, hbuffer, htransferred, hparsed, ne_eq, not_true_eq_false, if_false,
    Bool.false_eq_true, Bool.not_true] at h
  obtain ⟨rfl, rfl, rfl⟩ := exec_pure.1 h
  exact ⟨rfl, rfl, rfl, hrest⟩

/-! ## Commands -/

/-- A run that ends OK and GOOD made the calls of a good execution and returns its data. -/
theorem Executed.goodExecution {command : Command} {out : ExecuteReply command.dataLength}
    (h : Executed command c t out c') (hgood : out.result.IsGood) :
    ∃ data, out.Returns data ∧ GoodExecution command c t data := by
  obtain ⟨hok, hscsi⟩ := hgood
  cases h with
  | refused _ hstatus => simp [hstatus] at hok
  | unrecovered _ _ hfailed hstatus =>
      rw [hok, eq_comm, mapIoStatus_eq_ok_iff] at hstatus
      exact absurd hstatus hfailed
  -- REQUEST SENSE confirms itself: its own data are the sense data
  | @sense t₁ t₂ _ _ _ _ haccepted hrecovered hrecoveryOk hopcode hexecuted =>
      obtain ⟨hopened, hvalid, -⟩ := refuseCommand_eq_none haccepted
      cases hexecuted with
      | failed _ hfailed hstatus =>
          rw [hok, eq_comm, mapIoStatus_eq_ok_iff] at hstatus
          exact absurd hstatus hfailed
      | rejected _ _ hstatus => simp [hstatus] at hok
      | answered hexchanged hexchangeOk hblock hunstalled htransferred hparsed hreturned =>
          obtain ⟨data, hcompleted, hcount, hbuffer⟩ :=
            hexchanged.completed_of_ok hexchangeOk hblock hunstalled
          rw [← hvalid.fits.dataIn_of_requestSense hopcode] at hcompleted
          rw [htransferred, hbuffer, hcount] at hparsed
          refine ⟨data, ⟨⟨hok, hscsi⟩, htransferred.trans hcount, hreturned.trans hbuffer⟩, hopened,
            hvalid, _, t₁, t₂, [], _, by rw [List.append_nil],
            hrecovered.completed_of_ok hrecoveryOk, hcompleted, ?_⟩
          rw [if_pos hopcode, hparsed]
          exact ⟨rfl, rfl⟩
  | @command t₁ _ _ _ _ _ haccepted hrecovered hrecoveryOk hopcode hexecuted =>
      obtain ⟨hopened, hvalid, -⟩ := refuseCommand_eq_none haccepted
      cases hexecuted with
      | failed _ hfailed hstatus =>
          rw [hok, eq_comm, mapIoStatus_eq_ok_iff] at hstatus
          exact absurd hstatus hfailed
      | unsensed _ _ _ hfailed hstatus => exact absurd (hstatus.symm.trans hok) hfailed
      | rejected _ _ _ _ hstatus => simp [hstatus] at hok
      -- any other command is confirmed by the sense data fetched after it
      | @answered t₂ t₃ _ _ _ hexchanged hexchangeOk hfetched hfetchedOk hmatch hexact _
          htransferred hreturned _ hgood =>
          obtain ⟨hblock, hunstalled, hkey⟩ := hgood.1 hscsi
          obtain ⟨data, hcompleted, hcount, hbuffer⟩ :=
            hexchanged.completed_of_ok hexchangeOk hblock hunstalled
          obtain ⟨senseData, senseCompletion, hsensed, hlength, hparsed⟩ :=
            hfetched.confirms hfetchedOk
          refine ⟨data, ⟨⟨hok, hscsi⟩, htransferred.trans hcount, hreturned.trans hbuffer⟩, hopened,
            hvalid, _, t₁, t₂, t₃, _, rfl, hrecovered.completed_of_ok hrecoveryOk, hcompleted, ?_⟩
          rw [if_neg hopcode]
          refine ⟨senseData, senseCompletion, _, hsensed, hlength, hparsed, ?_, hkey, ?_⟩
          · exact hmatch.resolve_left (by simp [hblock])
          · intro hrequired
            rw [← hcount]
            exact hexact hrequired hblock hunstalled

section Converse

variable {buffer : Vector UInt8 n} {padded : Vector UInt8 cbiCdbLength} {timeoutMs : ℕ}
  {data : BulkInReply n} {completion : Vector UInt8 cbiStatusLength} {out : ExecuteReply n}

/-- REQUEST SENSE returns sense data that parse. -/
theorem executeRequestSense_returns
    (h : Exec (executeRequestSense padded buffer timeoutMs) c (t ++ t') out c')
    (hcompleted : ExchangeCompleted padded .dataIn buffer c t data completion)
    (hparsed : (parseSense data.buffer.toList data.transferred).1 = true) : out.Returns data := by
  unfold executeRequestSense at h
  rw [exec_bind] at h
  obtain ⟨u, reply, c₁, v, hexchange, h, heq⟩ := h
  obtain ⟨rfl, -, rfl, hok, hreply, hbuffer⟩ :=
    (exchanged_of_exec hexchange).of_completed hcompleted heq.symm
  rcases hsense : parseSense data.buffer.toList data.transferred with ⟨parsed, sense⟩
  rw [hsense] at hparsed
  simp only [hok, hreply, hbuffer, hsense, hparsed, ne_eq, not_true_eq_false, if_false,
    Bool.or_self, Bool.false_eq_true, Bool.not_true] at h
  obtain ⟨-, rfl, -⟩ := exec_pure.1 h
  exact ⟨⟨rfl, rfl⟩, rfl, rfl⟩

/-- Any other command returns the data that its sense data confirm. -/
theorem executeCommand_returns {opcode : UInt8} {direction : DataDirection} {detail : ErrorText}
    {senseData : BulkInReply ufiSenseLength} {senseCompletion : Vector UInt8 cbiStatusLength}
    {sense : Sense}
    (h : Exec (executeCommand opcode padded direction buffer timeoutMs detail) c (t ++ t') out c')
    (hcompleted : ExchangeCompleted padded direction buffer c t data completion)
    (hsensed : ExchangeCompleted senseCdb .dataIn (Vector.replicate ufiSenseLength 0) c t' senseData
      senseCompletion) (hlength : senseData.transferred = ufiSenseLength)
    (hparsed : parseSense senseData.buffer.toList ufiSenseLength = (true, sense))
    (hmatch : completion = #v[sense.asc, sense.ascq]) (hkey : sense.key ≤ 1)
    (hexact : direction = .dataOut ∨ opcode = opcodeRead10 → data.transferred = n) :
    out.Returns data := by
  unfold executeCommand at h
  rw [exec_bind] at h
  obtain ⟨u, reply, c₁, v, hexchange, h, heq⟩ := h
  obtain ⟨rfl, rfl, rfl, hok, hreply, hbuffer⟩ :=
    (exchanged_of_exec hexchange).of_completed hcompleted heq.symm
  simp only [hok, hreply, ne_eq, not_true_eq_false, if_false] at h
  rw [exec_bind] at h
  obtain ⟨u', fetched, c₂, v', hfetch, h, rfl⟩ := h
  obtain ⟨hfetched, hsense, rfl, -⟩ :=
    fetchSense_ok (v := v') (w := []) hfetch hsensed hlength hparsed (by rw [List.append_nil])
  -- the residue check holds by `hexact`, for the commands that make it
  have hcount : ((direction == .dataOut || opcode == opcodeRead10) && data.transferred != n) =
      false := by
    rw [Bool.and_eq_false_imp]
    intro hrequired
    simp only [Bool.or_eq_true, beq_iff_eq] at hrequired
    simpa using hexact hrequired
  simp only [hfetched, hsense, hmatch, hcount, not_true_eq_false, if_false, Bool.or_self,
    Bool.not_false, Bool.and_true, bne_self_eq_false, Bool.and_false, Bool.false_eq_true,
    Bool.false_or, decide_eq_true_eq, UInt8.not_lt.2 hkey] at h
  obtain ⟨-, rfl, -⟩ := exec_pure.1 h
  exact ⟨⟨rfl, rfl⟩, rfl, hbuffer⟩

end Converse

/-- A run that makes the calls of a good execution ends OK and GOOD and returns its data. -/
theorem GoodExecution.returns {command : Command} {out : ExecuteReply command.dataLength}
    {data : BulkInReply command.dataLength} (hgood : GoodExecution command c t data)
    (h : Exec (cbiExecute command) c t out c') : out.Returns data := by
  obtain ⟨-, hvalid, c₁, t₁, t₂, t₃, completion, rfl, hrecovery, hcompleted, hend⟩ := hgood
  unfold cbiExecute at h
  rw [exec_get_bind] at h
  cases hrefusal : refuseCommand c command with
  | some detail =>
      -- a refused command makes no calls
      simp only [hrefusal, exec_pure, List.append_eq_nil_iff] at h
      obtain ⟨⟨-, rfl, -⟩, -⟩ := h
      obtain ⟨_, _, _, _, _, _, _, hnil, -⟩ := hcompleted.split
      cases hnil
  | none =>
      simp only [hrefusal] at h
      rw [exec_bind] at h
      obtain ⟨u, recovery, c₂, v, hrecover, h, heq⟩ := h
      obtain ⟨hok, rfl, rfl⟩ := (recovered_of_exec hrecover).of_completed hrecovery heq.symm
      simp only [hok, ne_eq, not_true_eq_false, if_false] at h
      split at h
      · next hopcode =>
          rw [if_pos hopcode] at hend
          rw [hvalid.fits.dataIn_of_requestSense hopcode] at hcompleted
          exact executeRequestSense_returns h hcompleted hend.2
      · next hopcode =>
          rw [if_neg hopcode] at hend
          obtain ⟨_, _, _, hsensed, hlength, hparsed, hmatch, hkey, hexact⟩ := hend
          exact executeCommand_returns h hcompleted hsensed hlength hparsed hmatch hkey hexact

/-! ## Validated commands -/

/-- The engine takes up every validated command once the interface is open. -/
theorem refuseCommand_eq_none_iff {command : Command} :
    refuseCommand c command = none ↔ c.opened = true ∧ command.Valid := by
  refine ⟨fun h => ⟨(refuseCommand_eq_none h).1, (refuseCommand_eq_none h).2.1⟩, ?_⟩
  rintro ⟨hopened, hvalid⟩
  have hfits := hvalid.fits
  have hlength : ¬ cbiCdbLength < command.cdbLength := by
    have hle := hfits.cdbLength_le
    show ¬ 12 < command.cdbLength
    omega
  have hout : ¬ (command.direction = .dataOut ∧ command.cdbByte 0 ≠ opcodeModeSelect10) :=
    fun hbad => hbad.2 (hfits.select_of_dataOut hbad.1)
  unfold refuseCommand
  rw [hvalid, hopened]
  simp [hlength, hout]

/-- The engine takes up exactly the validated commands on an open interface. A run that ends OK and
GOOD made the calls of a good execution and returns its data, at most as many bytes as the buffer
holds; and a run that makes the calls of a good execution ends so. -/
theorem cbiExecute_good_iff {command : Command} (r : Run (cbiExecute command) c) :
    (refuseCommand c command = none ↔ c.opened = true ∧ command.Valid) ∧
      (r.result.result.IsGood → r.result.result.transferred ≤ command.dataLength ∧
        ∃ data, r.result.Returns data ∧ GoodExecution command c r.trace data) ∧
      ∀ data, GoodExecution command c r.trace data → r.result.Returns data := by
  refine ⟨refuseCommand_eq_none_iff, fun hgood => ?_, fun data hexecution => ?_⟩
  · obtain ⟨data, hreturns, hexecution⟩ := (executed_of_exec r.exec).goodExecution hgood
    exact ⟨hreturns.transferred_eq.trans_le hexecution.transferred_le, data, hreturns, hexecution⟩
  · exact hexecution.returns r.exec

end M65
