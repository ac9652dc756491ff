import FloppyProbe.Cbi.RecoveryGate

/-!
# Loss of phase

An exchange whose command block was accepted and that ended without a completion leaves the
device with a completion to deliver, so the engine has to recover before its next command. It
recognises this from the status of the operation that failed, by one list of statuses for all
operations: it misses a refusal (PERMISSION) of any of them, and a stall (STALL) of the operations
that are not bulk transfers. Exactly then the loss is silent.
-/

namespace M65

open Interaction

variable {c c' : CbiContext} {t t' : List EngineEvent} {n : ℕ}

/-! ## The statement -/

/-- The interrupt delivers a completion. -/
def DeliversCompletion : EngineEvent → Prop
  | ⟨_, .interruptInWithDeadline _ _ _, reply⟩ =>
      reply.status = .ok ∧ reply.transferred = cbiStatusLength
  | _ => False

/-- The operation ends the exchange before it. -/
def CbiIoOp.endsExchange (op : CbiIoOp) : Bool :=
  op == .adsc || op == .prepareCommandBlockReset || op == .finishCommandBlockReset

/-- The events after a command block that belong to its exchange. -/
def exchangeRest (rest : List EngineEvent) : List EngineEvent :=
  rest.takeWhile fun e => !e.call.op.endsExchange

/-- Some exchange of the trace had its command block accepted but ended without a completion, and
not because the device was gone. -/
def LosesPhase (t : List EngineEvent) : Prop :=
  ∃ u block v, t = u ++ block :: v ∧ block.call.op = .adsc ∧ ioStatusOf block = .ok ∧
    ∀ e ∈ exchangeRest v, ¬ DeliversCompletion e ∧ ioStatusOf e ≠ .noDevice

/-- The event ends an exchange with a status after which the engine does not see that the phase is
lost. -/
structure Overlooked (e : EngineEvent) : Prop where
  idle : e.state.recoveryRequired = false
  status : e.call.op.IsBulk ∧ ioStatusOf e = .permission ∨
    (e.call.op = .clearStall ∨ e.call.op = .interruptInWithDeadline) ∧
      (ioStatusOf e = .permission ∨ ioStatusOf e = .stall)

/-- When the trace loses the phase, the engine knows it in the end. -/
def NoSilentLoss (t : List EngineEvent) (after : CbiContext) : Prop :=
  LosesPhase t → after.recoveryRequired = true

/-! ## Traces -/

/-- What follows the end of an exchange is not part of its rest. -/
theorem exchangeRest_append (v : List EngineEvent)
    (h : ∀ e ∈ t'.head?, e.call.op.endsExchange = true) :
    exchangeRest (v ++ t') = exchangeRest v := by
  induction v with
  | nil =>
      cases t' with
      | nil => rfl
      | cons e t' => simp [exchangeRest, h e rfl]
  | cons e v ih =>
      simp only [exchangeRest, List.cons_append, List.takeWhile_cons] at ih ⊢
      rw [ih]

/-- A trace that starts with a new exchange. -/
def StartsExchange (t : List EngineEvent) : Prop := ∀ e ∈ t.head?, e.call.op.endsExchange = true

/-- Two exchanges lose the phase when one of them does. -/
theorem losesPhase_append_iff (h : StartsExchange t') :
    LosesPhase (t ++ t') ↔ LosesPhase t ∨ LosesPhase t' := by
  constructor
  · rintro ⟨u, block, v, heq, hblock⟩
    rcases List.append_eq_append_iff.1 heq with ⟨w, rfl, hw⟩ | ⟨w, rfl, hw⟩
    · exact .inr ⟨w, block, v, hw, hblock⟩
    · cases w with
      | nil => exact .inr ⟨[], block, v, hw.symm, hblock⟩
      | cons block' w =>
          rw [List.cons_append, List.cons.injEq] at hw
          obtain ⟨rfl, rfl⟩ := hw
          rw [exchangeRest_append w h] at hblock
          exact .inl ⟨u, block, w, rfl, hblock⟩
  · rintro (⟨u, block, v, rfl, hblock⟩ | ⟨u, block, v, rfl, hblock⟩)
    · refine ⟨u, block, v ++ t', by rw [List.append_assoc, List.cons_append], ?_⟩
      rwa [exchangeRest_append v h]
    · exact ⟨t ++ u, block, v, by rw [List.append_assoc], hblock⟩

/-- The condition for the property, for a part of a run that ends in the context `c'`. -/
def LossDecided (t : List EngineEvent) (c' : CbiContext) : Prop :=
  NoSilentLoss t c' ↔ ∀ e ∈ t, ¬ Overlooked e

/-- Nothing is lost and nothing is overlooked. -/
structure Settled (t : List EngineEvent) : Prop where
  not_lost : ¬ LosesPhase t
  seen : ∀ e ∈ t, ¬ Overlooked e

/-- A trace without a loss is judged whatever the context. -/
theorem Settled.judged (h : Settled t) (c' : CbiContext) : LossDecided t c' :=
  iff_of_true (fun hlost => absurd hlost h.not_lost) h.seen

/-- The judgement of two exchanges is that of the second when the first one lost nothing. -/
theorem Settled.append_judged (h : Settled t) (hstarts : StartsExchange t')
    (h' : LossDecided t' c') : LossDecided (t ++ t') c' := by
  unfold LossDecided NoSilentLoss at *
  rw [losesPhase_append_iff hstarts, or_iff_right h.not_lost, h', List.forall_mem_append]
  exact (and_iff_right h.seen).symm

/-- Two exchanges that lost nothing lose nothing together. -/
theorem Settled.append (h : Settled t) (hstarts : StartsExchange t') (h' : Settled t') :
    Settled (t ++ t') := by
  refine ⟨?_, List.forall_mem_append.2 ⟨h.seen, h'.seen⟩⟩
  rw [losesPhase_append_iff hstarts]
  exact fun hlost => hlost.elim h.not_lost h'.not_lost

/-! ## Exchanges -/

section Exchange

variable {cdb : Vector UInt8 cbiCdbLength} {direction : DataDirection} {buffer : Vector UInt8 n}
  {out : ExchangeReply n}

/-- The calls of an exchange start with a command block. -/
theorem Exchanged.startsExchange (h : Exchanged cdb direction buffer c t out c') :
    StartsExchange t := by
  obtain ⟨_, _, _, _, _, rfl, -⟩ := h.shape
  intro e he
  obtain rfl : _ = e := by simpa using he
  rfl

/-- The only command block of an exchange is its first event. -/
theorem losesPhase_cons_iff {block : EngineEvent} {rest : List EngineEvent}
    (hblock : block.call.op = .adsc) (hrest : ∀ e ∈ rest, e.call.op.endsExchange = false) :
    LosesPhase (block :: rest) ↔
      ioStatusOf block = .ok ∧ ∀ e ∈ rest, ¬ DeliversCompletion e ∧ ioStatusOf e ≠ .noDevice := by
  have hwhole : exchangeRest rest = rest :=
    List.takeWhile_eq_self_iff.2 fun e he => by simp [hrest e he]
  constructor
  · rintro ⟨u, block', v, heq, hop, hok, hlost⟩
    cases u with
    | nil =>
        obtain ⟨rfl, rfl⟩ := List.cons.inj heq
        rw [hwhole] at hlost
        exact ⟨hok, hlost⟩
    | cons e u =>
        obtain ⟨rfl, rfl⟩ := List.cons.inj heq
        have hends := hrest block' (by simp)
        rw [hop] at hends
        cases hends
  · rintro ⟨hok, hlost⟩
    exact ⟨[], block, rest, rfl, hblock, hok, by rwa [hwhole]⟩

/-- An event inside an exchange that neither ends it nor tells anything about its phase. -/
structure Quiet (e : EngineEvent) : Prop where
  inside : e.call.op.endsExchange = false
  not_delivers : ¬ DeliversCompletion e
  not_gone : ioStatusOf e ≠ .noDevice
  seen : ¬ Overlooked e

/-- A bulk transfer that succeeded or stalled loses nothing. -/
theorem quiet_of_bulk {e : EngineEvent} (hop : e.call.op.IsBulk)
    (hstatus : ioStatusOf e = .ok ∨ ioStatusOf e = .stall) : Quiet e := by
  have hkind : e.call.op ≠ .clearStall ∧ e.call.op ≠ .interruptInWithDeadline := by
    rcases hop with hop | hop <;> simp [hop]
  refine ⟨?_, ?_, ?_, fun hoverlooked => ?_⟩
  · rcases hop with hop | hop <;> simp [hop, CbiIoOp.endsExchange]
  · obtain ⟨s, call, reply⟩ := e
    cases call <;> first | exact id | exact absurd rfl hkind.2
  · rcases hstatus with hstatus | hstatus <;> simp [hstatus]
  · rcases hoverlooked.status with ⟨-, hrefused⟩ | ⟨hkind', -⟩
    · rcases hstatus with hstatus | hstatus <;> simp [hstatus] at hrefused
    · exact hkind'.elim hkind.1 hkind.2

/-- Clearing a stall loses nothing when it succeeds. -/
theorem quiet_clearStall {detail : ErrorText} {reply : CbiReply} (hok : reply.status = .ok) :
    Quiet ⟨c, .clearStall direction detail, reply⟩ := by
  refine ⟨rfl, id, ?_, fun hoverlooked => ?_⟩
  · simp [ioStatusOf, hok]
  · rcases hoverlooked.status with ⟨-, hrefused⟩ | ⟨-, hrefused⟩ <;>
      simp [ioStatusOf, hok] at hrefused

/-- A data phase that succeeded or stalled loses nothing. -/
theorem Moved.quiet {data : BulkInReply n} (h : Moved direction buffer c t data)
    (hstatus : data.status = .ok ∨ data.status = .stall) : ∀ e ∈ t, Quiet e := by
  cases h with
  | none => simp
  | dataIn => exact List.forall_mem_singleton.2 (quiet_of_bulk (.inl rfl) hstatus)
  | dataOut => exact List.forall_mem_singleton.2 (quiet_of_bulk (.inr rfl) hstatus)

/-- A data phase with its cleared stall loses nothing. -/
theorem DataPhase.quiet {stalled : Bool} {data : BulkInReply n}
    (h : DataPhase direction buffer c t stalled data) : ∀ e ∈ t, Quiet e := by
  cases h with
  | moved hmoved hok => exact hmoved.quiet (.inl hok)
  | cleared hmoved hstall hok =>
      refine List.forall_mem_append.2 ⟨hmoved.quiet (.inr hstall), ?_⟩
      exact List.forall_mem_singleton.2 (quiet_clearStall hok)

/-- An operation that failed inside an exchange whose block was accepted: the engine sees that the
phase is lost unless the status is PERMISSION or STALL. -/
theorem judged_of_failure {block failure : EngineEvent} (rest : List EngineEvent)
    (hblock : block.call.op = .adsc) (hok : ioStatusOf block = .ok)
    (hidle : c.recoveryRequired = false) (hstate : failure.state = c)
    (hrest : ∀ e ∈ rest, Quiet e)
    (hop : failure.call.op.IsBulk ∧ ioStatusOf failure ≠ .stall ∨
      failure.call.op = .clearStall ∨ failure.call.op = .interruptInWithDeadline)
    (hfailed : ioStatusOf failure ≠ .ok)
    (hmarked : Marked c (ioStatusLosesPhase (ioStatusOf failure)) c') :
    LossDecided (block :: (rest ++ [failure])) c' := by
  have hinside : failure.call.op.endsExchange = false := by
    rcases hop with ⟨hop | hop, -⟩ | hop | hop <;> simp [hop, CbiIoOp.endsExchange]
  have hdelivers : ¬ DeliversCompletion failure := by
    obtain ⟨s, call, reply⟩ := failure
    cases call <;> first | exact id | exact fun hdelivers => hfailed hdelivers.1
  -- the device lost the phase unless it is gone, since nothing delivered a completion
  have hlost : LosesPhase (block :: (rest ++ [failure])) ↔ ioStatusOf failure ≠ .noDevice := by
    rw [losesPhase_cons_iff hblock (List.forall_mem_append.2
      ⟨fun e he => (hrest e he).inside, List.forall_mem_singleton.2 hinside⟩)]
    refine ⟨fun h => (h.2 failure (by simp)).2, fun hgone => ⟨hok, ?_⟩⟩
    refine List.forall_mem_append.2 ⟨fun e he => ⟨(hrest e he).not_delivers, (hrest e he).not_gone⟩,
      List.forall_mem_singleton.2 ⟨hdelivers, hgone⟩⟩
  -- the engine overlooks the loss on the two statuses it does not count as one
  have hoverlooked : (∀ e ∈ block :: (rest ++ [failure]), ¬ Overlooked e) ↔
      ioStatusOf failure ≠ .permission ∧ ioStatusOf failure ≠ .stall := by
    have hseen : ¬ Overlooked block := by
      intro hoverlooked
      rcases hoverlooked.status with ⟨hbulk | hbulk, -⟩ | ⟨hkind | hkind, -⟩ <;>
        simp_all
    rw [List.forall_mem_cons, List.forall_mem_append, List.forall_mem_singleton,
      and_iff_right hseen, and_iff_right fun e he => (hrest e he).seen]
    constructor
    · intro hnot
      by_contra hstatus
      refine hnot ⟨by rw [hstate, hidle], ?_⟩
      rcases hop with ⟨hbulk, hnostall⟩ | hkind
      · exact .inl ⟨hbulk, by_contra fun hne => hstatus ⟨hne, hnostall⟩⟩
      · exact .inr ⟨hkind, by_contra fun hne => hstatus (not_or.1 hne)⟩
    · rintro ⟨hpermission, hstall⟩ hoverlooked
      rcases hoverlooked.status with ⟨-, hrefused⟩ | ⟨-, hrefused | hrefused⟩
      · exact hpermission hrefused
      · exact hpermission hrefused
      · exact hstall hrefused
  -- what is left is a statement about the status alone
  unfold LossDecided NoSilentLoss
  rw [hlost, hoverlooked, hmarked.recoveryRequired, hidle, Bool.false_or]
  revert hfailed
  generalize ioStatusOf failure = status
  cases status <;> simp [ioStatusLosesPhase]

/-- An exchange after which the engine requires a recovery anyway. -/
theorem judged_of_required (hrequired : c'.recoveryRequired = true)
    (hseen : ∀ e ∈ t, ¬ Overlooked e) : LossDecided t c' :=
  iff_of_true (fun _ => hrequired) hseen

/-- No loss is overlooked when the command block is sent. -/
theorem overlooked_adsc {timeoutMs : ℕ} {detail : ErrorText} {accepted : CbiReply} :
    ¬ Overlooked ⟨c, .adsc cdb timeoutMs detail, accepted⟩ := by
  intro hoverlooked
  rcases hoverlooked.status with ⟨hbulk | hbulk, -⟩ | ⟨hkind | hkind, -⟩ <;>
    simp_all [CbiIoCall.op]

/-- No loss is overlooked at a completion that was read. -/
theorem overlooked_interrupt {completion : Vector UInt8 cbiStatusLength} {timeoutMs : ℕ}
    {detail : ErrorText} {interrupt : InterruptReply} (hok : interrupt.status = .ok) :
    ¬ Overlooked ⟨c, .interruptInWithDeadline completion timeoutMs detail, interrupt⟩ := by
  intro hoverlooked
  rcases hoverlooked.status with ⟨-, hrefused⟩ | ⟨-, hrefused⟩ <;>
    simp [ioStatusOf, hok] at hrefused

/-- An exchange that went well lost nothing. -/
theorem Exchanged.settled (h : Exchanged cdb direction buffer c t out c')
    (hok : out.status = .ok) : Settled t := by
  cases h with
  | adscStalled hstall =>
      refine ⟨fun hlost => ?_, List.forall_mem_singleton.2 overlooked_adsc⟩
      have haccepted := ((losesPhase_cons_iff rfl (by simp)).1 hlost).1
      simp [ioStatusOf, hstall] at haccepted
  | completed _ hphase hinterrupt hlength =>
      refine ⟨fun hlost => ?_, List.forall_mem_cons.2 ⟨overlooked_adsc, List.forall_mem_append.2
        ⟨fun e he => (hphase.quiet e he).seen,
          List.forall_mem_singleton.2 (overlooked_interrupt hinterrupt)⟩⟩⟩
      obtain ⟨-, hrest⟩ := (losesPhase_cons_iff rfl (List.forall_mem_append.2
        ⟨fun e he => (hphase.quiet e he).inside, by simp [CbiIoCall.op, CbiIoOp.endsExchange]⟩)).1
        hlost
      exact (hrest _ (List.mem_append_right _ (List.mem_singleton_self _))).1
        ⟨hinterrupt, hlength⟩
  | _ => simp_all

/-- After an exchange the context requires the recovery exactly when the phase was lost, unless that
was overlooked. -/
theorem Exchanged.judged (h : Exchanged cdb direction buffer c t out c')
    (hidle : c.recoveryRequired = false) : LossDecided t c' := by
  by_cases hok : out.status = .ok
  · exact (h.settled hok).judged c'
  -- the ends that fail, each by the last operation of its exchange
  cases h with
  | adscStalled _ hstatus => exact absurd hstatus hok
  | completed _ _ _ _ hstatus => exact absurd hstatus hok
  | adscFailed hfailed =>
      refine Settled.judged ⟨fun hlost => ?_, List.forall_mem_singleton.2 overlooked_adsc⟩ _
      exact hfailed ((losesPhase_cons_iff rfl (by simp)).1 hlost).1
  | bulkFailed haccepted hmoved hfailed hnostall _ hmarked =>
      cases hmoved with
      | none => exact absurd rfl hfailed
      | dataIn =>
          exact judged_of_failure [] rfl haccepted hidle rfl (by simp)
            (.inl ⟨.inl rfl, hnostall⟩) hfailed hmarked
      | dataOut =>
          exact judged_of_failure [] rfl haccepted hidle rfl (by simp)
            (.inl ⟨.inr rfl, hnostall⟩) hfailed hmarked
  -- the engine itself finds these two out of step, and requires the recovery
  | overrun _ hmoved hok _ _ hmarked =>
      refine judged_of_required (by simp [hmarked.recoveryRequired]) ?_
      exact List.forall_mem_cons.2
        ⟨overlooked_adsc, fun e he => (hmoved.quiet (.inl hok) e he).seen⟩
  | clearFailed haccepted hmoved hstall hfailed _ hmarked =>
      exact judged_of_failure _ rfl haccepted hidle rfl (hmoved.quiet (.inr hstall))
        (.inr (.inl rfl)) hfailed hmarked
  | interruptFailed haccepted hphase hfailed _ hmarked =>
      exact judged_of_failure _ rfl haccepted hidle rfl hphase.quiet (.inr (.inr rfl)) hfailed
        hmarked
  | interruptShort _ hphase hok _ _ hmarked =>
      refine judged_of_required (by simp [hmarked.recoveryRequired]) ?_
      exact List.forall_mem_cons.2 ⟨overlooked_adsc, List.forall_mem_append.2
        ⟨fun e he => (hphase.quiet e he).seen,
          List.forall_mem_singleton.2 (overlooked_interrupt hok)⟩⟩

end Exchange

/-! ## Calls -/

/-- A REQUEST SENSE that succeeded lost nothing. -/
theorem Fetched.settled {out : SenseReply} (h : Fetched c t out c') (hok : out.status = .ok) :
    Settled t := by
  cases h with
  | failed _ hfailed hstatus =>
      rw [hok, eq_comm, mapIoStatus_eq_ok_iff] at hstatus
      exact absurd hstatus hfailed
  | rejected hexchanged hsensed => exact hexchanged.settled hsensed
  | fetched hexchanged hsensed => exact hexchanged.settled hsensed

/-- The calls of a REQUEST SENSE start with a command block. -/
theorem Fetched.startsExchange {out : SenseReply} (h : Fetched c t out c') :
    StartsExchange t := by
  cases h with
  | failed hexchanged => exact hexchanged.startsExchange
  | rejected hexchanged => exact hexchanged.startsExchange
  | fetched hexchanged => exact hexchanged.startsExchange

/-- The judgement of an exchange carries over to the engine's REQUEST SENSE. -/
theorem Fetched.judged {out : SenseReply} (h : Fetched c t out c')
    (hidle : c.recoveryRequired = false) : LossDecided t c' := by
  cases h with
  | failed hexchanged => exact hexchanged.judged hidle
  | rejected hexchanged hsensed => exact (hexchanged.settled hsensed).judged _
  | fetched hexchanged hsensed => exact (hexchanged.settled hsensed).judged _

/-- The judgement of an exchange carries over to a REQUEST SENSE of the caller. -/
theorem SenseExecuted.judged {padded : Vector UInt8 cbiCdbLength} {buffer : Vector UInt8 n}
    {out : ExecuteReply n} (h : SenseExecuted padded buffer c t out c')
    (hidle : c.recoveryRequired = false) : StartsExchange t ∧ LossDecided t c' := by
  cases h with
  | failed hexchanged => exact ⟨hexchanged.startsExchange, hexchanged.judged hidle⟩
  | rejected hexchanged hok => exact ⟨hexchanged.startsExchange, (hexchanged.settled hok).judged _⟩
  | answered hexchanged hok => exact ⟨hexchanged.startsExchange, (hexchanged.settled hok).judged _⟩

/-- What starts with a command block still does when more follows. -/
theorem StartsExchange.append (h : StartsExchange t) (hne : t ≠ []) : StartsExchange (t ++ t') := by
  cases t with
  | nil => exact absurd rfl hne
  | cons e t => exact h

/-- The judgement of an exchange carries over to any other command. -/
theorem CommandExecuted.judged {opcode : UInt8} {padded : Vector UInt8 cbiCdbLength}
    {direction : DataDirection} {buffer : Vector UInt8 n} {out : ExecuteReply n}
    (h : CommandExecuted opcode padded direction buffer c t out c')
    (hidle : c.recoveryRequired = false) : StartsExchange t ∧ LossDecided t c' := by
  have hnonempty {t : List EngineEvent} {reply : ExchangeReply n} {c' : CbiContext}
      (hexchanged : Exchanged padded direction buffer c t reply c') : t ≠ [] := by
    obtain ⟨_, _, _, _, _, rfl, -⟩ := hexchanged.shape
    exact List.cons_ne_nil _ _
  cases h with
  | failed hexchanged => exact ⟨hexchanged.startsExchange, hexchanged.judged hidle⟩
  | unsensed hexchanged hok hfetched =>
      exact ⟨hexchanged.startsExchange.append (hnonempty hexchanged),
        (hexchanged.settled hok).append_judged hfetched.startsExchange (hfetched.judged hidle)⟩
  | rejected hexchanged hok hfetched hsensed | answered hexchanged hok hfetched hsensed =>
      refine ⟨hexchanged.startsExchange.append (hnonempty hexchanged), Settled.judged ?_ _⟩
      exact (hexchanged.settled hok).append hfetched.startsExchange (hfetched.settled hsensed)

/-- The context stays the same during a recovery. -/
theorem Recovered.state_eq {out : CbiReply} (h : Recovered c t out c') :
    ∀ e ∈ t, e.state = c := by
  cases h with
  | idle => simp
  | unprepared => simp
  | unreset _ _ hexchanged | unfinished _ _ hexchanged | reset _ _ hexchanged =>
      simpa [or_imp, forall_and] using hexchanged.state_eq

/-- Nothing is overlooked during a recovery, which happens only when one is required. -/
theorem Recovered.seen {out : CbiReply} (h : Recovered c t out c') :
    ∀ e ∈ t, ¬ Overlooked e := by
  intro e he hoverlooked
  have hidle := hoverlooked.idle
  rw [h.state_eq e he, h.required_of_mem he] at hidle
  cases hidle

/-- A recovery that failed is still required. -/
theorem Recovered.required_of_failed {out : CbiReply} (h : Recovered c t out c')
    (hfailed : out.status ≠ .ok) : c'.recoveryRequired = true := by
  cases h with
  | idle _ hstatus => exact absurd hstatus hfailed
  | unprepared hrequired | unreset hrequired | unfinished hrequired => exact hrequired
  | reset _ _ _ _ _ _ _ hstatus => exact absurd hstatus hfailed

/-- The exchange of a reset that was done, between its preparation and its end. -/
theorem ResetExchange.not_losesPhase {reset : ExchangeReply 0} {prepare finish : EngineEvent}
    (h : ResetExchange c t reset) (tail : List EngineEvent) (hdone : ResetDone reset)
    (hprepare : prepare.call.op = .prepareCommandBlockReset)
    (htail : ∀ e ∈ tail, e.call.op = .clearStall)
    (hfinish : finish.call.op = .finishCommandBlockReset) :
    ¬ LosesPhase (prepare :: (t ++ (tail ++ [finish]))) := by
  have hsingle {e : EngineEvent} (hop : e.call.op ≠ .adsc) : ¬ LosesPhase [e] := by
    rintro ⟨u, block, v, heq, hblock, -⟩
    have hmem : block ∈ [e] := by simp [heq]
    rw [List.mem_singleton.1 hmem] at hblock
    exact hop hblock
  have hends : StartsExchange [finish] := by
    simp [StartsExchange, CbiIoOp.endsExchange, hfinish]
  cases h with
  | short hundone => exact absurd hdone hundone
  | @full timeoutMs detail detail' accepted _ completion interrupt haccepted hzeros =>
      obtain ⟨hok, hlength, -⟩ := hzeros.1 hdone
      intro hlost
      -- the bracketing operations end an exchange, so that the three parts are judged one by one
      have hsplit : ([prepare] : List EngineEvent) ++
          ((⟨c, .adsc resetCdb timeoutMs detail, accepted⟩ ::
            ⟨c, .interruptInWithDeadline completion timeoutMs detail', interrupt⟩ :: tail) ++
          [finish]) = prepare :: ([⟨c, .adsc resetCdb timeoutMs detail, accepted⟩,
            ⟨c, .interruptInWithDeadline completion timeoutMs detail', interrupt⟩] ++
          (tail ++ [finish])) := rfl
      have hinside : ∀ e ∈ (⟨c, .interruptInWithDeadline completion timeoutMs detail', interrupt⟩ ::
          tail : List EngineEvent), e.call.op.endsExchange = false := by
        refine List.forall_mem_cons.2 ⟨rfl, fun e he => ?_⟩
        simp [htail e he, CbiIoOp.endsExchange]
      rw [← hsplit, losesPhase_append_iff (by simp [StartsExchange, CbiIoOp.endsExchange,
        CbiIoCall.op]), losesPhase_append_iff hends] at hlost
      rcases hlost with hlost | hlost | hlost
      · exact hsingle (by simp [hprepare]) hlost
      · obtain ⟨-, hrest⟩ := (losesPhase_cons_iff rfl hinside).1 hlost
        exact (hrest _ List.mem_cons_self).1 ⟨hok, hlength⟩
      · exact hsingle (by simp [hfinish]) hlost

/-- A recovery that succeeded lost nothing. -/
theorem Recovered.settled {out : CbiReply} (h : Recovered c t out c') (hok : out.status = .ok) :
    Settled t := by
  refine ⟨?_, h.seen⟩
  cases h with
  | idle =>
      rintro ⟨u, block, v, heq, -⟩
      simp at heq
  | unprepared _ hfailed hstatus => exact absurd (hstatus ▸ hok) hfailed
  | unreset _ _ _ _ hstatus => exact absurd hok hstatus
  | unfinished _ _ _ _ _ hstatus => exact absurd hok hstatus
  | reset _ _ hexchanged hdone =>
      exact (resetExchange_of_exchanged hexchanged).not_losesPhase [_, _] hdone rfl
        (by simp [CbiIoCall.op]) rfl

/-- The engine notices every loss of phase exactly when no operation of an exchange is overlooked:
no bulk transfer is refused, and no clear and no interrupt is refused or stalls, while no recovery
is pending. -/
theorem cbiExecute_noSilentLoss_iff {command : Command} {c : CbiContext}
    (r : Run (cbiExecute command) c) :
    NoSilentLoss r.trace r.final ↔ ∀ e ∈ r.trace, ¬ Overlooked e := by
  obtain ⟨t, out, c', hexec⟩ := r
  show LossDecided t c'
  have hcontinued {t₁ t₂ : List EngineEvent} {recovery : CbiReply} {c₁ : CbiContext}
      (hrecovered : Recovered c t₁ recovery c₁) (hok : recovery.status = .ok)
      (hrest : StartsExchange t₂ ∧ LossDecided t₂ c') : LossDecided (t₁ ++ t₂) c' :=
    (hrecovered.settled hok).append_judged hrest.1 hrest.2
  cases executed_of_exec hexec with
  | refused =>
      refine Settled.judged ⟨?_, by simp⟩ _
      rintro ⟨u, block, v, heq, -⟩
      simp at heq
  | unrecovered _ hrecovered hfailed =>
      exact judged_of_required (hrecovered.required_of_failed hfailed) hrecovered.seen
  | sense _ hrecovered hok _ hexecuted =>
      exact hcontinued hrecovered hok (hexecuted.judged (hrecovered.not_required hok))
  | command _ hrecovered hok _ hexecuted =>
      exact hcontinued hrecovered hok (hexecuted.judged (hrecovered.not_required hok))

/-! ## A stalled interrupt -/

/-- TEST UNIT READY. -/
def testUnitReadyCommand : Command where
  cdb := Vector.replicate 16 0
  cdbLength := 6
  direction := .none
  dataLength := 0
  data := none
  timeoutMs := 15000

/-- An adapter on which the interrupt endpoint stalls, and everything else succeeds. -/
def stalledInterrupt (_ : ℕ) : (call : CbiIoCall) → CbiIoReply call
  | .openSeize detail => ⟨.ok, detail⟩
  | .close detail => ⟨.ok, detail⟩
  | .adsc _ _ detail => ⟨.ok, detail⟩
  | .bulkIn buffer _ detail => ⟨⟨.ok, detail⟩, buffer, 0⟩
  | .bulkOut _ _ detail => ⟨⟨.ok, detail⟩, 0⟩
  | .interruptInWithDeadline completion _ detail => ⟨⟨.stall, detail⟩, completion, 0⟩
  | .clearStall _ detail => ⟨.ok, detail⟩
  | .prepareCommandBlockReset detail => ⟨.ok, detail⟩
  | .finishCommandBlockReset _ detail => ⟨.ok, detail⟩

/-- TEST UNIT READY on an interface that was just opened, with this adapter. -/
def stalledInterruptRun : Run (cbiExecute testUnitReadyCommand) { opened := true } :=
  (cbiExecute testUnitReadyCommand).replay stalledInterrupt { opened := true }

/-- The command block was accepted, the completion is still to come, and nothing tells the engine
to recover before its next command. -/
theorem stalledInterruptRun_silentLoss :
    ¬ NoSilentLoss stalledInterruptRun.trace stalledInterruptRun.final := by
  intro hnoticed
  have hrequired : stalledInterruptRun.final.recoveryRequired = false := by decide +kernel
  have hlength : stalledInterruptRun.trace.length = 2 := by decide +kernel
  obtain ⟨block, interrupt, htrace⟩ := List.length_eq_two.1 hlength
  have hops : stalledInterruptRun.trace.map (fun e => (e.call.op, ioStatusOf e)) =
      [(.adsc, .ok), (.interruptInWithDeadline, .stall)] := by decide +kernel
  rw [htrace] at hops hnoticed
  simp only [List.map_cons, List.map_nil, List.cons.injEq, Prod.mk.injEq, and_true] at hops
  obtain ⟨⟨hblock, hok⟩, hop, hstall⟩ := hops
  -- the block was accepted, and the interrupt that followed it stalled
  have hlost : LosesPhase [block, interrupt] := by
    rw [losesPhase_cons_iff hblock (by simp [hop, CbiIoOp.endsExchange])]
    refine ⟨hok, List.forall_mem_singleton.2 ⟨fun hdelivers => ?_, by simp [hstall]⟩⟩
    obtain ⟨s, call, reply⟩ := interrupt
    cases call with
    | interruptInWithDeadline =>
        have hdelivered := hdelivers.1
        simp [ioStatusOf, hdelivered] at hstall
    | _ => exact hdelivers
  -- the engine took the stall for a status, so it asks for no recovery
  rw [hnoticed hlost] at hrequired
  cases hrequired

end M65
