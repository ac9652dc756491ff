import FloppyProbe.Cbi.Containment
import FloppyProbe.Cbi.PhaseLoss
import FloppyProbe.Mac.System

/-!
# Lost synchronisation, on both sides

The adapter marks its context as desynchronised by the result of each request; the engine derives
its own flag from the status that the adapter maps that result to. The two agree as long as no
interrupt fails silently (`SilentFailure`): the adapter is marked after every failed interrupt, and
the engine overlooks a stall and a refusal.
-/

namespace M65

open Interaction

variable {m m' : MacState} {c c' : CbiContext} {l : List EngineEvent} {t : List SystemEvent}
  {current : RunLoopRef} {n : ℕ}

/-! ## The statement -/

/-- The adapter refused a command block because its context is desynchronised. -/
def RefusesDesynchronized : EngineEvent → Prop
  | ⟨_, .adsc _ _ _, reply⟩ => reply = ⟨.protocol, resetRequired⟩
  | _ => False

/-- A silent failure while no recovery is pending. -/
def SilentFailure (e : SystemEvent) : Prop :=
  e.state.1.recoveryRequired = false ∧ Unseen e.lower

/-- A command during which an interrupt failed silently. -/
def SilentCall (call : Handled macTransport) : Prop :=
  (∃ command, call.call.call = .execute command) ∧ ∃ e ∈ call.trace, SilentFailure e

/-- The engine knows that the adapter waits for a reset. -/
def Agrees (s : SystemState) : Prop :=
  s.1.opened = true → s.2.context.desynchronized = true → s.1.recoveryRequired = true

/-- What a call owes to the two flags. -/
structure Synchronized (call : Handled macTransport) : Prop where
  agrees : Agrees call.after
  /-- A validated command on a desynchronised adapter starts with the reset. -/
  resets : call.before.2.context.desynchronized = true → ∀ command,
    call.call.call = .execute command → refuseCommand call.before.1 command = none →
      ∀ l, EngineCalls call l → l.head?.map (fun e => e.call.op) = some .prepareCommandBlockReset
  accepted : ∀ l, EngineCalls call l → ∀ e ∈ l, ¬ RefusesDesynchronized e

/-- A session in which no result of IOUSBLib says that the device is gone. -/
structure PresentSession extends MacSession where
  present : ∀ e ∈ toSession.trace, ¬ Gone e.lower

/-! ## Refusals -/

/-- A block is refused for want of a reset only on a desynchronised context, and never the reset. -/
theorem readyForAdsc_eq_resetRequired {context : MacCbiContext} {cdb : Vector UInt8 cbiCdbLength}
    (h : readyForAdsc current context cdb = some resetRequired) :
    context.desynchronized = true ∧ cdb ≠ resetCdb := by
  -- the texts of the other refusals are not this one
  have htexts : wrongThread ≠ resetRequired ∧
      errorText "USB CBI transport has a pending completion interrupt" ≠ resetRequired ∧
      errorText "unarmed CBI command-block reset was rejected" ≠ resetRequired ∧
      errorText "only the armed CBI command-block reset is permitted during recovery" ≠
        resetRequired := by decide +kernel
  obtain ⟨hthread, hpending, hunarmed, harmed⟩ := htexts
  unfold readyForAdsc at h
  dsimp only at h
  split at h
  · exact absurd (Option.some.inj h) hthread
  split at h
  · exact absurd (Option.some.inj h) hpending
  split at h
  · split at h
    · exact absurd (Option.some.inj h) hunarmed
    · exact absurd (Option.some.inj h) harmed
  split at h
  · next hrefused =>
      simp only [Bool.and_eq_true, Bool.not_eq_true'] at hrefused
      refine ⟨hrefused.1, fun hreset => ?_⟩
      rw [hreset] at hrefused
      exact absurd hrefused.2 (by decide)
  · cases h

/-- A synchronised adapter, or one that is given the reset block, does not refuse for that. -/
theorem macAdsc_not_resetRequired {cdb : Vector UInt8 cbiCdbLength} {timeoutMs : ℕ}
    {detail : ErrorText} {inner : List MacEvent} {reply : CbiReply}
    (h : Exec (macAdsc current cdb timeoutMs detail) m inner reply m')
    (hready : m.context.desynchronized = false ∨ cdb = resetCdb) :
    reply ≠ ⟨.protocol, resetRequired⟩ := by
  rintro rfl
  unfold macAdsc at h
  rw [exec_get_bind] at h
  cases hrefusal : readyForAdsc current m.context cdb with
  | some refusal =>
      simp only [hrefusal, exec_pure] at h
      obtain ⟨-, heq, -⟩ := h
      obtain rfl : resetRequired = refusal := congrArg CbiReply.detail heq
      obtain ⟨hdesynchronized, hordinary⟩ := readyForAdsc_eq_resetRequired hrefusal
      rcases hready with hready | hready
      · rw [hready] at hdesynchronized
        cases hdesynchronized
      · exact hordinary hready
  | none =>
      -- the texts of a request that was made start with another letter
      have hsent {pieces : List (List UInt8)} :
          (Text.format (str "CBI ADSC command" :: pieces) : ErrorText) ≠ resetRequired := by
        intro heq
        have hhead := congrArg (fun text : ErrorText => text.bytes.head?) heq
        rw [show str "CBI ADSC command" = 0x43 :: str "BI ADSC command" by decide +kernel,
          show resetRequired.bytes.head? = some 0x55 by decide +kernel] at hhead
        simp [Text.format] at hhead
      have hshort : errorText "CBI ADSC command transferred fewer than 12 bytes" ≠
          resetRequired := by decide +kernel
      simp only [hrefusal, exec_call_bind, exec_ite, exec_updateContext_bind, exec_pure] at h
      obtain ⟨control, t', h, rfl⟩ := h
      rcases h with ⟨-, h⟩ | ⟨-, h⟩
      · rcases h with ⟨-, -, heq, -⟩ | ⟨-, -, heq, -⟩ <;>
          exact hsent (congrArg CbiReply.detail heq).symm
      · rcases h with ⟨-, -, heq, -⟩ | ⟨-, -, heq, -⟩
        · exact hshort (congrArg CbiReply.detail heq).symm
        · exact absurd (congrArg CbiReply.status heq) nofun

/-- Only a command block can be refused for want of a reset. -/
theorem not_refusesDesynchronized_of_op {e : EngineEvent} (hop : e.call.op ≠ .adsc) :
    ¬ RefusesDesynchronized e := by
  obtain ⟨s, call, reply⟩ := e
  cases call with
  | adsc => exact absurd rfl hop
  | _ => exact id

/-! ## Exchanges -/

/-- What the adapter and the engine do together for the operations `l`, from a synchronised adapter
on: they agree in the end exactly when no interrupt failed silently. -/
structure Agreement (ok : Prop) (l : List EngineEvent) (c' : CbiContext) (t : List SystemEvent)
    (m' : MacState) : Prop where
  of_ok : ok → m'.context.desynchronized = false ∧ ∀ e ∈ t, ¬ Unseen e.lower
  agrees_iff : (m'.context.desynchronized = true → c'.recoveryRequired = true) ↔
    ∀ e ∈ t, ¬ Unseen e.lower
  accepted : ∀ e ∈ l, ¬ RefusesDesynchronized e

/-- Operations after which the adapter is synchronised, and others. -/
theorem Agreement.append {ok ok' : Prop} {l' : List EngineEvent} {t' : List SystemEvent}
    {m₁ : MacState} {c₁ : CbiContext} (h : Agreement ok l c₁ t m₁) (hok : ok)
    (h' : Agreement ok' l' c' t' m') : Agreement ok' (l ++ l') c' (t ++ t') m' := by
  obtain ⟨-, hseen⟩ := h.of_ok hok
  refine ⟨fun hok' => ?_, ?_, List.forall_mem_append.2 ⟨h.accepted, h'.accepted⟩⟩
  · obtain ⟨hsynchronized, hseen'⟩ := h'.of_ok hok'
    exact ⟨hsynchronized, List.forall_mem_append.2 ⟨hseen, hseen'⟩⟩
  · rw [h'.agrees_iff, List.forall_mem_append]
    exact (and_iff_right hseen).symm

/-- The agreement is known for a stronger success. -/
theorem Agreement.imp {ok ok' : Prop} (h : Agreement ok l c' t m') (hok : ok' → ok) :
    Agreement ok' l c' t m' :=
  { h with of_ok := fun hok' => h.of_ok (hok hok') }

/-- The engine marks itself after operations that leave the adapter synchronised. -/
theorem Agreement.mark {ok ok' : Prop} {c₁ : CbiContext} (h : Agreement ok l c₁ t m') (hok : ok)
    (hmarked : c'.recoveryRequired = true) (hfailed : ¬ ok') : Agreement ok' l c' t m' :=
  ⟨fun hok' => absurd hok' hfailed, iff_of_true (fun _ => hmarked) (h.of_ok hok).2, h.accepted⟩

section Exchange

variable {cdb : Vector UInt8 cbiCdbLength} {direction : DataDirection} {buffer : Vector UInt8 n}
  {out : ExchangeReply n}

/-- A synchronised adapter refuses no block of an exchange for want of a reset. -/
theorem Exchanged.accepted (h : Exchanged cdb direction buffer c l out c')
    (hserved : Served (macIo current) m l t m') (hready : m.context.desynchronized = false) :
    ∀ e ∈ l, ¬ RefusesDesynchronized e := by
  obtain ⟨timeoutMs, detail, reply, moved, rest, rfl, hmoved, hrest⟩ := h.shape
  cases hserved with
  | cons hexec _ =>
      refine List.forall_mem_cons.2 ⟨macAdsc_not_resetRequired hexec (.inl hready),
        List.forall_mem_append.2 ⟨fun e he => ?_, fun e he => ?_⟩⟩
      · apply not_refusesDesynchronized_of_op
        rcases hmoved with rfl | ⟨data, hmoved⟩
        · cases he
        · cases hmoved with
          | none => cases he
          | dataIn => simp [List.mem_singleton.1 he, CbiIoCall.op]
          | dataOut => simp [List.mem_singleton.1 he, CbiIoCall.op]
      · apply not_refusesDesynchronized_of_op
        rcases hrest e he with hop | hop <;> simp [hop]

/-- An exchange from a synchronised adapter on. -/
theorem Exchanged.agreement (h : Exchanged cdb direction buffer c l out c')
    (hserved : Served (macIo current) m l t m') (hidle : c.recoveryRequired = false)
    (hsynchronized : m.context.desynchronized = false) (hpresent : ∀ e ∈ t, ¬ Gone e.lower) :
    Agreement (out.status = .ok) l c' t m' := by
  have haccepted := h.accepted hserved hsynchronized
  obtain ⟨⟨init, last, rfl, hinit, hok, hlast⟩, hexchange⟩ := h.exchangeEnd
  obtain ⟨hexchange, hexchange'⟩ := List.forall_mem_append.1 hexchange
  obtain ⟨t₁, m₁, inner, hinner, hexec, rfl⟩ := hserved.of_concat
  obtain ⟨hpresent, hpresent'⟩ := List.forall_mem_append.1 hpresent
  obtain ⟨hmid, hseen⟩ := synchronized_of_served hinner hexchange hinit
  have hmid : m₁.context.desynchronized = false := hmid.trans hsynchronized
  have hseen := hseen hsynchronized hpresent
  have hpresent' : ∀ x ∈ inner, ¬ Gone x := fun x hx =>
    hpresent' (x.below last.state) (List.mem_map_of_mem hx)
  have hoperated := operated_of_exec (hexchange' last (List.mem_singleton_self last)) hexec
  have hsilent : (∀ e ∈ t₁ ++ inner.map (Event.below last.state), ¬ Unseen e.lower) ↔
      ∀ x ∈ inner, ¬ Unseen x := by
    rw [List.forall_mem_append, List.forall_mem_map]
    exact and_iff_right hseen
  -- an operation that leaves the link alone keeps the adapter synchronised
  have hleaves (hleaves : LeavesLink last) : m'.context.desynchronized = false ∧
      ∀ x ∈ inner, ¬ Unseen x := by
    obtain ⟨hend, hunseen⟩ := hoperated.synchronized hleaves
    exact ⟨hend.trans hmid, hunseen hmid hpresent'⟩
  refine ⟨fun hstatus => ?_, ?_, haccepted⟩
  · rw [hsilent]
    exact hleaves (hok hstatus)
  rw [hsilent]
  rcases hlast with hlast | hrequired
  · obtain ⟨hend, hunseen⟩ := hleaves hlast
    exact iff_of_true (fun hdesynchronized => by simp [hend] at hdesynchronized) hunseen
  · obtain ⟨lost, hdesynchronized, -, -, hunseen⟩ := hoperated.lost
    rw [hmid, Bool.false_or] at hdesynchronized
    rw [hidle, Bool.false_or] at hrequired
    have hunseen := not_congr (hunseen hmid hpresent')
    rw [hdesynchronized, hrequired]
    simpa [not_and] using hunseen

end Exchange

/-- The sense data of a failed command, from a synchronised adapter on. -/
theorem Fetched.agreement {out : SenseReply} (h : Fetched c l out c')
    (hserved : Served (macIo current) m l t m') (hidle : c.recoveryRequired = false)
    (hsynchronized : m.context.desynchronized = false) (hpresent : ∀ e ∈ t, ¬ Gone e.lower) :
    Agreement (out.status = .ok) l c' t m' := by
  cases h with
  | failed hexchanged _ hstatus =>
      refine (hexchanged.agreement hserved hidle hsynchronized hpresent).imp fun hok => ?_
      rwa [hstatus, mapIoStatus_eq_ok_iff] at hok
  | rejected hexchanged hok hstatus hmarked =>
      exact (hexchanged.agreement hserved hidle hsynchronized hpresent).mark hok
        (by simp [hmarked.recoveryRequired]) (by simp [hstatus])
  | fetched hexchanged hok =>
      exact (hexchanged.agreement hserved hidle hsynchronized hpresent).imp fun _ => hok

/-- A REQUEST SENSE, from a synchronised adapter on. -/
theorem SenseExecuted.agreement {padded : Vector UInt8 cbiCdbLength} {buffer : Vector UInt8 n}
    {out : ExecuteReply n} (h : SenseExecuted padded buffer c l out c')
    (hserved : Served (macIo current) m l t m') (hidle : c.recoveryRequired = false)
    (hsynchronized : m.context.desynchronized = false) (hpresent : ∀ e ∈ t, ¬ Gone e.lower) :
    Agreement (out.result.transportStatus = .ok) l c' t m' := by
  cases h with
  | failed hexchanged _ hstatus =>
      refine (hexchanged.agreement hserved hidle hsynchronized hpresent).imp fun hok => ?_
      rwa [hstatus, mapIoStatus_eq_ok_iff] at hok
  | rejected hexchanged hok hstatus hmarked =>
      exact (hexchanged.agreement hserved hidle hsynchronized hpresent).mark hok
        (by simp [hmarked.recoveryRequired]) (by simp [hstatus])
  | answered hexchanged hok =>
      exact (hexchanged.agreement hserved hidle hsynchronized hpresent).imp fun _ => hok

/-- Any other command, from a synchronised adapter on. -/
theorem CommandExecuted.agreement {opcode : UInt8} {padded : Vector UInt8 cbiCdbLength}
    {direction : DataDirection} {buffer : Vector UInt8 n} {out : ExecuteReply n}
    (h : CommandExecuted opcode padded direction buffer c l out c')
    (hserved : Served (macIo current) m l t m') (hidle : c.recoveryRequired = false)
    (hsynchronized : m.context.desynchronized = false) (hpresent : ∀ e ∈ t, ¬ Gone e.lower) :
    Agreement (out.result.transportStatus = .ok) l c' t m' := by
  -- a successful exchange, and the engine's own REQUEST SENSE after it
  have hsensed {l₁ l₂ : List EngineEvent} {reply : ExchangeReply n} {fetched : SenseReply}
      {c' : CbiContext} (hexchanged : Exchanged padded direction buffer c l₁ reply c)
      (hok : reply.status = .ok) (hfetched : Fetched c l₂ fetched c')
      (hserved : Served (macIo current) m (l₁ ++ l₂) t m') :
      Agreement (fetched.status = .ok) (l₁ ++ l₂) c' t m' := by
    obtain ⟨t₁, m₁, t₂, hserved₁, hserved₂, rfl⟩ := hserved.of_append
    obtain ⟨hpresent₁, hpresent₂⟩ := List.forall_mem_append.1 hpresent
    have hfirst := hexchanged.agreement hserved₁ hidle hsynchronized hpresent₁
    exact hfirst.append hok
      (hfetched.agreement hserved₂ hidle (hfirst.of_ok hok).1 hpresent₂)
  cases h with
  | failed hexchanged _ hstatus =>
      refine (hexchanged.agreement hserved hidle hsynchronized hpresent).imp fun hok => ?_
      rwa [hstatus, mapIoStatus_eq_ok_iff] at hok
  | unsensed hexchanged hok hfetched _ hstatus =>
      exact (hsensed hexchanged hok hfetched hserved).imp hstatus.symm.trans
  | rejected hexchanged hok hfetched hfetchedOk hstatus hmarked =>
      exact (hsensed hexchanged hok hfetched hserved).mark hfetchedOk
        (by simp [hmarked.recoveryRequired]) (by simp [hstatus])
  | answered hexchanged hok hfetched hfetchedOk =>
      exact (hsensed hexchanged hok hfetched hserved).imp fun _ => hfetchedOk

/-! ## Recovery -/

/-- A recovery that succeeded leaves a synchronised adapter. -/
theorem Recovered.synchronized {out : CbiReply} (h : Recovered c l out c')
    (hserved : Served (macIo current) m l t m') (hok : out.status = .ok)
    (hagrees : c.recoveryRequired = false → m.context.desynchronized = false) :
    m'.context.desynchronized = false := by
  cases h with
  | idle hidle =>
      obtain ⟨-, rfl⟩ := hserved.of_nil
      exact hagrees hidle
  | unprepared _ hfailed hstatus => exact absurd (hstatus.symm.trans hok) hfailed
  | unreset _ _ _ _ hstatus => exact absurd hok hstatus
  | unfinished _ _ _ _ _ hstatus => exact absurd hok hstatus
  | @reset l d₁ d₂ d₃ d₄ prepared clearedIn clearedOut finished _ _ _ _ _ _ _ _ hfinished =>
      have hsplit : ⟨c, .prepareCommandBlockReset d₁, prepared⟩ :: (l ++
          [⟨c, .clearStall .dataIn d₂, clearedIn⟩, ⟨c, .clearStall .dataOut d₃, clearedOut⟩,
            ⟨c, .finishCommandBlockReset true d₄, finished⟩]) =
          (⟨c, .prepareCommandBlockReset d₁, prepared⟩ :: (l ++
            [⟨c, .clearStall .dataIn d₂, clearedIn⟩, ⟨c, .clearStall .dataOut d₃, clearedOut⟩])) ++
          ([⟨c, .finishCommandBlockReset true d₄, finished⟩] : List EngineEvent) := by simp
      rw [hsplit] at hserved
      obtain ⟨_, _, _, -, hexec, -⟩ := hserved.of_concat
      exact (finished_of_exec hexec).desynchronized hfinished

/-- The only command block of a recovery is that of the reset. -/
theorem Recovered.accepted {out : CbiReply} (h : Recovered c l out c')
    (hserved : Served (macIo current) m l t m') : ∀ e ∈ l, ¬ RefusesDesynchronized e := by
  intro e he
  obtain ⟨m₁, inner, m₂, hexec⟩ := hserved.exists_exec e he
  have hgate := (h.gated e he).2
  obtain ⟨s, call, reply⟩ := e
  cases call with
  | adsc block timeoutMs detail =>
      exact macAdsc_not_resetRequired hexec (.inr (hgate block timeoutMs detail rfl))
  | _ => exact id

/-- A recovery starts with the preparation of the reset. -/
theorem Recovered.head_of_required {out : CbiReply} (h : Recovered c l out c')
    (hrequired : c.recoveryRequired = true) :
    ∃ e, l.head? = some e ∧ e.call.op = .prepareCommandBlockReset := by
  cases h with
  | idle hidle =>
      rw [hidle] at hrequired
      cases hrequired
  | unprepared | unreset | unfinished | reset => exact ⟨_, rfl, rfl⟩

/-- Nothing that fails during a recovery is a silent failure. -/
theorem Recovered.not_silentFailure {out : CbiReply} (h : Recovered c l out c')
    (hserved : Served (macIo current) m l t m') : ∀ e ∈ t, ¬ SilentFailure e := by
  have hrequired : ∀ e ∈ l, e.state.recoveryRequired = true := by
    intro e he
    rw [h.state_eq e he]
    exact h.required_of_mem he
  intro e he hsilent
  have hset := hserved.upper_state (P := fun c => c.recoveryRequired = true) hrequired e he
  rw [hsilent.1] at hset
  cases hset

/-- From a recovery on, a command keeps the agreement exactly when no failure is silent. -/
theorem Recovered.agrees_iff {out : CbiReply} {c₁ : CbiContext} {l' : List EngineEvent}
    {m₁ : MacState} {t' : List SystemEvent} {ok : Prop} (h : Recovered c l out c₁)
    (hserved : Served (macIo current) m l t m₁) (hok : out.status = .ok)
    (hagreement : Agreement ok l' c' t' m') (hstate : ∀ e ∈ l', e.state = c₁)
    (hserved' : Served (macIo current) m₁ l' t' m') :
    ((m'.context.desynchronized = true → c'.recoveryRequired = true) ↔
      ∀ e ∈ t ++ t', ¬ SilentFailure e) ∧ ∀ e ∈ l ++ l', ¬ RefusesDesynchronized e := by
  refine ⟨?_, List.forall_mem_append.2 ⟨h.accepted hserved, hagreement.accepted⟩⟩
  rw [hagreement.agrees_iff, List.forall_mem_append, and_iff_right (h.not_silentFailure hserved)]
  -- after a recovery, none is pending
  have hidle : ∀ e ∈ t', e.state.1.recoveryRequired = false := by
    apply hserved'.upper_state (P := fun c => c.recoveryRequired = false)
    intro e he
    rw [hstate e he]
    exact h.not_required hok
  exact forall₂_congr fun e he => not_congr (and_iff_right (hidle e he)).symm

/-! ## Calls -/

/-- What an execution does to the two flags, when they agreed before. -/
structure Kept (l : List EngineEvent) (c' : CbiContext) (t : List SystemEvent) (m' : MacState) :
    Prop where
  agrees_iff : Agrees (c', m') ↔ ∀ e ∈ t, ¬ SilentFailure e
  accepted : ∀ e ∈ l, ¬ RefusesDesynchronized e

/-- An execution keeps the agreement of the flags, unless an interrupt fails silently. -/
theorem Executed.kept {command : Command} {out : ExecuteReply command.dataLength}
    (h : Executed command c l out c') (hserved : Served (macIo current) m l t m')
    (hagrees : Agrees (c, m)) (hpresent : ∀ e ∈ t, ¬ Gone e.lower) : Kept l c' t m' := by
  have hopened' := h.opened_eq
  -- the flags of an execution that is not refused
  have hidle (haccepted : refuseCommand c command = none) :
      c.opened = true ∧ (c.recoveryRequired = false → m.context.desynchronized = false) := by
    have hopened := (refuseCommand_eq_none haccepted).1
    refine ⟨hopened, fun hidle => ?_⟩
    by_contra hdesynchronized
    rw [hagrees hopened (by simpa using hdesynchronized)] at hidle
    cases hidle
  cases h with
  | refused =>
      obtain ⟨rfl, rfl⟩ := hserved.of_nil
      exact ⟨iff_of_true hagrees (by simp), by simp⟩
  | unrecovered haccepted hrecovered hfailed =>
      refine ⟨iff_of_true (fun _ _ => hrecovered.required_of_failed hfailed)
        (hrecovered.not_silentFailure hserved), hrecovered.accepted hserved⟩
  | sense haccepted hrecovered hok _ hexecuted | command haccepted hrecovered hok _ hexecuted =>
      obtain ⟨hopened, hsynchronized⟩ := hidle haccepted
      obtain ⟨t₁, m₁, t₂, hserved₁, hserved₂, rfl⟩ := hserved.of_append
      obtain ⟨-, hpresent₂⟩ := List.forall_mem_append.1 hpresent
      obtain ⟨hagrees_iff, haccepted⟩ := hrecovered.agrees_iff hserved₁ hok
        (hexecuted.agreement hserved₂ (hrecovered.not_required hok)
          (hrecovered.synchronized hserved₁ hok hsynchronized) hpresent₂)
        hexecuted.passage.state_eq hserved₂
      exact ⟨(imp_iff_right (hopened'.trans hopened)).trans hagrees_iff, haccepted⟩

/-- While a recovery is owed, every accepted command begins with it. -/
theorem Executed.head_of_required {command : Command} {out : ExecuteReply command.dataLength}
    (h : Executed command c l out c') (haccepted : refuseCommand c command = none)
    (hrequired : c.recoveryRequired = true) :
    l.head?.map (fun e => e.call.op) = some .prepareCommandBlockReset := by
  have hhead {l l' : List EngineEvent} {recovery : CbiReply} {c₁ : CbiContext}
      (hrecovered : Recovered c l recovery c₁) :
      (l ++ l').head?.map (fun e => e.call.op) = some .prepareCommandBlockReset := by
    obtain ⟨e, he, hop⟩ := hrecovered.head_of_required hrequired
    rw [List.head?_append, he, Option.some_or, Option.map_some, hop]
  cases h with
  | refused hrefused =>
      rw [haccepted] at hrefused
      cases hrefused
  | unrecovered _ hrecovered =>
      rw [← List.append_nil l]
      exact hhead hrecovered
  | sense _ hrecovered => exact hhead hrecovered
  | command _ hrecovered => exact hhead hrecovered

/-- The flags agree, and an interface that the engine does not hold is closed. -/
structure Aligned (s : SystemState) : Prop where
  agrees : Agrees s
  closed : s.1.opened = false → s.2.context.isOpen = false

/-- Opening keeps the flags aligned. -/
theorem Acquired.aligned {out : StatusReply} (h : Acquired c l out c')
    (hserved : Served (macIo current) m l t m') (haligned : Aligned (c, m)) :
    Aligned (c', m') ∧ ∀ e ∈ l, ¬ RefusesDesynchronized e := by
  cases h with
  | held =>
      obtain ⟨-, rfl⟩ := hserved.of_nil
      exact ⟨haligned, by simp⟩
  | opened hclosed hok =>
      obtain ⟨inner, hexec, -⟩ := hserved.singleton
      obtain ⟨-, hsynchronized, -⟩ :=
        (seized_of_exec hexec (haligned.closed hclosed)).of_ok hok
      refine ⟨⟨fun _ hdesynchronized => ?_, nofun⟩, by simp [RefusesDesynchronized]⟩
      rw [hsynchronized] at hdesynchronized
      cases hdesynchronized
  | failed hclosed hfailed =>
      obtain ⟨inner, hexec, -⟩ := hserved.singleton
      obtain ⟨hopen, -⟩ := (seized_of_exec hexec (haligned.closed hclosed)).of_failed hfailed
      refine ⟨⟨fun hopened => ?_, fun _ => hopen⟩, by simp [RefusesDesynchronized]⟩
      rw [hclosed] at hopened
      cases hopened

/-- Closing keeps the flags aligned. -/
theorem Closed.aligned {out : StatusReply} (h : Closed c l out c')
    (hserved : Served (macIo current) m l t m') (haligned : Aligned (c, m)) :
    Aligned (c', m') ∧ ∀ e ∈ l, ¬ RefusesDesynchronized e := by
  cases h with
  | idle =>
      obtain ⟨-, rfl⟩ := hserved.of_nil
      exact ⟨haligned, by simp⟩
  | closed =>
      obtain ⟨inner, hexec, -⟩ := hserved.singleton
      obtain ⟨hopen, -, -⟩ := (shut_of_exec hexec).closed
      exact ⟨⟨nofun, fun _ => hopen⟩, by simp [RefusesDesynchronized]⟩
  | failed =>
      obtain ⟨inner, hexec, -⟩ := hserved.singleton
      obtain ⟨hopen, hdesynchronized, -⟩ := (shut_of_exec hexec).closed
      refine ⟨⟨fun hopened hset => ?_, fun _ => hopen⟩, by simp [RefusesDesynchronized]⟩
      exact haligned.agrees hopened (hdesynchronized ▸ hset)

/-- A call that starts with matching flags owes nothing exactly when no interrupt fails silently,
and then the flags match again. -/
theorem synchronized_iff (call : Handled macTransport) (haligned : Aligned call.before)
    (hpresent : ∀ e ∈ call.trace, ¬ Gone e.lower) :
    (Synchronized call ↔ ¬ SilentCall call) ∧ (Agrees call.after → Aligned call.after) := by
  obtain ⟨⟨thread, call⟩, reply, ⟨c, m⟩, t, ⟨c', m'⟩, hexec⟩ := call
  -- calls that are no executions
  have hquiet (hcall : ∀ command, call ≠ .execute command)
      (haligned' : ∀ l, Exec (cbiTransport call) c l reply c' →
        Served (macIo thread) m l t m' →
          Aligned (c', m') ∧ ∀ e ∈ l, ¬ RefusesDesynchronized e) :
      (Synchronized ⟨⟨thread, call⟩, reply, (c, m), t, (c', m'), hexec⟩ ↔
        ¬ SilentCall ⟨⟨thread, call⟩, reply, (c, m), t, (c', m'), hexec⟩) ∧
          (Agrees (c', m') → Aligned (c', m')) := by
    obtain ⟨l, hengine, hserved⟩ := exec_atop.1 hexec
    obtain ⟨hafter, -⟩ := haligned' l hengine hserved
    refine ⟨iff_of_true ⟨hafter.agrees, fun _ command hexecute => ?_, fun l hl => ?_⟩ ?_,
      fun _ => hafter⟩
    · exact absurd hexecute (hcall command)
    · exact (haligned' l hl.engine hl.served).2
    · rintro ⟨⟨command, hexecute⟩, -⟩
      exact hcall command hexecute
  cases call with
  | acquireExclusive detail =>
      exact hquiet nofun fun l hengine hserved =>
        (acquired_of_exec hengine).aligned hserved haligned
  | releaseExclusive detail =>
      exact hquiet nofun fun l hengine hserved => (closed_of_exec hengine).aligned hserved haligned
  | execute command =>
      obtain ⟨l, hengine, hserved⟩ := exec_atop.1 hexec
      have hexecuted := executed_of_exec hengine
      have hkept := hexecuted.kept hserved haligned.agrees hpresent
      constructor
      · constructor
        · rintro hsynchronized ⟨-, e, he, hsilent⟩
          exact hkept.agrees_iff.1 hsynchronized.agrees e he hsilent
        · intro hquiet
          have hseen : ∀ e ∈ t, ¬ SilentFailure e :=
            fun e he hsilent => hquiet ⟨⟨command, rfl⟩, e, he, hsilent⟩
          refine ⟨hkept.agrees_iff.2 hseen, ?_, fun l hl => ?_⟩
          · rintro hdesynchronized command' hcall haccepted l hl
            obtain rfl := TransportCall.execute.inj hcall
            exact (executed_of_exec hl.engine).head_of_required haccepted
              (haligned.agrees (refuseCommand_eq_none haccepted).1 hdesynchronized)
          · exact ((executed_of_exec hl.engine).kept hl.served haligned.agrees hpresent).accepted
      · refine fun hagrees => ⟨hagrees, fun hclosed => ?_⟩
        have hopen := (carried_of_served hserved hexecuted.not_isSeizure).isOpen
        rw [hopen]
        exact haligned.closed (hexecuted.opened_eq.symm.trans hclosed)

/-- The engine knows after every call whether the adapter waits for a reset, and starts with it,
exactly when no interrupt of a command fails silently: the abort after its deadline, or its
completion before, with a stall or a refusal, while no recovery is pending. -/
theorem macTransport_synchronized_iff (session : PresentSession) :
    (∀ call ∈ session.calls, Synchronized call) ↔ ∀ call ∈ session.calls, ¬ SilentCall call := by
  have hpresent : ∀ call ∈ session.calls, ∀ e ∈ call.trace, ¬ Gone e.lower :=
    fun call hcall e he => session.present e (List.mem_flatMap.2 ⟨call, hcall, he⟩)
  have hstart : Aligned (({}, {}) : SystemState) := ⟨nofun, fun _ => rfl⟩
  -- the flags match before every call, when they do after the calls before it
  have hbefore (hagrees : ∀ call ∈ session.calls, Aligned call.before → Agrees call.after) :
      ∀ call ∈ session.calls, Aligned call.before := by
    refine (session.chain.invariant (fun call hcall haligned => ?_) hstart).1
    exact (synchronized_iff call haligned (hpresent call hcall)).2 (hagrees call hcall haligned)
  constructor
  · intro hsynchronized call hcall
    have haligned := hbefore (fun call hcall _ => (hsynchronized call hcall).agrees) call hcall
    exact (synchronized_iff call haligned (hpresent call hcall)).1.1 (hsynchronized call hcall)
  · intro hquiet
    have hstep (call : Handled macTransport) (hcall : call ∈ session.calls)
        (haligned : Aligned call.before) : Synchronized call :=
      (synchronized_iff call haligned (hpresent call hcall)).1.2 (hquiet call hcall)
    have haligned := hbefore fun call hcall haligned => (hstep call hcall haligned).agrees
    exact fun call hcall => hstep call hcall (haligned call hcall)

/-! ## A stalled interrupt pipe -/

/-- The completion interrupt of the first request ends with a stall. -/
def stalledCompletion : Completion where
  request := 0
  result := kIOUSBPipeStalled
  transferred := 0
  buffer := Vector.replicate cbiStatusLength 0

/-- The interface is opened, and the interrupt of TEST UNIT READY stalls. -/
def stalledSession : PresentSession where
  toSession := .replay
    [(⟨⟨0⟩, .acquireExclusive Text.empty⟩, workingInterface kIOReturnSuccess none),
      (⟨⟨0⟩, .execute testUnitReadyCommand⟩,
        workingInterface kIOReturnSuccess (some stalledCompletion))] _
  present := by decide +kernel

/-- The adapter waits for a reset that the engine does not know of. -/
theorem stalledSession_not_synchronized :
    ¬ ∀ call ∈ stalledSession.calls, Synchronized call := by
  intro hsynchronized
  have hagrees : ∀ call ∈ stalledSession.calls, call.after.1.opened = true →
      call.after.2.context.desynchronized = true → call.after.1.recoveryRequired = true :=
    fun call hcall => (hsynchronized call hcall).agrees
  exact absurd hagrees (by decide +kernel)

end M65
