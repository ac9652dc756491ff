import FloppyProbe.Cbi.Containment
import FloppyProbe.Probe.CallShape

/-!
# The workflow on the CBI transport

A run of `m65_test_1581` on the CBI transport is a run of the workflow whose calls of the
transport are those of a session of the engine. What the workflow concludes from a GOOD status of
the restoration is true down to the adapter: the saved page was the last data sent out, all of it
was moved, and the completion and the sense data agree that nothing went wrong.
-/

namespace M65

open Interaction

variable {c c' : CbiContext} {t : List EngineEvent} {n : ℕ}

/-! ## The statement -/

/-- A call of the transport with the reply to it. -/
abbrev TransportAnswer : Type := Σ call : TransportCall, TransportReply call

/-- The call of the transport in an event, with its reply. -/
def transportAnswer : WorkflowEvent → Option TransportAnswer
  | ⟨_, .transport call, reply⟩ => some ⟨call, reply⟩
  | _ => none

/-- A run of the workflow on an engine that is in the context `c`. -/
structure CbiRun (acknowledgement : Bool) (s : Bool) (c : CbiContext) where
  run : Run (test1581 acknowledgement) s
  session : Session cbiTransport c
  answers_eq : session.calls.map (fun call => ⟨call.call, call.reply⟩) =
    run.trace.filterMap transportAnswer

/-- The bytes of a page whose PS bit is clear. -/
def withoutPs (page : Vector UInt8 flexPageLength) : List UInt8 :=
  (page[0] &&& 0x7f) :: page.toList.tail

/-- The last five events of a command that sends `data` and has a GOOD status: the transfer
moves all data, and the completion is the ASC and the ASCQ of the sense data that the REQUEST SENSE
after it fetches, with a sense key of 1 at most. -/
inductive SentWell (data : List UInt8) : List EngineEvent → Prop
  | intro {s₁ s₂ s₃ s₄ s₅ : CbiContext} {n : ℕ} {buffer : Vector UInt8 n}
      {sense : Vector UInt8 ufiSenseLength} {t₁ t₂ t₃ t₄ t₅ : ℕ} {d₁ d₂ d₃ d₄ d₅ : ErrorText}
      {completion completion' : Vector UInt8 cbiStatusLength} {out : BulkOutReply}
      {interrupt interrupt' : InterruptReply} {accepted : CbiReply}
      {fetched : BulkInReply ufiSenseLength} {decoded : Sense}
      (hdata : buffer.toList = data) (hout : out.status = .ok)
      (htransferred : out.transferred = data.length)
      (hinterrupt : interrupt.status = .ok) (hlength : interrupt.transferred = 2)
      (haccepted : accepted.status = .ok) (hfetched : fetched.status = .ok)
      (hsense : fetched.transferred = ufiSenseLength)
      (hdecoded : parseSense fetched.buffer.toList ufiSenseLength = (true, decoded))
      (hmatch : interrupt.completion = #v[decoded.asc, decoded.ascq]) (hkey : decoded.key ≤ 1) :
      SentWell data [⟨s₁, .bulkOut buffer t₁ d₁, out⟩,
        ⟨s₂, .interruptInWithDeadline completion t₂ d₂, interrupt⟩,
        ⟨s₃, .adsc #v[0x03, 0, 0, 0, 18, 0, 0, 0, 0, 0, 0, 0] t₃ d₃, accepted⟩,
        ⟨s₄, .bulkIn sense t₄ d₄, fetched⟩,
        ⟨s₅, .interruptInWithDeadline completion' t₅ d₅, interrupt'⟩]

/-- The last data that the trace sends are `data`, and they were sent well. -/
def LastSentWell (data : List UInt8) (t : List EngineEvent) : Prop :=
  ∃ u sent v, t = u ++ (sent ++ v) ∧ SentWell data sent ∧ ∀ e ∈ v, sentData e = none

/-- If the report says that the controller is restored, then nothing was ever sent to it, or the
saved page was sent last and sent well. `w` is the trace of the workflow, in which the page was
read, and `t` the one of the engine below it. -/
def RestorationSound (report : Report1581) (w : List WorkflowEvent) (t : List EngineEvent) : Prop :=
  report.controllerRestored = true →
    (∀ e ∈ t, sentData e = none) ∨
      PagesNamed report w ∧ LastSentWell (List.replicate 8 0 ++ withoutPs report.original.page) t

/-! ## The engine -/

section Exchange

variable {cdb : Vector UInt8 cbiCdbLength} {direction : DataDirection} {buffer : Vector UInt8 n}
  {out : ExchangeReply n}

/-- An exchange without outgoing data sends none. -/
theorem Exchanged.sentData_eq_none (h : Exchanged cdb direction buffer c t out c')
    (hdirection : direction ≠ .dataOut) : ∀ e ∈ t, sentData e = none := by
  obtain ⟨timeoutMs, detail, accepted, moved, tail, rfl, hmoved, htail⟩ := h.shape
  refine List.forall_mem_cons.2 ⟨rfl, List.forall_mem_append.2 ⟨?_, fun e he => ?_⟩⟩
  · rcases hmoved with rfl | ⟨data, hmoved⟩
    · simp
    · cases hmoved with
      | none => simp
      | dataIn => exact List.forall_mem_singleton.2 rfl
      | dataOut hout => exact absurd hout hdirection
  · rcases htail e he with hop | hop <;> exact M65.sentData_eq_none (by simp [hop])

/-- An exchange without a stall: its block was accepted, its data were moved, and its completion was
delivered. -/
inductive Unstalled (cdb : Vector UInt8 cbiCdbLength) (direction : DataDirection)
    (buffer : Vector UInt8 n) (c : CbiContext) : List EngineEvent → ExchangeReply n → Prop
  | intro {timeoutMs : ℕ} {d₁ d₂ : ErrorText} {completion : Vector UInt8 cbiStatusLength}
      {accepted : CbiReply} {moved : List EngineEvent} {data : BulkInReply n}
      {interrupt : InterruptReply} {out : ExchangeReply n} (haccepted : accepted.status = .ok)
      (hmoved : Moved direction buffer c moved data) (hdata : data.status = .ok)
      (hinterrupt : interrupt.status = .ok) (hlength : interrupt.transferred = cbiStatusLength)
      (hexchange : out.exchange = ⟨false, false, data.transferred, interrupt.completion⟩)
      (hbuffer : out.buffer = data.buffer) :
      Unstalled cdb direction buffer c (⟨c, .adsc cdb timeoutMs d₁, accepted⟩ ::
        (moved ++ [⟨c, .interruptInWithDeadline completion timeoutMs d₂, interrupt⟩])) out

/-- A good exchange in which nothing stalled. -/
theorem Exchanged.unstalled (h : Exchanged cdb direction buffer c t out c')
    (hok : out.status = .ok) (haccepted : out.exchange.adscStalled = false)
    (hunstalled : out.exchange.dataStalled = false) : Unstalled cdb direction buffer c t out := by
  cases h with
  | adscStalled _ _ hexchange =>
      rw [hexchange] at haccepted
      cases haccepted
  | completed hadsc hphase hinterrupt hlength _ hexchange hbuffer =>
      cases hphase with
      | moved hmoved hdata =>
          exact .intro hadsc hmoved hdata hinterrupt hlength hexchange hbuffer
      | cleared =>
          rw [hexchange] at hunstalled
          cases hunstalled
  | _ => simp_all

end Exchange

/-- A recovery sends no data. -/
theorem Recovered.sentData_eq_none {out : CbiReply} (h : Recovered c t out c') :
    ∀ e ∈ t, sentData e = none := by
  have hreset {t : List EngineEvent} {reset : ExchangeReply 0}
      (hexchanged : Exchanged resetCdb .none #v[] c t reset c) : ∀ e ∈ t, sentData e = none :=
    hexchanged.sentData_eq_none nofun
  cases h with
  | idle => simp
  | unprepared => exact List.forall_mem_singleton.2 rfl
  | unreset _ _ hexchanged =>
      exact List.forall_mem_cons.2 ⟨rfl, List.forall_mem_append.2 ⟨hreset hexchanged,
        List.forall_mem_singleton.2 rfl⟩⟩
  | unfinished _ _ hexchanged | reset _ _ hexchanged =>
      exact List.forall_mem_cons.2 ⟨rfl, List.forall_mem_append.2 ⟨hreset hexchanged,
        by simp [sentData]⟩⟩

/-- Fetching sense data sends no data. -/
theorem Fetched.sentData_eq_none {out : SenseReply} (h : Fetched c t out c') :
    ∀ e ∈ t, sentData e = none := by
  cases h with
  | failed hexchanged => exact hexchanged.sentData_eq_none nofun
  | rejected hexchanged => exact hexchanged.sentData_eq_none nofun
  | fetched hexchanged => exact hexchanged.sentData_eq_none nofun

/-- A call of the transport that sends no data of its own: anything but a data-out command. -/
def SendsNothing : TransportCall → Prop
  | .execute command => command.direction ≠ .dataOut
  | _ => True

/-- A command without outgoing data sends none. -/
theorem Executed.sentData_eq_none {command : Command} {out : ExecuteReply command.dataLength}
    (h : Executed command c t out c') (hdirection : command.direction ≠ .dataOut) :
    ∀ e ∈ t, sentData e = none := by
  cases h with
  | refused => simp
  | unrecovered _ hrecovered => exact hrecovered.sentData_eq_none
  | sense _ hrecovered _ _ hexecuted =>
      refine List.forall_mem_append.2 ⟨hrecovered.sentData_eq_none, ?_⟩
      cases hexecuted with
      | failed hexchanged => exact hexchanged.sentData_eq_none nofun
      | rejected hexchanged => exact hexchanged.sentData_eq_none nofun
      | answered hexchanged => exact hexchanged.sentData_eq_none nofun
  | command _ hrecovered _ _ hexecuted =>
      refine List.forall_mem_append.2 ⟨hrecovered.sentData_eq_none, ?_⟩
      cases hexecuted with
      | failed hexchanged => exact hexchanged.sentData_eq_none hdirection
      | unsensed hexchanged _ hfetched | rejected hexchanged _ hfetched
      | answered hexchanged _ hfetched =>
          exact List.forall_mem_append.2
            ⟨hexchanged.sentData_eq_none hdirection, hfetched.sentData_eq_none⟩

/-- A call that sends nothing sends nothing on the engine either. -/
theorem sentData_eq_none_of_sendsNothing (call : Handled cbiTransport)
    (h : SendsNothing call.call) : ∀ e ∈ call.trace, sentData e = none := by
  obtain ⟨call, reply, before, trace, after, hexec⟩ := call
  cases call with
  | acquireExclusive => cases acquired_of_exec hexec <;> simp [sentData]
  | execute command => exact (executed_of_exec hexec).sentData_eq_none h
  | releaseExclusive => cases closed_of_exec hexec <;> simp [sentData]

/-- A MODE SELECT with a GOOD status sent its data well, and nothing after them. -/
theorem Executed.lastSentWell {command : Command} {out : ExecuteReply command.dataLength}
    (h : Executed command c t out c') (hdirection : command.direction = .dataOut)
    (hgood : commandGood out.result = true) : LastSentWell command.buffer.toList t := by
  have hstatus : out.result.transportStatus = .ok ∧ out.result.scsiStatus = 0 := by
    simpa [commandGood] using hgood
  cases h with
  | refused _ hrefused => simp [hrefused] at hstatus
  | unrecovered _ _ hfailed hmapped =>
      rw [hmapped, mapIoStatus_eq_ok_iff] at hstatus
      exact absurd hstatus.1 hfailed
  -- a REQUEST SENSE sends no data, and everything but the last end failed
  | sense haccepted _ _ hopcode =>
      obtain ⟨-, -, hselect⟩ := refuseCommand_eq_none haccepted
      rw [hselect hdirection] at hopcode
      cases hopcode
  | @command t t' recovery _ c₁ _ _ hrecovered _ _ hexecuted =>
      rw [hdirection] at hexecuted
      cases hexecuted with
      | failed _ hfailed hmapped =>
          rw [hmapped, mapIoStatus_eq_ok_iff] at hstatus
          exact absurd hstatus.1 hfailed
      | unsensed _ _ _ hfailed hmapped =>
          rw [hmapped] at hstatus
          exact absurd hstatus.1 hfailed
      | rejected _ _ _ _ hprotocol => simp [hprotocol] at hstatus
      | answered hexchanged hok hfetched hsensed hmatch hexact _ _ _ _ hpassed =>
          obtain ⟨haccepted, hunstalled, hkey⟩ := hpassed.1 hstatus.2
          have hmatch := hmatch.resolve_left (by simp [haccepted])
          have htransferred := hexact (.inl rfl) haccepted hunstalled
          -- the exchange of the command, and then that of the sense data which confirm it
          cases hexchanged.unstalled hok haccepted hunstalled with
          | intro _ hmoved hdata hinterrupt hlength hexchange _ =>
          cases hmoved with
          | none hout => cases hout
          | dataIn hout => cases hout
          | dataOut =>
          cases hfetched with
          | failed _ hfailed hmapped =>
              rw [hmapped, mapIoStatus_eq_ok_iff] at hsensed
              exact absurd hsensed hfailed
          | rejected _ _ hprotocol => simp [hprotocol] at hsensed
          | fetched hsense hfetchedOk hadsc hunstalled' hlength' hparsed =>
          cases hsense.unstalled hfetchedOk hadsc hunstalled' with
          | intro haccepted' hmoved' hdata' _ _ hexchange' hbuffer' =>
          cases hmoved' with
          | none hout => cases hout
          | dataOut hout => cases hout
          | dataIn =>
          rw [hexchange] at htransferred hmatch
          rw [hexchange'] at hlength'
          rw [hbuffer'] at hparsed
          rw [senseCdb_eq]
          refine ⟨t ++ [?_], [?_, ?_, ?_, ?_, ?_], [], ?split, ?sent, by simp⟩
          case split =>
            rw [List.append_nil, List.append_assoc]
            rfl
          case sent =>
            refine .intro rfl hdata ?_ hinterrupt hlength haccepted' hdata' hlength' hparsed hmatch
              hkey
            rw [Vector.length_toList]
            exact htransferred

/-! ## The saved page -/

/-- Without bit 6, which marks a subpage, clearing two bits of the page code clears PS only. -/
theorem and_eq_of_not_subpage {b : UInt8} (h : b &&& 0x40 = 0) : b &&& 0x3f = b &&& 0x7f := by
  apply bit_ext
  intro j
  have hbits : bit 0x3f j = bit 0x7f j ∨ bit 0x40 j = true := by
    revert j
    decide
  rw [bit_and, bit_and]
  rcases hbits with hsame | hsubpage
  · rw [hsame]
  · have hclear := congrArg (bit · j) h
    simp only [bit_and, hsubpage, Bool.and_true, bit_zero] at hclear
    rw [hclear, Bool.false_and, Bool.false_and]

/-- The payload of a selectable page is an empty header and the page without its PS bit. -/
theorem modeSelectPayload_eq {page : FlexibleDiskPage} (h : page.Selectable) :
    (modeSelectPayload page).toList = List.replicate 8 0 ++ withoutPs page.page := by
  apply List.ext_getElem
  · simp [withoutPs, modeSelectPayloadLength, flexPageLength]
  · intro i hi _
    have hlt : i < modeSelectPayloadLength := by simpa using hi
    have hbyte := byteAt_modeSelectPayload page hlt
    rw [byteAt, List.getD_eq_getElem?_getD, List.getElem?_eq_getElem hi, Option.getD_some] at hbyte
    rw [hbyte]
    rcases Nat.lt_trichotomy i 8 with hlow | rfl | hhigh
    · rw [if_pos hlow, List.getElem_append_left (by simpa using hlow), List.getElem_replicate]
    · have hcode : page.byte 0 = page.page[0] := rfl
      simp [withoutPs, hcode, ← and_eq_of_not_subpage (hcode ▸ h.not_subpage)]
    · obtain ⟨k, rfl⟩ : ∃ k, i = k + 1 + 8 := ⟨i - 9, by omega⟩
      have hk : k + 1 < flexPageLength := by
        unfold modeSelectPayloadLength at hlt
        omega
      rw [if_neg (by omega), if_neg (by omega), List.getElem_append_right (by simp)]
      simp [withoutPs, FlexibleDiskPage.byte, hk]

/-! ## The workflow -/

section Workflow

variable {s s' : Bool} {w : List WorkflowEvent} {report : Report1581} {progress : Progress}

/-- Steps without outgoing data are calls that send nothing. -/
theorem sendsNothing_of_steps (h : ∀ step ∈ steps w, step.SendsData = false) :
    ∀ answer ∈ w.filterMap transportAnswer, SendsNothing answer.1 := by
  intro answer hanswer
  obtain ⟨e, he, hcall⟩ := List.mem_filterMap.1 hanswer
  obtain ⟨s, call, reply⟩ := e
  cases call with
  | transport call =>
      obtain rfl : ⟨call, reply⟩ = answer := by simpa [transportAnswer] using hcall
      cases call with
      | execute command =>
          have hstep := h (.command command.wire) (List.mem_filterMap.2 ⟨_, he, rfl⟩)
          intro hdirection
          simp [WorkflowStep.SendsData, Command.wire, hdirection] at hstep
      | acquireExclusive => exact trivial
      | releaseExclusive => exact trivial
  | _ => cases hcall

/-- After a change the report has the saved page. -/
theorem Probed.original_page (h : Probed report w progress)
    (hneeded : progress.restoreNeeded = true) :
    progress.report.original.page = progress.originalMode.flexible.page := by
  obtain ⟨_, _, _, _, _, _, _, _, -, rfl, -, -, -, hchange⟩ := h.of_needed hneeded
  rw [(changeGeometry_outcome hchange).setup.original]
  rfl

/-- The answer to a MODE SELECT that succeeded. -/
theorem selected_of_good {page : FlexibleDiskPage} {result : CommandResult}
    (h : Exec (modeSelect page) s w result s') (hgood : commandGood result = true) :
    page.Selectable ∧ ∃ reply : ExecuteReply (modeSelectCommand page).dataLength,
      w.filterMap transportAnswer = [⟨.execute (modeSelectCommand page), reply⟩] ∧
        commandGood reply.result = true := by
  cases selected_of_exec h with
  | refused _ hbad => rw [hgood] at hbad; cases hbad
  | interrupted _ _ hbad => rw [hgood] at hbad; cases hbad
  | handed hpage => exact ⟨hpage, _, rfl, hgood⟩

end Workflow

/-! ## Both layers -/

/-- Calls that send nothing. -/
theorem sentData_eq_none_of_answers {calls : List (Handled cbiTransport)}
    (h : ∀ answer ∈ calls.map (fun call => (⟨call.call, call.reply⟩ : TransportAnswer)),
      SendsNothing answer.1) : ∀ e ∈ calls.flatMap (·.trace), sentData e = none := by
  intro e he
  obtain ⟨call, hcall, he⟩ := List.mem_flatMap.1 he
  exact sentData_eq_none_of_sendsNothing call (h _ (List.mem_map_of_mem hcall)) e he

/-- When a MODE SELECT was answered with success and nothing was sent after it, its data were sent
last and well. -/
theorem lastSentWell_of_answers {calls : List (Handled cbiTransport)} {page : FlexibleDiskPage}
    {reply : ExecuteReply (modeSelectCommand page).dataLength} {before after : List TransportAnswer}
    (hanswers : calls.map (fun call => (⟨call.call, call.reply⟩ : TransportAnswer)) =
      before ++ ⟨.execute (modeSelectCommand page), reply⟩ :: after)
    (hgood : commandGood reply.result = true)
    (hafter : ∀ answer ∈ after, SendsNothing answer.1) :
    LastSentWell (modeSelectPayload page).toList (calls.flatMap (·.trace)) := by
  obtain ⟨first, rest, rfl, -, hrest⟩ := List.map_eq_append_iff.1 hanswers
  obtain ⟨select, last, rfl, hselect, hlast⟩ := List.map_eq_cons_iff.1 hrest
  have hsent : LastSentWell (modeSelectPayload page).toList select.trace := by
    obtain ⟨call, reply', c, t, c', hexec⟩ := select
    obtain ⟨rfl, hreply⟩ := Sigma.mk.inj hselect
    obtain rfl := eq_of_heq hreply
    exact (executed_of_exec hexec).lastSentWell rfl hgood
  obtain ⟨u, sent, v, htrace, hwell, hv⟩ := hsent
  refine ⟨first.flatMap (·.trace) ++ u, sent, v ++ last.flatMap (·.trace), ?_, hwell, ?_⟩
  · rw [List.flatMap_append, List.flatMap_cons, htrace]
    simp only [List.append_assoc]
  · rw [← hlast] at hafter
    exact List.forall_mem_append.2 ⟨hv, sentData_eq_none_of_answers hafter⟩

/-- What the report says about the controller is true of the adapter. -/
theorem test1581_restorationSound {acknowledgement : Bool} {s : Bool} {c : CbiContext}
    (r : CbiRun acknowledgement s c) :
    RestorationSound r.run.result r.run.trace r.session.trace := by
  intro hrestored
  have hanswers := r.answers_eq
  have htested := tested_of_exec r.run.exec
  unfold Session.trace
  generalize r.session.calls = calls at hanswers
  generalize r.run.trace = trace at hanswers htested
  generalize r.run.result = report at hrestored htested
  cases htested with
  | unacknowledged huntouched | refused _ huntouched =>
      rw [huntouched.controllerRestored_eq] at hrestored
      cases hrestored
  | @acquired _ _ _ _ detail acquireReply releaseReply body cleanup progress _ _ _ hprobe hcleanup
      hreleased =>
      have hprobed := probed_of_exec hprobe
      have hfalse : progress.report.controllerRestored = false := hprobed.controllerRestored_eq
      rw [hreleased.setup.controllerRestored] at hrestored
      have hnamed (hneeded : progress.restoreNeeded = true) :=
        hprobed.pagesNamed hneeded hcleanup hreleased
      have hcalls : calls.map (fun call => (⟨call.call, call.reply⟩ : TransportAnswer)) =
          ⟨.acquireExclusive detail, acquireReply⟩ :: (body.filterMap transportAnswer ++
            (cleanup.filterMap transportAnswer ++
              [⟨.releaseExclusive Text.empty, releaseReply⟩])) := by
        rw [hanswers]
        simp only [List.filterMap_cons, List.filterMap_append, transportAnswer, List.filterMap_nil]
      cases hcleanup with
      | untouched hneeded =>
          have hsaved : progress.report.originalSaved = true := by simpa [hfalse] using hrestored
          -- a body that sent data would have needed a restoration
          have hbody := sendsNothing_of_steps fun step hstep => by
            by_contra hsends
            obtain ⟨hneeded', -, -⟩ := hprobed.needed_of_select hstep (by simpa using hsends)
            rw [hneeded', hsaved] at hneeded
            cases hneeded
          refine .inl (sentData_eq_none_of_answers ?_)
          rw [hcalls]
          refine List.forall_mem_cons.2 ⟨trivial, List.forall_mem_append.2 ⟨hbody, ?_⟩⟩
          exact List.forall_mem_singleton.2 trivial
      | @written _ select _ _ hneeded hselect hgood =>
          obtain ⟨hpage, reply, hanswer, hreply⟩ := selected_of_good hselect hgood
          have hneeded := (Bool.and_eq_true_iff.1 hneeded).1
          have horiginal := hprobed.original_page hneeded
          have hpayload : List.replicate 8 0 ++ withoutPs progress.report.original.page =
              (modeSelectPayload progress.originalMode.flexible).toList := by
            rw [horiginal, modeSelectPayload_eq hpage]
          have hsplit : calls.map (fun call => (⟨call.call, call.reply⟩ : TransportAnswer)) =
              (⟨.acquireExclusive detail, acquireReply⟩ :: body.filterMap transportAnswer) ++
                ⟨.execute (modeSelectCommand progress.originalMode.flexible), reply⟩ ::
                  [⟨.releaseExclusive Text.empty, releaseReply⟩] := by
            rw [hcalls, List.filterMap_cons, hanswer]
            rfl
          refine .inr ⟨(hnamed hneeded).of_isPrefix executions_body_isPrefix, ?_⟩
          rw [hreleased.setup.original, hpayload]
          exact lastSentWell_of_answers hsplit hreply (List.forall_mem_singleton.2 trivial)
      | failed =>
          have hkept := hfalse.symm.trans hrestored
          cases hkept

end M65
