import FloppyProbe.Probe.Changeability
import FloppyProbe.Probe.Classification
import FloppyProbe.Probe.Reasons
import FloppyProbe.Ufi.ModeSense

/-!
# False alarms

A run that hands no MODE SELECT to the transport leaves the controller as it was, and its report
should not say otherwise. It does when the saved page is longer than the payload builder takes:
the restoration is marked as needed before the payload of the requested page is built, and the
builder then refuses the requested page and the saved page alike.

What a report says is read off its fields: the flag, the verdict, the code and the text of its
reason. The text may speak of a failed restoration only when the transport's own texts do.
-/

namespace M65

open Interaction

variable {s : Bool} {t : List WorkflowEvent} {report report' : Report1581}

/-! ## Statements -/

/-- The words with which a report tells of a failed restoration. -/
def restoreFailureText : List UInt8 := str "failed to restore original controller parameters"

/-- The text says that a restoration failed. -/
def TellsRestoreFailure (text : ErrorText) : Prop := restoreFailureText <:+: text.bytes

instance : DecidablePred TellsRestoreFailure :=
  fun text => inferInstanceAs (Decidable (restoreFailureText <:+: text.bytes))

/-- The text that comes with an answer of the transport. -/
def answerDetail : WorkflowEvent → Option ErrorText
  | ⟨_, .testInterrupt, _⟩ => none
  | ⟨_, .clearInterrupt, _⟩ => none
  | ⟨_, .malloc _, _⟩ => none
  | ⟨_, .transport (.acquireExclusive _), reply⟩ => some reply.detail
  | ⟨_, .transport (.execute _), reply⟩ => some reply.result.detail
  | ⟨_, .transport (.releaseExclusive _), reply⟩ => some reply.detail

/-- The transport itself says, in one of its answers, that a restoration failed. -/
def ToldByTransport (t : List WorkflowEvent) : Prop :=
  ∃ e ∈ t, ∃ detail, answerDetail e = some detail ∧ TellsRestoreFailure detail

/-- The report of a run with the trace `t` raises no alarm about the controller. -/
structure NoFalseAlarm (t : List WorkflowEvent) (report : Report1581) : Prop where
  /-- Every page that was saved is in effect again. -/
  restored_eq : report.controllerRestored = report.originalSaved
  /-- The reason tells of no failed restoration, unless it quotes the transport. -/
  not_told : TellsRestoreFailure report.reason → ToldByTransport t
  /-- When both pages were read, the refusal of the change stands, which a failed restoration would
  turn into INCONCLUSIVE. Only a failed release may still do so. -/
  verdict_eq : ∀ saved mask, SensedPages t saved mask →
    (∀ e ∈ t, stepOf e = some .release → Passed e) →
    report.status = .unsupported ∧ report.code = .unsupported

/-- When both pages could be read and the mask permits the change, the saved page has the length
that the payload builder takes. -/
def SavedPageFits (t : List WorkflowEvent) : Prop :=
  ∀ saved mask, SensedPages t saved mask →
    geometryChangesAllowed saved (set1581Geometry saved) mask = .ok () → saved.byte 1 = 30

/-- A run that acquired the transport, noticed no interrupt request and handed no MODE SELECT
over. -/
structure Untried (t : List WorkflowEvent) : Prop where
  acquired : ∃ e ∈ t, stepOf e = some .acquire ∧ Passed e
  quiet : ∀ e ∈ t, ¬ Observed e
  not_select : ∀ e ∈ executions t, ¬ e.IsModeSelect

/-! ## The pages of a run -/

/-- A page that was sensed can be selected exactly when its length byte is 30. -/
theorem SensedPages.selectable_iff {saved mask : FlexibleDiskPage} (h : SensedPages t saved mask) :
    saved.Selectable ↔ saved.byte 1 = 30 := by
  obtain ⟨e₁, e₂, others, mode, maskMode, -, -, -, hparsed, rfl, -⟩ := h
  unfold senseParameters at hparsed
  split at hparsed
  · cases hparsed
  · exact selectable_iff_of_parse hparsed

/-! ## The text of the reason -/

/-- The text of a failed restoration begins with a letter that does not occur in it again. -/
theorem restoreFailureText_eq :
    restoreFailureText = 0x66 :: str "ailed to restore original controller parameters" := rfl

/-- A blank in front of a text adds nothing to what it tells. -/
theorem infix_of_blank {text : List UInt8} (h : restoreFailureText <:+: 0x20 :: text) :
    restoreFailureText <:+: text := by
  rw [List.infix_cons_iff, restoreFailureText_eq, List.cons_prefix_cons] at h
  exact h.resolve_left fun hblank => absurd hblank.1 (by decide)

/-- What is appended to a reason tells its own part. -/
theorem tells_of_reasonAppend {destination text : ErrorText}
    (h : TellsRestoreFailure (reasonAppend destination text)) :
    TellsRestoreFailure destination ∨ TellsRestoreFailure text := by
  have hpieces := Text.infix_flatten_of_format h
  by_cases hempty : destination.bytes = []
  · right
    simpa [hempty, TellsRestoreFailure] using hpieces
  · have hsplit : restoreFailureText <:+: destination.bytes ++ 0x3b :: 0x20 :: text.bytes := by
      simpa [hempty, str] using hpieces
    exact (infix_of_separated (by decide) hsplit).imp id infix_of_blank

/-- A status in two hexadecimal digits has no letter `o`. -/
theorem notMem_hexDigits : ∀ value < 256, 0x6f ∉ hexDigits 2 value := by decide +kernel

/-- A failed command is told in the words of the transport. -/
theorem tells_of_copyCommandFailure {sense : Sense} {operation : String} {result : CommandResult}
    (hoperation : ¬ restoreFailureText <:+: str operation)
    (h : TellsRestoreFailure (copyCommandFailure sense operation result).2.1) :
    TellsRestoreFailure result.detail := by
  have hafter {text : List UInt8}
      (hpieces : restoreFailureText <:+: str operation ++ 0x3a :: text) :
      restoreFailureText <:+: text :=
    (infix_of_separated (by decide) hpieces).resolve_left hoperation
  by_cases hfailed : result.transportStatus ≠ .ok
  · by_cases hdetail : result.detail.bytes ≠ []
    · simp only [copyCommandFailure, if_pos hfailed, if_pos hdetail] at h
      refine infix_of_blank (hafter ?_)
      simpa [str] using Text.infix_flatten_of_format h
    · simp only [copyCommandFailure, if_pos hfailed, if_neg hdetail] at h
      have htext : restoreFailureText <:+: str " transport failure" := hafter <| by
        simpa [str] using Text.infix_flatten_of_format h
      exact absurd htext (by decide +kernel)
  · simp only [copyCommandFailure, if_neg hfailed] at h
    have htext : restoreFailureText <:+:
        str " SCSI status 0x" ++ hexDigits 2 result.scsiStatus.toNat := hafter <| by
      simpa [str] using Text.infix_flatten_of_format h
    -- the phrase has an `o`, and the number has none
    rcases List.mem_append.1 (htext.subset (a := 0x6f) (by decide)) with hmem | hmem
    · exact absurd hmem (by decide)
    · exact absurd hmem (notMem_hexDigits _ result.scsiStatus.toNat_lt)

/-! ## Where the reason comes from -/

/-- What the transport told in a trace it told in every longer one. -/
theorem ToldByTransport.append_left (h : ToldByTransport t) (u : List WorkflowEvent) :
    ToldByTransport (t ++ u) := by
  obtain ⟨e, he, htold⟩ := h
  exact ⟨e, List.mem_append_left u he, htold⟩

/-- What the transport told in a trace it told with anything before it. -/
theorem ToldByTransport.append_right (h : ToldByTransport t) (u : List WorkflowEvent) :
    ToldByTransport (u ++ t) := by
  obtain ⟨e, he, htold⟩ := h
  exact ⟨e, List.mem_append_right u he, htold⟩

/-- The text of a result comes from the transport when the allowlist lets the command through. -/
theorem told_of_executeChecked {command : Command} {reply : ExecuteReply command.dataLength}
    {s s' : Bool} (hvalid : command.Valid) (h : Exec (executeChecked command) s t reply s')
    (htells : TellsRestoreFailure reply.result.detail) : ToldByTransport t := by
  have hvalid : validateCommand command = .ok () := hvalid
  unfold executeChecked at h
  simp only [hvalid, exec_bind, exec_ite, exec_pure] at h
  obtain ⟨t₁, _, _, t₂, -, h, rfl⟩ := h
  rcases h with ⟨-, -, rfl, -⟩ | ⟨-, h⟩
  · have hinterrupted : ¬ TellsRestoreFailure (errorText "operation interrupted") := by
      decide +kernel
    exact absurd htells hinterrupted
  · rw [execute, exec_call] at h
    obtain ⟨rfl, rfl⟩ := h
    refine ToldByTransport.append_right ?_ _
    exact ⟨_, List.mem_singleton_self _, _, rfl, htells⟩

/-- A MODE SENSE passes the validation. -/
theorem valid_modeSenseCommand (changeable : Bool) : (modeSenseCommand changeable).Valid := by
  cases changeable <;> rfl

/-- None of the texts of the parser tells of a failed restoration. -/
theorem parseModeParameters_not_tells (data : List UInt8) (length : ℕ) :
    Erring (fun detail => ¬ TellsRestoreFailure detail) (parseModeParameters data length) := by
  exact parseModeParameters_erring (by decide +kernel) data length

/-- Nor does what the gate says of a field. -/
theorem geometryChangesAllowed_not_tells (current desired mask : FlexibleDiskPage) :
    Erring (fun detail => ¬ TellsRestoreFailure detail)
      (geometryChangesAllowed current desired mask) :=
  geometryChangesAllowed_erring (by decide +kernel) current desired mask

/-- A MODE SENSE that tells of a failed restoration has that from the transport. -/
theorem told_of_modeSense {changeable s s' : Bool} {parameters : ModeParameters}
    {out : CommandResult × ModeParameters} (h : Exec (modeSense changeable parameters) s t out s')
    (htells : TellsRestoreFailure out.1.detail) : ToldByTransport t := by
  unfold modeSense at h
  simp only [exec_bind] at h
  obtain ⟨t₁, reply, s₁, t₂, hcommand, h, rfl⟩ := h
  have hexec : Exec (executeChecked (modeSenseCommand changeable)) s t₁ reply s₁ := hcommand
  have htold := told_of_executeChecked (valid_modeSenseCommand changeable) hexec
  refine ToldByTransport.append_left ?_ _
  by_cases hgood : commandGood reply.result = true
  · -- the other texts of a MODE SENSE are the program's own
    simp only [hgood, if_true, exec_ite, exec_pure] at h
    rcases h with ⟨-, -, rfl, -⟩ | ⟨-, h⟩
    · have hlarge : ¬ TellsRestoreFailure (errorText "MODE SENSE response exceeds its buffer") := by
        decide +kernel
      exact absurd htells hlarge
    cases hparse : parseModeParameters reply.buffer.toList reply.result.transferred with
    | error detail =>
        simp only [hparse, exec_pure] at h
        obtain ⟨-, rfl, -⟩ := h
        exact absurd htells (parseModeParameters_not_tells _ _ detail hparse)
    | ok parsed =>
        simp only [hparse, exec_pure] at h
        obtain ⟨-, rfl, -⟩ := h
        exact htold htells
  · simp only [hgood, Bool.false_eq_true, if_false, exec_pure] at h
    obtain ⟨-, rfl, -⟩ := h
    exact htold htells

/-- Before the cleanup, a run that needs no restoration does not tell of a failed one. -/
theorem told_of_probeGeometry {s s' : Bool} {progress : Progress}
    (h : Exec (probeGeometry report) s t progress s') (hneeded : progress.restoreNeeded = false)
    (htells : TellsRestoreFailure progress.report.reason) : ToldByTransport t := by
  unfold probeGeometry at h
  simp only [exec_bind] at h
  obtain ⟨t₁, ⟨result₁, mode⟩, s₁, t₂, hsense₁, h, rfl⟩ := h
  have htold₁ := told_of_modeSense hsense₁
  cases hgood₁ : commandGood result₁ with
  | false =>
      simp only [hgood₁, Bool.not_false, if_true, exec_pure] at h
      obtain ⟨-, rfl, -⟩ := h
      exact (htold₁ (tells_of_copyCommandFailure (by decide +kernel) htells)).append_left _
  | true =>
      simp only [hgood₁, Bool.not_true, Bool.false_eq_true, if_false, exec_bind] at h
      obtain ⟨t₂, ⟨result₂, mask⟩, s₂, t₃, hsense₂, h, rfl⟩ := h
      have htold₂ := told_of_modeSense hsense₂
      refine ToldByTransport.append_right ?_ _
      cases hgood₂ : commandGood result₂ with
      | false =>
          simp only [hgood₂, Bool.not_false, if_true, exec_pure] at h
          obtain ⟨-, rfl, -⟩ := h
          exact (htold₂ (tells_of_copyCommandFailure (by decide +kernel) htells)).append_left _
      | true =>
          simp only [hgood₂, Bool.not_true, Bool.false_eq_true, if_false] at h
          split at h
          · rename_i detail hdenied
            rw [exec_pure] at h
            obtain ⟨-, rfl, -⟩ := h
            -- the text of the gate is the program's own
            exact absurd htells (geometryChangesAllowed_not_tells _ _ _ detail hdenied)
          · -- a change that was attempted needs the restoration
            simp only [exec_bind, exec_pure] at h
            obtain ⟨_, _, _, _, -, ⟨-, rfl, -⟩, -⟩ := h
            cases hneeded

/-- The release adds only a text of its own, or the transport's. -/
theorem Released.tells {releaseReply : StatusReply} (h : Released report releaseReply report')
    (htells : TellsRestoreFailure report'.reason) :
    TellsRestoreFailure report.reason ∨ TellsRestoreFailure releaseReply.detail := by
  rcases h.reason_eq with hreason | ⟨detail, hdetail, hreason⟩
  · exact .inl (hreason ▸ htells)
  · rw [hreason] at htells
    refine (tells_of_reasonAppend htells).imp id fun htells => ?_
    rcases hdetail with rfl | rfl
    · have hdefault :
          ¬ TellsRestoreFailure (errorText "failed to release exclusive SCSI access") := by
        decide +kernel
      exact absurd htells hdefault
    · exact htells

/-! ## Whole runs -/

/-- A restoration that was owed and handed nothing over failed, since the page does not fit. -/
theorem Restored.of_untried {s₁ : Bool} {progress : Progress}
    (h : Restored progress s₁ t report) (hneeded : progress.restoreNeeded = true)
    (hsaved : progress.report.originalSaved = true)
    (hquiet : ∀ e ∈ t, ¬ Observed e) (hselect : ∀ e ∈ executions t, ¬ e.IsModeSelect) :
    ¬ progress.originalMode.flexible.Selectable ∧
      report.controllerRestored = progress.report.controllerRestored ∧
      report.originalSaved = true := by
  have hrefused {n : ℕ} {u : List WorkflowEvent} {result : CommandResult} {s' : Bool}
      (hquiet : ∀ e ∈ (⟨s₁, .clearInterrupt, n⟩ :: u : List WorkflowEvent), ¬ Observed e)
      (hselect : ∀ e ∈ executions (⟨s₁, .clearInterrupt, n⟩ :: u), ¬ e.IsModeSelect)
      (h : Exec (modeSelect progress.originalMode.flexible) false u result s') :
      ¬ progress.originalMode.flexible.Selectable ∧ commandGood result = false := by
    cases selected_of_exec h with
    | refused hpage hbad => exact ⟨hpage, hbad⟩
    | interrupted _ hobserved => exact absurd hobserved (hquiet _ (.tail _ (.head _)))
    | handed => exact absurd (modeSelectCommand_cdbByte _ 0) (hselect _ (.head _))
  cases h with
  | untouched hunneeded => simp [hneeded, hsaved] at hunneeded
  | written _ hexec hgood => simp [(hrefused hquiet hselect hexec).2] at hgood
  | failed _ hexec => exact ⟨(hrefused hquiet hselect hexec).1, rfl, hsaved⟩

/-- The report of a run that attempted no change raises no alarm. -/
theorem noFalseAlarm_of_unneeded {s₀ s₁ s₂ s₃ : Bool} {start report₁ : Report1581}
    {body cleanup : List WorkflowEvent} {release : WorkflowEvent} {progress : Progress}
    {releaseReply : StatusReply} (hprobe : Exec (probeGeometry start) s₀ body progress s₁)
    (hrestored : Restored progress s₂ cleanup report₁)
    (hreleased : Released report₁ releaseReply report)
    (hrelease : release = ⟨s₃, .transport (.releaseExclusive Text.empty), releaseReply⟩)
    (hneeded : progress.restoreNeeded = false) (hstart : start.controllerRestored = false)
    (hcode : report.status = .unsupported → report.code = .unsupported) :
    NoFalseAlarm (body ++ (cleanup ++ [release])) report := by
  have hprobed := probed_of_exec hprobe
  obtain ⟨hnil, hstatus, hreason, hflags⟩ := hrestored.of_unneeded hneeded
  have hlast : executions [release] = [] := by rw [hrelease]; rfl
  have hrest (_ : progress.restoreNeeded = false) : executions (cleanup ++ [release]) = [] := by
    rw [hnil, List.nil_append, hlast]
  refine ⟨?_, fun htells => ?_, fun saved mask hpages hpassed => ?_⟩
  · rw [hreleased.setup.controllerRestored, hreleased.setup.originalSaved]
    exact hflags (hprobed.controllerRestored_eq.trans hstart)
  · -- the body or the release quotes the transport
    rcases hreleased.tells htells with htells | htells
    · exact (told_of_probeGeometry hprobe hneeded (hreason ▸ htells)).append_left _
    · exact ⟨release, by simp, _, by rw [hrelease]; rfl, htells⟩
  · have hok : releaseReply.status = .ok := by
      have hpassed := hpassed release (by simp) (by rw [hrelease]; rfl)
      subst release
      exact hpassed
    rcases hprobed.of_sensedPages hrest hpages with ⟨-, hdenied, -⟩ | ⟨hneeded', -⟩
    · have hunsupported := (hreleased.status_eq hok).trans (hstatus.trans hdenied)
      exact ⟨hunsupported, hcode hunsupported⟩
    · simp [hneeded] at hneeded'

/-- The entry of the workflow executes nothing. -/
theorem NoFalseAlarm.after (h : NoFalseAlarm t report) (entry : List WorkflowEvent)
    (hentry : executions entry = []) : NoFalseAlarm (entry ++ t) report where
  restored_eq := h.restored_eq
  not_told htells := (h.not_told htells).append_right entry
  verdict_eq saved mask hpages hpassed := by
    have hsame : executions (entry ++ t) = executions t := by
      rw [executions_append, hentry, List.nil_append]
    have hsensed : SensedPages t saved mask := hpages.of_isPrefix (hsame ▸ List.prefix_rfl)
    exact h.verdict_eq saved mask hsensed fun e he => hpassed e (by simp [he])

/-- The exact condition for runs without a MODE SELECT to raise no false alarm. That no reading of
the flag finds an interrupt request is all that is used of there being none. -/
theorem test1581_noFalseAlarm_iff {s : Bool} (r : Run (test1581 true) s) (h : Untried r.trace) :
    NoFalseAlarm r.trace r.result ↔ SavedPageFits r.trace := by
  have htested := tested_of_exec r.exec
  have hcode := (classified_of_exec r.exec).unsupported_iff.1
  generalize r.trace = trace at htested h ⊢
  generalize r.result = report at htested hcode ⊢
  cases htested with
  | refused hrefused =>
      obtain ⟨e, he, hstep, hpassed⟩ := h.acquired
      simp only [List.mem_cons, List.not_mem_nil, or_false] at he
      rcases he with rfl | rfl
      · cases hstep
      · exact absurd hpassed hrefused
  | @acquired s₀ s₁ s₂ n detail reply releaseReply body cleanup progress report₁ _ hacquired hprobe
      hrestored hreleased =>
      have hprobed := probed_of_exec hprobe
      obtain ⟨release, hrelease⟩ : ∃ e : WorkflowEvent,
          e = ⟨s₂, .transport (.releaseExclusive Text.empty), releaseReply⟩ := ⟨_, rfl⟩
      rw [← hrelease] at h ⊢
      cases hneeded : progress.restoreNeeded with
      | false =>
          have hquiet :=
            noFalseAlarm_of_unneeded hprobe hrestored hreleased hrelease hneeded rfl hcode
          have hlast : executions (cleanup ++ [release]) = [] := by
            rw [(hrestored.of_unneeded hneeded).1, hrelease]
            rfl
          refine iff_of_true (hquiet.after [_, _] rfl) ?_
          -- the gate has refused the change
          intro saved mask hpages hallowed
          have hpages : SensedPages (body ++ (cleanup ++ [release])) saved mask := hpages
          rcases hprobed.of_sensedPages (fun _ => hlast) hpages with
            ⟨-, -, hdenied⟩ | ⟨hneeded', -⟩
          · exact absurd hallowed hdenied
          · simp [hneeded] at hneeded'
      | true =>
          have hsaved := hprobed.originalSaved_of_needed hneeded
          obtain ⟨hpage, hrestored', hsaved'⟩ := hrestored.of_untried hneeded hsaved
            (fun e he => h.quiet e (by simp [he])) fun e he => h.not_select e <| by
              show e ∈ executions (body ++ (cleanup ++ [release]))
              simp [he]
          refine iff_of_false (fun hquiet => ?_) fun hfits => ?_
          · have hflags := hquiet.restored_eq
            rw [hreleased.setup.controllerRestored, hreleased.setup.originalSaved, hrestored',
              hsaved', hprobed.controllerRestored_eq] at hflags
            cases hflags
          · obtain ⟨saved, mask, hpages, -, hallowed, rfl⟩ := hprobed.named hneeded
            have hpages : SensedPages (body ++ (cleanup ++ [release])) _ mask :=
              hpages.of_isPrefix (by rw [executions_append]; exact List.prefix_append _ _)
            exact hpage (hpages.selectable_iff.2 (hfits _ _ hpages hallowed))

instance : DecidablePred Observed
  | ⟨s, .testInterrupt, handlerRuns⟩ =>
      inferInstanceAs (Decidable (requestInterrupt^[(handlerRuns : ℕ)] s = true))
  | ⟨_, .clearInterrupt, _⟩ => isFalse id
  | ⟨_, .malloc _, _⟩ => isFalse id
  | ⟨_, .transport _, _⟩ => isFalse id

instance : DecidablePred Execution.IsModeSelect :=
  fun e => inferInstanceAs (Decidable (e.command.cdbByte 0 = opcodeModeSelect10))

/-- The run against a device that answers the commands in turn with `replies`. -/
def answeredRun (replies : List (List UInt8)) : Run (test1581 true) false :=
  (test1581 true).replay (answering replies) false

/-- A MODE SENSE response whose page has 30 bytes of `value` after its header. -/
def shortPage (value : UInt8) : List UInt8 :=
  [0, 38, 0, 0, 0, 0, 0, 0, 0x05, 0x1e] ++ List.replicate 30 value

/-- The page is saved, and the mask permits no change of it. -/
theorem fixedPageRun_noFalseAlarm :
    (answeredRun [shortPage 0, shortPage 0]).result.originalSaved = true ∧
      NoFalseAlarm (answeredRun [shortPage 0, shortPage 0]).trace
        (answeredRun [shortPage 0, shortPage 0]).result := by
  have hacquired : (answeredRun [shortPage 0, shortPage 0]).trace[1]? =
      some ⟨false, .transport (.acquireExclusive Text.empty), ⟨.ok, Text.empty⟩⟩ := rfl
  have hpage : ((executions (answeredRun [shortPage 0, shortPage 0]).trace).head?.map fun e =>
      (senseParameters e.reply).toOption.map fun mode => mode.flexible.byte 1) =
        some (some 30) := by decide +kernel
  refine ⟨by decide +kernel,
    (test1581_noFalseAlarm_iff (answeredRun [shortPage 0, shortPage 0]) ⟨?_, ?_, ?_⟩).2 ?_⟩
  · exact ⟨_, List.mem_of_getElem? hacquired, rfl, rfl⟩
  · decide +kernel
  · decide +kernel
  · rintro saved mask ⟨e₁, e₂, others, mode, maskMode, hexecutions, -, -, hparsed, rfl, -⟩ -
    rw [hexecutions] at hpage
    simpa [hparsed, Except.toOption] using hpage

/-- A MODE SENSE response whose page has 31 bytes of `value` after its header. -/
def longPage (value : UInt8) : List UInt8 :=
  [0, 39, 0, 0, 0, 0, 0, 0, 0x05, 0x1f] ++ List.replicate 31 value

/-- The saved page is one byte too long for the payload builder. -/
theorem longPageRun_falseAlarm : ¬ ∀ r : Run (test1581 true) false,
    Untried r.trace → NoFalseAlarm r.trace r.result := by
  intro hall
  have hacquired : (answeredRun [longPage 0, longPage 0xff]).trace[1]? =
      some ⟨false, .transport (.acquireExclusive Text.empty), ⟨.ok, Text.empty⟩⟩ := rfl
  have hrestored := (hall (answeredRun [longPage 0, longPage 0xff]) ⟨?_, ?_, ?_⟩).restored_eq
  · exact absurd hrestored (by decide +kernel)
  · exact ⟨_, List.mem_of_getElem? hacquired, rfl, rfl⟩
  · decide +kernel
  · decide +kernel

end M65
