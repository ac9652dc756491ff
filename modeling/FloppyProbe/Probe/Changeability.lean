import FloppyProbe.Probe.CallShape

/-!
# Changeability

Every MODE SELECT of the workflow carries the saved page, changed only at bits that the controller
reported as changeable and that belong to the six fields of the 1581 geometry. When some bit that
the geometry needs is not changeable, no MODE SELECT is sent.
-/

namespace M65

open Interaction

variable {s : Bool} {t : List WorkflowEvent} {report report' : Report1581}

/-! ## Statements -/

/-- The command is a MODE SELECT (10). -/
def Execution.IsModeSelect (e : Execution) : Prop := e.command.cdbByte 0 = opcodeModeSelect10

/-- The page of a payload differs from the saved page, after its two bytes of header, only at
changeable bits of the six geometry fields. -/
def ContainedChange (saved mask : FlexibleDiskPage) (payload : List UInt8) : Prop :=
  ∀ i, 2 ≤ i → i < flexPageLength → ∀ j,
    bit (byteAt payload (8 + i)) j ≠ bit (saved.byte i) j →
      bit (mask.byte i) j = true ∧ geometryByte1581 i ≠ none

/-- Some bit in which the saved page differs from the 1581 geometry is not changeable. -/
def NeedsFixedBit (saved mask : FlexibleDiskPage) : Prop :=
  ∃ i b j, geometryByte1581 i = some b ∧ bit (saved.byte i) j ≠ bit b j ∧
    bit (mask.byte i) j = false

/-! ## Payloads -/

/-- The bytes of a page stand in the payload behind the header. -/
theorem byteAt_payload_page (page : FlexibleDiskPage) {i : ℕ} (hlow : 2 ≤ i)
    (hi : i < flexPageLength) : byteAt (modeSelectPayload page).toList (8 + i) = page.byte i := by
  rw [byteAt_modeSelectPayload page (by unfold modeSelectPayloadLength; omega),
    if_neg (by omega), if_neg (by omega), Nat.add_sub_cancel_left]

/-- Writing the saved page back changes nothing. -/
theorem containedChange_saved (saved mask : FlexibleDiskPage) :
    ContainedChange saved mask (modeSelectPayload saved).toList := by
  intro i hlow hi j hne
  rw [byteAt_payload_page saved hlow hi] at hne
  exact absurd rfl hne

/-- A change that the gate passed is contained. -/
theorem containedChange_requested {saved mask : FlexibleDiskPage}
    (hgate : geometryChangesAllowed saved (set1581Geometry saved) mask = .ok ()) :
    ContainedChange saved mask (modeSelectPayload (set1581Geometry saved)).toList := by
  intro i hlow hi j hne
  rw [byteAt_payload_page _ hlow hi] at hne
  refine ⟨(geometryChangesAllowed_set1581Geometry_iff saved mask).1 hgate i hi j hne.symm, ?_⟩
  intro hnone
  refine hne ?_
  rw [set1581Geometry_byte saved hi, hnone, Option.getD_none]

/-- The gate refuses a page in which some bit would have to change that must not. -/
theorem gate_eq_error_of_needsFixedBit {saved mask : FlexibleDiskPage}
    (h : NeedsFixedBit saved mask) :
    geometryChangesAllowed saved (set1581Geometry saved) mask ≠ .ok () := by
  obtain ⟨i, b, j, hbyte, hne, hfixed⟩ := h
  intro hgate
  have hi := lt_of_geometryByte1581 hbyte
  have hallowed := (geometryChangesAllowed_set1581Geometry_iff saved mask).1 hgate i hi j
  rw [set1581Geometry_byte saved hi, hbyte, Option.getD_some, hfixed] at hallowed
  cases hallowed hne

/-- The data of a data-out command are its bytes. -/
theorem dataOut_wire {command : Command} (h : command.direction = .dataOut) :
    command.wire.dataOut = command.bytes := if_pos h

/-- The data of a MODE SELECT are its payload. -/
theorem dataOut_modeSelect (page : FlexibleDiskPage) :
    (Request.modeSelect page).wire.dataOut = (modeSelectPayload page).toList := by
  rw [Request.wire, dataOut_wire rfl, modeSelectCommand_bytes]

/-- A command with the wire of a request and the opcode of MODE SELECT carries a page. -/
theorem modeSelect_of_wire {e : Execution} {request : Request} (he : e.IsModeSelect)
    (hwire : e.command.wire = request.wire) :
    ∃ page, request = .modeSelect page ∧ e.command.bytes = (modeSelectPayload page).toList := by
  have hopcode : request.wire.cdb[0]?.getD 0 = opcodeModeSelect10 := by
    rw [← hwire]
    exact he
  cases request with
  | modeSense changeable => cases changeable <;> exact absurd hopcode (by decide)
  | modeSelect page =>
      refine ⟨page, rfl, ?_⟩
      have hdirection : e.command.direction = .dataOut := congrArg Wire.direction hwire
      rw [← dataOut_wire hdirection, hwire, dataOut_modeSelect]
  | read lba blocks =>
      have hread : (Request.read lba blocks).wire.cdb[0]?.getD 0 = opcodeRead10 :=
        readCommand_opcode lba blocks (Vector.replicate _ 0)
      rw [hread] at hopcode
      exact absurd hopcode (by decide)

/-! ## The commands of a trace -/

/-- A trace has no more commands than its plan has steps. -/
theorem length_executions_le {plan : List WorkflowStep} {completed : Bool}
    (h : Follows stepOf Passed plan t completed) : (executions t).length ≤ plan.length := by
  have hstart := (h.labels_isPrefix.filterMap WorkflowStep.wire?).length_le
  rw [← steps, ← executions_wire, List.length_map] at hstart
  exact hstart.trans (List.length_filterMap_le _ _)

/-- A MODE SENSE that failed had no acceptable response. -/
theorem SenseFailed.not_parsed {changeable : Bool} (h : SenseFailed changeable t) {e : Execution}
    (he : e ∈ executions t) (hgood : commandGood e.reply.result = true)
    {parameters : ModeParameters} : senseParameters e.reply ≠ .ok parameters := by
  intro hparsed
  have hfailed := h.failed e he
  have hwire := wire_of_sense h.follows he
  have hopcode : e.command.cdbByte 0 = opcodeModeSense10 := by
    have hcdb : e.command.cdb = (modeSenseCommand changeable).cdb := congrArg Wire.cdb hwire
    rw [Command.cdbByte, hcdb]
    cases changeable <;> decide
  rw [succeeded, hgood, if_pos hopcode, hparsed] at hfailed
  cases hfailed

/-- The MODE SELECT of the body carries the requested page. -/
theorem Probed.select_bytes {progress : Progress} (h : Probed report t progress) {e : Execution}
    (he : e ∈ executions t) (hselect : e.IsModeSelect) :
    e.command.bytes = (modeSelectPayload progress.report.requested).toList ∧
      progress.restoreNeeded = true := by
  obtain ⟨completed, hfollows⟩ := h.follows
  obtain ⟨request, hrequest, hwire⟩ := wire_of_follows hfollows he
  obtain ⟨page, rfl, hbytes⟩ := modeSelect_of_wire hselect hwire
  have hpage : page = progress.report.requested := by
    simpa [workflowRequests, passRequests] using hrequest
  have hmem : (Request.modeSelect page).step ∈ steps t := by
    rw [Request.step, ← hwire]
    exact mem_steps_of_mem_executions he
  exact ⟨hpage ▸ hbytes, (h.needed_of_select hmem rfl).1⟩

/-- The cleanup sends the saved page, and only after a change. -/
theorem Restored.select_bytes {s₁ : Bool} {progress : Progress}
    (h : Restored progress s₁ t report) {e : Execution} (he : e ∈ executions t)
    (hselect : e.IsModeSelect) :
    e.command.bytes = (modeSelectPayload progress.originalMode.flexible).toList ∧
      progress.restoreNeeded = true := by
  obtain ⟨completed, hfollows⟩ := h.follows
  have hfollows : Follows stepOf Passed
      ([Request.modeSelect progress.originalMode.flexible].map Request.step) t completed := hfollows
  obtain ⟨request, hrequest, hwire⟩ := wire_of_follows hfollows he
  rw [List.mem_singleton.1 hrequest] at hwire
  obtain ⟨page, hpage, hbytes⟩ := modeSelect_of_wire hselect hwire
  obtain rfl : progress.originalMode.flexible = page := by simpa using hpage
  have hmem := mem_steps_of_mem_executions he
  exact ⟨hbytes, (h.needed_of_steps fun hnil => by simp [hnil] at hmem).1⟩

/-! ## Whole runs -/

/-- Nothing is sent to change a geometry that the controller cannot change. -/
structure Unchanged (report : Report1581) (t : List WorkflowEvent) : Prop where
  not_select : ∀ e ∈ executions t, ¬ e.IsModeSelect
  unsupported : (∀ e ∈ t, stepOf e = some .release → Passed e) → report.status = .unsupported

/-- The two commands whose answers were parsed are the two MODE SENSE commands of the body. -/
theorem modes_eq_of_executions {t₁ t₂ u : List WorkflowEvent} {e₁ e₂ : Execution}
    {others : List Execution} {mode mode' maskMode maskMode' : ModeParameters}
    (hsaved : Sensed false t₁ mode) (hmask : Sensed true t₂ maskMode)
    (hexecutions : executions (t₁ ++ t₂ ++ u) = e₁ :: e₂ :: others)
    (hparsed₁ : senseParameters e₁.reply = .ok mode')
    (hparsed₂ : senseParameters e₂.reply = .ok maskMode') :
    mode = mode' ∧ maskMode = maskMode' := by
  obtain ⟨d₁, hd₁, -, -, hmode⟩ := hsaved.execution
  obtain ⟨d₂, hd₂, -, -, hmaskMode⟩ := hmask.execution
  simp only [executions_append, hd₁, hd₂, List.cons_append, List.nil_append,
    List.cons.injEq] at hexecutions
  obtain ⟨rfl, rfl, -⟩ := hexecutions
  exact ⟨Except.ok.inj (hmode.symm.trans hparsed₁), Except.ok.inj (hmaskMode.symm.trans hparsed₂)⟩

/-- The pages that were read decide whether the change is attempted. -/
theorem Probed.of_sensedPages {progress : Progress} (h : Probed report t progress)
    {rest : List WorkflowEvent} (hrest : progress.restoreNeeded = false → executions rest = [])
    {saved mask : FlexibleDiskPage} (hsensed : SensedPages (t ++ rest) saved mask) :
    (progress.restoreNeeded = false ∧ progress.report.status = .unsupported ∧
        geometryChangesAllowed saved (set1581Geometry saved) mask ≠ .ok ()) ∨
      (progress.restoreNeeded = true ∧ progress.originalMode.flexible = saved ∧
        geometryChangesAllowed saved (set1581Geometry saved) mask = .ok ()) := by
  obtain ⟨e₁, e₂, others, mode, maskMode, hexecutions, -, -, hparsed₁, rfl, -, hgood₂, hparsed₂,
    rfl⟩ := hsensed
  -- two pages were read, so that the probe went past both MODE SENSE commands
  cases h with
  | unsaved hfailed _ =>
      rw [executions_append, hrest rfl, List.append_nil] at hexecutions
      have hlength := length_executions_le hfailed.follows
      simp [hexecutions] at hlength
  | unmasked hsaved hfailed _ =>
      obtain ⟨e, he, -⟩ := hsaved.execution
      rw [executions_append, hrest rfl, List.append_nil, executions_append, he] at hexecutions
      have hmem : e₂ ∈ executions _ := (List.cons.inj hexecutions).2 ▸ List.mem_cons_self
      exact absurd hparsed₂ (hfailed.not_parsed hmem hgood₂)
  | denied hsaved hmask hdenied =>
      obtain ⟨rfl, rfl⟩ := modes_eq_of_executions hsaved hmask hexecutions hparsed₁ hparsed₂
      refine .inl ⟨rfl, rfl, fun hallowed => ?_⟩
      rw [Report1581.gate_withModes,
        (geometryChangesAllowed_applyChangeability_iff _ _).2 hallowed] at hdenied
      cases hdenied
  | attempted hsaved hmask hallowed _ =>
      rw [← List.append_assoc, List.append_assoc] at hexecutions
      obtain ⟨rfl, rfl⟩ := modes_eq_of_executions hsaved hmask hexecutions hparsed₁ hparsed₂
      rw [Report1581.gate_withModes] at hallowed
      exact .inr ⟨rfl, rfl, (geometryChangesAllowed_applyChangeability_iff _ _).1 hallowed⟩

/-- Without a change that was attempted, the cleanup does nothing but to say that a page that was
saved is in effect. -/
theorem Restored.of_unneeded {s₁ : Bool} {progress : Progress}
    (h : Restored progress s₁ t report) (hneeded : progress.restoreNeeded = false) :
    t = [] ∧ report.status = progress.report.status ∧ report.reason = progress.report.reason ∧
      (progress.report.controllerRestored = false →
        report.controllerRestored = report.originalSaved) := by
  cases h with
  | untouched => exact ⟨rfl, rfl, rfl, fun hstart => by simp [hstart]⟩
  | written hrestore => simp [hneeded] at hrestore
  | failed hrestore => simp [hneeded] at hrestore

/-- The cases of a run in which the page and the mask were read. -/
theorem unchanged_of_needsFixedBit {s₁ s₂ : Bool} {body cleanup : List WorkflowEvent}
    {release : WorkflowEvent} {progress : Progress} {releaseReply : StatusReply}
    {start : Report1581} {saved mask : FlexibleDiskPage}
    (hprobed : Probed start body progress) (hrestored : Restored progress s₁ cleanup report)
    (hreleased : Released report releaseReply report')
    (hrelease : release = ⟨s₂, .transport (.releaseExclusive Text.empty), releaseReply⟩)
    (hsensed : SensedPages (body ++ (cleanup ++ [release])) saved mask)
    (hfixed : NeedsFixedBit saved mask) :
    Unchanged report' (body ++ (cleanup ++ [release])) := by
  have hlast : executions [release] = [] := by rw [hrelease]; rfl
  have hrest (hneeded : progress.restoreNeeded = false) :
      executions (cleanup ++ [release]) = [] := by
    rw [(hrestored.of_unneeded hneeded).1, List.nil_append, hlast]
  -- the mask forbids the change, so the gate cannot have let it through
  rcases hprobed.of_sensedPages hrest hsensed with ⟨hneeded, hstatus, -⟩ | ⟨-, -, hallowed⟩
  · refine ⟨fun e he hselect => ?_, fun hpassed => ?_⟩
    · rw [executions_append, hrest hneeded, List.append_nil] at he
      simp [(hprobed.select_bytes he hselect).2] at hneeded
    · have hok : releaseReply.status = .ok := by
        have hrelease := hpassed release (by simp) (by rw [hrelease]; rfl)
        subst release
        exact hrelease
      exact (hreleased.status_eq hok).trans ((hrestored.of_unneeded hneeded).2.1.trans hstatus)
  · exact absurd hallowed (gate_eq_error_of_needsFixedBit hfixed)

/-- Whatever a MODE SELECT of a test sends changes only bits of the six fields that the device calls
changeable, and where that does not suffice for the geometry none is sent. -/
theorem test1581_changeability {acknowledgement : Bool} {s : Bool}
    (r : Run (test1581 acknowledgement) s) :
    (∀ e ∈ executions r.trace, e.IsModeSelect → ∃ saved mask, SensedPages r.trace saved mask ∧
        ContainedChange saved mask e.command.bytes) ∧
      ∀ saved mask, SensedPages r.trace saved mask → NeedsFixedBit saved mask →
        Unchanged r.result r.trace := by
  have htested := tested_of_exec r.exec
  generalize r.trace = trace at htested
  generalize r.result = report at htested
  have hnothing (hnil : executions trace = []) :
      (∀ e, e ∉ executions trace) ∧ ∀ saved mask, ¬ SensedPages trace saved mask := by
    refine ⟨fun e he => by simp [hnil] at he, ?_⟩
    rintro saved mask ⟨e₁, e₂, rest, mode, maskMode, hexecutions, -⟩
    simp [hnil] at hexecutions
  -- without the acquisition nothing is executed, and both parts hold of no command
  cases htested with
  | unacknowledged | refused =>
      obtain ⟨hnone, hunsensed⟩ := hnothing rfl
      exact ⟨fun e he => absurd he (hnone e), fun saved mask h => absurd h (hunsensed saved mask)⟩
  | @acquired _ s₁ s₂ n detail reply releaseReply body cleanup progress report _ hacquired hprobe
      hrestored hreleased =>
      have hprobed := probed_of_exec hprobe
      constructor
      · intro e he hselect
        have he : e ∈ executions body ∨ e ∈ executions cleanup := by
          have he : e ∈ executions (body ++ (cleanup ++ [_])) := he
          simpa [executions, executionOf] using he
        have hneeded : progress.restoreNeeded = true :=
          he.elim (fun he => (hprobed.select_bytes he hselect).2)
            fun he => (hrestored.select_bytes he hselect).2
        obtain ⟨saved, mask, hsensed, hnames, hgate, horiginal⟩ := hprobed.named hneeded
        refine ⟨saved, mask, hsensed.of_isPrefix executions_body_isPrefix, ?_⟩
        -- the probe selects the requested page, and the cleanup the one that was saved
        rcases he with he | he
        · rw [(hprobed.select_bytes he hselect).1, hnames.payloads.2]
          exact containedChange_requested hgate
        · rw [(hrestored.select_bytes he hselect).1, horiginal]
          exact containedChange_saved saved mask
      · intro saved mask hsensed hfixed
        obtain ⟨hselect, hunsupported⟩ :=
          unchanged_of_needsFixedBit hprobed hrestored hreleased rfl hsensed hfixed
        exact ⟨hselect, fun h => hunsupported fun e he => h e (.tail _ (.tail _ he))⟩

end M65
