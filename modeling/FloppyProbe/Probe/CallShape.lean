import FloppyProbe.Probe.Select

/-!
# The shape of a call trace

What `test1581` calls on the transport, and in which order: a prefix of one fixed list of commands
in which nothing follows a failure or an observed interrupt request, then at most the restoration,
then the release.
-/

namespace M65

open Interaction

variable {s : Bool} {t : List WorkflowEvent} {report report' : Report1581}

/-! ## The plan -/

/-- One complete pass over the medium. -/
def passRequests : List Request :=
  (List.range 160).map fun i => .read (UInt32.ofNat (10 * i)) 10

/-- The commands before the cleanup, in order. -/
def workflowRequests (requested : FlexibleDiskPage) : List Request :=
  [.modeSense false, .modeSense true, .modeSelect requested, .modeSense false, .read 9 1,
    .read 1599 1] ++ (passRequests ++ passRequests)

/-- The steps of a test that goes through, from the first MODE SENSE to the last read. -/
def workflowPlan (requested : FlexibleDiskPage) : List WorkflowStep :=
  (workflowRequests requested).map Request.step

/-- The requests of a complete read are those of its chunks in order. -/
theorem passRequests_steps : passRequests.map Request.step = chunkPlan 0 readChunks := by
  simp only [passRequests, chunkPlan, List.map_map, List.range_eq_range']
  rfl

/-- The plan is two MODE SENSE commands and the plan of a change. -/
theorem workflowPlan_eq (requested : FlexibleDiskPage) :
    workflowPlan requested = [(Request.modeSense false).step] ++
      ([(Request.modeSense true).step] ++ changePlan requested) := by
  simp only [workflowPlan, workflowRequests, List.map_append, passRequests_steps]
  rfl

/-! ## The body -/

/-- A change has attempted the MODE SELECT: its command was handed to the transport, or nothing
happened but an observed interrupt request. -/
theorem changeGeometry_select {s' : Bool} (hpage : report.requested.Selectable)
    (h : Exec (changeGeometry report) s t report' s') :
    [(Request.modeSelect report.requested).step] <+: steps t ∨ ∃ e, t = [e] ∧ Observed e := by
  unfold changeGeometry at h
  simp only [exec_bind] at h
  obtain ⟨t₁, result, s₁, t₂, hselect, h, rfl⟩ := h
  cases selected_of_exec hselect with
  | refused hrefused _ => exact absurd hpage hrefused
  | interrupted _ hobserved hbad =>
      simp only [hbad, Bool.not_false, if_true, exec_ite, exec_pure] at h
      rcases h with ⟨-, rfl, -, -⟩ | ⟨-, rfl, -, -⟩
      · exact .inr ⟨_, rfl, hobserved⟩
      · exact .inr ⟨_, rfl, hobserved⟩
  | handed _ hquiet => exact .inl ⟨steps t₂, rfl⟩

/-- A change that did anything had an acceptable page. -/
theorem changeGeometry_selectable {s' : Bool} (h : Exec (changeGeometry report) s t report' s')
    (ht : t ≠ []) : report.requested.Selectable := by
  unfold changeGeometry at h
  simp only [exec_bind] at h
  obtain ⟨t₁, result, s₁, t₂, hselect, h, rfl⟩ := h
  cases selected_of_exec hselect with
  | refused _ hbad =>
      simp only [hbad, Bool.not_false, if_true, exec_ite, exec_pure] at h
      rcases h with ⟨-, rfl, -, -⟩ | ⟨-, rfl, -, -⟩ <;> exact absurd rfl ht
  | interrupted hpage => exact hpage
  | handed hpage => exact hpage

/-- The body follows the plan, whose requested page is that of the report. -/
theorem Probed.follows {progress : Progress} (h : Probed report t progress) :
    ∃ completed, Follows stepOf Passed (workflowPlan progress.report.requested) t completed := by
  rw [workflowPlan_eq]
  cases h with
  | unsaved hfailed _ => exact ⟨false, hfailed.follows.extend _⟩
  | unmasked hsaved hfailed _ =>
      exact ⟨false, hsaved.follows.append (hfailed.follows.extend _)⟩
  | @denied t₁ t₂ mode mask detail hsaved hmask _ =>
      refine ⟨false, hsaved.follows.append ?_⟩
      rw [← List.append_nil t₂]
      exact hmask.follows.append (.stop _)
  | attempted hsaved hmask _ hchange =>
      have hphase := changeGeometry_outcome hchange
      obtain ⟨completed, hfollows, -⟩ := hphase.follows
      rw [hphase.setup.requested]
      exact ⟨completed, hsaved.follows.append (hmask.follows.append hfollows)⟩

/-- The first MODE SELECT of a run with the given body was attempted: it was handed to the
transport, or an interrupt request was observed right before that. -/
def SelectAttempted (report : Report1581) (body : List WorkflowEvent) : Prop :=
  (workflowPlan report.requested).take 3 <+: steps body ∨
    steps body = (workflowPlan report.requested).take 2 ∧ ∃ u e, body = u ++ [e] ∧ Observed e

/-- A change that needs restoring was attempted. -/
theorem Probed.selectAttempted {progress : Progress} (h : Probed report t progress)
    (hneeded : progress.restoreNeeded = true)
    (hpage : progress.originalMode.flexible.Selectable) :
    SelectAttempted progress.report t := by
  obtain ⟨s₁, s₂, t₁, t₂, t₃, mode, mask, report', rfl, rfl, hsaved, hmask, -, hchange⟩ :=
    h.of_needed hneeded
  have hselectable : (report.withModes mode mask).requested.Selectable :=
    selectable_set1581Geometry_iff.2 (selectable_applyChangeability_iff.2 hpage)
  have hrequested := (changeGeometry_outcome hchange).setup.requested
  have hsteps : steps (t₁ ++ (t₂ ++ t₃)) =
      [(Request.modeSense false).step, (Request.modeSense true).step] ++ steps t₃ := by
    have hsaved := hsaved.follows.labels_eq
    have hmask := hmask.follows.labels_eq
    rw [← steps] at hsaved hmask
    rw [steps_append, steps_append, hsaved, hmask]
    rfl
  -- either MODE SELECT was sent, or an interrupt was observed right before it
  rcases changeGeometry_select hselectable hchange with ⟨rest, hrest⟩ | ⟨e, rfl, hobserved⟩
  · refine .inl ⟨rest, ?_⟩
    rw [hsteps, ← hrest, workflowPlan_eq, hrequested]
    rfl
  · refine .inr ⟨?_, t₁ ++ t₂, e, by simp, hobserved⟩
    obtain ⟨s₀, call, reply⟩ := e
    cases call with
    | testInterrupt => rw [hsteps, workflowPlan_eq]; rfl
    | _ => cases hobserved

/-- The step sends data to the device. -/
def WorkflowStep.SendsData : WorkflowStep → Bool
  | .command wire => wire.direction = .dataOut
  | _ => false

/-- Only a change that was attempted with an acceptable page hands a MODE SELECT over. -/
theorem Probed.needed_of_select {progress : Progress} (h : Probed report t progress)
    {step : WorkflowStep} (hmem : step ∈ steps t) (hsends : step.SendsData = true) :
    progress.restoreNeeded = true ∧ progress.report.originalSaved = true ∧
      progress.originalMode.flexible.Selectable := by
  -- a MODE SENSE reads only, so the step that sends data is in the change
  have hsense {changeable completed : Bool} {t : List WorkflowEvent}
      (hfollows : Follows stepOf Passed [(Request.modeSense changeable).step] t completed) :
      step ∉ steps t := by
    intro hmem
    have hstep := List.mem_singleton.1 (hfollows.labels_isPrefix.subset hmem)
    rw [hstep] at hsends
    cases hsends
  cases h with
  | unsaved hfailed _ => exact absurd hmem (hsense hfailed.follows)
  | unmasked hsaved hfailed _ =>
      rw [steps_append, List.mem_append] at hmem
      exact (hmem.elim (hsense hsaved.follows) (hsense hfailed.follows)).elim
  | denied hsaved hmask _ =>
      rw [steps_append, List.mem_append] at hmem
      exact (hmem.elim (hsense hsaved.follows) (hsense hmask.follows)).elim
  | @attempted _ _ _ _ _ mode mask _ hsaved hmask _ hchange =>
      rw [steps_append, steps_append, List.mem_append, List.mem_append] at hmem
      rcases hmem with hmem | hmem | hmem
      · exact absurd hmem (hsense hsaved.follows)
      · exact absurd hmem (hsense hmask.follows)
      · have hrequested : (report.withModes mode mask).requested.Selectable :=
          changeGeometry_selectable hchange fun hnil => by simp [hnil] at hmem
        exact ⟨rfl, (changeGeometry_outcome hchange).setup.originalSaved,
          selectable_applyChangeability_iff.1 (selectable_set1581Geometry_iff.1 hrequested)⟩

/-! ## The cleanup -/

/-- The step of writing the saved page back. -/
abbrev Progress.restoration (progress : Progress) : WorkflowStep :=
  (Request.modeSelect progress.originalMode.flexible).step

/-- The cleanup follows its plan, the restoration. -/
theorem Restored.follows {progress : Progress} (h : Restored progress s t report) :
    ∃ completed, Follows stepOf Passed [progress.restoration] t completed := by
  cases h with
  | untouched => exact ⟨false, .stop _⟩
  | written _ hselect _ => exact ⟨_, .silent rfl trivial (modeSelect_cases hselect).1⟩
  | failed _ hselect _ => exact ⟨_, .silent rfl trivial (modeSelect_cases hselect).1⟩

/-- A restoration that reached the transport was needed, and its page was acceptable. -/
theorem Restored.needed_of_steps {progress : Progress} (h : Restored progress s t report)
    (hsteps : steps t ≠ []) :
    progress.restoreNeeded = true ∧ progress.originalMode.flexible.Selectable := by
  have hselected {t' : List WorkflowEvent} {result : CommandResult} (hsteps : steps t' ≠ [])
      (hselect : Selected progress.originalMode.flexible false t' result) :
      progress.originalMode.flexible.Selectable := by
    cases hselect with
    | refused => exact absurd rfl hsteps
    | interrupted hpage => exact hpage
    | handed hpage => exact hpage
  cases h with
  | untouched => exact absurd rfl hsteps
  | @written _ t' _ _ hneeded hselect _ | @failed _ t' _ _ hneeded hselect _ =>
      have hsteps : steps t' ≠ [] := hsteps
      exact ⟨(Bool.and_eq_true_iff.1 hneeded).1, hselected hsteps (selected_of_exec hselect)⟩

/-- The cleanup leaves the pages of the report alone. -/
theorem Restored.pages {progress : Progress} (h : Restored progress s t report) :
    report.requested = progress.report.requested ∧
      report.original = progress.report.original ∧
      report.changeable = progress.report.changeable := by
  cases h <;> exact ⟨rfl, rfl, rfl⟩

/-- The saved page is the one of the report whenever the cleanup restores it. -/
theorem Probed.original_wire {progress : Progress} (h : Probed report t progress)
    (hneeded : progress.restoreNeeded = true) :
    progress.restoration = (Request.modeSelect progress.report.original).step := by
  obtain ⟨_, _, _, _, _, _, _, _, -, rfl, -, -, -, hchange⟩ := h.of_needed hneeded
  rw [(changeGeometry_outcome hchange).setup.original]
  rfl

/-! ## Pages -/

/-- The commands of a trace that follows a plan are commands of the plan. -/
theorem wire_of_follows {requests : List Request} {completed : Bool}
    (h : Follows stepOf Passed (requests.map Request.step) t completed) {e : Execution}
    (he : e ∈ executions t) : ∃ request ∈ requests, e.command.wire = request.wire := by
  have hstart := h.labels_isPrefix.filterMap WorkflowStep.wire?
  rw [filterMap_wire_step, ← steps, ← executions_wire] at hstart
  have hmem := hstart.subset (List.mem_map_of_mem he)
  obtain ⟨request, hrequest, hwire⟩ := List.mem_map.1 hmem
  exact ⟨request, hrequest, hwire.symm⟩

/-- The command of a MODE SENSE. -/
theorem wire_of_sense {changeable completed : Bool}
    (h : Follows stepOf Passed [(Request.modeSense changeable).step] t completed) {e : Execution}
    (he : e ∈ executions t) : e.command.wire = (Request.modeSense changeable).wire := by
  have hfollows : Follows stepOf Passed ([Request.modeSense changeable].map Request.step) t
      completed := h
  obtain ⟨request, hrequest, hwire⟩ := wire_of_follows hfollows he
  rwa [List.mem_singleton.1 hrequest] at hwire

/-- A MODE SENSE that succeeded is one good command with these parameters. -/
theorem Sensed.execution {changeable : Bool} {parameters : ModeParameters}
    (h : Sensed changeable t parameters) :
    ∃ e, executions t = [e] ∧ e.command.wire = (Request.modeSense changeable).wire ∧
      commandGood e.reply.result = true ∧ senseParameters e.reply = .ok parameters := by
  obtain ⟨e, hexecutions, hparsed⟩ := h.parsed
  have he : e ∈ executions t := by simp [hexecutions]
  have hgood := succeeded_of_passed h.follows.passed e he
  exact ⟨e, hexecutions, wire_of_sense h.follows he, (Bool.and_eq_true_iff.1 hgood).1, hparsed⟩

/-- The trace starts with the two MODE SENSE commands, and they succeeded with these pages. -/
def SensedPages (t : List WorkflowEvent) (saved mask : FlexibleDiskPage) : Prop :=
  ∃ e₁ e₂ rest mode maskMode, executions t = e₁ :: e₂ :: rest ∧
    e₁.command.wire = (Request.modeSense false).wire ∧ commandGood e₁.reply.result = true ∧
    senseParameters e₁.reply = .ok mode ∧ mode.flexible = saved ∧
    e₂.command.wire = (Request.modeSense true).wire ∧ commandGood e₂.reply.result = true ∧
    senseParameters e₂.reply = .ok maskMode ∧ maskMode.flexible = mask

/-- The report names the pages that were read: the page in effect with its changeable fields marked,
the mask of these, and the page with the 1581 geometry that is made from both. -/
structure Report1581.Names (report : Report1581) (saved mask : FlexibleDiskPage) : Prop where
  original : report.original = applyChangeability saved mask
  changeable : report.changeable = mask
  requested : report.requested = set1581Geometry (applyChangeability saved mask)

/-- The pages of the report are those that the first two commands of the trace returned. -/
def PagesNamed (report : Report1581) (t : List WorkflowEvent) : Prop :=
  ∃ saved mask, SensedPages t saved mask ∧ report.Names saved mask

/-- The first two commands of a trace stay the first when more commands follow. -/
theorem SensedPages.of_isPrefix {u : List WorkflowEvent} {saved mask : FlexibleDiskPage}
    (h : SensedPages t saved mask) (hstart : executions t <+: executions u) :
    SensedPages u saved mask := by
  obtain ⟨e₁, e₂, rest, mode, maskMode, hexecutions, hpages⟩ := h
  obtain ⟨more, hmore⟩ := hstart
  refine ⟨e₁, e₂, rest ++ more, mode, maskMode, ?_, hpages⟩
  rw [← hmore, hexecutions]
  rfl

/-- Commands behind the first two change nothing about the pages. -/
theorem PagesNamed.of_isPrefix {u : List WorkflowEvent} (h : PagesNamed report t)
    (hstart : executions t <+: executions u) : PagesNamed report u := by
  obtain ⟨saved, mask, hsensed, hnames⟩ := h
  exact ⟨saved, mask, hsensed.of_isPrefix hstart, hnames⟩

/-- Marking fields as changeable changes no byte that is sent. -/
theorem Report1581.Names.payloads {saved mask : FlexibleDiskPage} (h : report.Names saved mask) :
    modeSelectPayload report.original = modeSelectPayload saved ∧
      modeSelectPayload report.requested = modeSelectPayload (set1581Geometry saved) := by
  constructor
  · rw [h.original]
    exact modeSelectPayload_congr rfl
  · rw [h.requested]
    exact modeSelectPayload_congr (set1581Geometry_applyChangeability _ _)

/-- A change is attempted with the pages that were read, and with the consent of the gate. -/
theorem Probed.named {progress : Progress} (h : Probed report t progress)
    (hneeded : progress.restoreNeeded = true) :
    ∃ saved mask, SensedPages t saved mask ∧ progress.report.Names saved mask ∧
      geometryChangesAllowed saved (set1581Geometry saved) mask = .ok () ∧
      progress.originalMode.flexible = saved := by
  obtain ⟨_, _, t₁, t₂, t₃, mode, mask, _, rfl, rfl, hsaved, hmask, hallowed, hchange⟩ :=
    h.of_needed hneeded
  obtain ⟨e₁, he₁, hwire₁, hgood₁, hparsed₁⟩ := hsaved.execution
  obtain ⟨e₂, he₂, hwire₂, hgood₂, hparsed₂⟩ := hmask.execution
  have hexecutions : executions (t₁ ++ (t₂ ++ t₃)) = e₁ :: e₂ :: executions t₃ := by
    simp [he₁, he₂]
  have hsetup := (changeGeometry_outcome hchange).setup
  refine ⟨mode.flexible, mask.flexible, ⟨e₁, e₂, _, mode, mask, hexecutions, hwire₁, hgood₁,
    hparsed₁, rfl, hwire₂, hgood₂, hparsed₂, rfl⟩,
    ⟨hsetup.original, hsetup.changeable, hsetup.requested⟩, ?_, rfl⟩
  rw [Report1581.gate_withModes] at hallowed
  exact (geometryChangesAllowed_applyChangeability_iff _ _).1 hallowed

/-- The cleanup and the release leave the names of the pages alone. -/
theorem Probed.pagesNamed {s₁ : Bool} {body cleanup : List WorkflowEvent} {progress : Progress}
    {start : Report1581} {releaseReply : StatusReply} (hprobed : Probed start body progress)
    (hneeded : progress.restoreNeeded = true) (hrestored : Restored progress s₁ cleanup report)
    (hreleased : Released report releaseReply report') : PagesNamed report' body := by
  obtain ⟨saved, mask, hsensed, hnames, -, -⟩ := hprobed.named hneeded
  obtain ⟨hrequested, horiginal, hchangeable⟩ := hrestored.pages
  refine ⟨saved, mask, hsensed, ?_, ?_, ?_⟩
  · rw [hreleased.setup.original, horiginal, hnames.original]
  · rw [hreleased.setup.changeable, hchangeable, hnames.changeable]
  · rw [hreleased.setup.requested, hrequested, hnames.requested]

/-- A page that a run sends is named after what the run read. -/
theorem Tested.pagesNamed {acknowledgement : Bool} (h : Tested acknowledgement t report) :
    ∀ step ∈ steps t, step.SendsData = true → PagesNamed report t := by
  intro step hstep hsends
  cases h with
  | unacknowledged => cases hstep
  | refused =>
      obtain rfl : WorkflowStep.acquire = step := by simpa [steps, stepOf] using hstep
      cases hsends
  | @acquired _ _ _ _ _ _ _ body cleanup progress _ _ _ hprobe hrestored hreleased =>
      have hprobed := probed_of_exec hprobe
      -- neither the acquisition nor the release sends anything
      have hstep : step ∈ steps body ∨ step ∈ steps cleanup := by
        change step ∈ WorkflowStep.acquire :: steps (body ++ (cleanup ++ [_])) at hstep
        rw [steps_append, steps_append, List.mem_cons, List.mem_append, List.mem_append] at hstep
        rcases hstep with rfl | hbody | hcleanup | hrelease
        · cases hsends
        · exact .inl hbody
        · exact .inr hcleanup
        · obtain rfl := List.mem_singleton.1 hrelease
          cases hsends
      have hneeded : progress.restoreNeeded = true :=
        hstep.elim (fun hstep => (hprobed.needed_of_select hstep hsends).1)
          fun hstep => (hrestored.needed_of_steps (List.ne_nil_of_mem hstep)).1
      exact (hprobed.pagesNamed hneeded hrestored hreleased).of_isPrefix executions_body_isPrefix

/-! ## Whole runs -/

/-- The calls after a successful `acquire_exclusive`, where `body` is what happens before the
cleanup. -/
structure AcquiredTrace (report : Report1581) (body cleanup : List WorkflowEvent)
    (release : WorkflowEvent) : Prop where
  plan : steps body <+: workflowPlan report.requested
  /-- Nothing follows a command that failed. -/
  stops : ∀ u e v, body = u ++ e :: v → ¬ Passed e → v = []
  restoration : steps cleanup = [] ∨
    steps cleanup = [(Request.modeSelect report.original).step] ∧ SelectAttempted report body
  /-- A page that is sent is named after what was read. -/
  named : ∀ step ∈ steps (body ++ cleanup), step.SendsData = true → PagesNamed report body
  /-- After an observed interrupt request, only the restoration is still sent. -/
  observed : ∀ u e v, body ++ cleanup = u ++ e :: v → Observed e →
    steps v = [] ∨ steps v = steps cleanup
  release : stepOf release = some .release

/-- An event that did not pass ends a trace that follows a plan. -/
theorem eq_nil_of_not_passed {plan : List WorkflowStep} {completed : Bool}
    (h : Follows stepOf Passed plan t completed) {u v : List WorkflowEvent} {e : WorkflowEvent}
    (ht : t = u ++ e :: v) (he : ¬ Passed e) : v = [] := by
  by_contra hv
  exact he (h.passed_of_append ht hv)

/-- The trace of a test that acquired the transport. -/
theorem acquiredTrace_of_probed {s₁ s₂ : Bool} {body cleanup : List WorkflowEvent}
    {progress : Progress} {releaseReply : StatusReply} {start : Report1581}
    (hprobed : Probed start body progress) (hrestored : Restored progress s₁ cleanup report)
    (hreleased : Released report releaseReply report') :
    AcquiredTrace report' body cleanup
      ⟨s₂, .transport (.releaseExclusive Text.empty), releaseReply⟩ := by
  obtain ⟨bodyDone, hbody⟩ := hprobed.follows
  obtain ⟨cleanupDone, hcleanup⟩ := hrestored.follows
  have hrequested : report'.requested = progress.report.requested :=
    hreleased.setup.requested.trans hrestored.pages.1
  have horiginal : report'.original = progress.report.original :=
    hreleased.setup.original.trans hrestored.pages.2.1
  -- the plan of the probe, where it stops, the restored page, its name, and an interrupt request
  refine ⟨?_, ?_, ?_, ?_, ?_, rfl⟩
  · rw [hrequested]
    exact hbody.labels_isPrefix
  · exact fun u e v hsplit he => eq_nil_of_not_passed hbody hsplit he
  · by_cases hsent : steps cleanup = []
    · exact .inl hsent
    · obtain ⟨hneeded, hpage⟩ := hrestored.needed_of_steps hsent
      have hattempted := hprobed.selectAttempted hneeded hpage
      refine .inr ⟨?_, ?_⟩
      · rw [horiginal, ← hprobed.original_wire hneeded]
        rcases List.prefix_cons_iff.1 hcleanup.labels_isPrefix with hnil | ⟨rest, hrest, hnil⟩
        · exact absurd hnil hsent
        · rw [steps, hrest, List.prefix_nil.1 hnil]
      · rw [SelectAttempted, hrequested]
        exact hattempted
  · intro step hstep hsends
    rw [steps_append, List.mem_append] at hstep
    have hneeded : progress.restoreNeeded = true :=
      hstep.elim (fun hstep => (hprobed.needed_of_select hstep hsends).1)
        fun hstep => (hrestored.needed_of_steps (List.ne_nil_of_mem hstep)).1
    exact hprobed.pagesNamed hneeded hrestored hreleased
  · intro u e v hsplit hobserved
    -- an interrupt is noticed in the probe or in the cleanup, and ends the part it is in
    rcases List.append_eq_append_iff.1 hsplit with ⟨w, rfl, hcleanup'⟩ | ⟨w, hbody', hv⟩
    · left
      rw [eq_nil_of_not_passed hcleanup hcleanup' hobserved.not_passed]
      rfl
    · cases w with
      | nil =>
          left
          rw [eq_nil_of_not_passed hcleanup (u := []) hv.symm hobserved.not_passed]
          rfl
      | cons e' w =>
          right
          simp only [List.cons_append, List.cons.injEq] at hv
          obtain ⟨rfl, rfl⟩ := hv
          rw [eq_nil_of_not_passed hbody hbody' hobserved.not_passed]
          rfl

/-- The shape of the call trace of every run. -/
theorem test1581_callTrace {acknowledgement : Bool} {s : Bool}
    (r : Run (test1581 acknowledgement) s) :
    (acknowledgement = false → steps r.trace = []) ∧
      (acknowledgement = true → ∃ first s₁ detail reply rest,
        r.trace = first ++ ⟨s₁, .transport (.acquireExclusive detail), reply⟩ :: rest ∧
          steps first = [] ∧ (reply.status ≠ .ok → steps rest = []) ∧
          (reply.status = .ok → ∃ body cleanup release,
            rest = body ++ cleanup ++ [release] ∧
              AcquiredTrace r.result body cleanup release)) := by
  have htested := tested_of_exec r.exec
  generalize r.trace = trace at htested
  generalize r.result = report at htested
  cases htested with
  | unacknowledged => exact ⟨fun _ => rfl, by simp⟩
  | refused hrefused =>
      refine ⟨by simp, fun _ => ⟨[_], _, _, _, [], rfl, rfl, fun _ => rfl, ?_⟩⟩
      exact fun hok => absurd hok hrefused
  | acquired hacquired hprobe hrestored hreleased =>
      refine ⟨by simp, fun _ => ⟨[_], _, _, _, _, rfl, rfl, fun hne => absurd hacquired hne, ?_⟩⟩
      refine fun _ => ⟨_, _, _, (List.append_assoc _ _ _).symm, ?_⟩
      exact acquiredTrace_of_probed (probed_of_exec hprobe) hrestored hreleased

end M65
