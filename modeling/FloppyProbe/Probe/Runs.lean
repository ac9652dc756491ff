import FloppyProbe.Probe.Phases

/-!
# What a run of the workflow can do

The cases of `probeGeometry`, `restoreController`, `releaseController` and `test1581`. Each of
them is an inductive relation with one constructor for each way through the function, and a lemma
that every execution is one of these cases. The results about whole runs are read off `Tested`.
-/

namespace M65

open Interaction

variable {s s' : Bool} {t : List WorkflowEvent} {report report' : Report1581}

/-! ## From the first MODE SENSE to the cleanup -/

/-- The report when the change is about to be attempted. -/
abbrev Report1581.withModes (report : Report1581) (mode mask : ModeParameters) : Report1581 :=
  (report.withSaved mode.flexible).withMask mask.flexible

/-- The answer of the gate to the change that the report describes. -/
abbrev Report1581.gate (report : Report1581) : Except ErrorText Unit :=
  geometryChangesAllowed report.original report.requested report.changeable

/-- The gate looks at the saved page, at the page with the geometry and at the mask. -/
theorem Report1581.gate_withModes (report : Report1581) (mode mask : ModeParameters) :
    (report.withModes mode mask).gate =
      geometryChangesAllowed (applyChangeability mode.flexible mask.flexible)
        (set1581Geometry (applyChangeability mode.flexible mask.flexible)) mask.flexible := rfl

/-- What `probeGeometry` can do: the trace and what it leaves to the cleanup. -/
inductive Probed (report : Report1581) : List WorkflowEvent → Progress → Prop
  /-- The page in effect could not be read. -/
  | unsaved {t : List WorkflowEvent} {report' : Report1581} {mode : ModeParameters}
      (hfailed : SenseFailed false t)
      (hdescribes : report.Describes report') : Probed report t ⟨report', mode, false⟩
  /-- The changeable mask could not be read. -/
  | unmasked {t₁ t₂ : List WorkflowEvent} {report' : Report1581} {mode : ModeParameters}
      (hsaved : Sensed false t₁ mode) (hfailed : SenseFailed true t₂)
      (hdescribes : (report.withSaved mode.flexible).Describes report') :
      Probed report (t₁ ++ t₂) ⟨report', mode, false⟩
  /-- The mask does not permit the change. -/
  | denied {t₁ t₂ : List WorkflowEvent} {mode mask : ModeParameters} {detail : ErrorText}
      (hsaved : Sensed false t₁ mode) (hmask : Sensed true t₂ mask)
      (hdenied : (report.withModes mode mask).gate = .error detail) :
      Probed report (t₁ ++ t₂)
        ⟨{ (report.withModes mode mask).markUnsupported with reason := detail }, mode, false⟩
  /-- The change was attempted. -/
  | attempted {s₁ s₂ : Bool} {t₁ t₂ t₃ : List WorkflowEvent} {mode mask : ModeParameters}
      {report' : Report1581}
      (hsaved : Sensed false t₁ mode) (hmask : Sensed true t₂ mask)
      (hallowed : (report.withModes mode mask).gate = .ok ())
      (hchange : Exec (changeGeometry (report.withModes mode mask)) s₁ t₃ report' s₂) :
      Probed report (t₁ ++ (t₂ ++ t₃)) ⟨report', mode, true⟩

/-- Every execution of the probe is one of its cases. -/
theorem probed_of_exec {progress : Progress} (h : Exec (probeGeometry report) s t progress s') :
    Probed report t progress := by
  unfold probeGeometry at h
  simp only [exec_bind] at h
  obtain ⟨t₁, ⟨result₁, mode⟩, s₁, t₂, hsense₁, h, rfl⟩ := h
  -- the current page
  rcases modeSense_cases hsense₁ with ⟨hbad, hfailed⟩ | ⟨hgood, hsaved⟩
  · have hbad : commandGood result₁ = false := hbad
    simp only [hbad, Bool.not_false, if_true, exec_pure] at h
    obtain ⟨rfl, rfl, rfl⟩ := h
    rw [List.append_nil]
    exact .unsaved hfailed (report.describes_commandFailure _ _)
  have hgood : commandGood result₁ = true := hgood
  simp only [hgood, Bool.not_true, Bool.false_eq_true, if_false, exec_bind] at h
  obtain ⟨t₂, ⟨result₂, mask⟩, s₂, t₃, hsense₂, h, rfl⟩ := h
  -- the mask of its changeable bits
  rcases modeSense_cases hsense₂ with ⟨hbad, hfailed⟩ | ⟨hgood, hmask⟩
  · have hbad : commandGood result₂ = false := hbad
    simp only [hbad, Bool.not_false, if_true, exec_pure] at h
    obtain ⟨rfl, rfl, rfl⟩ := h
    rw [List.append_nil]
    exact .unmasked hsaved hfailed (Report1581.describes_commandFailure _ _ _)
  have hgood : commandGood result₂ = true := hgood
  simp only [hgood, Bool.not_true, Bool.false_eq_true, if_false] at h
  -- the gate decides whether MODE SELECT is sent
  split at h
  · rename_i detail hdenied
    rw [exec_pure] at h
    obtain ⟨rfl, rfl, rfl⟩ := h
    rw [List.append_nil]
    exact .denied hsaved hmask hdenied
  · rename_i hallowed
    simp only [exec_bind, exec_pure] at h
    obtain ⟨t₃, report', s₃, t₄, hchange, ⟨rfl, rfl, rfl⟩, rfl⟩ := h
    rw [List.append_nil]
    exact .attempted hsaved hmask hallowed hchange

/-- Before the cleanup, the report never says that the controller is restored. -/
theorem Probed.controllerRestored_eq {progress : Progress}
    (h : Probed report t progress) :
    progress.report.controllerRestored = report.controllerRestored := by
  cases h with
  | unsaved _ hdescribes => exact hdescribes.sameGeometry.controllerRestored
  | unmasked _ _ hdescribes => exact hdescribes.sameGeometry.controllerRestored
  | denied => rfl
  | attempted _ _ _ hchange => exact (changeGeometry_outcome hchange).setup.controllerRestored

/-- A restoration is needed only after a change that was attempted. -/
theorem Probed.of_needed {progress : Progress} (h : Probed report t progress)
    (hneeded : progress.restoreNeeded = true) :
    ∃ s₁ s₂ t₁ t₂ t₃ mode mask report', t = t₁ ++ (t₂ ++ t₃) ∧ progress = ⟨report', mode, true⟩ ∧
      Sensed false t₁ mode ∧ Sensed true t₂ mask ∧ (report.withModes mode mask).gate = .ok () ∧
      Exec (changeGeometry (report.withModes mode mask)) s₁ t₃ report' s₂ := by
  cases h with
  | unsaved => cases hneeded
  | unmasked => cases hneeded
  | denied => cases hneeded
  | attempted hsaved hmask hallowed hchange =>
      exact ⟨_, _, _, _, _, _, _, _, rfl, rfl, hsaved, hmask, hallowed, hchange⟩

/-- A change is attempted only with a page that was saved. -/
theorem Probed.originalSaved_of_needed {progress : Progress} (h : Probed report t progress)
    (hneeded : progress.restoreNeeded = true) : progress.report.originalSaved = true := by
  obtain ⟨_, _, _, _, _, _, _, _, -, rfl, -, -, -, hchange⟩ := h.of_needed hneeded
  exact (changeGeometry_outcome hchange).setup.originalSaved

/-! ## Cleanup -/

/-- What `restoreController` can do from the flag `s`. -/
inductive Restored (progress : Progress) (s : Bool) : List WorkflowEvent → Report1581 → Prop
  /-- The page was never saved, or no change was attempted. -/
  | untouched (hneeded : (progress.restoreNeeded && progress.report.originalSaved) = false) :
      Restored progress s [] { progress.report with
        controllerRestored :=
          progress.report.originalSaved || progress.report.controllerRestored }
  | written {n : ℕ} {t : List WorkflowEvent} {result : CommandResult} {s' : Bool}
      (hneeded : (progress.restoreNeeded && progress.report.originalSaved) = true)
      (hselect : Exec (modeSelect progress.originalMode.flexible) false t result s')
      (hgood : commandGood result = true) :
      Restored progress s (⟨s, .clearInterrupt, n⟩ :: t)
        { progress.report with controllerRestored := true }
  | failed {n : ℕ} {t : List WorkflowEvent} {result : CommandResult} {s' : Bool}
      (hneeded : (progress.restoreNeeded && progress.report.originalSaved) = true)
      (hselect : Exec (modeSelect progress.originalMode.flexible) false t result s')
      (hbad : commandGood result = false) :
      Restored progress s (⟨s, .clearInterrupt, n⟩ :: t) (progress.report.restoreFailure result)

/-- Every execution of the restoration is one of its cases. -/
theorem restored_of_exec {progress : Progress}
    (h : Exec (restoreController progress) s t report' s') : Restored progress s t report' := by
  unfold restoreController at h
  cases hneeded : progress.restoreNeeded && progress.report.originalSaved with
  | true =>
      simp only [hneeded, if_true, exec_bind, exec_clearInterrupted, exec_ite, exec_pure] at h
      obtain ⟨_, _, _, t₂, ⟨n, rfl, rfl⟩, ⟨t₁, result, s₁, t₃, hselect, h, rfl⟩, rfl⟩ := h
      rcases h with ⟨hgood, rfl, rfl, rfl⟩ | ⟨hbad, rfl, rfl, rfl⟩
      · rw [List.append_nil]
        exact .written hneeded hselect hgood
      · rw [List.append_nil]
        exact .failed hneeded hselect (by simpa using hbad)
  | false =>
      simp only [hneeded, Bool.false_eq_true, if_false, exec_ite, exec_pure] at h
      have huntouched := Restored.untouched (s := s) hneeded
      rcases h with ⟨hsaved, rfl, rfl, rfl⟩ | ⟨hsaved, rfl, rfl, rfl⟩
      · simpa [hsaved] using huntouched
      · have hsaved : progress.report.originalSaved = false := by simpa using hsaved
        rw [hsaved, Bool.false_or] at huntouched
        exact huntouched

/-- The release with the given reply turns `report` into `report'`. -/
structure Released (report : Report1581) (reply : StatusReply) (report' : Report1581) : Prop where
  setup : report.SameSetup report'
  status_eq : reply.status = .ok → report'.status = report.status
  supported : report'.status = .supported → reply.status = .ok ∧ report'.code = report.code ∧
    report'.accepted = report.accepted ∧ report'.image = report.image ∧
    report'.imageLength = report.imageLength
  discarded : report'.status ≠ .supported → report'.image = none ∧ report'.imageLength = 0
  reason_eq : report'.reason = report.reason ∨ ∃ detail,
    (detail = errorText "failed to release exclusive SCSI access" ∨ detail = reply.detail) ∧
      report'.reason = reasonAppend report.reason detail

/-- The release is one call of the transport. -/
theorem released_of_exec (h : Exec (releaseController report) s t report' s') :
    ∃ reply, t = [⟨s, .transport (.releaseExclusive Text.empty), reply⟩] ∧
      Released report reply report' := by
  unfold releaseController releaseExclusive at h
  simp only [exec_bind, exec_call] at h
  obtain ⟨_, reply, s₁, t₁, ⟨rfl, rfl⟩, h, rfl⟩ := h
  by_cases hok : reply.status = .ok
  · simp only [hok, ne_eq, not_true_eq_false, if_false, exec_ite, exec_pure] at h
    rcases h with ⟨hstatus, rfl, rfl, rfl⟩ | ⟨hstatus, rfl, rfl, rfl⟩
    · exact ⟨reply, rfl, ⟨rfl, rfl, rfl, rfl, rfl⟩, fun _ => rfl, fun heq => absurd heq hstatus,
        fun _ => ⟨rfl, rfl⟩, .inl rfl⟩
    · exact ⟨reply, rfl, ⟨rfl, rfl, rfl, rfl, rfl⟩, fun _ => rfl,
        fun _ => ⟨hok, rfl, rfl, rfl, rfl⟩, fun hne => absurd hne hstatus, .inl rfl⟩
  · simp only [hok, ne_eq, not_false_eq_true, if_true, exec_ite, exec_pure] at h
    rcases h with ⟨_, rfl, rfl, rfl⟩ | ⟨hstatus, rfl, rfl, rfl⟩
    · refine ⟨reply, rfl, ⟨rfl, rfl, rfl, rfl, rfl⟩, fun heq => absurd heq hok, by simp,
        fun _ => ⟨rfl, rfl⟩, .inr ⟨_, ?_, rfl⟩⟩
      -- the transport's text, or the default for an empty one
      split
      · exact .inl rfl
      · exact .inr rfl
    · simp at hstatus

/-! ## The whole workflow -/

/-- The report with which the first MODE SENSE is sent. -/
def Report1581.acquired (reply : StatusReply) : Report1581 :=
  { acknowledgementSupplied := true, exclusiveAcquired := true, reason := reply.detail }

/-- A report of a run that sent no command. -/
structure Report1581.Untouched (report : Report1581) : Prop where
  status_eq : report.status = .inconclusive
  image_eq : report.image = none
  imageLength_eq : report.imageLength = 0
  controllerRestored_eq : report.controllerRestored = false

/-- What `test1581` can do: the acknowledgement, the trace and the report. -/
inductive Tested : Bool → List WorkflowEvent → Report1581 → Prop
  | unacknowledged {s : Bool} {n : ℕ} {report : Report1581} (huntouched : report.Untouched) :
      Tested false [⟨s, .clearInterrupt, n⟩] report
  | refused {s : Bool} {n : ℕ} {detail : ErrorText} {reply : StatusReply} {report : Report1581}
      (hrefused : reply.status ≠ .ok) (huntouched : report.Untouched) :
      Tested true
        [⟨s, .clearInterrupt, n⟩, ⟨false, .transport (.acquireExclusive detail), reply⟩] report
  | acquired {s s₁ s₂ : Bool} {n : ℕ} {detail : ErrorText} {reply releaseReply : StatusReply}
      {body cleanup : List WorkflowEvent} {progress : Progress} {report report' : Report1581}
      (hacquired : reply.status = .ok)
      (hprobe : Exec (probeGeometry (.acquired reply)) false body progress s₁)
      (hrestored : Restored progress s₁ cleanup report)
      (hreleased : Released report releaseReply report') :
      Tested true
        (⟨s, .clearInterrupt, n⟩ :: ⟨false, .transport (.acquireExclusive detail), reply⟩ ::
          (body ++ (cleanup ++
            [⟨s₂, .transport (.releaseExclusive Text.empty), releaseReply⟩]))) report'

/-- Every execution of a test is one of its cases. -/
theorem tested_of_exec {acknowledgement : Bool}
    (h : Exec (test1581 acknowledgement) s t report s') : Tested acknowledgement t report := by
  unfold test1581 at h
  simp only [exec_bind, exec_clearInterrupted] at h
  obtain ⟨_, _, _, t₁, ⟨n, rfl, rfl⟩, h, rfl⟩ := h
  cases acknowledgement with
  | false =>
      simp only [Bool.not_false, if_true, exec_pure] at h
      obtain ⟨rfl, rfl, rfl⟩ := h
      exact .unacknowledged ⟨rfl, rfl, rfl, rfl⟩
  | true =>
      simp only [acquireExclusive, Bool.not_true, Bool.false_eq_true, if_false, exec_bind,
        exec_call, exec_ite, exec_pure] at h
      obtain ⟨_, reply, _, t₂, ⟨rfl, rfl⟩, h, rfl⟩ := h
      rcases h with ⟨hrefused, rfl, rfl, rfl⟩ | ⟨hacquired, h⟩
      · exact .refused hrefused ⟨rfl, rfl, rfl, rfl⟩
      · obtain ⟨body, progress, s₁, _, hprobe, ⟨cleanup, restored, s₂, _, hrestore, hrelease,
          rfl⟩, rfl⟩ := h
        obtain ⟨releaseReply, rfl, hreleased⟩ := released_of_exec hrelease
        exact .acquired (of_not_not hacquired) hprobe (restored_of_exec hrestore) hreleased

/-- The release executes nothing. -/
theorem executions_release (t : List WorkflowEvent) (s : Bool) (reply : StatusReply) :
    executions (t ++ [⟨s, .transport (.releaseExclusive Text.empty), reply⟩]) = executions t := by
  rw [executions_append]
  exact List.append_nil _

/-- Between the entry and the release, the body and the cleanup execute commands. -/
theorem executions_acquired {s₁ s₂ : Bool} {n : ℕ} {detail : ErrorText}
    {reply releaseReply : StatusReply} {body cleanup : List WorkflowEvent} :
    executions (⟨s₁, .clearInterrupt, n⟩ :: ⟨false, .transport (.acquireExclusive detail), reply⟩ ::
      (body ++ (cleanup ++ [⟨s₂, .transport (.releaseExclusive Text.empty), releaseReply⟩]))) =
        executions body ++ executions cleanup := by
  show executions (body ++ (cleanup ++ [_])) = _
  rw [executions_append, executions_release]

/-- The first commands of a run that acquired the transport are those of the body. -/
theorem executions_body_isPrefix {s₁ s₂ : Bool} {n : ℕ} {detail : ErrorText}
    {reply releaseReply : StatusReply} {body cleanup : List WorkflowEvent} :
    executions body <+: executions
      (⟨s₁, .clearInterrupt, n⟩ :: ⟨false, .transport (.acquireExclusive detail), reply⟩ ::
        (body ++ (cleanup ++
          [⟨s₂, .transport (.releaseExclusive Text.empty), releaseReply⟩]))) := by
  rw [executions_acquired]
  exact List.prefix_append _ _

end M65
