import FloppyProbe.Probe.Reads

/-!
# The phases of the change

What every phase from the MODE SELECT of the requested page on can do, one lemma for each
function: the plan it follows, the fields of the report it leaves alone, and what a phase that
ended with the verdict SUPPORTED has found.
-/

namespace M65

open Interaction

variable {s s' : Bool} {t : List WorkflowEvent} {report report' : Report1581}

/-! ## Reports -/

/-- The fields of the report that describe the controller before the change. -/
structure Report1581.SameSetup (report report' : Report1581) : Prop where
  original : report'.original = report.original
  changeable : report'.changeable = report.changeable
  requested : report'.requested = report.requested
  originalSaved : report'.originalSaved = report.originalSaved
  controllerRestored : report'.controllerRestored = report.controllerRestored

namespace Report1581.SameSetup

/-- A report describes the same controller as itself. -/
theorem refl (report : Report1581) : report.SameSetup report := ⟨rfl, rfl, rfl, rfl, rfl⟩

/-- The description is kept by two phases if each keeps it. -/
theorem trans {report₁ report₂ report₃ : Report1581} (h : report₁.SameSetup report₂)
    (h' : report₂.SameSetup report₃) : report₁.SameSetup report₃ where
  original := h'.original.trans h.original
  changeable := h'.changeable.trans h.changeable
  requested := h'.requested.trans h.requested
  originalSaved := h'.originalSaved.trans h.originalSaved
  controllerRestored := h'.controllerRestored.trans h.controllerRestored

end Report1581.SameSetup

/-- The fields of the report that no read changes. -/
structure Report1581.SameGeometry (report report' : Report1581) : Prop
    extends report.SameSetup report' where
  accepted : report'.accepted = report.accepted

namespace Report1581.SameGeometry

/-- A report has the same geometry as itself. -/
theorem refl (report : Report1581) : report.SameGeometry report := ⟨.refl report, rfl⟩

/-- The geometry is kept by two phases if each keeps it. -/
theorem trans {report₁ report₂ report₃ : Report1581} (h : report₁.SameGeometry report₂)
    (h' : report₂.SameGeometry report₃) : report₁.SameGeometry report₃ :=
  ⟨h.toSameSetup.trans h'.toSameSetup, h'.accepted.trans h.accepted⟩

end Report1581.SameGeometry

/-- The description of a failure keeps the geometry. -/
theorem Report1581.Describes.sameGeometry (h : report.Describes report') :
    report.SameGeometry report' := by
  obtain ⟨_, _, _, rfl⟩ := h
  exact ⟨⟨rfl, rfl, rfl, rfl, rfl⟩, rfl⟩

/-- The description of a failure keeps the verdict. -/
theorem Report1581.Describes.status_eq (h : report.Describes report') :
    report'.status = report.status := by
  obtain ⟨_, _, _, rfl⟩ := h
  rfl

/-! ## Wires and steps -/

/-- The command of a step. -/
def WorkflowStep.wire? : WorkflowStep → Option Wire
  | .command wire => some wire
  | _ => none

/-- The commands of a trace are those of its steps. -/
theorem executions_wire (t : List WorkflowEvent) :
    (executions t).map (·.command.wire) = (steps t).filterMap WorkflowStep.wire? := by
  induction t with
  | nil => rfl
  | cons e t ih =>
      obtain ⟨s, call, reply⟩ := e
      rcases call with _ | _ | _ | call
      · exact ih
      · exact ih
      · exact ih
      · cases call with
        | acquireExclusive => exact ih
        | execute command => exact congrArg (command.wire :: ·) ih
        | releaseExclusive => exact ih

/-- A command of a trace is one of its steps. -/
theorem mem_steps_of_mem_executions {e : Execution} (h : e ∈ executions t) :
    .command e.command.wire ∈ steps t := by
  have hwire := List.mem_map_of_mem (f := (·.command.wire)) h
  rw [executions_wire] at hwire
  obtain ⟨step, hstep, heq⟩ := List.mem_filterMap.1 hwire
  cases step with
  | command wire =>
      obtain rfl : wire = e.command.wire := by simpa [WorkflowStep.wire?] using heq
      exact hstep
  | acquire => cases heq
  | release => cases heq

/-- The commands of requests are theirs. -/
theorem filterMap_wire_step (requests : List Request) :
    (requests.map Request.step).filterMap WorkflowStep.wire? = requests.map Request.wire := by
  induction requests with
  | nil => rfl
  | cons request requests ih => exact congrArg (request.wire :: ·) ih

/-- Where every event passed, every command succeeded. -/
theorem succeeded_of_passed (h : ∀ e ∈ t, Passed e) :
    ∀ e ∈ executions t, succeeded e.command e.reply = true := by
  intro e he
  obtain ⟨event, hevent, hexecution⟩ := List.mem_filterMap.1 he
  obtain ⟨s, call, reply⟩ := event
  rcases call with _ | _ | _ | call
  · cases hexecution
  · cases hexecution
  · cases hexecution
  · cases call with
    | acquireExclusive => cases hexecution
    | execute command =>
        simp only [executionOf, Option.some.injEq] at hexecution
        subst hexecution
        exact h _ hevent
    | releaseExclusive => cases hexecution

/-! ## MODE SENSE -/

/-- The trace of a MODE SENSE that succeeded with the given parameters. -/
structure Sensed (changeable : Bool) (t : List WorkflowEvent) (parameters : ModeParameters) :
    Prop where
  follows : Follows stepOf Passed [(Request.modeSense changeable).step] t true
  parsed : ∃ e, executions t = [e] ∧ senseParameters e.reply = .ok parameters

/-- The trace of a MODE SENSE that did not succeed. -/
structure SenseFailed (changeable : Bool) (t : List WorkflowEvent) : Prop where
  follows : Follows stepOf Passed [(Request.modeSense changeable).step] t false
  failed : ∀ e ∈ executions t, succeeded e.command e.reply = false

/-- A MODE SENSE succeeds or fails. -/
theorem modeSense_cases {changeable : Bool} {parameters : ModeParameters}
    {out : CommandResult × ModeParameters}
    (h : Exec (modeSense changeable parameters) s t out s') :
    commandGood out.1 = false ∧ SenseFailed changeable t ∨
      commandGood out.1 = true ∧ Sensed changeable t out.2 := by
  obtain ⟨reply, hattempt, hgood, hparsed⟩ := modeSense_attempt h
  have hfollows := hattempt.follows
  rw [← hgood] at hfollows
  cases hout : commandGood out.1 with
  | false =>
      rw [hout] at hfollows hgood
      refine .inl ⟨rfl, hfollows, fun e he => ?_⟩
      rcases hattempt.executions_eq with hnil | hone
      · simp [hnil] at he
      · rw [hone, List.mem_singleton] at he
        rw [he, ← hgood]
  | true =>
      refine .inr ⟨rfl, hout ▸ hfollows, _, (hattempt.executions_of_succeeded ?_).2.1, hparsed hout⟩
      rw [← hgood, hout]

/-! ## MODE SELECT -/

/-- MODE SELECT follows its plan; a good one was handed to the transport. -/
theorem modeSelect_cases {page : FlexibleDiskPage} {result : CommandResult}
    (h : Exec (modeSelect page) s t result s') :
    Follows stepOf Passed [(Request.modeSelect page).step] t (commandGood result) ∧
      (commandGood result = true → ∃ e, executions t = [e] ∧ e.reply.result = result) := by
  rcases modeSelect_attempt h with ⟨-, rfl, -, hbad⟩ | ⟨reply, -, hattempt, rfl⟩
  · rw [hbad]
    exact ⟨.stop _, by simp⟩
  · have hsucceeded := succeeded_modeSelect page reply
    refine ⟨hsucceeded ▸ hattempt.follows, fun hgood => ⟨⟨_, reply⟩, ?_, rfl⟩⟩
    exact (hattempt.executions_of_succeeded (hsucceeded.trans hgood)).2.1

/-! ## Outcomes -/

/-- What a phase has done when it ends with `report'`: it followed its plan, and if it ended with
the verdict SUPPORTED then it completed it and found what `Found` says. -/
structure PhaseOutcome (plan : List WorkflowStep) (report : Report1581) (t : List WorkflowEvent)
    (report' : Report1581) (Found : Prop) : Prop where
  setup : report.SameSetup report'
  follows : ∃ completed, Follows stepOf Passed plan t completed ∧
    (report.status ≠ .supported → report'.status = .supported → completed = true ∧ Found)

namespace PhaseOutcome

variable {plan plan' : List WorkflowStep} {report₁ : Report1581} {t' : List WorkflowEvent}
  {Found Found' : Prop}

/-- A phase that ends inside its plan, without a verdict. -/
theorem stop (h : Follows stepOf Passed plan t false) (hsetup : report.SameSetup report')
    (hstatus : report.status ≠ .supported → report'.status ≠ .supported) :
    PhaseOutcome (plan ++ plan') report t report' Found :=
  ⟨hsetup, false, h.extend plan', fun hne heq => absurd heq (hstatus hne)⟩

/-- A phase that goes on after the first part of its plan. -/
theorem after (h : Follows stepOf Passed plan t true) (hsetup : report.SameSetup report₁)
    (hstatus : report₁.status = report.status)
    (hrest : PhaseOutcome plan' report₁ t' report' Found') (hfound : Found' → Found) :
    PhaseOutcome (plan ++ plan') report (t ++ t') report' Found := by
  obtain ⟨completed, hfollows, hsupported⟩ := hrest.follows
  refine ⟨hsetup.trans hrest.setup, completed, h.append hfollows, fun hne heq => ?_⟩
  obtain ⟨hcompleted, hfound'⟩ := hsupported (hstatus ▸ hne) heq
  exact ⟨hcompleted, hfound hfound'⟩

end PhaseOutcome

/-! ## The boundary reads -/

/-- A boundary read is one read, after which the geometry is as before. -/
theorem probeBoundary_cases {lba : UInt32} {operation : String} {out : Bool × Report1581}
    (h : Exec (probeBoundary lba operation report) s t out s') :
    Follows stepOf Passed [(Request.read lba 1).step] t out.1 ∧ report.SameGeometry out.2 ∧
      (report.status ≠ .supported → out.2.status ≠ .supported) ∧
      (out.1 = true → out.2 = report ∧ ∃ e, executions t = [e]) := by
  unfold probeBoundary at h
  simp only [exec_bind] at h
  obtain ⟨t₁, answer, s₁, t₂, hread, h, rfl⟩ := h
  obtain ⟨reply, hattempt, hgood, _⟩ := readBlocks_attempt hread
  have hfollows : Follows stepOf Passed [(Request.read lba 1).step] t₁ (succeeded _ reply) :=
    hattempt.follows
  have hdescribes := report.describes_commandFailure operation answer.1
  rw [← hgood] at hfollows
  cases hout : commandGood answer.1 with
  | false =>
      rw [hout] at hfollows
      simp only [hout, Bool.not_false, if_true, exec_ite, exec_pure] at h
      rcases h with ⟨_, rfl, rfl, rfl⟩ | ⟨_, rfl, rfl, rfl⟩
      · -- a status of the device speaks against the geometry, a failed transport does not
        refine ⟨by simpa using hfollows, ?_, by simp [Report1581.markUnsupported], by simp⟩
        exact ⟨⟨rfl, rfl, rfl, rfl, rfl⟩, rfl⟩
      · refine ⟨by simpa using hfollows, hdescribes.sameGeometry, ?_, by simp⟩
        exact fun hstatus => by rwa [hdescribes.status_eq]
  | true =>
      rw [hout] at hfollows hgood
      simp only [hout, Bool.not_true, Bool.false_eq_true, if_false, exec_pure] at h
      obtain ⟨rfl, rfl, rfl⟩ := h
      have hexecutions := (hattempt.executions_of_succeeded hgood.symm).2.1
      rw [List.append_nil]
      exact ⟨hfollows, .refl report, id, fun _ => ⟨rfl, _, hexecutions⟩⟩

/-! ## The complete reads -/

/-- A complete pass over the medium that returned `image`. -/
structure Pass (pass : List Execution) (image : List UInt8) : Prop where
  wires : pass.map (·.command.wire) = ((List.range' 0 readChunks).map chunkRequest).map Request.wire
  succeeded : ∀ e ∈ pass, succeeded e.command e.reply = true
  returned : pass.flatMap (·.returned) = image

/-- The commands of a phase that ended with the verdict SUPPORTED after `before`. -/
structure PassesMatch (before : List Execution) (t : List WorkflowEvent) (report : Report1581) :
    Prop where
  code_eq : report.code = .ok
  imageLength_eq : report.imageLength = imageSize1581
  passes : ∃ pass₁ pass₂ image, executions t = before ++ (pass₁ ++ pass₂) ∧
    Pass pass₁ image ∧ Pass pass₂ image ∧ report.image = some image ∧
    image.length = imageSize1581

/-- Commands before a phase are commands before its passes. -/
theorem PassesMatch.prepend {before₀ before : List Execution} {t₀ t₁ : List WorkflowEvent}
    (h₀ : executions t₀ = before₀) (h : PassesMatch before t₁ report) :
    PassesMatch (before₀ ++ before) (t₀ ++ t₁) report := by
  obtain ⟨hcode, hlength, pass₁, pass₂, image, hexecutions, hpasses⟩ := h
  refine ⟨hcode, hlength, pass₁, pass₂, image, ?_, hpasses⟩
  rw [executions_append, h₀, hexecutions, List.append_assoc]

/-- The two complete passes. -/
def passesPlan : List WorkflowStep := chunkPlan 0 readChunks ++ chunkPlan 0 readChunks

/-- A complete read is a pass over the medium. -/
theorem pass_of_outcome {image : List UInt8} {out : Bool × List UInt8 × Report1581}
    (h : ReadOutcome (chunkPlan 0 readChunks) 0 image report t out) (hdone : out.1 = true) :
    Pass (executions t) out.2.1 := by
  have hfollows := h.follows
  rw [hdone] at hfollows
  refine ⟨?_, succeeded_of_passed hfollows.passed, by simpa using (h.image_eq hdone).symm⟩
  rw [executions_wire, steps, hfollows.labels_eq, ← filterMap_wire_step]
  simp only [chunkPlan, List.map_map]
  rfl

/-- Two reads follow their plan, and SUPPORTED means that their images are equal. -/
theorem readTwice_outcome {image secondImage : List UInt8} (himage : image.length = imageSize1581)
    (hsecond : secondImage.length = imageSize1581)
    (h : Exec (readTwice image secondImage report) s t report' s') :
    PhaseOutcome passesPlan report t report'
      (PassesMatch [] t report' ∧ report'.accepted = report.accepted) := by
  unfold readTwice at h
  simp only [exec_bind] at h
  obtain ⟨u, ⟨done₁, image₁, report₁⟩, s₁, v, hread₁, h, rfl⟩ := h
  have hfirst := readCompleteImage_outcome himage hread₁
  have hsame₁ : report.SameGeometry { report₁ with image := some image₁ } :=
    hfirst.describes.sameGeometry.trans ⟨⟨rfl, rfl, rfl, rfl, rfl⟩, rfl⟩
  have hstatus₁ : report₁.status = report.status := hfirst.describes.status_eq
  cases done₁ with
  | false =>
      simp only [Bool.not_false, if_true, exec_pure] at h
      obtain ⟨rfl, rfl, rfl⟩ := h
      rw [List.append_nil]
      exact .stop hfirst.follows hsame₁.toSameSetup (hstatus₁ ▸ id)
  | true =>
      simp only [Bool.not_true, Bool.false_eq_true, if_false, exec_bind] at h
      obtain ⟨v, ⟨done₂, image₂, report₂⟩, s₂, w, hread₂, h, rfl⟩ := h
      have hsecond := readCompleteImage_outcome hsecond hread₂
      have hsame₂ : report.SameGeometry report₂ := hsame₁.trans hsecond.describes.sameGeometry
      have hstatus₂ : report₂.status = report.status :=
        hsecond.describes.status_eq.trans hstatus₁
      have hfollows : Follows stepOf Passed passesPlan (u ++ v) done₂ :=
        hfirst.follows.append hsecond.follows
      cases done₂ with
      | false =>
          simp only [Bool.not_false, if_true, exec_pure] at h
          obtain ⟨rfl, rfl, rfl⟩ := h
          rw [List.append_nil]
          exact ⟨hsame₂.toSameSetup, false, hfollows,
            fun hne heq => absurd (hstatus₂.symm.trans heq) hne⟩
      | true =>
          have hunchanged : report₂ = { report₁ with image := some image₁ } :=
            hsecond.unchanged rfl
          simp only [Bool.not_true, Bool.false_eq_true, if_false, exec_ite, exec_pure] at h
          -- the images differ, which says nothing, or the two passes agree
          rcases h with ⟨_, rfl, rfl, rfl⟩ | ⟨hequal, rfl, rfl, rfl⟩
          · refine ⟨hsame₂.toSameSetup.trans ⟨rfl, rfl, rfl, rfl, rfl⟩, true, ?_, by simp⟩
            simpa using hfollows
          · refine ⟨hsame₂.toSameSetup.trans ⟨rfl, rfl, rfl, rfl, rfl⟩, true, ?_, fun _ _ => ?_⟩
            · simpa using hfollows
            · refine ⟨rfl, ⟨rfl, rfl, executions u, executions v, image₁, ?_, ?_, ?_, ?_, ?_⟩, ?_⟩
              · simp
              · exact pass_of_outcome hfirst rfl
              · rw [of_not_not hequal]
                exact pass_of_outcome hsecond rfl
              · simp [hunchanged]
              · exact hfirst.length_eq.trans himage
              · exact hsame₂.accepted

/-- The comparison of two reads follows its plan. -/
theorem compareCompleteReads_outcome (h : Exec (compareCompleteReads report) s t report' s') :
    PhaseOutcome passesPlan report t report'
      (PassesMatch [] t report' ∧ report'.accepted = report.accepted) := by
  unfold compareCompleteReads at h
  simp only [malloc, exec_bind, exec_call] at h
  obtain ⟨_, image, _, _, ⟨rfl, rfl⟩, ⟨_, secondImage, s₀, t₁, ⟨rfl, rfl⟩, h, rfl⟩, rfl⟩ := h
  -- two requests for memory are no steps of the plan
  have hmalloc : Follows stepOf Passed []
      [⟨s₀, .malloc imageSize1581, image⟩, ⟨s₀, .malloc imageSize1581, secondImage⟩] true :=
    .silent rfl trivial (.silent rfl trivial .done)
  have hrest : PhaseOutcome passesPlan report t₁ report'
      (PassesMatch [] t₁ report' ∧ report'.accepted = report.accepted) := by
    rcases image with _ | image
    · rw [exec_pure] at h
      obtain ⟨rfl, rfl, rfl⟩ := h
      exact ⟨⟨rfl, rfl, rfl, rfl, rfl⟩, false, .stop _, fun hne heq => absurd heq hne⟩
    rcases secondImage with _ | secondImage
    · rw [exec_pure] at h
      obtain ⟨rfl, rfl, rfl⟩ := h
      exact ⟨⟨rfl, rfl, rfl, rfl, rfl⟩, false, .stop _, fun hne heq => absurd heq hne⟩
    exact readTwice_outcome image.length_toList secondImage.length_toList h
  show PhaseOutcome ([] ++ passesPlan) report
    ([⟨s₀, .malloc imageSize1581, image⟩, ⟨s₀, .malloc imageSize1581, secondImage⟩] ++ t₁) report' _
  refine .after hmalloc (.refl report) rfl hrest ?_
  rintro ⟨hfound, haccepted⟩
  exact ⟨⟨hfound.1, hfound.2, hfound.3⟩, haccepted⟩

/-! ## The change of the geometry -/

/-- From the read of LBA 9 on. -/
def mediumPlan : List WorkflowStep :=
  [(Request.read 9 1).step] ++ ([(Request.read 1599 1).step] ++ passesPlan)

/-- From the MODE SENSE that reads the geometry back on. -/
def verifyPlan : List WorkflowStep := [(Request.modeSense false).step] ++ mediumPlan

/-- From the MODE SELECT of `requested` on. -/
def changePlan (requested : FlexibleDiskPage) : List WorkflowStep :=
  [(Request.modeSelect requested).step] ++ verifyPlan

/-- The boundaries and two reads follow their plan. -/
theorem readMedium_outcome (h : Exec (readMedium report) s t report' s') :
    PhaseOutcome mediumPlan report t report'
      ((∃ read9 read1599, PassesMatch [read9, read1599] t report') ∧
        report'.accepted = report.accepted) := by
  unfold readMedium at h
  simp only [exec_bind] at h
  obtain ⟨t₁, ⟨read₁, report₁⟩, s₁, t₂, hprobe₁, h, rfl⟩ := h
  obtain ⟨hfollows₁, hsame₁, hstatus₁, hexecuted₁⟩ := probeBoundary_cases hprobe₁
  cases read₁ with
  | false =>
      simp only [Bool.not_false, if_true, exec_pure] at h
      obtain ⟨rfl, rfl, rfl⟩ := h
      rw [List.append_nil]
      exact .stop hfollows₁ hsame₁.toSameSetup hstatus₁
  | true =>
      obtain ⟨rfl, read9, hread9⟩ := hexecuted₁ rfl
      simp only [Bool.not_true, Bool.false_eq_true, if_false, exec_bind] at h
      obtain ⟨t₂, ⟨read₂, report₂⟩, s₂, t₃, hprobe₂, h, rfl⟩ := h
      obtain ⟨hfollows₂, hsame₂, hstatus₂, hexecuted₂⟩ := probeBoundary_cases hprobe₂
      -- from block 1599 on
      have hrest : PhaseOutcome ([(Request.read 1599 1).step] ++ passesPlan)
          { report₁ with boundaryLba9Read := true } (t₂ ++ t₃) report'
          ((∃ read1599, PassesMatch [read1599] (t₂ ++ t₃) report') ∧
            report'.accepted = report₁.accepted) := by
        cases read₂ with
        | false =>
            simp only [Bool.not_false, if_true, exec_pure] at h
            obtain ⟨rfl, rfl, rfl⟩ := h
            rw [List.append_nil]
            exact .stop hfollows₂ hsame₂.toSameSetup hstatus₂
        | true =>
            obtain ⟨rfl, read1599, hread1599⟩ := hexecuted₂ rfl
            simp only [Bool.not_true, Bool.false_eq_true, if_false] at h
            have hpasses := compareCompleteReads_outcome h
            refine .after hfollows₂ ?_ ?_ hpasses ?_
            · exact ⟨rfl, rfl, rfl, rfl, rfl⟩
            · rfl
            · rintro ⟨hfound, haccepted⟩
              exact ⟨⟨read1599, hfound.prepend hread1599⟩, haccepted⟩
      refine .after hfollows₁ ?_ ?_ hrest ?_
      · exact ⟨rfl, rfl, rfl, rfl, rfl⟩
      · rfl
      · rintro ⟨⟨read1599, hfound⟩, haccepted⟩
        exact ⟨⟨read9, read1599, hfound.prepend hread9⟩, haccepted⟩

/-- The commands from the MODE SELECT of a change that ended with the verdict SUPPORTED. -/
structure ChangeMatch (t : List WorkflowEvent) (report : Report1581) : Prop where
  accepted : geometryIs1581 report.accepted = true
  commands : ∃ select readback read9 read1599 parameters,
    PassesMatch [select, readback, read9, read1599] t report ∧
      senseParameters readback.reply = .ok parameters ∧ parameters.flexible = report.accepted

/-- The geometry is read back, and the medium is read. -/
theorem verifyGeometry_outcome (h : Exec (verifyGeometry report) s t report' s') :
    PhaseOutcome verifyPlan report t report'
      (geometryIs1581 report'.accepted = true ∧ ∃ readback read9 read1599 parameters,
        PassesMatch [readback, read9, read1599] t report' ∧
          senseParameters readback.reply = .ok parameters ∧
          parameters.flexible = report'.accepted) := by
  unfold verifyGeometry at h
  simp only [exec_bind] at h
  obtain ⟨t₁, ⟨result, mode⟩, s₁, t₂, hsense, h, rfl⟩ := h
  rcases modeSense_cases hsense with ⟨hbad, hfailed⟩ | ⟨hgood, hsensed⟩
  · have hdescribes := report.describes_commandFailure "verify MODE SENSE parameters" result
    have hbad : commandGood result = false := hbad
    simp only [hbad, Bool.not_false, if_true, exec_pure] at h
    obtain ⟨rfl, rfl, rfl⟩ := h
    rw [List.append_nil]
    exact .stop hfailed.follows hdescribes.sameGeometry.toSameSetup (hdescribes.status_eq ▸ id)
  · have hgood : commandGood result = true := hgood
    simp only [hgood, Bool.not_true, Bool.false_eq_true, if_false, exec_ite, exec_pure] at h
    obtain ⟨readback, hreadback, hparsed⟩ := hsensed.parsed
    -- the controller kept another geometry, or the medium is read
    rcases h with ⟨_, rfl, rfl, rfl⟩ | ⟨hgeometry, h⟩
    · refine ⟨⟨rfl, rfl, rfl, rfl, rfl⟩, false, ?_, by simp [Report1581.markUnsupported]⟩
      exact hsensed.follows.append (.stop mediumPlan)
    · have hgeometry : geometryIs1581 mode.flexible = true := by simpa using hgeometry
      have hmedium := readMedium_outcome h
      refine .after hsensed.follows ?_ ?_ hmedium ?_
      · exact ⟨rfl, rfl, rfl, rfl, rfl⟩
      · rfl
      · rintro ⟨⟨read9, read1599, hfound⟩, haccepted⟩
        refine ⟨haccepted ▸ hgeometry, readback, read9, read1599, mode, ?_, hparsed, haccepted.symm⟩
        exact hfound.prepend hreadback

/-- The change follows its plan, and SUPPORTED means that all of it was found. -/
theorem changeGeometry_outcome (h : Exec (changeGeometry report) s t report' s') :
    PhaseOutcome (changePlan report.requested) report t report' (ChangeMatch t report') := by
  unfold changeGeometry at h
  simp only [exec_bind] at h
  obtain ⟨t₁, result, s₁, t₂, hselect, h, rfl⟩ := h
  obtain ⟨hfollows, hexecuted⟩ := modeSelect_cases hselect
  cases hgood : commandGood result with
  | false =>
      -- a rejected MODE SELECT ends the change without the verdict SUPPORTED
      have hdescribes :=
        report.describes_commandFailure "MODE SELECT requested 1581 geometry" result
      rw [hgood] at hfollows
      simp only [hgood, Bool.not_false, if_true, exec_ite, exec_pure] at h
      rcases h with ⟨-, rfl, rfl, rfl⟩ | ⟨-, rfl, rfl, rfl⟩
      · rw [List.append_nil]
        exact .stop hfollows ⟨rfl, rfl, rfl, rfl, rfl⟩ (by simp [Report1581.markUnsupported])
      · rw [List.append_nil]
        exact .stop hfollows hdescribes.sameGeometry.toSameSetup (hdescribes.status_eq ▸ id)
  | true =>
      rw [hgood] at hfollows
      obtain ⟨select, hselect, -⟩ := hexecuted hgood
      simp only [hgood, Bool.not_true, Bool.false_eq_true, if_false] at h
      have hverify := verifyGeometry_outcome h
      refine .after hfollows ?_ ?_ hverify fun hfound => ?_
      · exact ⟨rfl, rfl, rfl, rfl, rfl⟩
      · rfl
      · obtain ⟨haccepted, readback, read9, read1599, parameters, hfound, hparsed⟩ := hfound
        exact ⟨haccepted, select, readback, read9, read1599, parameters, hfound.prepend hselect,
          hparsed⟩

end M65
