import FloppyProbe.Probe.Restoration
import FloppyProbe.Probe.Verdict

/-!
# Verdicts and codes

The status and the code of the report are assigned side by side in every phase of the workflow and
rewritten by the cleanup. They always belong together: SUPPORTED comes with the code OK,
UNSUPPORTED with the code of that name, and INCONCLUSIVE with neither. UNSUPPORTED is the verdict
of a run in which nothing went wrong but that the geometry was rejected.
-/

namespace M65

open Interaction

variable {s s' : Bool} {t u : List WorkflowEvent} {report report' : Report1581}

/-! ## Reports without a verdict -/

/-- There is no verdict, and the code claims none. -/
structure Report1581.Undecided (report : Report1581) : Prop where
  status_eq : report.status = .inconclusive
  code_ne_ok : report.code ≠ .ok
  code_ne_unsupported : report.code ≠ .unsupported

/-- A failure of the transport is no good code. -/
theorem codeForTransport_ne_ok {status : TransportStatus} (h : status ≠ .ok) :
    codeForTransport status ≠ .ok := by
  cases status <;> simp_all [codeForTransport]

/-- No failure of the transport is the code UNSUPPORTED. -/
theorem codeForTransport_ne_unsupported (status : TransportStatus) :
    codeForTransport status ≠ .unsupported := by
  cases status <;> simp [codeForTransport]

/-- The code of a failed cleanup. -/
theorem cleanupCode_ne (status : TransportStatus) :
    (if codeForTransport status = .ok then .transport else codeForTransport status) ≠
        ProbeCode.ok ∧
      (if codeForTransport status = .ok then .transport else codeForTransport status) ≠
        ProbeCode.unsupported := by
  cases status <;> simp [codeForTransport]

/-- A failed command gives no verdict. -/
theorem Report1581.undecided_commandFailure (h : report.status = .inconclusive)
    (operation : String) (result : CommandResult) :
    (report.commandFailure operation result).Undecided := by
  by_cases hok : result.transportStatus = .ok
  · refine ⟨h, ?_, ?_⟩ <;> simp [Report1581.commandFailure, copyCommandFailure, hok]
  · have hcode : (report.commandFailure operation result).code =
        codeForTransport result.transportStatus := by
      simp [Report1581.commandFailure, copyCommandFailure, hok]
    exact ⟨h, hcode ▸ codeForTransport_ne_ok hok, hcode ▸ codeForTransport_ne_unsupported _⟩

/-- A failed restoration takes the verdict back. -/
theorem Report1581.undecided_restoreFailure (report : Report1581) (result : CommandResult) :
    (report.restoreFailure result).Undecided :=
  ⟨rfl, (cleanupCode_ne result.transportStatus).1, (cleanupCode_ne result.transportStatus).2⟩

/-! ## What speaks against the geometry -/

/-- The command was answered, with a status other than GOOD. -/
structure Execution.Rejects (e : Execution) (request : Request) : Prop where
  sends : e.Sends request
  transportStatus_eq : e.reply.result.transportStatus = .ok
  scsiStatus_ne : e.reply.result.scsiStatus ≠ 0

/-- A good MODE SENSE with these parameters. -/
structure Execution.Yields (e : Execution) (changeable : Bool) (parameters : ModeParameters) :
    Prop where
  completes : e.Completes (.modeSense changeable)
  parsed : senseParameters e.reply = .ok parameters

/-- The commands from the read of LBA 9 on, when a boundary read is rejected. -/
inductive MediumRejected : List Execution → Prop
  | boundary9 {e : Execution} (he : e.Rejects (.read 9 1)) : MediumRejected [e]
  | boundary1599 {d e : Execution} (hd : d.Completes (.read 9 1))
      (he : e.Rejects (.read 1599 1)) : MediumRejected [d, e]

/-- The commands of a change to the page `requested`, when it is rejected: by the controller, by
what the controller answers when the page is read back, or at a boundary. -/
inductive ChangeRejected (requested : FlexibleDiskPage) : List Execution → Prop
  | select {e : Execution} (he : e.Rejects (.modeSelect requested)) : ChangeRejected requested [e]
  | readback {d e : Execution} {accepted : ModeParameters}
      (hd : d.Completes (.modeSelect requested)) (he : e.Yields false accepted)
      (hdiffers : ¬ Has1581Geometry accepted.flexible) : ChangeRejected requested [d, e]
  | medium {d e : Execution} {accepted : ModeParameters} {reads : List Execution}
      (hd : d.Completes (.modeSelect requested)) (he : e.Yields false accepted)
      (hreads : MediumRejected reads) : ChangeRejected requested (d :: e :: reads)

/-- The commands of a run with the verdict UNSUPPORTED. -/
inductive UnsupportedCommands : List Execution → Prop
  /-- The mask does not permit the change. -/
  | denied {sense mask : Execution} {mode changeable : ModeParameters} {original : FlexibleDiskPage}
      {detail : ErrorText} (hsense : sense.Yields false mode) (hmask : mask.Yields true changeable)
      (horiginal : original = applyChangeability mode.flexible changeable.flexible)
      (hdenied : geometryChangesAllowed original (set1581Geometry original) changeable.flexible =
        .error detail) :
      UnsupportedCommands [sense, mask]
  /-- The change was rejected, and the page in effect before it was written back. -/
  | changed {sense mask restore : Execution} {mode changeable : ModeParameters}
      {original : FlexibleDiskPage} {change : List Execution}
      (hsense : sense.Yields false mode) (hmask : mask.Yields true changeable)
      (horiginal : original = applyChangeability mode.flexible changeable.flexible)
      (hchange : ChangeRejected (set1581Geometry original) change)
      (hrestore : restore.Completes (.modeSelect mode.flexible)) :
      UnsupportedCommands ([sense, mask] ++ change ++ [restore])

/-! ## What goes wrong in a run -/

/-- The command is a READ (10) with GOOD status and not all of the data. -/
structure Execution.ShortRead (e : Execution) : Prop where
  read : e.command.cdbByte 0 = opcodeRead10
  good : commandGood e.reply.result = true
  transferred_ne : e.reply.result.transferred ≠ e.command.dataLength

/-- The event is a failure of the transport, a short read, or a reading of the flag that noticed
an interrupt request. -/
def Disturbed : WorkflowEvent → Prop
  | ⟨s, .testInterrupt, handlerRuns⟩ => requestInterrupt^[(handlerRuns : ℕ)] s = true
  | ⟨_, .clearInterrupt, _⟩ => False
  | ⟨_, .malloc _, _⟩ => False
  | ⟨_, .transport (.acquireExclusive _), reply⟩ => reply.status ≠ .ok
  | ⟨_, .transport (.execute command), reply⟩ =>
      reply.result.transportStatus ≠ .ok ∨ Execution.ShortRead ⟨command, reply⟩
  | ⟨_, .transport (.releaseExclusive _), reply⟩ => reply.status ≠ .ok

/-- Two reads of the same blocks returned different data. -/
structure Mismatch (d e : Execution) : Prop where
  read : d.command.cdbByte 0 = opcodeRead10
  wire_eq : d.command.wire = e.command.wire
  returned_ne : d.returned ≠ e.returned

/-- From this event on, the saved page is to be written back: a page is handed over before the
cleanup, or the flag is cleared a second time, which begins the restoration. -/
inductive OwesRestoration (u : List WorkflowEvent) (e : WorkflowEvent) : Prop
  | sent (hchange : HandsChange u e)
  | begun (hclear : IsClear e = true) (hagain : 0 < u.countP IsClear)

/-- A command of `v` is the MODE SELECT of the page that was read in effect at the start of `t`, and
it was answered with GOOD. -/
def WrittenBack (t v : List WorkflowEvent) : Prop :=
  ∃ saved mask, SensedPages t saved mask ∧
    ∃ e ∈ executions v, e.Sends (.modeSelect saved) ∧ commandGood e.reply.result = true

/-- The saved page was to be written back, and was not: its MODE SELECT was not handed over, or was
not answered with GOOD. -/
def RestorationFailed (t : List WorkflowEvent) : Prop :=
  ∃ u e v, t = u ++ e :: v ∧ OwesRestoration u e ∧ ¬ WrittenBack t v

/-- Something went wrong in a run that says nothing about the geometry. -/
inductive Mishap (t : List WorkflowEvent) : Prop
  | disturbed {e : WorkflowEvent} (he : e ∈ t) (hdisturbed : Disturbed e)
  | mismatch {d e : Execution} (hd : d ∈ executions t) (he : e ∈ executions t)
      (hmismatch : Mismatch d e)
  | unrestored (hfailed : RestorationFailed t)

/-- A command is good when the transport carried it out with the status GOOD. -/
theorem commandGood_iff {result : CommandResult} :
    commandGood result = true ↔ result.transportStatus = .ok ∧ result.scsiStatus = 0 := by
  simp [commandGood]

/-- What lets the workflow go on is no disturbance. -/
theorem Passed.not_disturbed {e : WorkflowEvent} (h : Passed e) : ¬ Disturbed e := by
  obtain ⟨s, call, reply⟩ := e
  rcases call with _ | _ | _ | call
  · intro (hobserved : Observed ⟨s, .testInterrupt, reply⟩)
    exact hobserved.not_passed h
  · exact id
  · exact id
  · cases call with
    | acquireExclusive => exact not_not_intro h
    | releaseExclusive => exact not_not_intro h
    | execute command =>
        have hsucceeded : succeeded command reply = true := h
        have hgood : commandGood reply.result = true := by
          unfold succeeded at hsucceeded
          exact (Bool.and_eq_true_iff.1 hsucceeded).1
        -- a command that succeeded was good, and a read delivered every block it asked for
        rintro (htransport | hshort)
        · exact htransport (commandGood_iff.1 hgood).1
        · have hread : command.cdbByte 0 = opcodeRead10 := hshort.read
          unfold succeeded at hsucceeded
          rw [if_neg (by rw [hread]; decide), if_pos hread, Bool.and_eq_true, beq_iff_eq]
            at hsucceeded
          exact hshort.transferred_ne hsucceeded.2

/-- A command with the transport status OK that is not good was answered. -/
theorem Attempt.rejects {command : Command} {reply : ExecuteReply command.dataLength}
    {request : Request} (h : Attempt command s t reply s') (hwire : command.wire = request.wire)
    (hstatus : reply.result.transportStatus = .ok) (hbad : commandGood reply.result = false) :
    (∀ e ∈ t, ¬ Disturbed e) ∧ ∃ e, executions t = [e] ∧ e.Rejects request := by
  cases h with
  | refused _ hprotocol => simp [hprotocol] at hstatus
  | interrupted _ _ hio => simp [hio] at hstatus
  | handed n _ hquiet =>
      -- it was handed over with no interrupt seen, and the answer is not good
      refine ⟨?_, ⟨command, reply⟩, rfl, hwire, hstatus, ?_⟩
      · intro e he
        simp only [List.mem_cons, List.not_mem_nil, or_false] at he
        rcases he with rfl | rfl
        · intro hobserved
          have hset : requestInterrupt^[n] s = true := hobserved
          simp [hset] at hquiet
        · rintro (htransport | hshort)
          · exact htransport hstatus
          · have hgood : commandGood reply.result = true := hshort.good
            simp [hgood] at hbad
      · intro hzero
        have hgood : commandGood reply.result = true := commandGood_iff.2 ⟨hstatus, hzero⟩
        simp [hgood] at hbad

/-! ## The verdict of a phase -/

/-- What a phase with the trace `t` says in its report; `Cause` holds of the commands that speak
against the geometry. -/
inductive Judged (Cause : List Execution → Prop) (t : List WorkflowEvent) (report : Report1581) :
    Prop
  | undecided (h : report.Undecided)
  | supported (hstatus : report.status = .supported) (hcode : report.code = .ok)
      (hpassed : ∀ e ∈ t, Passed e)
  | unsupported (hstatus : report.status = .unsupported) (hcode : report.code = .unsupported)
      (hquiet : ∀ e ∈ t, ¬ Disturbed e) (hcause : Cause (executions t))

namespace Judged

variable {Cause Cause' : List Execution → Prop}

/-- The verdict of a phase stands after a phase without failures in front of it. -/
theorem prepend (h : Judged Cause u report) (hpassed : ∀ e ∈ t, Passed e)
    (hcause : ∀ l, Cause l → Cause' (executions t ++ l)) : Judged Cause' (t ++ u) report := by
  cases h with
  | undecided hundecided => exact .undecided hundecided
  | supported hstatus hcode hrest =>
      refine .supported hstatus hcode fun e he => ?_
      exact (List.mem_append.1 he).elim (hpassed e) (hrest e)
  | unsupported hstatus hcode hrest hfound =>
      refine .unsupported hstatus hcode (fun e he => ?_) ?_
      · exact (List.mem_append.1 he).elim (fun he => (hpassed e he).not_disturbed) (hrest e)
      · rw [executions_append]
        exact hcause _ hfound

/-- The verdict stands when the cleanup goes on without failures. -/
theorem append (h : Judged Cause t report) (hpassed : ∀ e ∈ u, Passed e)
    (hcause : ∀ l, Cause l → Cause' (l ++ executions u)) : Judged Cause' (t ++ u) report := by
  cases h with
  | undecided hundecided => exact .undecided hundecided
  | supported hstatus hcode hfirst =>
      refine .supported hstatus hcode fun e he => ?_
      exact (List.mem_append.1 he).elim (hfirst e) (hpassed e)
  | unsupported hstatus hcode hfirst hfound =>
      refine .unsupported hstatus hcode (fun e he => ?_) ?_
      · exact (List.mem_append.1 he).elim (hfirst e) fun he => (hpassed e he).not_disturbed
      · rw [executions_append]
        exact hcause _ hfound

/-- The verdict is in the status and in the code. -/
theorem congr (h : Judged Cause t report) (hstatus : report'.status = report.status)
    (hcode : report'.code = report.code) : Judged Cause t report' := by
  cases h with
  | undecided hundecided =>
      exact .undecided ⟨hstatus.trans hundecided.status_eq, hcode ▸ hundecided.code_ne_ok,
        hcode ▸ hundecided.code_ne_unsupported⟩
  | supported hsupported hok hpassed =>
      exact .supported (hstatus.trans hsupported) (hcode.trans hok) hpassed
  | unsupported hunsupported hcode' hquiet hcause =>
      exact .unsupported (hstatus.trans hunsupported) (hcode.trans hcode') hquiet hcause

end Judged

/-! ## The reads -/

/-- The command of a phase of one command that was completed. -/
theorem completes_of_follows {request : Request} {e : Execution}
    (h : Follows stepOf Passed [request.step] t true) (he : executions t = [e]) :
    e.Completes request := by
  have hwire := executions_wire t
  rw [he, steps, h.labels_eq] at hwire
  have hmem : e ∈ executions t := by simp [he]
  exact ⟨(List.cons.inj hwire).1, succeeded_of_passed h.passed e hmem⟩

/-- The read loop gives no verdict. -/
theorem readImageFrom_undecided {lba : ℕ} {image : List UInt8}
    {out : Bool × List UInt8 × Report1581}
    (h : Exec (readImageFrom lba image report) s t out s') (hundecided : report.Undecided) :
    out.2.2.Undecided := by
  induction hleft : blocks1581 - lba using Nat.strong_induction_on generalizing lba image s t with
  | _ left ih =>
      by_cases hlba : lba < blocks1581
      · rw [readImageFrom, dif_pos hlba] at h
        simp only [exec_bind, exec_ite, exec_pure] at h
        obtain ⟨_, _, _, _, -, h, -⟩ := h
        rcases h with ⟨-, -, rfl, -⟩ | ⟨-, _, ⟨result, chunk⟩, _, _, -, h, -⟩
        · exact ⟨hundecided.status_eq, by simp, by simp⟩
        · rcases h with ⟨-, -, rfl, -⟩ | ⟨-, h⟩
          · exact Report1581.undecided_commandFailure hundecided.status_eq _ _
          · have hpos := chunkAt_pos hlba
            exact ih _ (by omega) h rfl
      · rw [readImageFrom, dif_neg hlba, exec_pure] at h
        obtain ⟨-, rfl, -⟩ := h
        exact hundecided

/-- Two reads give the verdict SUPPORTED or none. -/
theorem readTwice_judged {image secondImage : List UInt8}
    (h : Exec (readTwice image secondImage report) s t report' s') (hundecided : report.Undecided) :
    report'.Undecided ∨ report'.status = .supported ∧ report'.code = .ok := by
  unfold readTwice at h
  simp only [exec_bind, exec_ite, exec_pure] at h
  obtain ⟨_, ⟨done₁, image₁, report₁⟩, _, _, hread₁, h, -⟩ := h
  have hundecided₁ : report₁.Undecided := readImageFrom_undecided hread₁ hundecided
  rcases h with ⟨-, -, rfl, -⟩ | ⟨-, _, ⟨done₂, image₂, report₂⟩, _, _, hread₂, h, -⟩
  · exact .inl ⟨hundecided₁.status_eq, hundecided₁.code_ne_ok, hundecided₁.code_ne_unsupported⟩
  · have hundecided₂ : report₂.Undecided := readImageFrom_undecided hread₂
      ⟨hundecided₁.status_eq, hundecided₁.code_ne_ok, hundecided₁.code_ne_unsupported⟩
    rcases h with ⟨-, -, rfl, -⟩ | ⟨-, ⟨-, -, rfl, -⟩ | ⟨-, -, rfl, -⟩⟩
    · exact .inl hundecided₂
    · exact .inl ⟨rfl, by simp, by simp⟩
    · exact .inr ⟨rfl, rfl⟩

/-- The complete reads never speak against the geometry. -/
theorem compareCompleteReads_judged (h : Exec (compareCompleteReads report) s t report' s')
    (hundecided : report.Undecided) : Judged (fun _ => False) t report' := by
  obtain ⟨completed, hfollows, hsupported⟩ := (compareCompleteReads_outcome h).follows
  have hcases : report'.Undecided ∨ report'.status = .supported ∧ report'.code = .ok := by
    unfold compareCompleteReads at h
    simp only [exec_bind] at h
    obtain ⟨_, image, _, _, -, ⟨_, secondImage, _, _, -, h, -⟩, -⟩ := h
    rcases image with _ | image
    · rw [exec_pure] at h
      obtain ⟨-, rfl, -⟩ := h
      exact .inl ⟨hundecided.status_eq, by simp, by simp⟩
    rcases secondImage with _ | secondImage
    · rw [exec_pure] at h
      obtain ⟨-, rfl, -⟩ := h
      exact .inl ⟨hundecided.status_eq, by simp, by simp⟩
    exact readTwice_judged h hundecided
  rcases hcases with hcase | ⟨hstatus, hcode⟩
  · exact .undecided hcase
  · have hstart : report.status ≠ .supported := by simp [hundecided.status_eq]
    obtain ⟨rfl, -⟩ := hsupported hstart hstatus
    exact .supported hstatus hcode hfollows.passed

/-- A boundary read gives a verdict only when it is answered, and not with GOOD. -/
theorem probeBoundary_judged {lba : UInt32} {operation : String} {out : Bool × Report1581}
    (h : Exec (probeBoundary lba operation report) s t out s') (hundecided : report.Undecided)
    (hfailed : out.1 = false) :
    Judged (fun l => ∃ e, l = [e] ∧ e.Rejects (.read lba 1)) t out.2 := by
  unfold probeBoundary at h
  simp only [exec_bind, exec_ite, exec_pure] at h
  obtain ⟨t₁, ⟨result, buffer⟩, s₁, t₂, hread, h, rfl⟩ := h
  rcases h with ⟨hbad, ⟨hstatus, rfl, rfl, rfl⟩ | ⟨-, rfl, rfl, rfl⟩⟩ | ⟨-, -, rfl, -⟩
  · have hbad : commandGood result = false := by simpa using hbad
    unfold readBlocks at hread
    simp only [exec_bind, exec_ite, exec_pure] at hread
    obtain ⟨t₁, reply, s₂, t₂, hcommand, hread, rfl⟩ := hread
    have hattempt := attempt_of_exec hcommand
    -- a short read is turned into a failure of the transport
    rcases hread with ⟨-, rfl, hshort, rfl⟩ | ⟨-, rfl, hresult, rfl⟩
    · have hprotocol := congrArg (fun out => out.1.transportStatus) hshort
      rw [hstatus] at hprotocol
      cases hprotocol
    · obtain rfl : result = reply.result := congrArg Prod.fst hresult
      have hwire : (readCommand lba 1 (Vector.replicate _ 0)).wire =
          (Request.read lba 1).wire := rfl
      obtain ⟨hquiet, e, he, hrejects⟩ := hattempt.rejects hwire hstatus hbad
      simp only [List.append_nil]
      exact .unsupported rfl rfl hquiet ⟨e, he, hrejects⟩
  · exact .undecided (Report1581.undecided_commandFailure hundecided.status_eq _ _)
  · cases hfailed

/-! ## The change -/

/-- The reads of the medium speak against the geometry only at a boundary. -/
theorem readMedium_judged (h : Exec (readMedium report) s t report' s')
    (hundecided : report.Undecided) : Judged MediumRejected t report' := by
  unfold readMedium at h
  simp only [exec_bind, exec_ite, exec_pure] at h
  obtain ⟨t₁, ⟨read₁, report₁⟩, s₁, t₂, hprobe₁, h, rfl⟩ := h
  -- block 9 is refused
  rcases h with ⟨hfailed, rfl, rfl, rfl⟩ | ⟨hread, h⟩
  · have hjudged := probeBoundary_judged hprobe₁ hundecided (by simpa using hfailed)
    refine hjudged.append (by simp) ?_
    rintro l ⟨e, hl, he⟩
    simpa [hl] using .boundary9 he
  · obtain ⟨hfollows₁, -, -, hexecuted₁⟩ := probeBoundary_cases hprobe₁
    obtain rfl : read₁ = true := by simpa using hread
    obtain ⟨rfl, read9, hread9⟩ := hexecuted₁ rfl
    have hcompletes := completes_of_follows hfollows₁ hread9
    obtain ⟨t₂, ⟨read₂, report₂⟩, s₂, t₃, hprobe₂, h, rfl⟩ := h
    have hundecided₁ : { report₁ with boundaryLba9Read := true }.Undecided :=
      ⟨hundecided.status_eq, hundecided.code_ne_ok, hundecided.code_ne_unsupported⟩
    -- block 9 was read, and block 1599 is refused
    rcases h with ⟨hfailed, rfl, rfl, rfl⟩ | ⟨hread, h⟩
    · have hjudged := probeBoundary_judged hprobe₂ hundecided₁ (by simpa using hfailed)
      rw [List.append_nil]
      refine hjudged.prepend hfollows₁.passed ?_
      rintro l ⟨e, hl, he⟩
      rw [hread9, hl]
      exact .boundary1599 hcompletes he
    -- past both boundaries a failure is no statement about the medium
    · obtain ⟨hfollows₂, -, -, hexecuted₂⟩ := probeBoundary_cases hprobe₂
      obtain rfl : read₂ = true := by simpa using hread
      obtain ⟨rfl, -⟩ := hexecuted₂ rfl
      have hjudged := compareCompleteReads_judged h
        ⟨hundecided.status_eq, hundecided.code_ne_ok, hundecided.code_ne_unsupported⟩
      have hreads : Judged (fun _ => False) (t₂ ++ t₃) report' :=
        hjudged.prepend hfollows₂.passed fun _ => id
      exact hreads.prepend hfollows₁.passed fun _ => False.elim

/-- A page with the fields of the geometry passes the test of the program. -/
theorem geometryIs1581_of_has1581Geometry {page : FlexibleDiskPage} (h : Has1581Geometry page) :
    geometryIs1581 page = true := by
  simp only [geometryIs1581, Bool.and_eq_true, beq_iff_eq]
  exact ⟨⟨⟨⟨⟨h.transferRateKbit, h.heads⟩, h.sectorsPerTrack⟩, h.bytesPerSector⟩, h.cylinders⟩,
    h.mediumRotationRateRpm⟩

/-- A MODE SENSE that succeeded is one good command with these parameters. -/
theorem Sensed.yields {changeable : Bool} {parameters : ModeParameters}
    (h : Sensed changeable t parameters) :
    ∃ e, executions t = [e] ∧ e.Yields changeable parameters := by
  obtain ⟨e, he, hparsed⟩ := h.parsed
  exact ⟨e, he, completes_of_follows h.follows he, hparsed⟩

/-- The commands from the MODE SENSE that reads the geometry back on, when it is rejected. -/
theorem verifyGeometry_judged (h : Exec (verifyGeometry report) s t report' s')
    (hundecided : report.Undecided) {requested : FlexibleDiskPage} {select : Execution}
    (hselect : select.Completes (.modeSelect requested)) :
    Judged (fun l => ChangeRejected requested (select :: l)) t report' := by
  unfold verifyGeometry at h
  simp only [exec_bind] at h
  obtain ⟨t₁, ⟨result, mode⟩, s₁, t₂, hsense, h, rfl⟩ := h
  rcases modeSense_cases hsense with ⟨hbad, -⟩ | ⟨hgood, hsensed⟩
  · have hbad : commandGood result = false := hbad
    simp only [hbad, Bool.not_false, if_true, exec_pure] at h
    obtain ⟨rfl, rfl, rfl⟩ := h
    exact .undecided (Report1581.undecided_commandFailure hundecided.status_eq _ _)
  · have hgood : commandGood result = true := hgood
    simp only [hgood, Bool.not_true, Bool.false_eq_true, if_false, exec_ite, exec_pure] at h
    obtain ⟨readback, hreadback, hyields⟩ := hsensed.yields
    rcases h with ⟨hgeometry, rfl, rfl, rfl⟩ | ⟨-, h⟩
    · rw [List.append_nil]
      -- the controller accepted the page and reads back another geometry
      refine .unsupported rfl rfl (fun e he => (hsensed.follows.passed e he).not_disturbed) ?_
      rw [hreadback]
      refine .readback hselect hyields fun hhas => ?_
      simp [geometryIs1581_of_has1581Geometry hhas] at hgeometry
    · have hjudged := readMedium_judged h
        ⟨hundecided.status_eq, hundecided.code_ne_ok, hundecided.code_ne_unsupported⟩
      refine hjudged.prepend hsensed.follows.passed fun l hl => ?_
      rw [hreadback]
      exact .medium hselect hyields hl

/-- A change gives a verdict against the geometry only for its causes. -/
theorem changeGeometry_judged (h : Exec (changeGeometry report) s t report' s')
    (hundecided : report.Undecided) : Judged (ChangeRejected report.requested) t report' := by
  unfold changeGeometry at h
  simp only [exec_bind] at h
  obtain ⟨t₁, result, s₁, t₂, hselect, h, rfl⟩ := h
  cases hgood : commandGood result with
  | false =>
      simp only [hgood, Bool.not_false, if_true, exec_ite, exec_pure] at h
      rcases h with ⟨hstatus, rfl, rfl, rfl⟩ | ⟨-, rfl, rfl, rfl⟩
      · rcases modeSelect_attempt hselect with ⟨hbuild, rfl, -, -⟩ | ⟨reply, -, hattempt, rfl⟩
        · unfold modeSelect at hselect
          -- the builder reports a page that it refuses as a failure of the transport
          split at hselect
          · rw [exec_pure] at hselect
            rw [hselect.2.1] at hstatus
            cases hstatus
          · next payload hpayload => simp [hpayload, Except.toBool] at hbuild
        · have hwire : (modeSelectCommand report.requested).wire =
              (Request.modeSelect report.requested).wire := rfl
          obtain ⟨hquiet, e, he, hrejects⟩ := hattempt.rejects hwire hstatus hgood
          rw [List.append_nil]
          exact .unsupported rfl rfl hquiet (he ▸ .select hrejects)
      · exact .undecided (Report1581.undecided_commandFailure hundecided.status_eq _ _)
  | true =>
      obtain ⟨hfollows, hexecuted⟩ := modeSelect_cases hselect
      rw [hgood] at hfollows
      obtain ⟨select, hselected, -⟩ := hexecuted hgood
      simp only [hgood, Bool.not_true, Bool.false_eq_true, if_false] at h
      have hcompletes := completes_of_follows hfollows hselected
      have hjudged := verifyGeometry_judged h
        ⟨hundecided.status_eq, hundecided.code_ne_ok, hundecided.code_ne_unsupported⟩ hcompletes
      refine hjudged.prepend hfollows.passed fun l hl => ?_
      rw [hselected]
      exact hl

/-! ## Up to the cleanup -/

/-- The commands up to the cleanup of a run with the verdict UNSUPPORTED, and what they leave
behind. -/
inductive ProbeRejected (progress : Progress) : List Execution → Prop
  | denied {sense mask : Execution} {changeable : ModeParameters} {original : FlexibleDiskPage}
      {detail : ErrorText} (hneeded : progress.restoreNeeded = false)
      (hsense : sense.Yields false progress.originalMode) (hmask : mask.Yields true changeable)
      (horiginal : original =
        applyChangeability progress.originalMode.flexible changeable.flexible)
      (hdenied : geometryChangesAllowed original (set1581Geometry original) changeable.flexible =
        .error detail) :
      ProbeRejected progress [sense, mask]
  | changed {sense mask : Execution} {changeable : ModeParameters} {original : FlexibleDiskPage}
      {change : List Execution} (hneeded : progress.restoreNeeded = true)
      (hsense : sense.Yields false progress.originalMode) (hmask : mask.Yields true changeable)
      (horiginal : original =
        applyChangeability progress.originalMode.flexible changeable.flexible)
      (hchange : ChangeRejected (set1581Geometry original) change) :
      ProbeRejected progress ([sense, mask] ++ change)

/-- The probe gives a verdict against the geometry only for its causes, and only after it saved the
page. -/
theorem probeGeometry_judged {progress : Progress}
    (h : Exec (probeGeometry report) s t progress s') (hundecided : report.Undecided) :
    Judged (ProbeRejected progress) t progress.report ∧
      (progress.report.status ≠ .inconclusive → progress.report.originalSaved = true) := by
  unfold probeGeometry at h
  simp only [exec_bind] at h
  obtain ⟨t₁, ⟨result₁, mode⟩, s₁, t₂, hsense₁, h, rfl⟩ := h
  -- a page or a mask that cannot be read decides nothing
  rcases modeSense_cases hsense₁ with ⟨hbad, -⟩ | ⟨hgood, hsaved⟩
  · have hbad : commandGood result₁ = false := hbad
    simp only [hbad, Bool.not_false, if_true, exec_pure] at h
    obtain ⟨rfl, rfl, rfl⟩ := h
    have hfailed := Report1581.undecided_commandFailure hundecided.status_eq
      "save original MODE SENSE parameters" result₁
    exact ⟨.undecided hfailed, fun hne => absurd hfailed.status_eq hne⟩
  obtain ⟨sense, hsense, hsenseYields⟩ := hsaved.yields
  have hgood : commandGood result₁ = true := hgood
  simp only [hgood, Bool.not_true, Bool.false_eq_true, if_false, exec_bind] at h
  obtain ⟨t₂, ⟨result₂, changeable⟩, s₂, t₃, hsense₂, h, rfl⟩ := h
  rcases modeSense_cases hsense₂ with ⟨hbad, -⟩ | ⟨hgood, hmasked⟩
  · have hbad : commandGood result₂ = false := hbad
    simp only [hbad, Bool.not_false, if_true, exec_pure] at h
    obtain ⟨rfl, rfl, rfl⟩ := h
    have hstatus : (report.withSaved mode.flexible).status = .inconclusive := hundecided.status_eq
    have hfailed := Report1581.undecided_commandFailure hstatus
      "read changeable MODE SENSE mask" result₂
    exact ⟨.undecided hfailed, fun hne => absurd hfailed.status_eq hne⟩
  obtain ⟨mask, hmask, hmaskYields⟩ := hmasked.yields
  have hpassed : ∀ e ∈ t₁ ++ t₂, Passed e := fun e he =>
    (List.mem_append.1 he).elim (hsaved.follows.passed e) (hmasked.follows.passed e)
  have hgood : commandGood result₂ = true := hgood
  simp only [hgood, Bool.not_true, Bool.false_eq_true, if_false] at h
  rw [← List.append_assoc]
  -- the mask refuses the geometry, or the change is attempted
  split at h
  · rename_i detail hdenied
    rw [exec_pure] at h
    obtain ⟨rfl, rfl, rfl⟩ := h
    rw [List.append_nil]
    refine ⟨.unsupported rfl rfl (fun e he => (hpassed e he).not_disturbed) ?_, fun _ => rfl⟩
    rw [executions_append, hsense, hmask]
    exact .denied rfl hsenseYields hmaskYields rfl hdenied
  · simp only [exec_bind, exec_pure] at h
    obtain ⟨t₃, report', s₃, t₄, hchange, ⟨rfl, rfl, rfl⟩, rfl⟩ := h
    have hjudged := changeGeometry_judged hchange
      ⟨hundecided.status_eq, hundecided.code_ne_ok, hundecided.code_ne_unsupported⟩
    rw [List.append_nil]
    refine ⟨hjudged.prepend hpassed fun l hl => ?_,
      fun _ => (changeGeometry_outcome hchange).setup.originalSaved⟩
    rw [executions_append, hsense, hmask]
    exact .changed rfl hsenseYields hmaskYields rfl hl

/-! ## The cleanup -/

/-- The report says that a page that was saved is in effect again. -/
def Report1581.Settled (report : Report1581) : Prop :=
  report.originalSaved = true → report.controllerRestored = true

/-- The restoration keeps a verdict only when it succeeds, or is not needed. -/
theorem restoreController_judged {progress : Progress}
    (h : Exec (restoreController progress) s u report s')
    (hjudged : Judged (ProbeRejected progress) t progress.report)
    (hsaved : progress.report.status ≠ .inconclusive → progress.report.originalSaved = true) :
    Judged UnsupportedCommands (t ++ u) report ∧
      (report.status ≠ .inconclusive → report.Settled) := by
  -- nothing to restore; the page is back; the restoration failed and takes the verdict away
  cases restored_of_exec h with
  | untouched hneeded =>
      have hcongr : Judged (ProbeRejected progress) t { progress.report with
          controllerRestored :=
            progress.report.originalSaved || progress.report.controllerRestored } :=
        hjudged.congr rfl rfl
      refine ⟨?_, fun hne hsaved => by simp_all⟩
      rw [List.append_nil]
      cases hcongr with
      | undecided hundecided => exact .undecided hundecided
      | supported hstatus hcode hpassed => exact .supported hstatus hcode hpassed
      | unsupported hstatus hcode hquiet hcause =>
          refine .unsupported hstatus hcode hquiet ?_
          have hstatus : progress.report.status = .unsupported := hstatus
          have hsaved := hsaved (by simp [hstatus])
          generalize executions t = commands at hcause ⊢
          cases hcause with
          | denied _ hsense hmask horiginal hdenied =>
              exact .denied hsense hmask horiginal hdenied
          | changed hrestore => simp [hrestore, hsaved] at hneeded
  | @written n t' result _ hneeded hselect hgood =>
      have hcongr : Judged (ProbeRejected progress) t
          { progress.report with controllerRestored := true } := hjudged.congr rfl rfl
      obtain ⟨hfollows, hexecuted⟩ := modeSelect_cases hselect
      rw [hgood] at hfollows
      obtain ⟨restore, hrestore, -⟩ := hexecuted hgood
      refine ⟨hcongr.append (fun e he => ?_) fun l hl => ?_, fun _ _ => rfl⟩
      · rcases List.mem_cons.1 he with rfl | he
        · exact trivial
        · exact hfollows.passed e he
      · have hlast : executions (⟨s, .clearInterrupt, n⟩ :: t') = [restore] := hrestore
        rw [hlast]
        rw [Bool.and_eq_true] at hneeded
        cases hl with
        | denied hunneeded => simp [hunneeded] at hneeded
        | changed _ hsense hmask horiginal hchange =>
            exact .changed hsense hmask horiginal hchange (completes_of_follows hfollows hrestore)
  | failed =>
      exact ⟨.undecided (progress.report.undecided_restoreFailure _), fun hne => absurd rfl hne⟩

/-- The release keeps the verdict, or takes it back. -/
theorem releaseController_judged (h : Exec (releaseController report) s u report' s')
    (hjudged : Judged UnsupportedCommands t report)
    (hsettled : report.status ≠ .inconclusive → report.Settled) :
    Judged UnsupportedCommands (t ++ u) report' ∧
      (report'.status ≠ .inconclusive → report'.Settled) ∧
      ∃ e, u = [e] ∧ stepOf e = some .release := by
  unfold releaseController releaseExclusive at h
  simp only [exec_bind, exec_call] at h
  obtain ⟨_, reply, s₁, t₁, ⟨rfl, rfl⟩, h, rfl⟩ := h
  by_cases hok : reply.status = .ok
  · simp only [hok, ne_eq, not_true_eq_false, if_false, exec_ite, exec_pure] at h
    -- a release that went well adds no command, so the verdict rests on the same ones
    have happend : Judged UnsupportedCommands
        (t ++ [⟨s₁, .transport (.releaseExclusive Text.empty), reply⟩]) report := by
      refine hjudged.append (fun e he => ?_) fun l hl => ?_
      · rw [List.mem_singleton] at he
        rw [he]
        exact hok
      · show UnsupportedCommands (l ++ [])
        rwa [List.append_nil]
    rcases h with ⟨-, rfl, rfl, rfl⟩ | ⟨-, rfl, rfl, rfl⟩
    · exact ⟨happend.congr rfl rfl, hsettled, _, rfl, rfl⟩
    · exact ⟨happend.congr rfl rfl, hsettled, _, rfl, rfl⟩
  · have hcode := cleanupCode_ne reply.status
    simp only [hok, ne_eq, not_false_eq_true, if_true, exec_ite, exec_pure] at h
    rcases h with ⟨-, rfl, rfl, rfl⟩ | ⟨hstatus, -, -, -⟩
    · exact ⟨.undecided ⟨rfl, hcode.1, hcode.2⟩, fun hne => absurd rfl hne, _, rfl, rfl⟩
    · simp at hstatus

/-! ## Reads of the same blocks -/

/-- No two of the commands read the same blocks differently. -/
def NoMismatch (commands : List Execution) : Prop :=
  ∀ d ∈ commands, ∀ e ∈ commands, ¬ Mismatch d e

/-- Commands that are no reads do not matter. -/
theorem NoMismatch.surround {before commands after : List Execution} (h : NoMismatch commands)
    (hbefore : ∀ e ∈ before, e.command.cdbByte 0 ≠ opcodeRead10)
    (hafter : ∀ e ∈ after, e.command.cdbByte 0 ≠ opcodeRead10) :
    NoMismatch (before ++ commands ++ after) := by
  have hmem : ∀ e ∈ before ++ commands ++ after, e.command.cdbByte 0 = opcodeRead10 →
      e ∈ commands := by
    intro e he hread
    rcases List.mem_append.1 he with he | he
    · exact (List.mem_append.1 he).elim (fun he => absurd hread (hbefore e he)) id
    · exact absurd hread (hafter e he)
  intro d hd e he hmismatch
  have hread : e.command.cdbByte 0 = opcodeRead10 := by
    have hcdb : d.command.cdb = e.command.cdb := congrArg Wire.cdb hmismatch.wire_eq
    rw [← hmismatch.read, Command.cdbByte, Command.cdbByte, hcdb]
  exact h d (hmem d hd hmismatch.read) e (hmem e he hread) hmismatch

/-- A MODE SENSE is no read. -/
theorem Execution.Sends.modeSense_ne {e : Execution} {changeable : Bool}
    (h : e.Sends (.modeSense changeable)) : e.command.cdbByte 0 ≠ opcodeRead10 := by
  have hcdb : e.command.cdb = (modeSenseCommand changeable).cdb := congrArg Wire.cdb h
  rw [Command.cdbByte, hcdb]
  cases changeable <;> decide

/-- A MODE SELECT is no read. -/
theorem Execution.Sends.modeSelect_ne {e : Execution} {page : FlexibleDiskPage}
    (h : e.Sends (.modeSelect page)) : e.command.cdbByte 0 ≠ opcodeRead10 := by
  have hcdb : e.command.cdb = (modeSelectCommand page).cdb := congrArg Wire.cdb h
  rw [Command.cdbByte, hcdb]
  exact of_decide_eq_true rfl

/-- A command of one read is the only one with its address and its length. -/
theorem Execution.Sends.wire_ne {d e : Execution} {lba lba' : UInt32} {blocks blocks' : UInt16}
    (hd : d.Sends (.read lba blocks)) (he : e.Sends (.read lba' blocks'))
    (hne : lba ≠ lba' ∨ blocks ≠ blocks') : d.command.wire ≠ e.command.wire := by
  intro hwire
  have hcdb : d.command.cdb = e.command.cdb := congrArg Wire.cdb hwire
  have hlba : d.lba = e.lba := by rw [Execution.lba, Execution.lba, hcdb]
  have hcount : d.blockCount = e.blockCount := by
    rw [Execution.blockCount, Execution.blockCount, hcdb]
  rw [hd.read.2.1, he.read.2.1] at hlba
  rw [hd.read.2.2.1, he.read.2.2.1] at hcount
  rcases hne with hne | hne
  · exact hne (UInt32.toNat_inj.1 hlba)
  · exact hne (UInt16.toNat_inj.1 hcount)

/-- The two boundary reads are of different blocks. -/
theorem noMismatch_boundaries {read9 read1599 : Execution} (hread9 : read9.Sends (.read 9 1))
    (hread1599 : read1599.Sends (.read 1599 1)) : NoMismatch [read9, read1599] := by
  intro d hd e he hmismatch
  have hwire : read9.command.wire ≠ read1599.command.wire :=
    hread9.wire_ne hread1599 (.inl (by decide))
  simp only [List.mem_cons, List.not_mem_nil, or_false] at hd he
  rcases hd with rfl | rfl <;> rcases he with rfl | rfl
  · exact hmismatch.returned_ne rfl
  · exact hwire hmismatch.wire_eq
  · exact hwire hmismatch.wire_eq.symm
  · exact hmismatch.returned_ne rfl

/-- Commands that are no reads do not differ. -/
theorem noMismatch_of_ne {commands : List Execution}
    (h : ∀ e ∈ commands, e.command.cdbByte 0 ≠ opcodeRead10) : NoMismatch commands :=
  fun d hd _ _ hmismatch => h d hd hmismatch.read

/-- Before a rejected boundary nothing was read twice. -/
theorem MediumRejected.noMismatch {commands : List Execution} (h : MediumRejected commands) :
    NoMismatch commands := by
  cases h with
  | boundary9 =>
      intro d hd e he hmismatch
      obtain rfl : d = e := by simp_all
      exact hmismatch.returned_ne rfl
  | boundary1599 hread9 hread1599 => exact noMismatch_boundaries hread9.sends hread1599.sends

/-- During a rejected change nothing was read twice. -/
theorem ChangeRejected.noMismatch {requested : FlexibleDiskPage} {commands : List Execution}
    (h : ChangeRejected requested commands) : NoMismatch commands := by
  cases h with
  | select he =>
      exact noMismatch_of_ne (by simpa using he.sends.modeSelect_ne)
  | readback hd he =>
      refine noMismatch_of_ne ?_
      simpa using ⟨hd.sends.modeSelect_ne, he.completes.sends.modeSense_ne⟩
  | @medium d e _ reads hd he hreads =>
      have hsurround : NoMismatch ([d, e] ++ reads ++ []) := by
        refine hreads.noMismatch.surround ?_ (by simp)
        simpa using ⟨hd.sends.modeSelect_ne, he.completes.sends.modeSense_ne⟩
      rwa [List.append_nil] at hsurround

/-- Before the verdict UNSUPPORTED nothing was read twice. -/
theorem UnsupportedCommands.noMismatch {commands : List Execution}
    (h : UnsupportedCommands commands) : NoMismatch commands := by
  cases h with
  | denied hsense hmask =>
      refine noMismatch_of_ne ?_
      simpa using ⟨hsense.completes.sends.modeSense_ne, hmask.completes.sends.modeSense_ne⟩
  | changed hsense hmask _ hchange hrestore =>
      refine hchange.noMismatch.surround ?_ ?_
      · simpa using ⟨hsense.completes.sends.modeSense_ne, hmask.completes.sends.modeSense_ne⟩
      · simpa using hrestore.sends.modeSelect_ne

/-- Data of the same length with the same blocks are the same. -/
theorem eq_of_blocks {data data' : List UInt8} {count : ℕ}
    (hlength : data.length = count * blockSize) (hlength' : data'.length = count * blockSize)
    (h : ∀ i < count, (data.drop (i * blockSize)).take blockSize =
      (data'.drop (i * blockSize)).take blockSize) : data = data' := by
  ext1 j
  by_cases hj : j < count * blockSize
  · have hoffset : j % blockSize < blockSize := Nat.mod_lt _ (by decide)
    have hsplit : j / blockSize * blockSize + j % blockSize = j := Nat.div_add_mod' j blockSize
    have hblock := congrArg (fun block => block[j % blockSize]?)
      (h (j / blockSize) (Nat.div_lt_of_lt_mul (by rwa [Nat.mul_comm])))
    simpa only [List.getElem?_take_of_lt hoffset, List.getElem?_drop, hsplit] using hblock
  · rw [List.getElem?_eq_none (by omega), List.getElem?_eq_none (by omega)]

/-- Two passes that returned the same image returned the same data for the same blocks. -/
theorem Pass.returned_eq {pass pass' : List Execution} {image : List UInt8} (h : Pass pass image)
    (h' : Pass pass' image) {d e : Execution} (hd : d ∈ pass) (he : e ∈ pass')
    (hwire : d.command.wire = e.command.wire) : d.returned = e.returned := by
  have hcdb : d.command.cdb = e.command.cdb := congrArg Wire.cdb hwire
  have hlba : d.lba = e.lba := by rw [Execution.lba, Execution.lba, hcdb]
  have hcount : d.blockCount = e.blockCount := by
    rw [Execution.blockCount, Execution.blockCount, hcdb]
  have hlength {pass : List Execution} {e : Execution} (h : Pass pass image) (he : e ∈ pass) :
      e.returned.length = e.blockCount * blockSize := by
    obtain ⟨i, -, hsends⟩ := h.sends he
    rw [Execution.returned, Vector.length_toList, hsends.read.2.2.2, hsends.read.2.2.1]
  refine eq_of_blocks (hlength h hd) (hcount ▸ hlength h' he) fun i hi => ?_
  rw [← (completePass_of_pass h).block_eq d hd i hi, hlba]
  exact (completePass_of_pass h').block_eq e he i (hcount ▸ hi)

/-- The reads of a change that was completed: the boundaries, and two passes. -/
theorem noMismatch_reads {read9 read1599 : Execution} {pass₁ pass₂ : List Execution}
    {image : List UInt8} (hread9 : read9.Sends (.read 9 1))
    (hread1599 : read1599.Sends (.read 1599 1)) (hpass₁ : Pass pass₁ image)
    (hpass₂ : Pass pass₂ image) : NoMismatch ([read9, read1599] ++ (pass₁ ++ pass₂)) := by
  have hchunk : ∀ e ∈ pass₁ ++ pass₂, ∃ lba, e.Sends (.read lba 10) := fun e he =>
    (List.mem_append.1 he).elim (fun he => let ⟨_, _, h⟩ := hpass₁.sends he; ⟨_, h⟩)
      fun he => let ⟨_, _, h⟩ := hpass₂.sends he; ⟨_, h⟩
  have hboundary : ∀ e ∈ [read9, read1599], ∃ lba, e.Sends (.read lba 1) := by
    simpa using ⟨⟨9, hread9⟩, ⟨1599, hread1599⟩⟩
  intro d hd e he hmismatch
  -- a boundary read and a chunk have different commands, so they are never compared
  rcases List.mem_append.1 hd with hd | hd <;> rcases List.mem_append.1 he with he | he
  · exact noMismatch_boundaries hread9 hread1599 d hd e he hmismatch
  · obtain ⟨_, hd⟩ := hboundary d hd
    obtain ⟨_, he⟩ := hchunk e he
    exact hd.wire_ne he (.inr (by decide)) hmismatch.wire_eq
  · obtain ⟨_, hd⟩ := hchunk d hd
    obtain ⟨_, he⟩ := hboundary e he
    exact hd.wire_ne he (.inr (by decide)) hmismatch.wire_eq
  · rcases List.mem_append.1 hd with hd | hd <;> rcases List.mem_append.1 he with he | he
    · exact hmismatch.returned_ne (hpass₁.returned_eq hpass₁ hd he hmismatch.wire_eq)
    · exact hmismatch.returned_ne (hpass₁.returned_eq hpass₂ hd he hmismatch.wire_eq)
    · exact hmismatch.returned_ne (hpass₂.returned_eq hpass₁ hd he hmismatch.wire_eq)
    · exact hmismatch.returned_ne (hpass₂.returned_eq hpass₂ hd he hmismatch.wire_eq)

/-- The reads of a change that ended with the verdict SUPPORTED agree. -/
theorem Probed.noMismatch {progress : Progress} (h : Probed report t progress)
    (hstart : report.status ≠ .supported) (hstatus : progress.report.status = .supported) :
    NoMismatch (executions t) := by
  obtain ⟨t₁, t₂, t₃, mode, mask, rfl, hsense, hmask, hfollows, hmatch, -⟩ :=
    h.of_supported hstart hstatus
  obtain ⟨sense, hsense, hsensed⟩ := hsense.completes
  obtain ⟨mask, hmask, hmasked⟩ := hmask.completes
  obtain ⟨-, select, readback, read9, read1599, -, hfound, -⟩ := hmatch
  obtain ⟨pass₁, pass₂, image, hexecutions, hpass₁, hpass₂, -⟩ := hfound.passes
  obtain ⟨hselect, hreadback, hread9, hread1599⟩ := completes_of_changePlan hfollows hexecutions
  have hreads := noMismatch_reads hread9.sends hread1599.sends hpass₁ hpass₂
  have hsurround : NoMismatch ([sense, mask, select, readback] ++
      ([read9, read1599] ++ (pass₁ ++ pass₂)) ++ []) := by
    refine hreads.surround ?_ (by simp)
    simpa using ⟨hsensed.sends.modeSense_ne, hmasked.sends.modeSense_ne,
      hselect.sends.modeSelect_ne, hreadback.sends.modeSense_ne⟩
  simpa only [executions_append, hsense, hmask, hexecutions, List.append_nil,
    List.cons_append, List.nil_append] using hsurround

/-- The cleanup reads nothing. -/
theorem Restored.executions_ne {s₁ : Bool} {progress : Progress}
    (h : Restored progress s₁ t report) :
    ∀ e ∈ executions t, e.command.cdbByte 0 ≠ opcodeRead10 := by
  have hselected {page : FlexibleDiskPage} {n : ℕ} {t : List WorkflowEvent}
      {result : CommandResult} {s' : Bool} (h : Exec (modeSelect page) false t result s') :
      ∀ e ∈ executions (⟨s₁, .clearInterrupt, n⟩ :: t), e.command.cdbByte 0 ≠ opcodeRead10 := by
    have hclear : executions (⟨s₁, .clearInterrupt, n⟩ :: t) = executions t := rfl
    rw [hclear]
    intro e he
    cases selected_of_exec h with
    | refused => cases he
    | interrupted => cases he
    | @handed _ reply =>
        obtain rfl : e = ⟨modeSelectCommand page, reply⟩ := List.mem_singleton.1 he
        have hsends : Execution.Sends ⟨modeSelectCommand page, reply⟩ (.modeSelect page) := rfl
        exact hsends.modeSelect_ne
  cases h with
  | untouched => simp
  | written _ hselect => exact hselected hselect
  | failed _ hselect => exact hselected hselect

/-! ## The restoration -/

/-- Clearings of the flag of a run that acquired the transport: the entry, and the cleanup. -/
theorem split_at_clear {c a clear release e : WorkflowEvent} {body select u v : List WorkflowEvent}
    (hbody : body.countP IsClear = 0) (hselect : select.countP IsClear = 0)
    (ha : IsClear a = false) (hrelease : IsClear release = false) (he : IsClear e = true)
    (hagain : 0 < u.countP IsClear)
    (ht : c :: a :: (body ++ (clear :: select ++ [release])) = u ++ e :: v) :
    v = select ++ [release] := by
  cases u with
  | nil => cases hagain
  | cons c' u =>
      obtain ⟨-, htail⟩ := List.cons.inj ht
      have hsplit : (a :: body) ++ clear :: (select ++ [release]) = u ++ e :: v := by
        simpa using htail
      refine (split_unique hsplit ?_ ?_ he).2.symm
      · simp [ha, hbody]
      · simp [hselect, hrelease]

/-- The calls of a MODE SELECT do not clear the flag. -/
theorem countP_isClear_of_modeSelect {page : FlexibleDiskPage} {result : CommandResult}
    (h : Exec (modeSelect page) s t result s') : t.countP IsClear = 0 := by
  cases selected_of_exec h with
  | refused => rfl
  | interrupted => rfl
  | handed => rfl

/-- When the report says that every saved page is in effect again, then no restoration failed. -/
theorem not_restorationFailed {s₁ s₂ : Bool} {n : ℕ} {detail : ErrorText}
    {reply releaseReply : StatusReply} {body cleanup : List WorkflowEvent} {progress : Progress}
    (hprobe : Exec (probeGeometry (.acquired reply)) false body progress s₁)
    (hrestored : Restored progress s₁ cleanup report)
    (hreleased : Released report releaseReply report') (hsettled : report'.Settled) :
    ¬ RestorationFailed (⟨s, .clearInterrupt, n⟩ ::
      ⟨false, .transport (.acquireExclusive detail), reply⟩ :: (body ++ (cleanup ++
        [⟨s₂, .transport (.releaseExclusive Text.empty), releaseReply⟩]))) := by
  rintro ⟨u, e, v, ht, howes, hlost⟩
  have hprobed := probed_of_exec hprobe
  have hstart : progress.report.controllerRestored = false := hprobed.controllerRestored_eq
  have hbody := countP_isClear_of_exec hprobe
  have hsent (hchange : HandsChange u e) :
      ∃ u' w, body = u' ++ e :: w ∧ v = w ++ (cleanup ++ [_]) :=
    mem_body_of_handsChange hrestored rfl rfl rfl ht hchange
  rw [Report1581.Settled, hreleased.setup.originalSaved, hreleased.setup.controllerRestored]
    at hsettled
  cases hrestored with
  | failed hneeded =>
      have hkept := hsettled (Bool.and_eq_true_iff.1 hneeded).2
      exact Bool.false_ne_true (hstart.symm.trans hkept)
  | untouched hunneeded =>
      rcases howes with hchange | ⟨he, hagain⟩
      · -- a page that was handed over makes the restoration needed
        obtain ⟨u', w, hbody', -⟩ := hsent hchange
        obtain ⟨step, hstep, hsends⟩ := hchange.sends
        have hmem : step ∈ steps body :=
          List.mem_filterMap.2 ⟨e, by simp [hbody'], hstep⟩
        obtain ⟨hneeded, hsaved, -⟩ := hprobed.needed_of_select hmem hsends
        rw [hneeded, hsaved] at hunneeded
        cases hunneeded
      · -- only the entry clears the flag
        have hcount := congrArg (List.countP IsClear) ht
        simp only [List.countP_append, List.countP_cons, List.countP_nil, hbody, he] at hcount
        simp [IsClear] at hcount
        omega
  | @written k select result _ hneeded hselect hgood =>
      have hneeded := (Bool.and_eq_true_iff.1 hneeded).1
      obtain ⟨saved, mask, hsensed, -, -, rfl⟩ := hprobed.named hneeded
      obtain ⟨x, hx⟩ : ∃ x, v = x ++ (select ++
          [⟨s₂, .transport (.releaseExclusive Text.empty), releaseReply⟩]) := by
        rcases howes with hchange | ⟨he, hagain⟩
        · obtain ⟨u', w, -, hv⟩ := hsent hchange
          exact ⟨w ++ [⟨s₁, .clearInterrupt, k⟩], by simp [hv]⟩
        · exact ⟨[], split_at_clear hbody (countP_isClear_of_modeSelect hselect) rfl rfl he hagain
            ht⟩
      -- the MODE SELECT of the cleanup was handed over, and answered with GOOD
      have hrestore : ∃ e ∈ executions select,
          e.Sends (.modeSelect progress.originalMode.flexible) ∧
            commandGood e.reply.result = true := by
        cases selected_of_exec hselect with
        | refused _ hbad => simp [hgood] at hbad
        | interrupted _ _ hbad => simp [hgood] at hbad
        | handed => exact ⟨⟨_, _⟩, List.mem_singleton_self _, rfl, hgood⟩
      obtain ⟨restore, hmem, hwritten⟩ := hrestore
      refine hlost ⟨_, mask, hsensed.of_isPrefix executions_body_isPrefix, restore, ?_, hwritten⟩
      rw [hx, executions_append, executions_append]
      exact List.mem_append_right _ (List.mem_append_left _ hmem)

/-! ## The whole workflow -/

/-- A run with the verdict UNSUPPORTED. -/
structure UnsupportedRun (report : Report1581) (t : List WorkflowEvent) : Prop where
  commands : UnsupportedCommands (executions t)
  restored : report.Settled
  released : ∃ before e, t = before ++ [e] ∧ stepOf e = some .release ∧ Passed e

/-- The status of the report, its code, and what stands behind them. -/
structure Classified (report : Report1581) (t : List WorkflowEvent) : Prop where
  supported_iff : report.status = .supported ↔ report.code = .ok
  unsupported_iff : report.status = .unsupported ↔ report.code = .unsupported
  unsupported : report.status = .unsupported → UnsupportedRun report t
  mishap : Mishap t →
    report.status = .inconclusive ∧ report.code ≠ .ok ∧ report.code ≠ .unsupported

/-- A report without a verdict is classified as such. -/
theorem Report1581.Undecided.classified (h : report.Undecided) : Classified report t where
  supported_iff := iff_of_false (by simp [h.status_eq]) h.code_ne_ok
  unsupported_iff := iff_of_false (by simp [h.status_eq]) h.code_ne_unsupported
  unsupported hstatus := by simp [h.status_eq] at hstatus
  mishap _ := ⟨h.status_eq, h.code_ne_ok, h.code_ne_unsupported⟩

/-- The phases of a run that acquired the transport. -/
structure AcquiredRun (t : List WorkflowEvent) (report : Report1581) : Prop where
  judged : Judged UnsupportedCommands t report
  settled : report.status ≠ .inconclusive → report.Settled
  release : ∃ before e, t = before ++ [e] ∧ stepOf e = some .release
  noMismatch : report.status = .supported → NoMismatch (executions t)
  restored : report.status ≠ .inconclusive → ¬ RestorationFailed t

/-- A verdict is given only when nothing went wrong. -/
theorem AcquiredRun.classified (h : AcquiredRun t report) : Classified report t := by
  obtain ⟨hjudged, hsettled, ⟨before, release, ht, hrelease⟩, hmatch, hrestored⟩ := h
  -- a verdict excludes all three mishaps
  have habsurd (hstatus : report.status ≠ .inconclusive) (hquiet : ∀ e ∈ t, ¬ Disturbed e)
      (hmatch : NoMismatch (executions t)) : ¬ Mishap t := by
    rintro (⟨he, hdisturbed⟩ | ⟨hd, he, hmismatch⟩ | hfailed)
    · exact hquiet _ he hdisturbed
    · exact hmatch _ hd _ he hmismatch
    · exact hrestored hstatus hfailed
  cases hjudged with
  | undecided hundecided => exact hundecided.classified
  | supported hstatus hcode hpassed =>
      have hnone := habsurd (by simp [hstatus]) (fun e he => (hpassed e he).not_disturbed)
        (hmatch hstatus)
      exact ⟨by simp [hstatus, hcode], by simp [hstatus, hcode], by simp [hstatus],
        fun hmishap => absurd hmishap hnone⟩
  | unsupported hstatus hcode hquiet hcause =>
      have hnone := habsurd (by simp [hstatus]) hquiet hcause.noMismatch
      refine ⟨by simp [hstatus, hcode], by simp [hstatus, hcode], fun _ => ?_,
        fun hmishap => absurd hmishap hnone⟩
      refine ⟨hcause, hsettled (by simp [hstatus]), before, release, ht, hrelease, ?_⟩
      have hquiet := hquiet release (by simp [ht])
      obtain ⟨s, call, reply⟩ := release
      -- only a call of `release_exclusive` has that label, and it succeeded
      rcases call with _ | _ | _ | call
      · cases hrelease
      · cases hrelease
      · cases hrelease
      · cases call with
        | acquireExclusive => cases hrelease
        | execute => cases hrelease
        | releaseExclusive => exact of_not_not hquiet

/-- Every execution of a test is classified. -/
theorem classified_of_exec {acknowledgement : Bool} {s s' : Bool} {trace : List WorkflowEvent}
    {report : Report1581} (h : Exec (test1581 acknowledgement) s trace report s') :
    Classified report trace := by
  unfold test1581 at h
  simp only [exec_bind, exec_clearInterrupted] at h
  obtain ⟨_, _, _, t₁, ⟨n, rfl, rfl⟩, h, rfl⟩ := h
  cases acknowledgement with
  | false =>
      simp only [Bool.not_false, if_true, exec_pure] at h
      obtain ⟨rfl, rfl, rfl⟩ := h
      exact Report1581.Undecided.classified ⟨rfl, by simp, by simp⟩
  | true =>
      simp only [acquireExclusive, Bool.not_true, Bool.false_eq_true, if_false, exec_bind,
        exec_call, exec_ite, exec_pure] at h
      obtain ⟨_, reply, _, t₂, ⟨rfl, rfl⟩, h, rfl⟩ := h
      rcases h with ⟨hrefused, rfl, rfl, rfl⟩ | ⟨hacquired, h⟩
      · exact Report1581.Undecided.classified
          ⟨rfl, codeForTransport_ne_ok hrefused, codeForTransport_ne_unsupported _⟩
      -- acquired: the probe, the cleanup and the release, each judged from the one before
      obtain ⟨body, progress, s₁, _, hprobe, ⟨cleanup, restored, s₂, release, hrestore, hrelease,
        rfl⟩, rfl⟩ := h
      have hprobe : Exec (probeGeometry (.acquired reply)) false body progress s₁ := hprobe
      have hundecided : (Report1581.acquired reply).Undecided :=
        ⟨rfl, by simp [Report1581.acquired], by simp [Report1581.acquired]⟩
      obtain ⟨hbody, hsaved⟩ := probeGeometry_judged hprobe hundecided
      have hopened : Judged (ProbeRejected progress)
          ([⟨s, .clearInterrupt, n⟩, ⟨false, .transport (.acquireExclusive Text.empty), reply⟩] ++
            body) progress.report := by
        refine hbody.prepend ?_ fun _ => id
        simpa [Passed] using hacquired
      obtain ⟨hcleanup, hsettled⟩ := restoreController_judged hrestore hopened hsaved
      obtain ⟨hjudged, hsettled, e, rfl, hlabel⟩ :=
        releaseController_judged hrelease hcleanup hsettled
      rw [List.append_assoc, List.append_assoc] at hjudged
      obtain ⟨releaseReply, hreleased, hreleased'⟩ := released_of_exec hrelease
      have hrestored := restored_of_exec hrestore
      refine AcquiredRun.classified ⟨hjudged, hsettled, ?_, fun hstatus => ?_, fun hstatus => ?_⟩
      · exact ⟨[⟨s, .clearInterrupt, n⟩,
          ⟨false, .transport (.acquireExclusive Text.empty), reply⟩] ++ (body ++ cleanup), e,
          by simp, hlabel⟩
      · -- the cleanup reads nothing, so the reads are those of the change
        have hok := (hreleased'.supported hstatus).1
        have hverdict := hrestored.status_of_supported
          ((hreleased'.status_eq hok).symm.trans hstatus)
        have hreads := (probed_of_exec hprobe).noMismatch (by simp [hundecided.status_eq]) hverdict
        have hsurround : NoMismatch ([] ++ executions body ++ executions cleanup) :=
          hreads.surround (by simp) hrestored.executions_ne
        have hlast : executions [e] = [] := by
          rw [hreleased]
          rfl
        show NoMismatch (executions (body ++ (cleanup ++ [e])))
        rw [executions_append, executions_append, hlast, List.append_nil]
        exact hsurround
      · rw [hreleased]
        exact not_restorationFailed hprobe hrestored hreleased' (hsettled hstatus)

/-- The status and the code of every report belong together, UNSUPPORTED needs a rejection by the
mask or by the controller and a cleanup that succeeded, and whatever goes wrong in a run leaves
it without a verdict. An interrupt request counts when the workflow notices it. -/
theorem test1581_classified {acknowledgement : Bool} {s : Bool}
    (r : Run (test1581 acknowledgement) s) : Classified r.result r.trace :=
  classified_of_exec r.exec

/-! ## A request that is not noticed -/

/-- The handler ran after the entry had cleared the flag, and before a later access of it. -/
def Interrupted (t : List WorkflowEvent) : Prop :=
  ∃ e ∈ t.tail, ∃ n, handlerRuns e = some n ∧ 0 < n

/-- A device that answers the MODE SELECT of the requested page with CHECK CONDITION, and an
interrupt request while it does. The next access of the flag is the one that clears it for the
restoration. -/
def unnoticedInterrupt (n : ℕ) : (call : WorkflowCall) → WorkflowReply call
  | .testInterrupt => (0 : ℕ)
  | .clearInterrupt => if n = 8 then 1 else 0
  | .malloc _ => none
  | .transport (.acquireExclusive detail) => ⟨.ok, detail⟩
  | .transport (.execute command) =>
      if n = 3 then senseResponse 0 command.dataLength
      else if n = 5 then senseResponse 0xff command.dataLength
      else ⟨{ scsiStatus := if n = 7 then 2 else 0 }, Vector.replicate command.dataLength 0⟩
  | .transport (.releaseExclusive detail) => ⟨.ok, detail⟩

/-- A test on such a device. -/
def unnoticedInterruptRun : Run (test1581 true) false :=
  (test1581 true).replay unnoticedInterrupt false

set_option maxRecDepth 4000 in
/-- The run was interrupted, and its verdict is UNSUPPORTED. -/
theorem unnoticedInterruptRun_unsupported : ¬ ∀ r : Run (test1581 true) false,
    Interrupted r.trace →
      r.result.status = .inconclusive ∧ r.result.code ≠ .ok ∧ r.result.code ≠ .unsupported := by
  intro hall
  have hcounts : (unnoticedInterruptRun.trace.tail.filterMap handlerRuns).any (0 < ·) = true := by
    decide +kernel
  obtain ⟨n, hn, hpos⟩ := List.any_eq_true.1 hcounts
  obtain ⟨e, he, hruns⟩ := List.mem_filterMap.1 hn
  have hstatus := (hall unnoticedInterruptRun ⟨e, he, n, hruns, of_decide_eq_true hpos⟩).1
  exact absurd hstatus (by decide +kernel)

end M65
