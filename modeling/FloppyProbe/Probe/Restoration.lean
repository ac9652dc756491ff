import FloppyProbe.Probe.CallShape

/-!
# Restoration

The cleanup clears the flag before it writes the saved page back, so that an interrupt request
stops reads and not the restoration. The MODE SELECT of the restoration goes through
`executeChecked` nevertheless, which reads the flag once more: a request between the clearing and
this reading suppresses the restoration, and nothing else does.
-/

namespace M65

open Interaction

variable {s s' : Bool} {t : List WorkflowEvent} {report report' : Report1581}

/-! ## Where the flag is cleared -/

section Calls

/-- A call that does not clear the flag. -/
abbrev KeepsFlag (call : WorkflowCall) : Prop := call ≠ .clearInterrupt

/-- A test of the flag does not clear it. -/
theorem testInterrupted_keepsFlag : Only KeepsFlag testInterrupted :=
  .bind (.call nofun) fun _ => .bind (.modify _) fun _ => .get

/-- A command does not clear the flag. -/
theorem executeChecked_keepsFlag (command : Command) :
    Only KeepsFlag (executeChecked command) := by
  unfold executeChecked
  cases validateCommand command with
  | error detail => exact .pure _
  | ok => exact .bind testInterrupted_keepsFlag fun _ => .ite (.pure _) (.call nofun)

/-- MODE SENSE does not clear the flag. -/
theorem modeSense_keepsFlag (changeable : Bool) (parameters : ModeParameters) :
    Only KeepsFlag (modeSense changeable parameters) := by
  refine .bind (executeChecked_keepsFlag _) fun reply => .ite (.ite (.pure _) ?_) (.pure _)
  cases parseModeParameters reply.buffer.toList reply.result.transferred <;> exact .pure _

/-- MODE SELECT does not clear the flag. -/
theorem modeSelect_keepsFlag (page : FlexibleDiskPage) : Only KeepsFlag (modeSelect page) := by
  unfold modeSelect
  cases buildModeSelectPayload page with
  | error detail => exact .pure _
  | ok payload => exact .bind (executeChecked_keepsFlag _) fun _ => .pure _

/-- A read does not clear the flag. -/
theorem readBlocks_keepsFlag (lba : UInt32) (blocks : UInt16) (buffer) :
    Only KeepsFlag (readBlocks lba blocks buffer) :=
  .bind (executeChecked_keepsFlag _) fun _ => .ite (.pure _) (.pure _)

/-- The loop of reads does not clear the flag. -/
theorem readImageFrom_keepsFlag (lba : ℕ) (image : List UInt8) (report : Report1581) :
    Only KeepsFlag (readImageFrom lba image report) := by
  induction lba, image using readImageFrom.induct with
  | case1 lba image hlba ih =>
      rw [readImageFrom, dif_pos hlba]
      refine .bind testInterrupted_keepsFlag fun _ => .ite (.pure _) ?_
      exact .bind (readBlocks_keepsFlag _ _ _) fun answer => .ite (.pure _) (ih answer.2)
  | case2 lba image hlba =>
      rw [readImageFrom, dif_neg hlba]
      exact .pure _

/-- Two reads do not clear the flag. -/
theorem readTwice_keepsFlag (image secondImage : List UInt8) (report : Report1581) :
    Only KeepsFlag (readTwice image secondImage report) := by
  refine .bind (readImageFrom_keepsFlag _ _ _) fun _ => .ite (.pure _) ?_
  exact .bind (readImageFrom_keepsFlag _ _ _) fun _ => .ite (.pure _) (.ite (.pure _) (.pure _))

/-- The comparison of two reads does not clear the flag. -/
theorem compareCompleteReads_keepsFlag (report : Report1581) :
    Only KeepsFlag (compareCompleteReads report) := by
  refine .bind (.call nofun) fun image => .bind (.call nofun) fun secondImage => ?_
  rcases image with _ | image
  · exact .pure _
  · rcases secondImage with _ | secondImage
    · exact .pure _
    · exact readTwice_keepsFlag _ _ _

/-- A boundary read does not clear the flag. -/
theorem probeBoundary_keepsFlag (lba : UInt32) (operation : String) (report : Report1581) :
    Only KeepsFlag (probeBoundary lba operation report) :=
  .bind (readBlocks_keepsFlag _ _ _) fun _ => .ite (.ite (.pure _) (.pure _)) (.pure _)

/-- The change does not clear the flag. -/
theorem changeGeometry_keepsFlag (report : Report1581) :
    Only KeepsFlag (changeGeometry report) := by
  refine .bind (modeSelect_keepsFlag _) fun _ => .ite (.ite (.pure _) (.pure _)) ?_
  refine .bind (modeSense_keepsFlag _ _) fun _ => .ite (.pure _) (.ite (.pure _) ?_)
  refine .bind (probeBoundary_keepsFlag _ _ _) fun _ => .ite (.pure _) ?_
  refine .bind (probeBoundary_keepsFlag _ _ _) fun _ => .ite (.pure _) ?_
  exact compareCompleteReads_keepsFlag _

/-- The probe does not clear the flag. -/
theorem probeGeometry_keepsFlag (report : Report1581) : Only KeepsFlag (probeGeometry report) := by
  refine .bind (modeSense_keepsFlag _ _) fun mode => .ite (.pure _) ?_
  refine .bind (modeSense_keepsFlag _ _) fun mask => .ite (.pure _) ?_
  dsimp only
  split
  · exact .pure _
  · exact .bind (changeGeometry_keepsFlag _) fun _ => .pure _

end Calls

/-! ## Restoration -/

/-- The event clears the flag. -/
def IsClear : WorkflowEvent → Bool
  | ⟨_, .clearInterrupt, _⟩ => true
  | _ => false

/-- A test of the flag is no clearing. -/
theorem isClear_testInterrupt (s : Bool) (n : ℕ) : IsClear ⟨s, .testInterrupt, n⟩ = false := rfl

/-- A step is no clearing of the flag. -/
theorem isClear_of_stepOf {e : WorkflowEvent} {step : WorkflowStep} (he : stepOf e = some step) :
    IsClear e = false := by
  obtain ⟨s, call, reply⟩ := e
  cases call with
  | clearInterrupt => cases he
  | _ => rfl

/-- The event hands a command with data to the transport, before the second clearing of the flag,
with which the cleanup starts. -/
structure HandsChange (before : List WorkflowEvent) (e : WorkflowEvent) : Prop where
  sends : ∃ step, stepOf e = some step ∧ step.SendsData = true
  before_cleanup : before.countP IsClear = 1

/-- The event hands the MODE SELECT of the requested page over, which is made from what was read. -/
structure HandsRequested (report : Report1581) (t : List WorkflowEvent) (e : WorkflowEvent) :
    Prop where
  named : PagesNamed report t
  step : stepOf e = some (Request.modeSelect report.requested).step

/-- The saved page is handed over in `v`, before the release. -/
def RestoredIn (report : Report1581) (v : List WorkflowEvent) : Prop :=
  ∃ w e w', v = w ++ e :: w' ∧ stepOf e = some (Request.modeSelect report.original).step ∧
    .release ∉ steps w ∧ .release ∈ steps w'

/-- The handler does not run between a clearing of the flag in `v` and a reading of the flag right
after that. -/
def QuietIn (v : List WorkflowEvent) : Prop :=
  ∀ w s₁ n s₂ handlerRuns w', v = w ++ ⟨s₁, .clearInterrupt, n⟩ ::
    ⟨s₂, .testInterrupt, handlerRuns⟩ :: w' → handlerRuns = (0 : ℕ)

/-- What is handed over before the cleanup is the requested page, and then the saved page is handed
over before the release. -/
def RestoresChange (report : Report1581) (t : List WorkflowEvent) : Prop :=
  ∀ u e v, t = u ++ e :: v → HandsChange u e → HandsRequested report t e ∧ RestoredIn report v

/-- Once a change was handed to the transport, the handler does not run between a clearing of the
flag and the reading of the flag that follows. -/
def QuietCleanup (t : List WorkflowEvent) : Prop :=
  ∀ u e v, t = u ++ e :: v → HandsChange u e → QuietIn v

/-! ## What follows the change -/

/-- The body of a run never clears the flag. -/
theorem countP_isClear_of_exec {progress : Progress}
    (h : Exec (probeGeometry report) s t progress s') : t.countP IsClear = 0 := by
  rw [List.countP_eq_zero]
  intro e he
  have hkeeps := probeGeometry_keepsFlag report h e he
  obtain ⟨s₁, call, reply⟩ := e
  cases call with
  | clearInterrupt => exact absurd rfl hkeeps
  | _ => simp [IsClear]

/-- Only one step of the plan sends data. -/
theorem countP_sendsData_workflowPlan (requested : FlexibleDiskPage) :
    (workflowPlan requested).countP WorkflowStep.SendsData = 1 := by
  have hpass : (passRequests.map Request.step).countP WorkflowStep.SendsData = 0 := by
    rw [List.countP_eq_zero]
    simp only [passRequests, List.map_map, List.mem_map]
    rintro _ ⟨i, -, rfl⟩
    exact Bool.false_ne_true
  simp only [workflowPlan, workflowRequests, List.map_append, List.countP_append, hpass]
  rfl

/-- The body after the MODE SELECT sends no data. -/
theorem countP_sendsData_after {progress : Progress} (h : Probed report t progress)
    {u v : List WorkflowEvent} {e : WorkflowEvent} {step : WorkflowStep} (ht : t = u ++ e :: v)
    (hstep : stepOf e = some step) (hsends : step.SendsData = true) :
    (steps v).countP WorkflowStep.SendsData = 0 := by
  obtain ⟨completed, hfollows⟩ := h.follows
  have hstart := (hfollows.labels_isPrefix.sublist.countP_le (p := WorkflowStep.SendsData)).trans
    (countP_sendsData_workflowPlan _).le
  have hsteps : steps (e :: v) = step :: steps v := by simp [steps, hstep]
  rw [← steps, ht, steps_append, hsteps, List.countP_append, List.countP_cons_of_pos hsends]
    at hstart
  omega

/-- What is sent before the cleanup is the requested page. -/
theorem Probed.step_of_sendsData {progress : Progress} (h : Probed report t progress)
    {step : WorkflowStep} (hmem : step ∈ steps t) (hsends : step.SendsData = true) :
    step = (Request.modeSelect progress.report.requested).step := by
  obtain ⟨completed, hfollows⟩ := h.follows
  obtain ⟨request, hrequest, rfl⟩ := List.mem_map.1 (hfollows.labels_isPrefix.subset hmem)
  cases request with
  | modeSense => cases hsends
  | read => cases hsends
  | modeSelect page =>
      have hpage : page = progress.report.requested := by
        simpa [workflowRequests, passRequests] using hrequest
      rw [hpage]

/-- What follows the MODE SELECT of the requested page: the rest of the body, and the cleanup,
whose reading of the flag finds `n` runs of the handler. -/
structure AfterChange (report : Report1581) (w : List WorkflowEvent) (n : ℕ)
    (restoration : List WorkflowEvent) : Prop where
  not_clear : w.countP IsClear = 0
  no_data : (steps w).countP WorkflowStep.SendsData = 0
  no_release : WorkflowStep.release ∉ steps w
  suppressed : 0 < n → restoration = []
  restored : n = 0 → ∃ e, restoration = [e] ∧
    stepOf e = some (Request.modeSelect report.original).step

/-- The probe does not release the transport. -/
theorem release_notMem_steps {progress : Progress} (h : Probed report t progress) :
    WorkflowStep.release ∉ steps t := by
  obtain ⟨completed, hfollows⟩ := h.follows
  intro hmem
  obtain ⟨request, -, hrequest⟩ := List.mem_map.1 (hfollows.labels_isPrefix.subset hmem)
  cases hrequest

/-- The cleanup after a body that handed a page over. -/
theorem afterChange_of_restored {s₁ : Bool} {body cleanup u w : List WorkflowEvent}
    {e : WorkflowEvent} {progress : Progress} {start : Report1581} {releaseReply : StatusReply}
    (hprobe : Exec (probeGeometry start) s body progress s')
    (hrestored : Restored progress s₁ cleanup report)
    (hreleased : Released report releaseReply report') (hbody : body = u ++ e :: w)
    {step : WorkflowStep} (hstep : stepOf e = some step) (hsends : step.SendsData = true) :
    ∃ k n rest, cleanup = ⟨s₁, .clearInterrupt, k⟩ :: ⟨false, .testInterrupt, n⟩ :: rest ∧
      AfterChange report' w n rest := by
  have hprobed := probed_of_exec hprobe
  have hmem : step ∈ steps body := by
    rw [hbody]
    exact List.mem_filterMap.2 ⟨e, by simp, hstep⟩
  obtain ⟨hneeded, hsaved, hpage⟩ := hprobed.needed_of_select hmem hsends
  -- what holds after the page was handed over, whatever the cleanup could send
  have hafter (n : ℕ) (rest : List WorkflowEvent) (hsuppressed : 0 < n → rest = [])
      (hrest : n = 0 → ∃ e, rest = [e] ∧ stepOf e = some progress.restoration) :
      AfterChange report' w n rest := by
    have hclear := countP_isClear_of_exec hprobe
    have hrelease := release_notMem_steps hprobed
    rw [hbody, List.countP_append, List.countP_cons] at hclear
    rw [hbody, steps_append] at hrelease
    refine ⟨by omega, countP_sendsData_after hprobed hbody hstep hsends, ?_, hsuppressed, ?_⟩
    · intro hw
      refine hrelease (List.mem_append_right _ ?_)
      simp only [steps, List.filterMap_cons, hstep] at hw ⊢
      exact List.mem_cons_of_mem _ hw
    · rw [hreleased.setup.original, hrestored.pages.2.1, ← hprobed.original_wire hneeded]
      exact hrest
  have hselected {t' : List WorkflowEvent} {result : CommandResult}
      (h : Selected progress.originalMode.flexible false t' result) :
      ∃ n rest, t' = ⟨false, .testInterrupt, n⟩ :: rest ∧ AfterChange report' w n rest := by
    cases h with
    | refused hrefused _ => exact absurd hpage hrefused
    | interrupted _ hobserved _ =>
        refine ⟨_, [], rfl, hafter _ _ (fun _ => rfl) ?_⟩
        rintro rfl
        cases hobserved
    | handed _ hquiet =>
        refine ⟨_, _, rfl, hafter _ _ (fun hpos => ?_) fun _ => ⟨_, rfl, rfl⟩⟩
        simp [hpos] at hquiet
  -- the cleanup is needed, and selects the saved page whether or not that succeeds
  cases hrestored with
  | untouched hunneeded => simp [hneeded, hsaved] at hunneeded
  | written _ hselect _ | failed _ hselect _ =>
      obtain ⟨n, rest, rfl, hafter⟩ := hselected (selected_of_exec hselect)
      exact ⟨_, n, rest, rfl, hafter⟩

/-- The cleanup begins by clearing the flag, if it does anything. -/
theorem Restored.isClear_head {progress : Progress} {e : WorkflowEvent}
    (h : Restored progress s (e :: t) report) : IsClear e = true := by
  cases h <;> rfl

/-- An event of a list of three parts that is not in the first part. -/
theorem mem_of_append_eq {α : Type} {x y u v : List α} {z e : α}
    (h : x ++ (y ++ [z]) = u ++ e :: v) (he : e ≠ z) :
    (∃ w, x = u ++ e :: w ∧ v = w ++ (y ++ [z])) ∨ ∃ a b, y = a ++ e :: b ∧ u = x ++ a := by
  have hlast {a : List α} (ha : y ++ [z] = a ++ e :: v) : ∃ b, y = a ++ e :: b := by
    rcases List.append_eq_append_iff.1 ha with ⟨b, rfl, hb⟩ | ⟨b, rfl, hb⟩
    · cases b with
      | nil => exact absurd (List.cons.inj hb).1.symm he
      | cons => simp at hb
    · cases b with
      | nil => exact absurd (List.cons.inj hb).1 he
      | cons e' b => exact ⟨b, by rw [(List.cons.inj hb).1]⟩
  rcases List.append_eq_append_iff.1 h with ⟨a, rfl, ha⟩ | ⟨a, rfl, ha⟩
  · obtain ⟨b, hb⟩ := hlast ha
    exact .inr ⟨a, b, hb, rfl⟩
  · cases a with
    | nil =>
        obtain ⟨b, hb⟩ := hlast (a := []) ha.symm
        exact .inr ⟨[], b, hb, by simp⟩
    | cons e' w =>
        obtain ⟨rfl, hv⟩ := List.cons.inj ha
        exact .inl ⟨w, rfl, hv⟩

/-- What is handed over before the cleanup is handed over in the body. -/
theorem mem_body_of_handsChange {s₁ : Bool} {c a release e : WorkflowEvent}
    {body cleanup u v : List WorkflowEvent} {progress : Progress}
    (hrestored : Restored progress s₁ cleanup report) (hc : IsClear c = true)
    (ha : stepOf a = some .acquire) (hrelease : stepOf release = some .release)
    (hsplit : c :: a :: (body ++ (cleanup ++ [release])) = u ++ e :: v)
    (he : HandsChange u e) :
    ∃ u' w, body = u' ++ e :: w ∧ v = w ++ (cleanup ++ [release]) := by
  obtain ⟨⟨step, hstep, hsends⟩, hcount⟩ := he
  -- neither the clearing of the flag nor the acquisition hands a page over
  rcases u with _ | ⟨c', _ | ⟨a', u⟩⟩
  · cases hcount
  · simp only [List.cons_append, List.nil_append, List.cons.injEq] at hsplit
    rw [← hsplit.2.1, ha] at hstep
    cases hstep
    cases hsends
  · simp only [List.cons_append, List.cons.injEq] at hsplit
    obtain ⟨rfl, rfl, hsplit⟩ := hsplit
    have hne : e ≠ release := by
      rintro rfl
      rw [hrelease] at hstep
      cases hstep
      cases hsends
    rcases mem_of_append_eq hsplit hne with ⟨w, hbody, hv⟩ | ⟨x, y, rfl, rfl⟩
    · exact ⟨u, w, hbody, hv⟩
    · -- in the cleanup, the flag was cleared a second time before any command
      have hclear : 0 < x.countP IsClear ∨ x = [] ∧ IsClear e = true := by
        cases x with
        | nil => exact .inr ⟨rfl, hrestored.isClear_head⟩
        | cons x₀ x =>
            have hx₀ : IsClear x₀ = true := hrestored.isClear_head
            exact .inl (by rw [List.countP_cons_of_pos hx₀]; omega)
      rcases hclear with hclear | ⟨rfl, hclear⟩
      · rw [List.countP_cons_of_pos hc, List.countP_cons, List.countP_append] at hcount
        omega
      · rw [isClear_of_stepOf hstep] at hclear
        cases hclear

/-! ## The condition -/

/-- A list has one split at its only element that satisfies `p`. -/
theorem split_unique {α : Type} {p : α → Bool} {w x y z : List α} {c c' : α}
    (h : w ++ c :: z = x ++ c' :: y) (hw : w.countP p = 0) (hz : z.countP p = 0)
    (hc' : p c' = true) : c = c' ∧ z = y := by
  rcases List.append_eq_append_iff.1 h with ⟨a, rfl, ha⟩ | ⟨a, rfl, ha⟩
  · cases a with
    | nil => exact List.cons.inj ha
    | cons c₁ a =>
        rw [List.cons_append, List.cons.injEq] at ha
        rw [ha.2, List.countP_append, List.countP_cons_of_pos hc'] at hz
        omega
  · cases a with
    | nil =>
        obtain ⟨rfl, rfl⟩ := List.cons.inj ha
        exact ⟨rfl, rfl⟩
    | cons c₁ a =>
        obtain ⟨rfl, -⟩ := List.cons.inj ha
        rw [List.countP_append, List.countP_cons_of_pos hc'] at hw
        omega

/-- The restoration of one change, and the condition for it. -/
theorem AfterChange.restoredIn_iff {w rest : List WorkflowEvent} {k n : ℕ} {s₁ : Bool}
    {release : WorkflowEvent} (h : AfterChange report w n rest)
    (hrelease : stepOf release = some .release) :
    RestoredIn report (w ++ ((⟨s₁, .clearInterrupt, k⟩ :: ⟨false, .testInterrupt, n⟩ :: rest) ++
        [release])) ↔
      QuietIn (w ++ ((⟨s₁, .clearInterrupt, k⟩ :: ⟨false, .testInterrupt, n⟩ :: rest) ++
        [release])) := by
  have hrest : ((⟨false, .testInterrupt, n⟩ : WorkflowEvent) :: (rest ++ [release])).countP IsClear
      = 0 := by
    rcases Nat.eq_zero_or_pos n with hn | hn
    · obtain ⟨e, rfl, he⟩ := h.restored hn
      simp [isClear_testInterrupt, isClear_of_stepOf he, isClear_of_stepOf hrelease]
    · simp [h.suppressed hn, isClear_testInterrupt, isClear_of_stepOf hrelease]
  constructor
  · rintro ⟨x, e, y, hsplit, he, -⟩ x' s₂ n' s₃ m y' hwindow
    obtain ⟨-, htail⟩ := split_unique hwindow h.not_clear hrest rfl
    obtain ⟨hevent, -⟩ := List.cons.inj htail
    obtain ⟨rfl, rfl⟩ : false = s₃ ∧ n = m := by simpa using hevent
    by_contra hn
    -- without the restoration, nothing after the change sends data
    have hmem : (Request.modeSelect report.original).step ∈ steps (x ++ e :: y) :=
      List.mem_filterMap.2 ⟨e, by simp, he⟩
    rw [← hsplit, h.suppressed (Nat.pos_of_ne_zero hn), steps_append, List.mem_append] at hmem
    rcases hmem with hmem | hmem
    · exact List.countP_eq_zero.1 h.no_data _ hmem rfl
    · have hmem : (Request.modeSelect report.original).step ∈ [release].filterMap stepOf := hmem
      rw [List.filterMap_cons_some hrelease] at hmem
      cases List.mem_singleton.1 hmem
  · intro hquiet
    obtain rfl : n = 0 := hquiet w s₁ k false n (rest ++ [release]) rfl
    obtain ⟨e, rfl, he⟩ := h.restored rfl
    refine ⟨w ++ [⟨s₁, .clearInterrupt, k⟩, ⟨false, .testInterrupt, (0 : ℕ)⟩], e, [release],
      by simp, he, ?_, by simp [steps, hrelease]⟩
    rw [steps_append, List.mem_append]
    exact fun hmem => hmem.elim h.no_release List.not_mem_nil

/-- A page that is handed over before the cleanup is the requested one. -/
theorem Probed.handsRequested {s₁ : Bool} {body cleanup u w : List WorkflowEvent}
    {e : WorkflowEvent} {progress : Progress} {start : Report1581} {releaseReply : StatusReply}
    (hprobed : Probed start body progress) (hrestored : Restored progress s₁ cleanup report)
    (hreleased : Released report releaseReply report') (hbody : body = u ++ e :: w)
    (hsends : ∃ step, stepOf e = some step ∧ step.SendsData = true)
    (ht : executions body <+: executions t) : HandsRequested report' t e := by
  obtain ⟨step, hstep, hsends⟩ := hsends
  have hmem : step ∈ steps body := by
    rw [hbody]
    exact List.mem_filterMap.2 ⟨e, by simp, hstep⟩
  have hneeded := (hprobed.needed_of_select hmem hsends).1
  have hnamed := hprobed.pagesNamed hneeded hrestored hreleased
  refine ⟨hnamed.of_isPrefix ht, ?_⟩
  rw [hstep, hprobed.step_of_sendsData hmem hsends, hreleased.setup.requested, hrestored.pages.1]

/-- The saved page is written back after a change exactly when the handler does not run between
the clearing of the flag and the reading of it that precedes the restoration. -/
theorem restoresChange_iff {acknowledgement : Bool} {s : Bool}
    (r : Run (test1581 acknowledgement) s) :
    RestoresChange r.result r.trace ↔ QuietCleanup r.trace := by
  have htested := tested_of_exec r.exec
  generalize r.trace = trace at htested
  generalize r.result = report at htested
  -- without a successful acquisition, nothing is handed over
  have hnothing {u v : List WorkflowEvent} {e : WorkflowEvent} (ht : trace = u ++ e :: v)
      (hsteps : ∀ step ∈ steps trace, step = .acquire) : ¬ HandsChange u e := by
    rintro ⟨⟨step, hstep, hsends⟩, -⟩
    obtain rfl := hsteps step (List.mem_filterMap.2 ⟨e, by simp [ht], hstep⟩)
    cases hsends
  cases htested with
  | unacknowledged =>
      constructor <;> exact fun _ u e v ht he => absurd he (hnothing ht (by simp [steps, stepOf]))
  | refused =>
      constructor <;> exact fun _ u e v ht he => absurd he (hnothing ht (by simp [steps, stepOf]))
  | acquired hacquired hprobe hrestored hreleased =>
      constructor
      · intro hrestores u e v ht he
        obtain ⟨u', w, hbody, rfl⟩ := mem_body_of_handsChange hrestored rfl rfl rfl ht he
        obtain ⟨step, hstep, hsends⟩ := he.sends
        obtain ⟨k, n, rest, rfl, hafter⟩ :=
          afterChange_of_restored hprobe hrestored hreleased hbody hstep hsends
        exact (hafter.restoredIn_iff rfl).1 (hrestores u e _ ht he).2
      · intro hquiet u e v ht he
        obtain ⟨u', w, hbody, rfl⟩ := mem_body_of_handsChange hrestored rfl rfl rfl ht he
        refine ⟨(probed_of_exec hprobe).handsRequested hrestored hreleased hbody he.sends
          executions_body_isPrefix, ?_⟩
        obtain ⟨step, hstep, hsends⟩ := he.sends
        obtain ⟨k, n, rest, rfl, hafter⟩ :=
          afterChange_of_restored hprobe hrestored hreleased hbody hstep hsends
        exact (hafter.restoredIn_iff rfl).2 (hquiet u e _ ht he)

/-! ## A late interrupt request -/

/-- A good MODE SENSE response whose page has `value` in every byte after its header. -/
def senseResponse (value : UInt8) (n : ℕ) : ExecuteReply n where
  result := { transferred := 40 }
  buffer := Vector.ofFn fun i =>
    ([0, 38, 0, 0, 0, 0, 0, 0, 0x05, 0x1e] ++ List.replicate 30 value).getD i 0

/-- A device on which the MODE SELECT of the requested page fails, and an interrupt request right
after the cleanup has cleared the flag. -/
def lateInterrupt (n : ℕ) : (call : WorkflowCall) → WorkflowReply call
  | .testInterrupt => if n = 9 then 1 else 0
  | .clearInterrupt => (0 : ℕ)
  | .malloc _ => none
  | .transport (.acquireExclusive detail) => ⟨.ok, detail⟩
  | .transport (.execute command) =>
      if n = 3 then senseResponse 0 command.dataLength
      else if n = 5 then senseResponse 0xff command.dataLength
      else ⟨{ transportStatus := .io }, Vector.replicate command.dataLength 0⟩
  | .transport (.releaseExclusive detail) => ⟨.ok, detail⟩

/-- A test on such a device. -/
def lateInterruptRun : Run (test1581 true) false := (test1581 true).replay lateInterrupt false

set_option maxRecDepth 4000 in
/-- The requested page was handed to the transport, and then the run went on to the release. -/
theorem lateInterruptRun_not_restoresChange :
    ¬ RestoresChange lateInterruptRun.result lateInterruptRun.trace := by
  intro hrestores
  have hlength : 7 < lateInterruptRun.trace.length := by decide +kernel
  have hsplit : lateInterruptRun.trace = lateInterruptRun.trace.take 7 ++
      lateInterruptRun.trace[7] :: lateInterruptRun.trace.drop 8 := by simp
  have hstep : lateInterruptRun.trace[7]?.bind stepOf =
      some (Request.modeSelect lateInterruptRun.result.requested).step := by decide +kernel
  rw [List.getElem?_eq_getElem hlength] at hstep
  have hafter : steps (lateInterruptRun.trace.drop 8) = [.release] := by decide +kernel
  obtain ⟨-, w, e, w', hv, he, -⟩ :=
    hrestores _ _ _ hsplit ⟨⟨_, hstep, rfl⟩, by decide +kernel⟩
  have hmem : (Request.modeSelect lateInterruptRun.result.original).step ∈
      steps (lateInterruptRun.trace.drop 8) := by
    rw [hv]
    exact List.mem_filterMap.2 ⟨e, by simp, he⟩
  rw [hafter] at hmem
  cases List.mem_singleton.1 hmem

end M65
