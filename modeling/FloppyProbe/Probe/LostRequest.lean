import FloppyProbe.Probe.Restoration
import FloppyProbe.Probe.Verdict

/-!
# Interrupt requests

A request is a run of the handler. One that is delivered while the workflow still has commands to
send stops it: the command that is past its test may still be handed to the transport, then nothing
but the restoration is, and the verdict is not SUPPORTED. The workflow does not do so with a request
between the installation of the handler and its own entry, where it clears the flag.

* `Delivered`, `BeforeLastTest`, `untested`: the instants of a run;
* `Guarded`: every command is handed over right after a test of the flag;
* `KeepsRequests`, `ForgetsRequest`: what a request brings about, and the one that is forgotten.
-/

namespace M65

open Interaction

variable {s s' : Bool} {t before after : List WorkflowEvent} {report report' : Report1581}

/-! ## The instants of a run -/

/-- The event does not access the flag. -/
def silent (e : WorkflowEvent) : Bool := (handlerRuns e).isNone

/-- A request can be delivered at an instant before `after`: the access of the flag that comes next
counts it, unless there is none. -/
def Delivered (after : List WorkflowEvent) : Prop :=
  ∀ n, after.findSome? handlerRuns = some n → 0 < n

/-- The READ (10) that ends a complete read. -/
def lastRead : WorkflowStep := (Request.read 1590 10).step

/-- At the instant between `before` and `after`, the second complete read has not passed the test
for its last command, which is handed over before the flag is accessed again. -/
def BeforeLastTest (before after : List WorkflowEvent) : Prop :=
  (steps (before ++ after.takeWhile silent)).count lastRead < 2

/-- What follows the instant between `before` and `after`, without the command that is past its
test at that instant, if there is one. -/
def untested (before after : List WorkflowEvent) : List WorkflowEvent :=
  match before.getLast?, after with
  | some ⟨_, .testInterrupt, _⟩, ⟨_, .transport (.execute _), _⟩ :: rest => rest
  | _, _ => after

/-- The trace hands nothing over but the restoration, and that once at most. -/
def RestoresOnly (report : Report1581) (t : List WorkflowEvent) : Prop :=
  ((executions t).map (·.command.wire)).Sublist [(Request.modeSelect report.original).wire]

/-- A request before the test for the last command of the second complete read lets the command
through that is past its test and the restoration only, and there is no verdict SUPPORTED. -/
def StopsCommands (report : Report1581) (t : List WorkflowEvent) : Prop :=
  ∀ before after, t = before ++ after → Delivered after → BeforeLastTest before after →
    report.status ≠ .supported ∧ RestoresOnly report (untested before after)

/-- Every request before the last test is kept, and the page that a restoration sends is the one
that was read. -/
structure KeepsRequests (report : Report1581) (t : List WorkflowEvent) : Prop where
  stops : StopsCommands report t
  named : ∀ step ∈ steps t, step.SendsData = true → PagesNamed report t

/-- A request was delivered before the entry, which cleared the flag, and none between that and the
first test, to which the run got. -/
def ForgetsRequest (t : List WorkflowEvent) : Prop :=
  ∃ s₀ n s₁ call reply s₂ rest, 0 < n ∧ t = ⟨s₀, .clearInterrupt, n⟩ ::
    ⟨s₁, .transport call, reply⟩ :: ⟨s₂, .testInterrupt, (0 : ℕ)⟩ :: rest

/-- An access of the flag is no step. -/
theorem stepOf_of_handlerRuns {e : WorkflowEvent} {n : ℕ} (h : handlerRuns e = some n) :
    stepOf e = none := by
  obtain ⟨s, call, reply⟩ := e
  cases call with
  | testInterrupt => rfl
  | clearInterrupt => rfl
  | malloc => cases h
  | transport => cases h

/-- What is no step is no command. -/
theorem executionOf_of_stepOf {e : WorkflowEvent} (h : stepOf e = none) : executionOf e = none := by
  obtain ⟨s, call, reply⟩ := e
  rcases call with _ | _ | _ | call
  · rfl
  · rfl
  · rfl
  · cases call <;> cases h

/-! ## Tests and commands -/

/-- Every command is handed over right after a test of the flag. -/
inductive Guarded : List WorkflowEvent → Prop
  | nil : Guarded []
  | other {e : WorkflowEvent} {t : List WorkflowEvent} (he : executionOf e = none)
      (rest : Guarded t) : Guarded (e :: t)
  | tested {s₁ s₂ : Bool} {n : ℕ} {command : Command} {reply : ExecuteReply command.dataLength}
      {t : List WorkflowEvent} (rest : Guarded t) :
      Guarded (⟨s₁, .testInterrupt, n⟩ :: ⟨s₂, .transport (.execute command), reply⟩ :: t)

namespace Guarded

/-- Guarded traces make a guarded one. -/
theorem composes : Composes Guarded where
  nil := .nil
  append h h' := by
    induction h with
    | nil => exact h'
    | other he _ ih => exact .other he ih
    | tested _ ih => exact .tested ih

/-- An event that is no command is guarded. -/
theorem singleton {e : WorkflowEvent} (he : executionOf e = none) : Guarded [e] := .other he .nil

/-- An attempt is guarded. -/
theorem of_attempt {command : Command} {reply : ExecuteReply command.dataLength}
    (h : Attempt command s t reply s') : Guarded t := by
  cases h with
  | refused => exact .nil
  | interrupted => exact .singleton rfl
  | handed => exact .tested .nil

/-- Before the first access of the flag, no command is handed over. -/
theorem executions_eq (h : Guarded t) : executions t = executions (t.dropWhile silent) := by
  induction h with
  | nil => rfl
  | @other e t he _ ih =>
    by_cases hsilent : silent e = true
    · rw [List.dropWhile_cons_of_pos hsilent, ← ih]
      exact List.filterMap_cons_none he
    · rw [List.dropWhile_cons_of_neg hsilent]
  | tested => rfl

/-- A guarded trace is cut between two commands, or between a test and its command. -/
theorem of_append (h : Guarded (before ++ after)) :
    Guarded after ∨ ∃ u s₁ n s₂ command reply rest, before = u ++ [⟨s₁, .testInterrupt, n⟩] ∧
      after = ⟨s₂, .transport (.execute command), reply⟩ :: rest ∧ Guarded rest := by
  generalize htrace : before ++ after = t at h
  induction h generalizing before with
  | nil =>
    rw [(List.append_eq_nil_iff.1 htrace).2]
    exact .inl .nil
  | @other e t he rest ih =>
    cases before with
    | nil =>
      rw [List.nil_append] at htrace
      rw [htrace]
      exact .inl (.other he rest)
    | cons e' u =>
      rcases ih (List.cons.inj htrace).2 with hafter | ⟨w, s₁, n, s₂, command, reply, v, rfl, hv⟩
      · exact .inl hafter
      · exact .inr ⟨e' :: w, s₁, n, s₂, command, reply, v, rfl, hv⟩
  | @tested s₁ s₂ n command reply t rest ih =>
    -- the cut is in front of the test, between it and its command, or after the command
    match before with
    | [] =>
      rw [List.nil_append] at htrace
      rw [htrace]
      exact .inl (.tested rest)
    | [e'] =>
      obtain ⟨rfl, hafter⟩ := List.cons.inj htrace
      exact .inr ⟨[], s₁, n, s₂, command, reply, t, rfl, hafter, rest⟩
    | e₁ :: e₂ :: u =>
      obtain ⟨-, htrace⟩ := List.cons.inj htrace
      obtain ⟨-, htrace⟩ := List.cons.inj htrace
      rcases ih htrace with hafter | ⟨w, s₁, n, s₂, command, reply, v, rfl, hv⟩
      · exact .inl hafter
      · exact .inr ⟨e₁ :: e₂ :: w, s₁, n, s₂, command, reply, v, rfl, hv⟩

/-- After an instant, a command that is not past its test waits for an access of the flag. -/
theorem executions_untested (h : Guarded (before ++ after)) :
    executions (untested before after) = executions (after.dropWhile silent) := by
  rcases h.of_append with hafter | ⟨u, s₁, n, s₂, command, reply, rest, rfl, rfl, hrest⟩
  · have huntested : untested before after = after := by
      unfold untested
      split
      · cases hafter with
        | other he => cases he
      · rfl
    rw [huntested, hafter.executions_eq]
  · have huntested : untested (u ++ [⟨s₁, .testInterrupt, n⟩])
        (⟨s₂, .transport (.execute command), reply⟩ :: rest) = rest := by
      simp [untested]
    rw [huntested, hrest.executions_eq]
    rfl

end Guarded

/-! ## The workflow tests before every command -/

section Tests

/-- A test of the flag. -/
theorem testInterrupted_guarded : Traced Guarded testInterrupted := by
  intro s t b s' h
  obtain ⟨n, rfl, -⟩ := exec_testInterrupted.1 h
  exact .singleton rfl

/-- MODE SENSE is handed over right after a test of the flag. -/
theorem modeSense_guarded (changeable : Bool) (parameters : ModeParameters) :
    Traced Guarded (modeSense changeable parameters) := by
  intro s t out s' h
  obtain ⟨reply, hattempt, -⟩ := modeSense_attempt h
  exact .of_attempt hattempt

/-- MODE SELECT is handed over right after a test of the flag. -/
theorem modeSelect_guarded (page : FlexibleDiskPage) : Traced Guarded (modeSelect page) := by
  intro s t result s' h
  rcases modeSelect_attempt h with ⟨-, rfl, -⟩ | ⟨reply, -, hattempt, -⟩
  · exact .nil
  · exact .of_attempt hattempt

/-- A read is handed over right after a test of the flag. -/
theorem readBlocks_guarded (lba : UInt32) (blocks : UInt16) (buffer) :
    Traced Guarded (readBlocks lba blocks buffer) := by
  intro s t out s' h
  obtain ⟨reply, hattempt, -⟩ := readBlocks_attempt h
  exact .of_attempt hattempt

/-- A result needs no test. -/
theorem pure_guarded {α : Type} (a : α) : Traced Guarded (pure a : Workflow α) :=
  .pure Guarded.composes a

/-- A request for memory needs no test. -/
theorem malloc_guarded (size : ℕ) : Traced Guarded (malloc size) :=
  .call fun _ _ => .singleton rfl

/-- Guarded programs make a guarded one. -/
theorem bind_guarded {α β : Type} {p : Workflow α} {f : α → Workflow β} (hp : Traced Guarded p)
    (hf : ∀ a, Traced Guarded (f a)) : Traced Guarded (p >>= f) :=
  .bind Guarded.composes hp hf

/-- The loop of reads hands every chunk over right after a test. -/
theorem readImageFrom_guarded (lba : ℕ) (image : List UInt8) (report : Report1581) :
    Traced Guarded (readImageFrom lba image report) := by
  induction lba, image using readImageFrom.induct with
  | case1 lba image hlba ih =>
    rw [readImageFrom, dif_pos hlba]
    refine bind_guarded testInterrupted_guarded fun _ => .ite (pure_guarded _) ?_
    refine bind_guarded (readBlocks_guarded _ _ _) fun answer => ?_
    exact .ite (pure_guarded _) (ih answer.2)
  | case2 lba image hlba =>
    rw [readImageFrom, dif_neg hlba]
    exact pure_guarded _

/-- Two reads hand every chunk over right after a test. -/
theorem readTwice_guarded (image secondImage : List UInt8) (report : Report1581) :
    Traced Guarded (readTwice image secondImage report) := by
  refine bind_guarded (readImageFrom_guarded _ _ _) fun _ => .ite (pure_guarded _) ?_
  refine bind_guarded (readImageFrom_guarded _ _ _) fun _ => .ite (pure_guarded _) ?_
  exact .ite (pure_guarded _) (pure_guarded _)

/-- The comparison of two reads is guarded. -/
theorem compareCompleteReads_guarded (report : Report1581) :
    Traced Guarded (compareCompleteReads report) := by
  refine bind_guarded (malloc_guarded _) fun image => bind_guarded (malloc_guarded _) ?_
  intro secondImage
  rcases image with _ | image
  · exact pure_guarded _
  · rcases secondImage with _ | secondImage
    · exact pure_guarded _
    · exact readTwice_guarded _ _ _

/-- A boundary read is guarded. -/
theorem probeBoundary_guarded (lba : UInt32) (operation : String) (report : Report1581) :
    Traced Guarded (probeBoundary lba operation report) :=
  bind_guarded (readBlocks_guarded _ _ _) fun _ =>
    .ite (.ite (pure_guarded _) (pure_guarded _)) (pure_guarded _)

/-- The change is guarded. -/
theorem changeGeometry_guarded (report : Report1581) :
    Traced Guarded (changeGeometry report) := by
  refine bind_guarded (modeSelect_guarded _) fun _ =>
    .ite (.ite (pure_guarded _) (pure_guarded _)) ?_
  refine bind_guarded (modeSense_guarded _ _) fun _ =>
    .ite (pure_guarded _) (.ite (pure_guarded _) ?_)
  refine bind_guarded (probeBoundary_guarded _ _ _) fun _ => .ite (pure_guarded _) ?_
  refine bind_guarded (probeBoundary_guarded _ _ _) fun _ => .ite (pure_guarded _) ?_
  exact compareCompleteReads_guarded _

/-- The probe is guarded. -/
theorem probeGeometry_guarded (report : Report1581) : Traced Guarded (probeGeometry report) := by
  refine bind_guarded (modeSense_guarded _ _) fun mode => .ite (pure_guarded _) ?_
  refine bind_guarded (modeSense_guarded _ _) fun mask => .ite (pure_guarded _) ?_
  dsimp only
  split
  · exact pure_guarded _
  · exact bind_guarded (changeGeometry_guarded _) fun _ => pure_guarded _

/-- Every command of a test is handed over right after a test of the flag. -/
theorem test1581_guarded (acknowledgement : Bool) : Traced Guarded (test1581 acknowledgement) := by
  have hclear : Traced Guarded clearInterrupted := by
    intro s t u s' h
    obtain ⟨n, rfl, -⟩ := exec_clearInterrupted.1 h
    exact .singleton rfl
  have hacquire (detail : ErrorText) : Traced Guarded (acquireExclusive detail) :=
    .call fun _ _ => .singleton rfl
  have hrestore (progress : Progress) : Traced Guarded (restoreController progress) := by
    refine .ite (bind_guarded hclear fun _ => ?_) (.ite (pure_guarded _) (pure_guarded _))
    exact bind_guarded (modeSelect_guarded _) fun _ => .ite (pure_guarded _) (pure_guarded _)
  have hrelease (report : Report1581) : Traced Guarded (releaseController report) :=
    bind_guarded (.call fun _ _ => .singleton rfl) fun _ => .ite (pure_guarded _) (pure_guarded _)
  refine bind_guarded hclear fun _ => .ite (pure_guarded _) ?_
  refine bind_guarded (hacquire _) fun _ => .ite (pure_guarded _) ?_
  refine bind_guarded (probeGeometry_guarded _) fun _ => ?_
  exact bind_guarded (hrestore _) hrelease

end Tests

/-! ## What an access of the flag brings about -/

section Acquired

variable {s₁ s₂ : Bool} {body cleanup u v : List WorkflowEvent} {progress : Progress}
  {start : Report1581} {releaseReply : StatusReply} {e : WorkflowEvent} {n : ℕ}

/-- A change reads the last chunk twice at least. -/
theorem count_lastRead_changePlan (requested : FlexibleDiskPage) :
    2 ≤ (changePlan requested).count lastRead := by
  have hmem : lastRead ∈ chunkPlan 0 readChunks := by
    rw [chunkPlan, List.mem_map]
    exact ⟨159, List.mem_range'_1.2 ⟨by decide, by decide⟩, rfl⟩
  have hpass := List.one_le_count_iff.2 hmem
  rw [changePlan, verifyPlan, mediumPlan, passesPlan]
  simp only [List.count_append]
  omega

/-- A run with the verdict SUPPORTED passed every test before the cleanup, and sent the last command
of both complete reads. -/
theorem Released.passed_of_supported (hprobed : Probed start body progress)
    (hrestored : Restored progress s₁ cleanup report)
    (hreleased : Released report releaseReply report') (hstart : start.status ≠ .supported)
    (hstatus : report'.status = .supported) :
    (∀ e ∈ body, Passed e) ∧ 2 ≤ (steps body).count lastRead := by
  have hok := (hreleased.supported hstatus).1
  have hstatus₁ : report.status = .supported := (hreleased.status_eq hok).symm.trans hstatus
  obtain ⟨t₁, t₂, t₃, mode, mask, rfl, hsense, hmask, hfollows, -⟩ :=
    hprobed.of_supported hstart (hrestored.status_of_supported hstatus₁)
  constructor
  · rw [List.forall_mem_append, List.forall_mem_append]
    exact ⟨hsense.follows.passed, hmask.follows.passed, hfollows.passed⟩
  · have hcount := count_lastRead_changePlan progress.report.requested
    rw [← hfollows.labels_eq, ← steps] at hcount
    rw [steps_append, steps_append, List.count_append, List.count_append]
    omega

/-- The cleanup hands nothing over but the restoration. -/
theorem Released.restoresOnly (hprobed : Probed start body progress)
    (hrestored : Restored progress s₁ cleanup report)
    (hreleased : Released report releaseReply report') : RestoresOnly report' cleanup := by
  have htrace : AcquiredTrace report' body cleanup
      ⟨false, .transport (.releaseExclusive Text.empty), releaseReply⟩ :=
    acquiredTrace_of_probed hprobed hrestored hreleased
  rw [RestoresOnly, executions_wire]
  rcases htrace.restoration with hnone | ⟨hone, -⟩
  · rw [hnone]
    exact List.nil_sublist _
  · rw [hone]
    exact List.Sublist.refl _

/-- The access of the flag that finds a request before the test for the last command of the second
complete read is the last one of the body, or belongs to a cleanup without a verdict. -/
theorem Released.keeps (hprobe : Exec (probeGeometry start) s body progress s₁)
    (hrestored : Restored progress s₁ cleanup report)
    (hreleased : Released report releaseReply report') (hstart : start.status ≠ .supported)
    (hsplit : body ++ (cleanup ++
      [⟨s₂, .transport (.releaseExclusive Text.empty), releaseReply⟩]) = u ++ e :: v)
    (he : handlerRuns e = some n) (hn : 0 < n) (hbefore : (steps u).count lastRead < 2) :
    report'.status ≠ .supported ∧ RestoresOnly report' v := by
  have hprobed := probed_of_exec hprobe
  have honly := hreleased.restoresOnly hprobed hrestored
  have hpassed := hreleased.passed_of_supported hprobed hrestored hstart
  have hne : e ≠ ⟨s₂, .transport (.releaseExclusive Text.empty), releaseReply⟩ := by
    rintro rfl
    cases he
  rcases mem_of_append_eq hsplit hne with ⟨w, hbody, rfl⟩ | ⟨x, y, hcleanup, rfl⟩
  · -- in the body, the access is a test that finds the request
    have hnot : ¬ Passed e := by
      have hkeeps := probeGeometry_keepsFlag start hprobe e (by simp [hbody])
      obtain ⟨s₃, call, reply⟩ := e
      cases call with
      | testInterrupt =>
        obtain rfl : reply = n := Option.some.inj he
        simp [Passed, hn]
      | clearInterrupt => exact absurd rfl hkeeps
      | malloc => cases he
      | transport => cases he
    obtain ⟨completed, hfollows⟩ := hprobed.follows
    obtain rfl := eq_nil_of_not_passed hfollows hbody hnot
    refine ⟨fun hstatus => hnot ((hpassed hstatus).1 e (by simp [hbody])), ?_⟩
    rw [RestoresOnly, List.nil_append, executions_release]
    exact honly
  · -- in the cleanup, the body has not completed both reads
    refine ⟨fun hstatus => ?_, ?_⟩
    · have hcount := (hpassed hstatus).2
      rw [steps_append, List.count_append] at hbefore
      omega
    · rw [List.append_assoc, List.append_cancel_left_eq, hcleanup, List.append_assoc,
        List.append_cancel_left_eq, List.cons_append, List.cons.injEq] at hsplit
      rw [RestoresOnly, ← hsplit.2, executions_release]
      have hsub : (executions y).Sublist (executions cleanup) := by
        rw [hcleanup]
        exact ((List.sublist_cons_self e y).trans (List.sublist_append_right x _)).filterMap _
      exact (hsub.map _).trans honly

end Acquired

/-! ## The condition -/

/-- Without a command, there is nothing that a request could stop. -/
theorem stopsCommands_of_idle (hstatus : report.status ≠ .supported)
    (hidle : executions t = []) : StopsCommands report t := by
  intro before after ht _ _
  have hafter : executions after = [] := by
    rw [ht, executions_append, List.append_eq_nil_iff] at hidle
    exact hidle.2
  have huntested : (untested before after).Sublist after := by
    unfold untested
    split
    · exact List.sublist_cons_self _ _
    · exact List.Sublist.refl _
  have hnil := huntested.filterMap executionOf
  rw [← executions, ← executions, hafter, List.sublist_nil] at hnil
  refine ⟨hstatus, ?_⟩
  rw [RestoresOnly, hnil]
  exact List.nil_sublist _

/-- After the entry, every request before the last test is kept. -/
theorem stopsCommands_of_entry {c : WorkflowEvent} (hguarded : Guarded (c :: t))
    (hc : handlerRuns c = some 0)
    (hkeeps : ∀ u e v n, t = u ++ e :: v → handlerRuns e = some n → 0 < n →
      (steps u).count lastRead < 2 → report.status ≠ .supported ∧ RestoresOnly report v)
    (hverdict : (steps t).count lastRead < 2 → report.status ≠ .supported) :
    StopsCommands report (c :: t) := by
  intro before after ht hdelivered hlast
  rw [ht] at hguarded
  rw [RestoresOnly, hguarded.executions_untested]
  have hc' : stepOf c = none := stepOf_of_handlerRuns hc
  have hsteps (u : List WorkflowEvent) : steps (c :: u) = steps u := List.filterMap_cons_none hc'
  have hafter := (List.takeWhile_append_dropWhile (p := silent) (l := after)).symm
  generalize hrest : after.dropWhile silent = rest at hafter ⊢
  rw [BeforeLastTest] at hlast
  cases rest with
  | nil =>
    rw [List.append_nil] at hafter
    rw [← hafter, ← ht, hsteps] at hlast
    exact ⟨hverdict hlast, List.nil_sublist _⟩
  | cons e v =>
    obtain ⟨n, he⟩ : ∃ n, handlerRuns e = some n := by
      have hhead := List.head?_dropWhile_not silent after
      rw [hrest] at hhead
      have hhead : (handlerRuns e).isNone = false := by simpa [silent] using hhead
      exact Option.isSome_iff_exists.1 (by simpa using hhead)
    -- the access that comes next finds the request
    have hn : 0 < n := by
      refine hdelivered n ?_
      have hsilent : (after.takeWhile silent).findSome? handlerRuns = none := by
        rw [List.findSome?_eq_none_iff]
        intro x hx
        have hx : silent x = true := List.mem_takeWhile_imp hx
        exact Option.isNone_iff_eq_none.1 hx
      rw [hafter, List.findSome?_append, hsilent, Option.none_or, List.findSome?_cons, he]
    have hv : executions (e :: v) = executions v := by
      refine List.filterMap_cons_none ?_
      exact executionOf_of_stepOf (stepOf_of_handlerRuns he)
    rw [hv]
    rw [hafter, ← List.append_assoc] at ht
    cases hu : before ++ after.takeWhile silent with
    | nil =>
      rw [hu] at ht
      obtain ⟨rfl, -⟩ := List.cons.inj ht
      obtain rfl := Option.some.inj (he.symm.trans hc)
      cases hn
    | cons c' u =>
      rw [hu] at ht hlast
      obtain ⟨rfl, htail⟩ := List.cons.inj ht
      rw [hsteps] at hlast
      exact hkeeps u e v n htail he hn hlast

/-- The allowlist accepts the command that saves the page in effect. -/
theorem valid_modeSense : (modeSenseCommand false).Valid := rfl

/-- The body begins with a test, and with the first MODE SENSE unless the test finds a request. -/
theorem first_of_probe {s₁ : Bool} {progress : Progress} {start : Report1581}
    (h : Exec (probeGeometry start) false t progress s₁) :
    ∃ n rest, t = ⟨false, .testInterrupt, n⟩ :: rest ∧
      (n = 0 → ∃ e ∈ executions t, e.command = modeSenseCommand false) := by
  unfold probeGeometry at h
  rw [exec_bind] at h
  obtain ⟨t₁, out, s₂, t₂, hsense, -, rfl⟩ := h
  obtain ⟨reply, hattempt, -⟩ := modeSense_attempt hsense
  cases hattempt with
  | refused hinvalid => exact absurd valid_modeSense hinvalid
  | interrupted n hobserved =>
    refine ⟨n, t₂, rfl, fun hn => ?_⟩
    rw [hn] at hobserved
    cases hobserved
  | handed n => exact ⟨n, _, rfl, fun _ => ⟨⟨_, reply⟩, by simp [executions, executionOf], rfl⟩⟩

/-- A request that the entry finds does not keep the first command from being sent. -/
theorem not_stopsCommands_of_sent {s₀ : Bool} {k : ℕ} (hk : 0 < k) {e : Execution}
    (he : e ∈ executions t) (hcommand : e.command = modeSenseCommand false) :
    ¬ StopsCommands report (⟨s₀, .clearInterrupt, k⟩ :: t) := by
  intro hkeeps
  have hdelivered : Delivered (⟨s₀, .clearInterrupt, k⟩ :: t) := by
    intro m hm
    obtain rfl : k = m := Option.some.inj hm
    exact hk
  have hlast : BeforeLastTest [] (⟨s₀, .clearInterrupt, k⟩ :: t) := Nat.zero_lt_two
  have honly := (hkeeps [] _ rfl hdelivered hlast).2
  have hwire := List.mem_singleton.1 (honly.subset (List.mem_map.2 ⟨e, he, rfl⟩))
  rw [hcommand] at hwire
  cases congrArg Wire.direction hwire

/-- A body without a command sends nothing, and neither does its cleanup. -/
theorem executions_eq_nil_of_body {body cleanup : List WorkflowEvent}
    {acquire release clear : WorkflowEvent} (htrace : AcquiredTrace report body cleanup release)
    (hclear : stepOf clear = none) (hacquire : stepOf acquire = some .acquire)
    (hbody : steps body = []) :
    executions (clear :: acquire :: (body ++ (cleanup ++ [release]))) = [] := by
  -- a restoration would follow a MODE SELECT of the body, and the body has no command
  have hcleanup : steps cleanup = [] := by
    refine htrace.restoration.elim id fun hrestored => ?_
    rcases hrestored.2 with hattempted | ⟨hattempted, -⟩
    · rw [hbody, List.prefix_nil] at hattempted
      cases hattempted
    · rw [hbody] at hattempted
      cases hattempted
  have hrelease : steps [release] = [.release] := List.filterMap_cons_some htrace.release
  have hsteps : steps (clear :: acquire :: (body ++ (cleanup ++ [release]))) =
      [.acquire, .release] := by
    rw [steps, List.filterMap_cons_none hclear, List.filterMap_cons_some hacquire, ← steps,
      steps_append, steps_append, hbody, hcleanup, hrelease]
    rfl
  refine List.eq_nil_iff_forall_not_mem.2 fun e he => ?_
  have hstep := mem_steps_of_mem_executions he
  rw [hsteps] at hstep
  simp at hstep

section Entry

variable {s₀ s₁ s₂ : Bool} {detail : ErrorText} {reply releaseReply : StatusReply}
  {body cleanup : List WorkflowEvent} {progress : Progress} {report₁ : Report1581}

/-- Without a second read of the last chunk there is no verdict SUPPORTED. -/
theorem Released.not_supported_of_count
    (hprobe : Exec (probeGeometry (.acquired reply)) false body progress s₁)
    (hrestored : Restored progress s₁ cleanup report₁)
    (hreleased : Released report₁ releaseReply report)
    (hcount : (steps body).count lastRead < 2) : report.status ≠ .supported := by
  intro hstatus
  have hpassed := hreleased.passed_of_supported (probed_of_exec hprobe) hrestored nofun hstatus
  omega

/-- An entry that finds no request forgets none. -/
theorem Released.stopsCommands_of_quiet
    (hguarded : Guarded (⟨s₀, .clearInterrupt, (0 : ℕ)⟩ ::
      ⟨false, .transport (.acquireExclusive detail), reply⟩ :: (body ++ (cleanup ++
        [⟨s₂, .transport (.releaseExclusive Text.empty), releaseReply⟩]))))
    (hprobe : Exec (probeGeometry (.acquired reply)) false body progress s₁)
    (hrestored : Restored progress s₁ cleanup report₁)
    (hreleased : Released report₁ releaseReply report) :
    StopsCommands report (⟨s₀, .clearInterrupt, (0 : ℕ)⟩ ::
      ⟨false, .transport (.acquireExclusive detail), reply⟩ :: (body ++ (cleanup ++
        [⟨s₂, .transport (.releaseExclusive Text.empty), releaseReply⟩]))) := by
  refine stopsCommands_of_entry hguarded rfl ?_ fun hcount =>
    hreleased.not_supported_of_count hprobe hrestored ?_
  · intro u e v m ht he hm hcount
    cases u with
    | nil =>
      -- the acquisition does not access the flag
      obtain ⟨rfl, -⟩ := List.cons.inj ht
      cases he
    | cons a u =>
      obtain ⟨rfl, htail⟩ := List.cons.inj ht
      refine hreleased.keeps hprobe hrestored nofun htail he hm ?_
      exact ((List.sublist_cons_self _ _).count_le lastRead).trans_lt hcount
  · have hsub : (steps body).Sublist (steps (⟨false, .transport (.acquireExclusive detail),
        reply⟩ :: (body ++ (cleanup ++
          [⟨s₂, .transport (.releaseExclusive Text.empty), releaseReply⟩])))) :=
      ((List.sublist_append_left _ _).trans (List.sublist_cons_self _ _)).filterMap stepOf
    exact (hsub.count_le lastRead).trans_lt hcount

/-- A first test that finds a request of its own stops the run before it sends anything. -/
theorem Released.stopsCommands_of_stopped {k n : ℕ} {rest : List WorkflowEvent}
    (hprobe : Exec (probeGeometry (.acquired reply)) false body progress s₁)
    (hrestored : Restored progress s₁ cleanup report₁)
    (hreleased : Released report₁ releaseReply report)
    (hfirst : body = ⟨false, .testInterrupt, n⟩ :: rest) (hn : 0 < n) :
    StopsCommands report (⟨s₀, .clearInterrupt, k⟩ ::
      ⟨false, .transport (.acquireExclusive detail), reply⟩ :: (body ++ (cleanup ++
        [⟨s₂, .transport (.releaseExclusive Text.empty), releaseReply⟩]))) := by
  have hprobed := probed_of_exec hprobe
  have hrest : rest = [] := by
    obtain ⟨completed, hfollows⟩ := hprobed.follows
    exact eq_nil_of_not_passed (u := []) hfollows hfirst (by simp [Passed, hn])
  have hsteps : steps body = [] := by
    rw [hfirst, hrest]
    rfl
  have htrace : AcquiredTrace report body cleanup
      ⟨s₂, .transport (.releaseExclusive Text.empty), releaseReply⟩ :=
    acquiredTrace_of_probed hprobed hrestored hreleased
  refine stopsCommands_of_idle ?_ (executions_eq_nil_of_body htrace rfl rfl hsteps)
  exact hreleased.not_supported_of_count hprobe hrestored (by simp [hsteps])

end Entry

/-- Every request stops the commands after it exactly when the entry does not forget one. -/
theorem stopsCommands_iff {acknowledgement s : Bool}
    (r : Run (test1581 acknowledgement) s) :
    StopsCommands r.result r.trace ↔ ¬ ForgetsRequest r.trace := by
  have hguarded := test1581_guarded acknowledgement r.exec
  have htested := tested_of_exec r.exec
  generalize r.trace = trace at hguarded htested ⊢
  generalize r.result = report at htested ⊢
  -- without a body there is no command that could follow a request
  cases htested with
  | unacknowledged huntouched | refused _ huntouched =>
    refine iff_of_true (stopsCommands_of_idle (by simp [huntouched.status_eq]) rfl) ?_
    rintro ⟨_, _, _, _, _, _, _, -, h⟩
    cases h
  | @acquired s₀ s₁ s₂ k detail reply releaseReply body cleanup progress report₁ _ _ hprobe
      hrestored hreleased =>
    obtain ⟨n, rest, hfirst, hsent⟩ := first_of_probe hprobe
    rcases Nat.eq_zero_or_pos k with rfl | hk
    · -- the entry finds no request
      refine iff_of_true (hreleased.stopsCommands_of_quiet hguarded hprobe hrestored) ?_
      rintro ⟨_, m, _, _, _, _, _, hpos, h⟩
      obtain ⟨hevent, -⟩ := List.cons.inj h
      obtain ⟨-, rfl⟩ : s₀ = _ ∧ (0 : ℕ) = m := by simpa using hevent
      cases hpos
    rcases Nat.eq_zero_or_pos n with rfl | hn
    · -- the first command is sent, although the entry found a request
      refine iff_of_false ?_ (not_not.2 ?_)
      · obtain ⟨e, he, hcommand⟩ := hsent rfl
        refine not_stopsCommands_of_sent hk ?_ hcommand
        show e ∈ executions (body ++ _)
        rw [executions_append]
        exact List.mem_append_left _ he
      · rw [hfirst]
        exact ⟨s₀, k, false, .acquireExclusive detail, reply, false, _, hk, rfl⟩
    · -- the first test finds a second request
      refine iff_of_true (hreleased.stopsCommands_of_stopped hprobe hrestored hfirst hn) ?_
      rintro ⟨_, _, _, _, _, _, _, -, h⟩
      rw [hfirst, List.cons.injEq, List.cons.injEq, List.cons_append, List.cons.injEq] at h
      obtain ⟨-, rfl⟩ : _ ∧ n = (0 : ℕ) := by simpa using h.2.2.1
      cases hn

/-- No request is lost exactly when the entry does not forget one. -/
theorem test1581_keepsRequests_iff {acknowledgement s : Bool}
    (r : Run (test1581 acknowledgement) s) :
    KeepsRequests r.result r.trace ↔ ¬ ForgetsRequest r.trace := by
  rw [← stopsCommands_iff r]
  exact ⟨fun h => h.stops, fun h => ⟨h, (tested_of_exec r.exec).pagesNamed⟩⟩

/-! ## An early interrupt request -/

/-- An interrupt request between the installation of the handlers and the entry, and no other, with
a device on which the MODE SELECT of the requested page fails. -/
def earlyInterrupt (n : ℕ) : (call : WorkflowCall) → WorkflowReply call
  | .testInterrupt => (0 : ℕ)
  | .clearInterrupt => if n = 0 then 1 else 0
  | .malloc _ => none
  | .transport (.acquireExclusive detail) => ⟨.ok, detail⟩
  | .transport (.execute command) =>
      if n = 3 then senseResponse 0 command.dataLength
      else if n = 5 then senseResponse 0xff command.dataLength
      else ⟨{ transportStatus := .io }, Vector.replicate command.dataLength 0⟩
  | .transport (.releaseExclusive detail) => ⟨.ok, detail⟩

/-- A test on such a device. -/
def earlyInterruptRun : Run (test1581 true) false := (test1581 true).replay earlyInterrupt false

set_option maxRecDepth 4000 in
/-- Four commands are sent after the request: both MODE SENSE and both MODE SELECT. -/
theorem earlyInterruptRun_not_keepsRequests :
    ¬ KeepsRequests earlyInterruptRun.result earlyInterruptRun.trace := by
  intro hkeeps
  have hfirst : earlyInterruptRun.trace.findSome? handlerRuns = some 1 := by decide +kernel
  have hdelivered : Delivered earlyInterruptRun.trace := by
    intro n hn
    obtain rfl : 1 = n := Option.some.inj (hfirst.symm.trans hn)
    exact Nat.zero_lt_one
  have hbefore : (steps ([] ++ earlyInterruptRun.trace.takeWhile silent)).count lastRead < 2 := by
    decide +kernel
  obtain ⟨-, honly⟩ :=
    hkeeps.stops [] earlyInterruptRun.trace (List.nil_append _).symm hdelivered hbefore
  have hsent : (executions (untested [] earlyInterruptRun.trace)).length = 4 := by decide +kernel
  have hle := honly.length_le
  rw [List.length_map, hsent] at hle
  exact absurd hle (by decide)

end M65
