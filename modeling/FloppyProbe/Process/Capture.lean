import FloppyProbe.Mac.Delivery
import FloppyProbe.Main.Grammar
import FloppyProbe.Main.OutputGate
import FloppyProbe.Process.Wire

/-!
# From the medium to the output file

A process touches the file system only for the output of an acknowledged `test-1581`, and only
after the device delivered the whole medium twice with the same bytes. These bytes are what it
writes, and the exit status says whether it wrote all of them.

* `processDeliveries`, `processFiles`: what came in at IOUSBLib, and the calls to the file system;
* `captured_of_exec`: the ways through `main` with a file and without one;
* `process_captures`: the whole way, from the data of the bulk transfers to the contents of the
  file.
-/

namespace M65

open Interaction

variable {thread : RunLoopRef} {argv : List CString} {s s' : Bool} {t : List MainEvent}
  {status : ℕ}

/-! ## The program -/

/-- The file that the command line asks for. -/
def requestedOutput (argv : List CString) : Option CString :=
  match cliParse argv with
  | .ok options => options.output
  | .error _ => none

/-- What a run of `main` has to do with the file system. -/
inductive Captured (argv : List CString) : List MainEvent → ℕ → Prop
  | untouched {t : List MainEvent} {status : ℕ} (hfiles : fileEvents t = [])
      (hstatus : status = 0 → requestedOutput argv = none) : Captured argv t status
  /-- An image is written after the test that captured it. -/
  | written {before after : List MainEvent} {status : ℕ} {path : CString} {report : Report1581}
      {out : Except ErrorText Unit} (houtput : requestedOutput argv = some path)
      (hchange : mayChange argv = true) (hfirst : fileEvents before = [])
      (htested : ∃ s s', Exec (test1581 true) s (workflowEvents before) report s')
      (hsupported : report.status = .supported)
      (hwritten : ∃ s s', Exec (writeNewImage path report.capturedImage) s (fileEvents after)
        out s')
      (hstatus : status = 0 ↔ out = .ok ()) : Captured argv (before ++ after) status

/-- A discovery in front captures nothing. -/
theorem Captured.after_discovery (h : Captured argv t status)
    (l : List (Event Bool fun call => MainReply (.discovery call))) :
    Captured argv (l.map (Event.lift MainCall.discovery) ++ t) status := by
  have hfiles := fileEvents_lift_discovery l
  have hworkflow := workflowEvents_lift_discovery l
  cases h with
  | untouched huntouched hstatus =>
    refine .untouched ?_ hstatus
    rw [fileEvents_append, hfiles, huntouched, List.append_nil]
  | written houtput hchange hfirst htested hsupported hwritten hstatus =>
    rw [← List.append_assoc]
    refine .written houtput hchange ?_ ?_ hsupported hwritten hstatus
    · rw [fileEvents_append, hfiles, hfirst, List.append_nil]
    · rwa [workflowEvents_append, hworkflow, List.nil_append]

/-- What the parser accepted passed its checks. -/
theorem allows_of_cliParse {options : CliOptions} (h : cliParse argv = .ok options) :
    options.command.Allows fun option => options.has option = true := by
  unfold cliParse at h
  split at h
  case h_2 => cases h
  case h_1 name word words =>
    split at h
    case h_1 => cases h
    case h_2 command _ =>
      split at h
      case h_1 => cases h
      case h_2 options' _ =>
        obtain ⟨rfl, hallows⟩ := checkOptions_eq_ok_iff.1 h
        exact hallows

/-- Only a test has an output. -/
theorem requestedOutput_eq_none {options : CliOptions} (hparse : cliParse argv = .ok options)
    (hcommand : options.command ≠ .test1581) : requestedOutput argv = none := by
  have hallows := allows_of_cliParse hparse
  have houtput : options.output.isSome = false := by
    cases hoption : options.command with
    | list =>
      rw [hoption] at hallows
      exact Bool.eq_false_iff.2 hallows.2.1
    | inspect =>
      rw [hoption] at hallows
      exact Bool.eq_false_iff.2 hallows.2.1
    | test1581 => exact absurd hoption hcommand
  simp only [requestedOutput, hparse]
  exact Option.isNone_iff_eq_none.1 (by simpa using houtput)

/-- Every execution of `run_selected` captures what it says. -/
theorem captured_of_runSelected {options : CliOptions} {device : DeviceInfo}
    (hparse : cliParse argv = .ok options) (hlist : options.command ≠ .list)
    (h : Exec (runSelected options device) s t status s') : Captured argv t status := by
  unfold runSelected at h
  obtain ⟨t₁, created, s₁, t₂, hcreated, h₁, rfl⟩ := exec_bind.1 h
  obtain ⟨l, -, rfl⟩ := (exec_lift (f := MainCall.creation)).1 hcreated
  have hfile := fileEvents_lift_creation l
  have hworkflow := workflowEvents_lift_creation l
  rw [exec_ite] at h₁
  rcases h₁ with ⟨hcommand, h₁⟩ | ⟨hcommand, h₁⟩
  · obtain ⟨u, report, s₂, v, hreport, h₂, rfl⟩ := exec_bind.1 h₁
    obtain ⟨-, hprinted⟩ := printed_of_exec h₂
    refine .untouched ?_ fun _ => requestedOutput_eq_none hparse (by simp [hcommand])
    rw [fileEvents_append, fileEvents_append, hfile, inspectSelected_noFile hreport,
      hprinted.parts.1]
    rfl
  · obtain ⟨u, report, s₂, v, hreport, h₂, rfl⟩ := exec_bind.1 h₁
    obtain ⟨w, report', s₃, x, hwritten, h₃, rfl⟩ := exec_bind.1 h₂
    obtain ⟨rfl, hprinted⟩ := printed_of_exec h₃
    have htest : options.command = .test1581 := by
      cases hoption : options.command with
      | list => exact absurd hoption hlist
      | inspect => exact absurd hoption hcommand
      | test1581 => rfl
    have hacknowledgement : options.acknowledgement = true := by
      have hallows := allows_of_cliParse hparse
      rw [htest] at hallows
      exact hallows.2
    have hchange : mayChange argv = true := by
      simp [mayChange, hparse, htest, hacknowledgement]
    have houtput : requestedOutput argv = options.output := by simp only [requestedOutput, hparse]
    have htested := tested_of_testSelected hreport
    -- the file belongs to the report of the test, since nothing else is called after it
    have hcaptured {path : CString} {out : Except ErrorText Unit} {s s' : Bool}
        (hpath : options.output = some path) (hcode : report.code = .ok)
        (hwrite : Exec (writeNewImage path report.capturedImage) s (fileEvents w) out s')
        (hstatus : exitCode report'.code = 0 ↔ out = .ok ()) :
        Captured argv (l.map (Event.lift MainCall.creation) ++ u ++ (w ++ x))
          (exitCode report'.code) := by
      refine .written (houtput.trans hpath) hchange ?_ ⟨s₁, s₂, ?_⟩
        (htested.supported_iff.2 hcode) ⟨s, s', ?_⟩ hstatus
      · rw [fileEvents_append, hfile, htested.noFile, List.append_nil]
      · rw [workflowEvents_append, hworkflow, List.nil_append, ← hacknowledgement]
        exact htested.tested hcode
      · rwa [fileEvents_append, hprinted.parts.1, List.append_nil]
    rw [← List.append_assoc]
    cases outputWritten_of_exec hwritten with
    | unneeded ht hunneeded =>
      subst ht
      refine .untouched ?_ fun hstatus => houtput.trans (hunneeded (exitCode_eq_zero_iff.1 hstatus))
      rw [fileEvents_append, fileEvents_append, hfile, htested.noFile, List.nil_append]
      exact hprinted.parts.1
    | written hpath hcode _ hwrite =>
      exact hcaptured hpath hcode hwrite (iff_of_true (exitCode_eq_zero_iff.2 hcode) rfl)
    | @failed _ detail _ _ hpath hcode _ hwrite =>
      have hfailed : exitCode (report.outputFailure detail).code ≠ 0 := by
        intro hstatus
        cases exitCode_eq_zero_iff.1 hstatus
      exact hcaptured hpath hcode hwrite (iff_of_false hfailed (by simp))

/-- Every execution of `main` captures what it says. -/
theorem captured_of_exec (h : Exec (main argv) s t status s') : Captured argv t status := by
  cases mainRun_of_exec h with
  | usage _ hprinted => exact .untouched hprinted.parts.1 (absurd · (by decide))
  | @notDiscovered l u _ _ _ _ _ hprinted =>
    exact Captured.after_discovery (.untouched hprinted.parts.1 (absurd · (by decide))) l
  | @discovered l u s₁ _ _ options devices hparse _ hrun =>
    refine Captured.after_discovery ?_ l
    cases hrun with
    | listed hcommand hprinted =>
      exact .untouched hprinted.parts.1 fun _ =>
        requestedOutput_eq_none hparse (by rw [hcommand]; exact nofun)
    | refused _ _ hprinted => exact .untouched hprinted.parts.1 (absurd · (by decide))
    | selected hcommand _ hrun => exact captured_of_runSelected hparse hcommand hrun

/-! ## The process -/

/-- What came in for which command block, over a whole process. -/
def processDeliveries : Recorder ProcessReply PendingBlock Delivery
  | pending, .usb call, reply => usbDeliveries pending call reply
  | pending, _, _ => (pending, [])

/-- The calls of a process to the file system. -/
def processFiles (t : List ProcessEvent) : List (FileEvent Bool) := fileEvents (mainCalls t)

/-- What a call of the program returned from the device. -/
def ToEndEvent.deliveries : ToEndEvent → List Delivery
  | ⟨_, .inl (.workflow (.transport (.execute command))), reply⟩ => command.delivery reply
  | _ => []

/-- The deliveries of a program are those of its workflow. -/
theorem flatMap_deliveries (l : List ToEndEvent) :
    l.flatMap ToEndEvent.deliveries =
      deliveriesOf (workflowEvents (l.filterMap Event.visible)) := by
  induction l with
  | nil => rfl
  | cons e l ih =>
    obtain ⟨s, call, reply⟩ := e
    rcases call with (_ | _ | (_ | _ | _ | (_ | command | _)) | _ | _ | _) | _
    case inl.workflow.transport.execute => exact congrArg (command.delivery reply ++ ·) ih
    all_goals exact ih

/-- The data that a call of the program returned came in during it. -/
theorem serve_delivers {e : ToEndEvent} {u u' : SystemState}
    {inner : List (Event SystemState ProcessReply)}
    (h : Exec (serve thread e.call) u inner e.reply u') (pending : PendingBlock) :
    e.deliveries.Sublist (processDeliveries.entries pending inner) := by
  obtain ⟨s, call, reply⟩ := e
  rcases call with (_ | _ | (_ | _ | _ | (_ | command | _)) | _ | _ | _) | _
  case inl.workflow.transport.execute =>
    obtain ⟨l, hl, rfl⟩ := exec_lift.1 h
    have hentries : processDeliveries.entries pending (l.map (Event.lift ProcessCall.usb)) =
        usbDeliveries.entries pending l := Recorder.entries_map fun _ _ _ => rfl
    rw [hentries]
    exact macTransport_delivers hl pending
  all_goals exact List.nil_sublist _

/-- The data that the workflow was given came in, in the same order. -/
theorem deliveriesOf_sublist {u u' : SystemState} {l : List ToEndEvent} {t : List ProcessEvent}
    (h : Served (serve thread) u l t u') :
    (deliveriesOf (workflowEvents (l.filterMap Event.visible))).Sublist
      (processDeliveries.entries none t) := by
  rw [← flatMap_deliveries]
  exact h.sublist_entries (fun e _ _ _ hexec => serve_delivers hexec) none

/-- How the output file came about: the device delivered its image twice before the file system
was called, which then wrote it as a whole or not at all. -/
structure Capture (path : CString) (image : List UInt8) (t : List ProcessEvent)
    (out : Except ErrorText Unit) : Prop where
  delivered : ∃ before after, t = before ++ after ∧ processFiles before = [] ∧
    DeliveredTwice image (processDeliveries.entries none before)
  size : image.length = imageSize1581
  written : AllOrNothing path image (processFiles t) out

/-- A process calls the file system only for the output of an acknowledged test whose medium was
delivered twice, and exits with 0 only if the file that was asked for holds what was delivered. -/
theorem process_captures {interrupted : Bool} (r : ProcessRun thread argv interrupted) :
    (processFiles r.trace ≠ [] → mayChange argv = true ∧ ∃ path image out,
      requestedOutput argv = some path ∧ Capture path image r.trace out) ∧
    (r.result = 0 → ∀ path, requestedOutput argv = some path →
      ∃ image, Capture path image r.trace (.ok ())) := by
  obtain ⟨trace, status, ⟨s', u'⟩, hexec⟩ := r
  obtain ⟨l, hmain, hserved⟩ := main_of_process hexec
  have hfiles {u u' : SystemState} {l : List ToEndEvent} {t : List ProcessEvent}
      (hserved : Served (serve thread) u l t u') :
      processFiles t = fileEvents (l.filterMap Event.visible) := by
    exact mainCalls_of_served hserved rfl
  have hcaptured := captured_of_exec hmain
  generalize hvisible : l.filterMap Event.visible = visible at hcaptured
  cases hcaptured with
  | untouched huntouched hstatus =>
    rw [← hvisible, ← hfiles hserved] at huntouched
    refine ⟨fun hne => absurd huntouched hne, fun hzero path hpath => ?_⟩
    exact absurd (hpath.symm.trans (hstatus hzero)) nofun
  | @written before after _ path report out houtput hchange hfirst htested hsupported hwritten
      hstatus =>
    -- the trace is cut where the file is created, and both deliveries lie before the cut
    obtain ⟨l₁, l₂, rfl, rfl, rfl⟩ := List.filterMap_eq_append_iff.1 hvisible
    obtain ⟨t₁, u₁, t₂, hserved₁, hserved₂, rfl⟩ := hserved.of_append
    obtain ⟨s₁, s₂, htest⟩ := htested
    obtain ⟨s₃, s₄, hwrite⟩ := hwritten
    have htwice : DeliveredTwice report.capturedImage (processDeliveries.entries none t₁) :=
      (deliveredTwice_of_exec htest hsupported).mono (deliveriesOf_sublist hserved₁)
    have hnone : processFiles t₁ = [] := (hfiles hserved₁).trans hfirst
    have happend : processFiles (t₁ ++ t₂) = processFiles t₁ ++ processFiles t₂ := by
      rw [processFiles, mainCalls, List.filterMap_append, fileEvents_append]
      rfl
    have hcapture : Capture path report.capturedImage (t₁ ++ t₂) out := by
      refine ⟨⟨t₁, t₂, rfl, hnone, htwice⟩, htwice.length_eq, ?_⟩
      rw [happend, hnone, List.nil_append, hfiles hserved₂]
      exact allOrNothing_of_exec hwrite
    refine ⟨fun _ => ⟨hchange, path, _, out, houtput, hcapture⟩, fun hzero path' hpath => ?_⟩
    obtain rfl := Option.some.inj (houtput.symm.trans hpath)
    obtain rfl := hstatus.1 hzero
    exact ⟨_, hcapture⟩

end M65
