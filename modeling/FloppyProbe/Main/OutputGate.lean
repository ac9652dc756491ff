import FloppyProbe.Main.ExitStatus
import FloppyProbe.Main.NewFile
import FloppyProbe.Probe.Classification

/-!
# The gate before the output file

`run_selected` opens an output file only after a test with the verdict SUPPORTED, and its document
names the path only when `write_new_image` has written the image completely.
-/

namespace M65

open Interaction JsonText

/-! ## Parts of a trace -/

/-- The event, if it is a call to the file system. -/
def fileEventOf : MainEvent → Option (FileEvent Bool)
  | ⟨s, .file call, reply⟩ => some ⟨s, call, reply⟩
  | _ => none

/-- The event, if it is a call of the workflow. -/
def workflowEventOf : MainEvent → Option WorkflowEvent
  | ⟨s, .workflow call, reply⟩ => some ⟨s, call, reply⟩
  | _ => none

/-- The calls of the program to the file system. -/
def fileEvents (t : List MainEvent) : List (FileEvent Bool) := t.filterMap fileEventOf

/-- The calls of the program in the workflow. -/
def workflowEvents (t : List MainEvent) : List WorkflowEvent := t.filterMap workflowEventOf

/-- The member `output` of the result of a document. -/
def documentOutput (text : List UInt8) : Option Tree :=
  match parse text with
  | some (.object members) =>
      match members.lookup (str "result") with
      | some (.object result) => result.lookup (str "output")
      | _ => none
  | _ => none

/-- The image that a report holds. -/
def Report1581.capturedImage (report : Report1581) : List UInt8 :=
  (report.image.getD []).take report.imageLength

/-- The part of a trace that belongs to other calls. -/
theorem filterMap_lift_eq_nil {ι β : Type} {f : ι → MainCall} {part : MainEvent → Option β}
    (h : ∀ e : Event Bool fun i => MainReply (f i), part (e.lift f) = none)
    (l : List (Event Bool fun i => MainReply (f i))) :
    (l.map (Event.lift f)).filterMap part = [] := by
  rw [List.filterMap_map, List.filterMap_eq_nil_iff]
  exact fun e _ => h e

/-- The file calls of `write_new_image` are those of the program. -/
theorem fileEvents_lift_file (l : List (FileEvent Bool)) :
    fileEvents (l.map (Event.lift (σ := MainReply) MainCall.file)) = l := by
  rw [fileEvents, List.filterMap_map]
  exact List.filterMap_some

/-- The calls of the workflow are those of the program. -/
theorem workflowEvents_lift_workflow (l : List WorkflowEvent) :
    workflowEvents (l.map (Event.lift (σ := MainReply) MainCall.workflow)) = l := by
  rw [workflowEvents, List.filterMap_map]
  exact List.filterMap_some

section Setup

variable (l : List (Event Bool fun call => MainReply (.discovery call)))
  (l' : List (Event Bool fun call => MainReply (.creation call)))

/-- The discovery touches no file. -/
theorem fileEvents_lift_discovery :
    fileEvents (l.map (Event.lift (σ := MainReply) MainCall.discovery)) = [] :=
  filterMap_lift_eq_nil (fun _ => rfl) l

/-- The discovery makes no call of the workflow. -/
theorem workflowEvents_lift_discovery :
    workflowEvents (l.map (Event.lift (σ := MainReply) MainCall.discovery)) = [] :=
  filterMap_lift_eq_nil (fun _ => rfl) l

/-- The creation of a transport touches no file. -/
theorem fileEvents_lift_creation :
    fileEvents (l'.map (Event.lift (σ := MainReply) MainCall.creation)) = [] :=
  filterMap_lift_eq_nil (fun _ => rfl) l'

/-- The creation of a transport makes no call of the workflow. -/
theorem workflowEvents_lift_creation :
    workflowEvents (l'.map (Event.lift (σ := MainReply) MainCall.creation)) = [] :=
  filterMap_lift_eq_nil (fun _ => rfl) l'

end Setup

/-! ## Documents -/

/-- A printed document names the output that its members hold. -/
theorem documentOutput_eq {allocator : Allocator} {command text : CString} {calls : List JsonCall}
    {members result : List (List UInt8 × Tree)} (h : EmitsMembers calls members)
    (hprint : printDocument allocator command calls = some text)
    (hlookup : (topMembers command ++ members).lookup (str "result") = some (.object result)) :
    documentOutput text.bytes = result.lookup (str "output") := by
  rw [printDocument_eq_some h hprint]
  simp only [documentOutput, parse_render, hlookup]

/-- The path is named when the code is good. -/
def outputTree (code : ProbeCode) : Option CString → Tree
  | some path => if code = .ok then textTree path else nullTree
  | none => nullTree

/-- An output is named only with a good code. -/
theorem outputTree_eq_string {code : ProbeCode} {outputPath : Option CString} {name : List UInt8}
    (h : outputTree code outputPath = .scalar (.string name)) :
    code = .ok ∧ ∃ path, outputPath = some path ∧ path.bytes = name := by
  cases outputPath with
  | none => exact absurd h nofun
  | some path =>
    by_cases hcode : code = .ok
    · simp only [outputTree, hcode, if_true, textTree] at h
      injection h with hscalar
      injection hscalar with hname
      exact ⟨hcode, path, rfl, hname⟩
    · simp only [outputTree, hcode, if_false] at h
      exact absurd h nofun

section Documents

variable {allocator : Allocator} {text : CString} {device : DeviceInfo}

/-- The document of an inspection names no output. -/
theorem outputInspectJson_output {report : InspectReport}
    (h : outputInspectJson allocator device report = some text) :
    documentOutput text.bytes = none :=
  documentOutput_eq (emits_inspect device report) h rfl

/-- The document of a test names its output, if the code is good. -/
theorem output1581Json_output {report : Report1581} {outputPath : Option CString}
    (h : output1581Json allocator device report outputPath = some text) :
    documentOutput text.bytes = some (outputTree report.code outputPath) := by
  rw [documentOutput_eq (emits_1581 device report outputPath) h rfl]
  cases outputPath <;> rfl

end Documents

/-! ## The gate -/

/-- The run called `write_new_image` with the image of a test that gave the verdict SUPPORTED. -/
structure WritesOutput (options : CliOptions) (t : List MainEvent) (path : CString)
    (report : Report1581) (out : Except ErrorText Unit) : Prop where
  requested : options.output = some path
  tested : ∃ s s', Exec (test1581 options.acknowledgement) s (workflowEvents t) report s'
  supported : report.status = .supported
  called : ∃ s s', Exec (writeNewImage path report.capturedImage) s (fileEvents t) out s'

/-- What a run of `run_selected` does with the output. -/
structure OutputGate (options : CliOptions) (t : List MainEvent) : Prop where
  /-- There is no call to the file system without the verdict. -/
  guarded : fileEvents t ≠ [] → ∃ path report out, WritesOutput options t path report out
  /-- A path in the document is that of a file that holds the image. -/
  named : ∀ text ∈ documents t, ∀ name,
    documentOutput text.bytes = some (.scalar (.string name)) →
    ∃ path report, WritesOutput options t path report (.ok ()) ∧ path.bytes = name ∧
      ∀ store : FileStore,
        (store.afterAll (fileEvents t)).contents path = some report.capturedImage

variable {s s' : Bool} {t : List MainEvent} {report report' : Report1581}

/-- The report with which `run_selected` comes to the output. -/
structure TestedFirst (acknowledgement : Bool) (s : Bool) (t : List MainEvent) (report : Report1581)
    (s' : Bool) : Prop where
  noFile : fileEvents t = []
  supported_iff : report.status = .supported ↔ report.code = .ok
  tested : report.code = .ok → Exec (test1581 acknowledgement) s (workflowEvents t) report s'

/-- The report of a test comes from a run of the workflow, or there was no transport. -/
theorem tested_of_testSelected {acknowledgement : Bool} {created : Except CreationFailure Unit}
    (h : Exec (testSelected acknowledgement created) s t report s') :
    TestedFirst acknowledgement s t report s' := by
  cases created with
  | error failure =>
    obtain ⟨rfl, rfl, -⟩ := exec_pure.1 h
    have hcode := codeForCreation_ne failure.status
    exact ⟨rfl, iff_of_false nofun hcode, fun heq => absurd heq hcode⟩
  | ok =>
    obtain ⟨l, hl, rfl⟩ := (exec_lift (f := MainCall.workflow)).1 h
    refine ⟨filterMap_lift_eq_nil (fun _ => rfl) l, (classified_of_exec hl).supported_iff,
      fun _ => ?_⟩
    rwa [workflowEvents_lift_workflow]

/-- What becomes of the report and the output. -/
inductive OutputWritten (output : Option CString) (report : Report1581) (t : List MainEvent) :
    Report1581 → Prop
  | unneeded (ht : t = []) (hunneeded : report.code = .ok → output = none) :
      OutputWritten output report t report
  | written {path : CString} {s s' : Bool} (hpath : output = some path) (hcode : report.code = .ok)
      (ht : workflowEvents t = [])
      (hwrite : Exec (writeNewImage path report.capturedImage) s (fileEvents t) (.ok ()) s') :
      OutputWritten output report t report
  | failed {path : CString} {detail : ErrorText} {s s' : Bool} (hpath : output = some path)
      (hcode : report.code = .ok) (ht : workflowEvents t = [])
      (hwrite :
        Exec (writeNewImage path report.capturedImage) s (fileEvents t) (.error detail) s') :
      OutputWritten output report t (report.outputFailure detail)

/-- Every execution of the output is one of its cases. -/
theorem outputWritten_of_exec {output : Option CString}
    (h : Exec (writeOutput output report) s t report' s') :
    OutputWritten output report t report' := by
  cases output with
  | none =>
    obtain ⟨rfl, rfl, -⟩ := exec_pure.1 h
    exact .unneeded rfl fun _ => rfl
  | some path =>
    unfold writeOutput at h
    -- `write_output` leaves an unsupported report alone
    by_cases hcode : report.code = .ok
    · simp only [hcode, ne_eq, not_true_eq_false, if_false] at h
      rw [exec_bind] at h
      obtain ⟨t₁, out, s₁, t₂, hlift, h, rfl⟩ := h
      obtain ⟨l, hwrite, rfl⟩ := (exec_lift (f := MainCall.file)).1 hlift
      have hfile := fileEvents_lift_file l
      have hworkflow : workflowEvents (l.map (Event.lift (σ := MainReply) MainCall.file)) = [] :=
        filterMap_lift_eq_nil (fun _ => rfl) l
      cases out with
      | ok =>
        obtain ⟨rfl, rfl, -⟩ := exec_pure.1 h
        rw [List.append_nil]
        rw [← hfile] at hwrite
        exact .written rfl hcode hworkflow hwrite
      | error detail =>
        obtain ⟨rfl, rfl, -⟩ := exec_pure.1 h
        rw [List.append_nil]
        rw [← hfile] at hwrite
        exact .failed rfl hcode hworkflow hwrite
    · simp only [hcode, ne_eq, not_false_eq_true, if_true] at h
      obtain ⟨rfl, rfl, -⟩ := exec_pure.1 h
      exact .unneeded rfl fun heq => absurd heq hcode

/-- Printing touches neither files nor the device. -/
theorem Printed.parts {document : Allocator → Option CString} (h : Printed document t) :
    fileEvents t = [] ∧ workflowEvents t = [] := by
  constructor
  · rw [fileEvents, List.filterMap_eq_nil_iff]
    intro e he
    have hprints := h.prints e he
    obtain ⟨s, call, reply⟩ := e
    cases call <;> first | rfl | exact hprints.elim
  · rw [workflowEvents, List.filterMap_eq_nil_iff]
    intro e he
    have hprints := h.prints e he
    obtain ⟨s, call, reply⟩ := e
    cases call <;> first | rfl | exact hprints.elim

/-- An inspection touches no file. -/
theorem inspectSelected_noFile {created : Except CreationFailure Unit} {report : InspectReport}
    (h : Exec (inspectSelected created) s t report s') : fileEvents t = [] := by
  cases created with
  | error failure =>
    obtain ⟨rfl, -, -⟩ := exec_pure.1 h
    rfl
  | ok =>
    obtain ⟨l, -, rfl⟩ := (exec_lift (f := MainCall.workflow)).1 h
    exact filterMap_lift_eq_nil (fun _ => rfl) l

/-- The file calls of two traces come one after the other. -/
theorem fileEvents_append (t t' : List MainEvent) :
    fileEvents (t ++ t') = fileEvents t ++ fileEvents t' := List.filterMap_append

/-- The calls of the workflow in two traces come one after the other. -/
theorem workflowEvents_append (t t' : List MainEvent) :
    workflowEvents (t ++ t') = workflowEvents t ++ workflowEvents t' := List.filterMap_append

/-- The gate of a run that prints nothing before its end. -/
theorem outputGate_of_documents {options : CliOptions} {before after : List MainEvent}
    {document : Allocator → Option CString} (hbefore : ∀ e ∈ before, e.call.Touches)
    (hprinted : Printed document after)
    (hguarded : fileEvents before ≠ [] →
      ∃ path report out, WritesOutput options (before ++ after) path report out)
    (hnamed : ∀ {allocator text name}, document allocator = some text →
      documentOutput text.bytes = some (.scalar (.string name)) →
      ∃ path report, WritesOutput options (before ++ after) path report (.ok ()) ∧
        path.bytes = name) :
    OutputGate options (before ++ after) := by
  refine ⟨fun hfile => ?_, fun text htext name hname => ?_⟩
  · rw [fileEvents_append, hprinted.parts.1, List.append_nil] at hfile
    exact hguarded hfile
  · rw [documents_append, documents_eq_nil hbefore, List.nil_append] at htext
    obtain ⟨allocator, hdocument⟩ := hprinted.documents text htext
    obtain ⟨path, report, hwrites, hpath⟩ := hnamed hdocument hname
    refine ⟨path, report, hwrites, hpath, fun store => ?_⟩
    obtain ⟨s, s', hcalled⟩ := hwrites.called
    rw [(allOrNothing_of_exec hcalled).complete rfl store, Function.update_self]

/-- Every execution of `run_selected` keeps to the gate. -/
theorem outputGate_of_exec {options : CliOptions} {device : DeviceInfo} {status : ℕ}
    (h : Exec (runSelected options device) s t status s') : OutputGate options t := by
  unfold runSelected at h
  rw [exec_bind] at h
  obtain ⟨t₁, created, s₁, t₂, hcreated, h, rfl⟩ := h
  have htouches : ∀ e ∈ t₁, e.call.Touches :=
    touches_lift (f := MainCall.creation) (fun _ => trivial) _ hcreated
  obtain ⟨l, -, rfl⟩ := (exec_lift (f := MainCall.creation)).1 hcreated
  have hfile := fileEvents_lift_creation l
  have hworkflow := workflowEvents_lift_creation l
  -- an inspection has no file at all, and its document names none
  by_cases hcommand : options.command = .inspect
  · rw [if_pos hcommand, exec_bind] at h
    obtain ⟨u, report, s₂, v, hreport, h, rfl⟩ := h
    obtain ⟨rfl, hprinted⟩ := printed_of_exec h
    rw [← List.append_assoc]
    refine outputGate_of_documents
      (List.forall_mem_append.2 ⟨htouches, inspectSelected_touches _ hreport⟩) hprinted ?_ ?_
    · rw [fileEvents_append, hfile, inspectSelected_noFile hreport]
      exact fun hne => absurd rfl hne
    · intro allocator text name hdocument hname
      rw [outputInspectJson_output hdocument] at hname
      cases hname
  · rw [if_neg hcommand] at h
    simp only [exec_bind] at h
    obtain ⟨u, report, s₂, v, hreport, ⟨w, report', s₃, x, hwritten, h, rfl⟩, rfl⟩ := h
    obtain ⟨rfl, hprinted⟩ := printed_of_exec h
    have htested := tested_of_testSelected hreport
    -- a written file belongs to the tested report, since no other part of the run has such events
    have hwrites {path : CString} {out : Except ErrorText Unit} {s s' : Bool}
        (hpath : options.output = some path) (hcode : report.code = .ok)
        (hquiet : workflowEvents w = [])
        (hwrite : Exec (writeNewImage path report.capturedImage) s (fileEvents w) out s') :
        WritesOutput options (l.map (Event.lift MainCall.creation) ++ (u ++ w) ++ x) path report
          out := by
      refine ⟨hpath, ⟨s₁, s₂, ?_⟩, htested.supported_iff.2 hcode, ⟨s, s', ?_⟩⟩
      · simp only [workflowEvents_append, hworkflow, hquiet, hprinted.parts.2, List.nil_append,
          List.append_nil]
        exact htested.tested hcode
      · simp only [fileEvents_append, hfile, htested.noFile, hprinted.parts.1, List.nil_append,
          List.append_nil]
        exact hwrite
    rw [← List.append_assoc u, ← List.append_assoc]
    refine outputGate_of_documents (List.forall_mem_append.2 ⟨htouches, List.forall_mem_append.2
      ⟨testSelected_touches _ _ hreport, writeOutput_touches _ _ hwritten⟩⟩) hprinted ?_ ?_
    -- the file was touched, so `write_output` was given a path and a supported report
    · intro hne
      simp only [fileEvents_append, hfile, htested.noFile, List.nil_append] at hne
      cases outputWritten_of_exec hwritten with
      | unneeded ht => exact absurd (congrArg fileEvents ht) hne
      | written hpath hcode hquiet hwrite => exact ⟨_, _, _, hwrites hpath hcode hquiet hwrite⟩
      | failed hpath hcode hquiet hwrite => exact ⟨_, _, _, hwrites hpath hcode hquiet hwrite⟩
    · intro allocator text name hdocument hname
      rw [output1581Json_output hdocument] at hname
      -- a document that names the output was made from a report still without failure
      obtain ⟨hcode', path, hoptions, hbytes⟩ := outputTree_eq_string (Option.some.inj hname)
      cases outputWritten_of_exec hwritten with
      | unneeded _ hunneeded => cases (hunneeded hcode').symm.trans hoptions
      | written hpath hcode hquiet hwrite =>
        obtain rfl := Option.some.inj (hpath.symm.trans hoptions)
        exact ⟨_, _, hwrites hpath hcode hquiet hwrite, hbytes⟩
      | failed => cases hcode'

/-- Without the verdict the output is left alone. -/
theorem writeOutput_eq_pure {acknowledgement : Bool} {created : Except CreationFailure Unit}
    (h : Exec (testSelected acknowledgement created) s t report s')
    (hstatus : report.status ≠ .supported) (output : Option CString) :
    writeOutput output report = pure report := by
  cases output with
  | none => rfl
  | some path =>
    have hcode : report.code ≠ .ok := fun heq =>
      hstatus ((tested_of_testSelected h).supported_iff.2 heq)
    unfold writeOutput
    exact if_pos hcode

/-- The output file is written completely or not at all, only after a test with the verdict
SUPPORTED, and no document names it before that. -/
theorem outputFile_allOrNothing :
    (∀ (S : Type) path image (s : S) (r : Run (writeNewImage path image) s),
      AllOrNothing path image r.trace r.result) ∧
    (∀ acknowledgement created s (r : Run (testSelected acknowledgement created) s),
      r.result.status ≠ .supported →
      ∀ output, writeOutput output r.result = pure r.result) ∧
    ∀ options device s (r : Run (runSelected options device) s), OutputGate options r.trace :=
  ⟨fun _ _ _ _ r => allOrNothing_of_exec r.exec, fun _ _ _ r => writeOutput_eq_pure r.exec,
    fun _ _ _ r => outputGate_of_exec r.exec⟩

end M65
