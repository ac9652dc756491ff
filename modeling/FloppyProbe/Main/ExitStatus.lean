import FloppyProbe.Main.Runs
import FloppyProbe.Output.Contents
import FloppyProbe.Probe.Reasons
import FloppyProbe.Probe.Trace

/-!
# Exit status and errors

The document that a run prints lists no error exactly when the exit status is 0, since every
failure leaves a reason behind. The one exception is a discovery in which `IOServiceMatching`
returns NULL: it fails without a detail, and the errors of its document are empty.
-/

namespace M65

open Interaction JsonText

/-! ## Errors of a document -/

/-- The elements of the `errors` array of a document. -/
def documentErrors (text : List UInt8) : Option (List Tree) :=
  match parse text with
  | some (.object members) =>
      match members.lookup (str "errors") with
      | some (.array errors) => some errors
      | _ => none
  | _ => none

/-- The exit status is 0 exactly when the document lists no error. -/
def StatusAgrees (status : ℕ) (text : CString) : Prop :=
  ∃ errors, documentErrors text.bytes = some errors ∧ (status = 0 ↔ errors = [])

/-- A printed document lists the errors that its members hold. -/
theorem documentErrors_eq {allocator : Allocator} {command text : CString} {calls : List JsonCall}
    {members : List (List UInt8 × Tree)} {errors : List Tree} (h : EmitsMembers calls members)
    (hprint : printDocument allocator command calls = some text)
    (hlookup : (topMembers command ++ members).lookup (str "errors") = some (.array errors)) :
    documentErrors text.bytes = some errors := by
  rw [printDocument_eq_some h hprint]
  simp only [documentErrors, parse_render, hlookup]

/-- A document with an error is one of a failure, and the other way round. -/
theorem statusAgrees_of_errors {status : ℕ} {text : CString} {error : Option CString}
    {sense : Option Sense} (herrors : documentErrors text.bytes = some
      ((error.filter (·.bytes ≠ [])).toList.map fun error => errorTree error sense))
    (hstatus : status = 0 ↔ ∀ detail, error = some detail → detail.bytes = []) :
    StatusAgrees status text := by
  refine ⟨_, herrors, hstatus.trans ?_⟩
  cases error with
  | none => simp
  | some detail => by_cases hempty : detail.bytes = [] <;> simp [hempty]

section Documents

variable {allocator : Allocator} {text : CString}

/-- The list of devices lists the error it is given, unless the text is empty. -/
theorem outputListJson_errors {list : DeviceList} {error : Option CString}
    (h : outputListJson allocator list error = some text) : documentErrors text.bytes = some
      ((error.filter (·.bytes ≠ [])).toList.map fun error => errorTree error none) :=
  documentErrors_eq (emits_list list error) h rfl

/-- A document of a failure lists the error it is given, unless the text is empty. -/
theorem outputErrorJson_errors {command : Option CString} {device : Option DeviceInfo}
    {error : Option CString} (h : outputErrorJson allocator command device error = some text) :
    documentErrors text.bytes = some
      ((error.filter (·.bytes ≠ [])).toList.map fun error => errorTree error none) :=
  documentErrors_eq (emits_error device error) h rfl

/-- The document of an inspection lists its reason, unless the code is good. -/
theorem outputInspectJson_errors {device : DeviceInfo} {report : InspectReport}
    (h : outputInspectJson allocator device report = some text) : documentErrors text.bytes = some
      (((if report.code = .ok then none else some report.reason.toCString).filter
        (·.bytes ≠ [])).toList.map fun error => errorTree error (some report.sense)) :=
  documentErrors_eq (emits_inspect device report) h rfl

/-- The document of a test lists its reason, unless the code is good. -/
theorem output1581Json_errors {device : DeviceInfo} {report : Report1581}
    {outputPath : Option CString}
    (h : output1581Json allocator device report outputPath = some text) :
    documentErrors text.bytes = some
      (((if report.code = .ok then none else some report.reason.toCString).filter
        (·.bytes ≠ [])).toList.map fun error => errorTree error (some report.sense)) :=
  documentErrors_eq (emits_1581 device report outputPath) h rfl

end Documents

/-! ## Reasons of failures -/

/-- `set_once` refuses with a text. -/
theorem setOnce_telling (destination : Option CString) (value : CString) {option : String}
    (h : (CString.lit option).bytes ≠ []) : Telling (setOnce destination value option) := by
  unfold setOnce
  split
  · exact .format h
  · exact .ok _

/-- The loop over the words refuses with a text. -/
theorem parseWords_telling (words : List CString) (options : CliOptions) :
    Telling (parseWords words options) := by
  fun_induction parseWords words options with
  | case1 => exact .ok _
  | case2 | case4 | case6 | case9 => exact .error (by decide)
  | case3 | case5 | case8 | case11 => assumption
  | case7 _ options _ _ _ value _ detail hfailed =>
    rintro _ heq
    obtain rfl := Except.error.inj heq
    exact setOnce_telling options.device value (by decide) _ hfailed
  | case10 _ options _ _ _ _ value _ detail hfailed =>
    rintro _ heq
    obtain rfl := Except.error.inj heq
    exact setOnce_telling options.output value (by decide) _ hfailed
  | case12 => exact .format (by decide)

/-- The checks of the options refuse with a text. -/
theorem checkOptions_telling (options : CliOptions) : Telling (checkOptions options) := by
  have hcommand : (CString.lit
      (if options.command = .inspect then "inspect" else "test-1581")).bytes ≠ [] := by
    split <;> decide
  exact .ite (.ite (.error (by decide)) (.ok _)) (.ite (.format hcommand)
    (.ite (.ite (.error (by decide)) (.ok _)) (.ite (.error (by decide)) (.ok _))))

/-- `m65_cli_parse` refuses with a text. -/
theorem cliParse_telling (argv : List CString) : Telling (cliParse argv) := by
  unfold cliParse
  split
  · split
    · exact .format (by decide)
    · split
      next detail hfailed =>
        rintro _ heq
        obtain rfl := Except.error.inj heq
        exact parseWords_telling _ _ _ hfailed
      next => exact checkOptions_telling _
  · exact .error (by decide)

/-- The creation of a USB transport fails with a text. -/
theorem usbCbiTransportCreate_told {S : Type} (bsdName : CString) :
    Ensures (fun out => ∀ failure, out = .error failure → failure.detail.bytes ≠ [])
      (usbCbiTransportCreate bsdName : Prog S CreationReply _) := by
  have hfailed : ∀ {status : TransportStatus} {detail : ErrorText}, detail.bytes ≠ [] →
      Ensures (fun out => ∀ failure, out = .error failure → failure.detail.bytes ≠ [])
        (pure (.error ⟨status, detail⟩) : Prog S CreationReply (Except CreationFailure Unit)) := by
    intro status detail h
    refine .pure ?_
    rintro failure heq
    obtain rfl := Except.error.inj heq
    exact h
  refine .ite (fun _ => hfailed (errorText_ne_nil (by decide))) fun _ => .after fun ancestry =>
    .ite (fun _ => hfailed (errorText_ne_nil (by decide))) fun _ => .after fun created =>
      .ite (fun _ => ?_) fun _ => .after fun queried => .ite (fun _ => ?_) fun _ =>
        .after fun io => .after fun context => .ite (fun _ => ?_) fun _ => .after fun transport =>
          .after fun engine => .ite (fun _ => ?_) fun _ => .pure nofun
  · exact .ite (fun _ => hfailed (errorText_ne_nil (by decide))) fun _ =>
      hfailed (Text.format_ne_nil (by decide) (by decide))
  · exact hfailed (Text.format_ne_nil (by decide) (by decide))
  · exact hfailed (errorText_ne_nil (by decide))
  · exact hfailed (errorText_ne_nil (by decide))

/-- Every outcome of the validation has a text. -/
theorem deviceValidationText_ne_nil (validation : DeviceValidation) :
    (errorText (deviceValidationText validation)).bytes ≠ [] := by
  cases validation <;> exact errorText_ne_nil (by decide)

/-- A device is refused with a text. -/
theorem admitDevice_told {devices : DeviceList} {bsdName : Option CString}
    {device : Option DeviceInfo} {detail : ErrorText}
    (h : admitDevice devices bsdName = .error (device, detail)) : detail.bytes ≠ [] := by
  unfold admitDevice at h
  split at h
  next ambiguous _ =>
    obtain ⟨-, rfl⟩ := Prod.mk.inj (Except.error.inj h)
    cases ambiguous <;> exact errorText_ne_nil (by decide)
  next =>
    split at h
    · cases h
    · obtain ⟨-, rfl⟩ := Prod.mk.inj (Except.error.inj h)
      exact deviceValidationText_ne_nil _

/-! ## The selected device -/

/-- The exit status is zero for the good code only. -/
theorem exitCode_eq_zero_iff {code : ProbeCode} : exitCode code = 0 ↔ code = .ok := by
  cases code <;> simp [exitCode]

/-- A transport that was not created gives no good code. -/
theorem codeForCreation_ne (status : TransportStatus) : codeForCreation status ≠ .ok := by
  cases status <;> simp [codeForCreation]

/-- A report with a good code has no error, and any other report has one. -/
theorem exitCode_eq_zero_iff_noError {code : ProbeCode} {reason : ErrorText}
    (h : code ≠ .ok → reason.bytes ≠ []) :
    exitCode code = 0 ↔
      ∀ detail, (if code = .ok then none else some reason.toCString) = some detail →
      detail.bytes = [] := by
  rw [exitCode_eq_zero_iff]
  by_cases hcode : code = .ok
  · simp [hcode]
  · simp [hcode, h hcode]

/-- The outcome of the creation is told when it is a failure. -/
def CreationTold (created : Except CreationFailure Unit) : Prop :=
  ∀ failure, created = .error failure → failure.detail.bytes ≠ []

/-- A failed inspection has a reason. -/
theorem inspectSelected_told {created : Except CreationFailure Unit} (h : CreationTold created) :
    Ensures (fun report => report.code ≠ .ok → report.reason.bytes ≠ [])
      (inspectSelected created) := by
  cases created with
  | error failure => exact .pure fun _ => h failure rfl
  | ok =>
    have hreport : Ensures InspectReport.Explained
        (Prog.lift MainCall.workflow inspect : Main InspectReport) :=
      Ensures.lift (f := MainCall.workflow) inspect_told
    exact hreport.mono fun report hreport => hreport.bad

/-- A failed test has a reason. -/
theorem testSelected_told (acknowledgement : Bool) {created : Except CreationFailure Unit}
    (h : CreationTold created) :
    Ensures Report1581.Explained (testSelected acknowledgement created) := by
  cases created with
  | error failure => exact .pure fun _ => h failure rfl
  | ok => exact Ensures.lift (f := MainCall.workflow) (test1581_told acknowledgement)

/-- A failed output has a reason. -/
theorem writeOutput_told (output : Option CString) {report : Report1581} (h : report.Explained) :
    Ensures Report1581.Explained (writeOutput output report) := by
  cases output with
  | none => exact .pure h
  | some path =>
    refine .ite (fun _ => .pure h) fun _ => .after fun out => ?_
    cases out with
    | ok => exact .pure h
    | error detail =>
      exact .pure (Report1581.explained_of_reason (Text.format_ne_nil (by decide) (by decide)))

/-- Only the device and the file system are touched. -/
theorem touches_lift {ι : Type} {f : ι → MainCall} (hf : ∀ i, (f i).Touches) {α : Type}
    (p : Prog Bool (fun i => MainReply (f i)) α) : Only MainCall.Touches (Prog.lift f p) := by
  intro s t a s' h e he
  obtain ⟨i, hi⟩ := Only.lift p h e he
  rw [hi]
  exact hf i

/-- An inspection prints nothing and discovers nothing. -/
theorem inspectSelected_touches (created : Except CreationFailure Unit) :
    Only MainCall.Touches (inspectSelected created) := by
  cases created with
  | error failure => exact .pure _
  | ok => exact touches_lift (f := MainCall.workflow) (fun _ => trivial) _

/-- A test prints nothing and discovers nothing. -/
theorem testSelected_touches (acknowledgement : Bool) (created : Except CreationFailure Unit) :
    Only MainCall.Touches (testSelected acknowledgement created) := by
  cases created with
  | error failure => exact .pure _
  | ok => exact touches_lift (f := MainCall.workflow) (fun _ => trivial) _

/-- The output file prints nothing and discovers nothing. -/
theorem writeOutput_touches (output : Option CString) (report : Report1581) :
    Only MainCall.Touches (writeOutput output report) := by
  cases output with
  | none => exact .pure _
  | some path =>
    refine .ite (.pure _) (.bind (touches_lift (f := MainCall.file) (fun _ => trivial) _)
      fun out => ?_)
    cases out with
    | ok => exact .pure _
    | error detail => exact .pure _

section Runs

variable {s s' : Bool} {t : List MainEvent} {status : ℕ}

/-- Where only the device and the file system are asked, no document is printed. -/
theorem documents_eq_nil (h : ∀ e ∈ t, e.call.Touches) : documents t = [] := by
  rw [documents, List.filterMap_eq_nil_iff]
  intro e he
  have htouches := h e he
  split
  next document heq =>
    rw [heq] at htouches
    exact htouches.elim
  next => rfl

/-- `IOServiceMatching` returned NULL. -/
def RefusesMatching : MainEvent → Prop
  | ⟨_, .discovery .ioServiceMatching, reply⟩ => reply = false
  | _ => False

instance : DecidablePred RefusesMatching
  | ⟨_, .discovery .ioServiceMatching, reply⟩ =>
      inferInstanceAs (Decidable ((reply : Bool) = false))
  | ⟨_, .discovery .daSessionCreate, _⟩ => .isFalse id
  | ⟨_, .discovery .ioServiceGetMatchingServices, _⟩ => .isFalse id
  | ⟨_, .discovery .ioIteratorNext, _⟩ => .isFalse id
  | ⟨_, .creation _, _⟩ => .isFalse id
  | ⟨_, .workflow _, _⟩ => .isFalse id
  | ⟨_, .file _, _⟩ => .isFalse id
  | ⟨_, .jsonAllocator, _⟩ => .isFalse id
  | ⟨_, .fputs _, _⟩ => .isFalse id

/-- The discovery of the program refuses what its own trace refuses. -/
theorem refusesMatching_lift_iff (e : Event Bool DiscoveryReply) :
    RefusesMatching (e.lift MainCall.discovery) ↔ MatchingRefused e := by
  obtain ⟨s, call, reply⟩ := e
  cases call <;> rfl

/-- A refused matching is neither a call to the device nor a document. -/
theorem RefusesMatching.not_touches {e : MainEvent} (h : RefusesMatching e) :
    ¬e.call.Touches ∧ ¬e.call.Prints := by
  obtain ⟨s, call, reply⟩ := e
  cases call with
  | discovery call => exact ⟨id, id⟩
  | _ => exact h.elim

/-- A document agrees with a status that is zero exactly when the document has no error. -/
theorem agrees_of_printed {document : Allocator → Option CString} (h : Printed document t)
    {error : Option CString} {sense : Option Sense}
    (herrors : ∀ {allocator text}, document allocator = some text →
      documentErrors text.bytes = some
        ((error.filter (·.bytes ≠ [])).toList.map fun error => errorTree error sense))
    (hstatus : status = 0 ↔ ∀ detail, error = some detail → detail.bytes = []) :
    ∀ text ∈ documents t, StatusAgrees status text := by
  intro text htext
  obtain ⟨allocator, hdocument⟩ := h.documents text htext
  exact statusAgrees_of_errors (herrors hdocument) hstatus

/-- `run_selected` prints documents that agree with its exit status. -/
theorem runSelected_agrees {options : CliOptions} {device : DeviceInfo}
    (h : Exec (runSelected options device) s t status s') :
    (∀ text ∈ documents t, StatusAgrees status text) ∧ ∀ e ∈ t, ¬RefusesMatching e := by
  unfold runSelected at h
  rw [exec_bind] at h
  obtain ⟨t₁, created, s₁, t₂, hcreated, h, rfl⟩ := h
  have htouches : ∀ e ∈ t₁, e.call.Touches :=
    touches_lift (f := MainCall.creation) (fun _ => trivial) _ hcreated
  have htold : CreationTold created :=
    Ensures.lift (f := MainCall.creation) (usbCbiTransportCreate_told _) hcreated
  -- what comes before the document neither prints nor asks for a discovery
  have hassemble : ∀ {before after : List MainEvent} {document : Allocator → Option CString},
      (∀ e ∈ before, e.call.Touches) → Printed document after →
      (∀ text ∈ documents after, StatusAgrees status text) →
      (∀ text ∈ documents (before ++ after), StatusAgrees status text) ∧
        ∀ e ∈ before ++ after, ¬RefusesMatching e := by
    intro before after document hbefore hprinted hagrees
    refine ⟨?_, List.forall_mem_append.2 ⟨fun e he hrefuses => ?_, fun e he hrefuses => ?_⟩⟩
    · rwa [documents_append, documents_eq_nil hbefore, List.nil_append]
    · exact hrefuses.not_touches.1 (hbefore e he)
    · exact hrefuses.not_touches.2 (hprinted.prints e he)
  -- the report says the error that the exit code is taken from, for either command
  by_cases hcommand : options.command = .inspect
  · rw [if_pos hcommand, exec_bind] at h
    obtain ⟨u, report, s₂, v, hreport, h, rfl⟩ := h
    obtain ⟨rfl, hprinted⟩ := printed_of_exec h
    rw [← List.append_assoc]
    refine hassemble (List.forall_mem_append.2 ⟨htouches, inspectSelected_touches _ hreport⟩)
      hprinted (agrees_of_printed hprinted outputInspectJson_errors ?_)
    exact exitCode_eq_zero_iff_noError (inspectSelected_told htold hreport)
  · rw [if_neg hcommand] at h
    simp only [exec_bind] at h
    obtain ⟨u, report, s₂, v, hreport, ⟨w, report', s₃, x, hwritten, h, rfl⟩, rfl⟩ := h
    obtain ⟨rfl, hprinted⟩ := printed_of_exec h
    rw [← List.append_assoc, ← List.append_assoc]
    refine hassemble (List.forall_mem_append.2 ⟨List.forall_mem_append.2
      ⟨htouches, testSelected_touches _ _ hreport⟩, writeOutput_touches _ _ hwritten⟩)
      hprinted (agrees_of_printed hprinted output1581Json_errors ?_)
    exact exitCode_eq_zero_iff_noError
      (writeOutput_told _ (testSelected_told _ htold hreport) hwritten)

end Runs

/-! ## The program -/

/-- A failure with a text is an error that a document lists. -/
theorem failure_iff {status : ℕ} {detail : CString} (hstatus : status ≠ 0)
    (h : detail.bytes ≠ []) :
    status = 0 ↔ ∀ detail', some detail = some detail' → detail'.bytes = [] :=
  iff_of_false hstatus fun hall => h (hall detail rfl)

/-- The discovery prints no document. -/
theorem documents_lift (l : List (Event Bool DiscoveryReply)) :
    documents (l.map (Event.lift (σ := MainReply) MainCall.discovery)) = [] := by
  rw [documents, List.filterMap_eq_nil_iff]
  intro e he
  obtain ⟨e', -, rfl⟩ := List.mem_map.1 he
  rfl

/-- A matching is refused in the program when it is refused in its discovery. -/
theorem exists_refusesMatching_iff {l : List (Event Bool DiscoveryReply)} {t : List MainEvent} :
    (∃ e ∈ l.map (Event.lift (σ := MainReply) MainCall.discovery) ++ t, RefusesMatching e) ↔
      (∃ e ∈ l, MatchingRefused e) ∨ ∃ e ∈ t, RefusesMatching e := by
  constructor
  · rintro ⟨e, he, hrefuses⟩
    rcases List.mem_append.1 he with he | he
    · obtain ⟨e', he', rfl⟩ := List.mem_map.1 he
      exact .inl ⟨e', he', (refusesMatching_lift_iff e').1 hrefuses⟩
    · exact .inr ⟨e, he, hrefuses⟩
  · rintro (⟨e, he, hrefused⟩ | ⟨e, he, hrefuses⟩)
    · exact ⟨_, List.mem_append_left _ (List.mem_map_of_mem he),
        (refusesMatching_lift_iff e).2 hrefused⟩
    · exact ⟨e, List.mem_append_right _ he, hrefuses⟩

/-- From the enumeration on, status and document agree. -/
theorem devicesRun_agrees {options : CliOptions} {devices : DeviceList} {s s' : Bool}
    {t : List MainEvent} {status : ℕ} (h : DevicesRun options devices s t status s') :
    (∀ text ∈ documents t, StatusAgrees status text) ∧ ∀ e ∈ t, ¬RefusesMatching e := by
  have hquiet : ∀ {t : List MainEvent}, (∀ e ∈ t, e.call.Prints) → ∀ e ∈ t, ¬RefusesMatching e :=
    fun hprints e he hrefuses => hrefuses.not_touches.2 (hprints e he)
  cases h with
  | listed _ hprinted =>
    refine ⟨agrees_of_printed hprinted outputListJson_errors ?_, hquiet hprinted.prints⟩
    by_cases hempty : devices.items = []
    · rw [if_pos hempty, if_pos hempty]
      exact failure_iff (by decide) (by decide)
    · rw [if_neg hempty, if_neg hempty]
      simp
  | refused _ hrefused hprinted =>
    refine ⟨agrees_of_printed hprinted outputErrorJson_errors ?_, hquiet hprinted.prints⟩
    exact failure_iff (by decide) (admitDevice_told hrefused)
  | selected _ _ hrun => exact runSelected_agrees hrun

/-- Status and document agree in every run but those in which `IOServiceMatching` returned NULL. -/
theorem mainRun_agrees_iff {argv : List CString} {s s' : Bool} {t : List MainEvent} {status : ℕ}
    (h : MainRun argv s t status s') {text : CString} (htext : text ∈ documents t) :
    StatusAgrees status text ↔ ¬∃ e ∈ t, RefusesMatching e := by
  have hquiet : ∀ {t : List MainEvent}, (∀ e ∈ t, e.call.Prints) → ¬∃ e ∈ t, RefusesMatching e :=
    fun hprints ⟨e, he, hrefuses⟩ => hrefuses.not_touches.2 (hprints e he)
  cases h with
  | usage hparse hprinted =>
    refine iff_of_true (agrees_of_printed hprinted outputErrorJson_errors ?_ text htext)
      (hquiet hprinted.prints)
    exact failure_iff (by decide) (cliParse_telling argv _ hparse)
  | notDiscovered hparse hdiscovery hprinted =>
    rw [documents_append, documents_lift, List.nil_append] at htext
    rw [exists_refusesMatching_iff]
    cases hdiscovery with
    | failed htold hmatching =>
      refine iff_of_true (agrees_of_printed hprinted outputErrorJson_errors ?_ text htext) ?_
      · exact failure_iff (by decide) htold
      · rintro (⟨e, he, hrefused⟩ | hrefused)
        · exact hmatching e he hrefused
        · exact hquiet hprinted.prints hrefused
    -- the one case that disagrees: the status is EXIT_FAILURE, and the error's text is empty
    | silent hmatching =>
      refine iff_of_false ?_ (not_not_intro (.inl hmatching))
      obtain ⟨allocator, hdocument⟩ := hprinted.documents text htext
      have hnone : documentErrors text.bytes = some [] := outputErrorJson_errors hdocument
      rintro ⟨errors, herrors, hagrees⟩
      rw [hnone] at herrors
      exact absurd (hagrees.2 (Option.some.inj herrors).symm) (by decide)
  -- the discovery refused nothing, and neither does what follows it
  | discovered hparse hdiscovery hrun =>
    rw [documents_append, documents_lift, List.nil_append] at htext
    obtain ⟨hagrees, hothers⟩ := devicesRun_agrees hrun
    refine iff_of_true (hagrees text htext) ?_
    rw [exists_refusesMatching_iff]
    cases hdiscovery with
    | listed _ hmatching =>
      rintro (⟨e, he, hrefused⟩ | ⟨e, he, hrefused⟩)
      · exact hmatching e he hrefused
      · exact hothers e he hrefused

/-- The exit status is 0 exactly when the printed document lists no error, in every run but those
in which `IOServiceMatching` returned NULL. -/
theorem main_statusAgrees_iff {argv : List CString} (r : Run (main argv) false) {text : CString}
    (h : text ∈ documents r.trace) :
    StatusAgrees r.result text ↔ ¬∃ e ∈ r.trace, RefusesMatching e :=
  mainRun_agrees_iff (mainRun_of_exec r.exec) h

/-- The replies of a system without devices, on which `IOServiceMatching` gives a dictionary or
not. -/
def emptySystem (matching : Bool) (_ : ℕ) : (call : MainCall) → MainReply call
  | .discovery .daSessionCreate => true
  | .discovery .ioServiceMatching => matching
  | .discovery .ioServiceGetMatchingServices => kernSuccess
  | .discovery .ioIteratorNext => []
  | .creation (.ioServiceGetMatchingService _) => []
  | .creation .ioCreatePlugInInterfaceForService => ⟨0, false⟩
  | .creation .queryInterface => ⟨0, false⟩
  | .creation .calloc => false
  | .workflow call => answering [] 0 call
  | .file (.openExclusive _) => none
  | .file (.write _) => .wrote 0
  | .file .close => none
  | .file (.unlink _) => true
  | .jsonAllocator => generousAllocator
  | .fputs _ => ()

/-- `list --json` on such a system. -/
def listRun (matching : Bool) : Run (main [CString.lit "m65-floppy-probe", CString.lit "list",
    CString.lit "--json"]) false :=
  (main _).replay (emptySystem matching) false

/-- On a working system the list agrees with its exit status. -/
theorem listRun_statusAgrees :
    ∃ text ∈ documents (listRun true).trace, StatusAgrees (listRun true).result text := by
  have hprinted : (documents (listRun true).trace).length = 1 := by decide +kernel
  obtain ⟨text, htext⟩ := List.length_eq_one_iff.1 hprinted
  have hmem : text ∈ documents (listRun true).trace := by simp [htext]
  have hmatching : ¬∃ e ∈ (listRun true).trace, RefusesMatching e := by decide +kernel
  exact ⟨text, hmem, (main_statusAgrees_iff (listRun true) hmem).2 hmatching⟩

/-- The failure without a detail is printed with an empty list of errors. -/
theorem silentDiscovery_not_statusAgrees :
    ¬ ∀ (argv : List CString) (r : Run (main argv) false),
      ∀ text ∈ documents r.trace, StatusAgrees r.result text := by
  intro hall
  have hprinted : (documents (listRun false).trace).length = 1 := by decide +kernel
  obtain ⟨text, htext⟩ := List.length_eq_one_iff.1 hprinted
  have hmem : text ∈ documents (listRun false).trace := by simp [htext]
  have hmatching : ∃ e ∈ (listRun false).trace, RefusesMatching e := by decide +kernel
  have hrun := mainRun_of_exec (listRun false).exec
  exact (mainRun_agrees_iff hrun hmem).1 (hall _ (listRun false) text hmem) hmatching

end M65
