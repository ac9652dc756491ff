import FloppyProbe.Probe.Inspect
import FloppyProbe.Probe.Test1581

/-!
# Reasons

A report whose code is not OK has a reason, whatever the transport, the allocator and the signals
do. Every function of `src/probe.c` that fails fills it in, and the cleanup only adds to it.
-/

namespace M65

open Interaction

/-! ## Texts -/

/-- A text that is appended makes a reason. -/
theorem reasonAppend_ne_nil {destination text : ErrorText} (h : text.bytes ≠ []) :
    (reasonAppend destination text).bytes ≠ [] := by
  unfold reasonAppend
  by_cases hempty : destination.bytes = []
  · have hpieces : Text.format [destination.bytes, if destination.bytes = [] then [] else str "; ",
        text.bytes] = (Text.format [text.bytes] : ErrorText) := by
      simp [Text.format, hempty]
    rw [hpieces]
    exact Text.format_ne_nil (by decide) (CString.ofBytes_bytes_ne_nil h)
  · exact Text.format_ne_nil (by decide) (CString.ofBytes_bytes_ne_nil hempty)

/-- The default for a detail that was left empty. -/
theorem detailOr_ne_nil {detail default : ErrorText} (h : default.bytes ≠ []) :
    (if detail.bytes = [] then default else detail).bytes ≠ [] := by
  split
  · exact h
  · assumption

/-! ## Parsers -/

/-- Every failure comes with a text that has the property `P`. -/
def Erring {α : Type} (P : ErrorText → Prop) (outcome : Except ErrorText α) : Prop :=
  ∀ detail, outcome = .error detail → P detail

namespace Erring

variable {α β : Type} {P : ErrorText → Prop} {outcome outcome' : Except ErrorText α}

/-- A success has no text. -/
theorem ok (value : α) : Erring P (.ok value) := by
  intro detail heq
  cases heq

/-- A failure has the text it was given. -/
theorem text {detail : ErrorText} (h : P detail) :
    Erring P (.error detail : Except ErrorText α) := by
  rintro detail' heq
  obtain rfl := Except.error.inj heq
  exact h

/-- It is enough to look at both branches. -/
theorem ite {c : Prop} [Decidable c] (h : Erring P outcome) (h' : Erring P outcome') :
    Erring P (if c then outcome else outcome') := by
  split
  · exact h
  · exact h'

/-- The texts are those of the outcome that is mapped. -/
theorem map {f : α → β} (h : Erring P outcome) : Erring P (outcome.map f) := by
  intro detail heq
  cases outcome with
  | error detail' =>
    obtain rfl := Except.error.inj heq
    exact h _ rfl
  | ok value => cases heq

end Erring

/-- Every failure comes with a text that is not empty. -/
def Telling {α : Type} (outcome : Except ErrorText α) : Prop :=
  Erring (fun detail => detail.bytes ≠ []) outcome

namespace Telling

variable {α : Type} {outcome outcome' : Except ErrorText α}

/-- A success has no text. -/
theorem ok (value : α) : Telling (.ok value) := Erring.ok value

/-- A literal of the source tells something, unless it is empty. -/
theorem error {text : String} (h : (CString.lit text).bytes ≠ []) :
    Telling (.error (errorText text) : Except ErrorText α) :=
  Erring.text (errorText_ne_nil h)

/-- A formatted text tells something when its first piece does. -/
theorem format {first : List UInt8} {rest : List (List UInt8)}
    (h : (CString.ofBytes first).bytes ≠ []) :
    Telling (.error (Text.format (first :: rest)) : Except ErrorText α) :=
  Erring.text (Text.format_ne_nil (by decide) h)

/-- It is enough to look at both branches. -/
theorem ite {c : Prop} [Decidable c] (h : Telling outcome) (h' : Telling outcome') :
    Telling (if c then outcome else outcome') := Erring.ite h h'

end Telling

/-- The parser of INQUIRY refuses with a text. -/
theorem parseInquiry_telling (data : List UInt8) (length : ℕ) :
    Telling (parseInquiry data length) :=
  .ite (.error (by decide)) (.ok _)

/-- The parser of READ CAPACITY (10) refuses with a text. -/
theorem parseReadCapacity10_telling (data : List UInt8) (length : ℕ) :
    Telling (parseReadCapacity10 data length) := by
  unfold parseReadCapacity10
  split
  · exact .ite (.error (by decide)) (.ok _)
  · exact .error (by decide)

/-- The parser of READ FORMAT CAPACITIES refuses with a text. -/
theorem parseFormatCapacities_telling (data : List UInt8) (length : ℕ) :
    Telling (parseFormatCapacities data length) := by
  refine .ite (.error (by decide)) (.ite (.error (by decide)) (.ite (.error (by decide))
    (.ite (.error (by decide)) ?_)))
  split
  · exact .ok _
  · exact .error (by decide)

/-- The texts with which `m65_parse_mode_parameters` refuses a response. -/
def modeParameterErrors : List String :=
  ["MODE SENSE (10) response is shorter than its header",
    "MODE SENSE (10) declared length is truncated or too large",
    "MODE SENSE block descriptor length exceeds the response",
    "MODE SENSE response has no Flexible Disk page",
    "MODE SENSE page header is truncated",
    "MODE SENSE subpages are not accepted for safety",
    "MODE SENSE page data is truncated",
    "Flexible Disk page is shorter than 32 bytes",
    "response does not contain a non-subpage Flexible Disk page",
    "Flexible Disk page length is malformed"]

section ModeParameters

variable {P : ErrorText → Prop} (h : ∀ text ∈ modeParameterErrors, P (errorText text))

include h

/-- The decoder of a page fails with a text of the list. -/
theorem decodeFlexible_erring (page : List UInt8) (length : ℕ) :
    Erring P (decodeFlexible page length) :=
  .ite (.text (h _ (by simp [modeParameterErrors])))
    (.ite (.text (h _ (by simp [modeParameterErrors])))
      (.ite (.text (h _ (by simp [modeParameterErrors]))) (.ok _)))

/-- The walk over the pages fails with a text of the list. -/
theorem walkModePages_erring (data : List UInt8) (declared fuel offset : ℕ) :
    Erring P (walkModePages data declared fuel offset) := by
  induction fuel generalizing offset with
  | zero => exact .text (h _ (by simp [modeParameterErrors]))
  | succ fuel ih =>
    refine .ite (.ite (.text (h _ ?_)) (.ite (.text (h _ ?_)) (.ite (.text (h _ ?_))
      (.ite (.map (decodeFlexible_erring h _ _)) (ih _))))) (.text (h _ ?_))
    all_goals simp [modeParameterErrors]

/-- The parser fails with a text of the list. -/
theorem parseModeParameters_erring (data : List UInt8) (length : ℕ) :
    Erring P (parseModeParameters data length) := by
  refine .ite (.text (h _ (by simp [modeParameterErrors]))) ?_
  split
  · refine .ite (.text (h _ (by simp [modeParameterErrors])))
      (.ite (.text (h _ (by simp [modeParameterErrors]))) ?_)
    exact (walkModePages_erring h _ _ _ _).map
  · exact .text (h _ (by simp [modeParameterErrors]))

end ModeParameters

/-- The parser of MODE SENSE refuses with a text. -/
theorem parseModeParameters_telling (data : List UInt8) (length : ℕ) :
    Telling (parseModeParameters data length) :=
  parseModeParameters_erring (by decide) data length

/-- The gate fails with a text that names a field. -/
theorem geometryChangesAllowed_erring {P : ErrorText → Prop}
    (h : ∀ field ∈ requiredFields, P (Text.format [str "controller mask does not permit requested ",
      str (flexibleFields field).name, str " change"])) (current desired mask : FlexibleDiskPage) :
    Erring P (geometryChangesAllowed current desired mask) := by
  unfold geometryChangesAllowed
  split
  next field hfound => exact .text (h field (List.mem_of_find?_eq_some hfound))
  next => exact .ok _

/-! ## Failed commands -/

/-- A failed command with a name has a reason. -/
theorem copyCommandFailure_ne_nil (sense : Sense) {operation : String} (result : CommandResult)
    (h : (CString.lit operation).bytes ≠ []) :
    (copyCommandFailure sense operation result).2.1.bytes ≠ [] := by
  unfold copyCommandFailure
  dsimp only
  split_ifs <;> exact Text.format_ne_nil (by decide) h

/-- A failed command has no good code. -/
theorem copyCommandFailure_code_ne (sense : Sense) (operation : String) (result : CommandResult) :
    (copyCommandFailure sense operation result).1 ≠ .ok := by
  cases hstatus : result.transportStatus <;> simp [copyCommandFailure, codeForTransport, hstatus]

/-! ## The inspection -/

/-- The reason tells what happened. -/
structure InspectReport.Explained (report : InspectReport) : Prop where
  good : report.code = .ok → report.reason = errorText "inspection completed"
  bad : report.code ≠ .ok → report.reason.bytes ≠ []

/-- A failure with its reason. -/
structure InspectReport.Failed (report : InspectReport) : Prop where
  code_ne : report.code ≠ .ok
  reason_ne : report.reason.bytes ≠ []

/-- A failure with its reason is explained. -/
theorem InspectReport.Failed.explained {report : InspectReport} (h : report.Failed) :
    report.Explained :=
  ⟨fun hok => absurd hok h.code_ne, fun _ => h.reason_ne⟩

/-- A failed command of the inspection is a failure with its reason. -/
theorem InspectReport.failed_commandFailure (report : InspectReport) {operation : String}
    (result : CommandResult) (h : (CString.lit operation).bytes ≠ []) :
    (report.commandFailure operation result).Failed :=
  ⟨copyCommandFailure_code_ne _ _ _, copyCommandFailure_ne_nil _ _ h⟩

/-- A stage whose failures are told. -/
def StageTold {α : Type} (out : Except InspectReport α) : Prop :=
  ∀ report, out = .error report → report.Failed

/-- A stage that went well has nothing to tell. -/
theorem stageTold_ok {α : Type} (response : α) : StageTold (.ok response) := by
  intro report heq
  cases heq

/-- A parsed command of the inspection tells its failures. -/
theorem inspectParsed_told {α : Type} {parse : List UInt8 → ℕ → Except ErrorText α}
    (hparse : ∀ data length, Telling (parse data length)) (report : InspectReport)
    {operation : String} (h : (CString.lit operation).bytes ≠ []) (cdb : Vector UInt8 16 × ℕ)
    (bufferSize : ℕ) :
    Ensures StageTold (inspectParsed report operation cdb bufferSize parse) := by
  have hinput : Ensures (fun out => ∀ report', out = .error report' → report'.reason.bytes ≠ [])
      (inspectInput report operation cdb bufferSize) := by
    refine .after fun reply => .ite (fun _ => .pure ?_) fun _ => .ite (fun _ => .pure ?_) fun _ =>
      .pure ?_
    · rintro report' heq
      obtain rfl := Except.error.inj heq
      exact (report.failed_commandFailure _ h).reason_ne
    · rintro report' heq
      obtain rfl := Except.error.inj heq
      exact errorText_ne_nil (by decide)
    · rintro report' heq
      cases heq
  refine .bind hinput fun input hinput => ?_
  -- every failure ends with a code other than OK, set here at the latest
  have hfailed : ∀ report' : InspectReport, report'.reason.bytes ≠ [] → StageTold
      (.error { report' with
        code := if report'.code = .ok then .transport else report'.code } : Except _ α) := by
    rintro report' hreason _ heq
    obtain rfl := Except.error.inj heq
    refine ⟨?_, hreason⟩
    by_cases hcode : report'.code = .ok <;> simp [hcode]
  cases input with
  | error report' => exact .pure (hfailed report' (hinput report' rfl))
  | ok buffer =>
    obtain ⟨buffer, transferred⟩ := buffer
    cases hresponse : parse buffer transferred with
    | error detail =>
      simp only [hresponse]
      exact .pure (hfailed { report with reason := detail }
        (hparse buffer transferred detail hresponse))
    | ok response =>
      simp only [hresponse]
      exact .pure (stageTold_ok response)

/-- The mode pages tell their failures. -/
theorem inspectModes_told (report : InspectReport) :
    Ensures InspectReport.Explained (inspectModes report) := by
  have hparse := parseModeParameters_telling
  refine .bind (inspectParsed_told hparse _ (by decide) _ _) fun out hout => ?_
  cases out with
  | error report => exact .pure (hout report rfl).explained
  | ok currentMode =>
    refine .bind (inspectParsed_told hparse _ (by decide) _ _) fun out hout => ?_
    cases out with
    | error report => exact .pure (hout report rfl).explained
    | ok changeableMode => exact .pure ⟨fun _ => rfl, fun hcode => absurd rfl hcode⟩

/-- The capacities tell their failures. -/
theorem inspectCapacities_told (report : InspectReport) :
    Ensures InspectReport.Explained (inspectCapacities report) := by
  refine .bind (inspectParsed_told parseReadCapacity10_telling _ (by decide) _ _) fun out hout => ?_
  cases out with
  | error report => exact .pure (hout report rfl).explained
  | ok capacity =>
    refine .bind (inspectParsed_told parseFormatCapacities_telling _ (by decide) _ _)
      fun out hout => ?_
    cases out with
    | error report => exact .pure (hout report rfl).explained
    | ok formatCapacities => exact inspectModes_told _

/-- The inspection of the controller tells its failures. -/
theorem inspectController_told (report : InspectReport) :
    Ensures InspectReport.Explained (inspectController report) := by
  refine .bind (inspectParsed_told parseInquiry_telling _ (by decide) _ _) fun out hout => ?_
  cases out with
  | error report => exact .pure (hout report rfl).explained
  | ok inquiry =>
    refine .after fun reply => .ite (fun _ => .pure ?_) fun _ => inspectCapacities_told _
    exact (InspectReport.failed_commandFailure _ _ (by decide)).explained

/-- A failure of the transport has no good code. -/
theorem codeForTransport_ne {status : TransportStatus} (h : status ≠ .ok) :
    codeForTransport status ≠ .ok := by
  cases status <;> simp_all [codeForTransport]

/-- The report of an inspection says that it was completed, or why it was not. -/
theorem inspect_told : Ensures InspectReport.Explained inspect := by
  refine .after fun _ => .after fun reply => .ite (fun hrefused => .pure ?_) fun _ => ?_
  · exact InspectReport.Failed.explained
      ⟨codeForTransport_ne hrefused, detailOr_ne_nil (errorText_ne_nil (by decide))⟩
  · refine .bind (inspectController_told _) fun report hreport => .after fun reply =>
      .ite (fun hlost => .pure ?_) fun _ => .pure hreport
    refine InspectReport.Failed.explained ⟨?_, ?_⟩
    · dsimp only
      split_ifs with hcode
      · exact codeForTransport_ne hlost
      · exact hcode
    · exact reasonAppend_ne_nil (detailOr_ne_nil (errorText_ne_nil (by decide)))

/-! ## The test -/

/-- A code that is not OK comes with a reason. -/
def Report1581.Explained (report : Report1581) : Prop :=
  report.code ≠ .ok → report.reason.bytes ≠ []

/-- A report with a reason is explained. -/
theorem Report1581.explained_of_reason {report : Report1581} (h : report.reason.bytes ≠ []) :
    report.Explained :=
  fun _ => h

/-- A failed command of the test is explained. -/
theorem Report1581.explained_commandFailure (report : Report1581) {operation : String}
    (result : CommandResult) (h : (CString.lit operation).bytes ≠ []) :
    (report.commandFailure operation result).Explained :=
  explained_of_reason (copyCommandFailure_ne_nil _ _ h)

/-- A read that failed is explained. -/
def ReadTold (out : Bool × List UInt8 × Report1581) : Prop := out.1 = false → out.2.2.Explained

/-- The loop of reads tells its failures. -/
theorem readImageFrom_told (lba : ℕ) (image : List UInt8) (report : Report1581) :
    Ensures ReadTold (readImageFrom lba image report) := by
  induction lba, image using readImageFrom.induct with
  | case1 lba image hlba ih =>
    rw [readImageFrom, dif_pos hlba]
    refine .after fun interrupted => .ite (fun _ => .pure fun _ => ?_) fun _ => .after fun out =>
      .ite (fun _ => .pure fun _ => ?_) fun _ => ih out.2
    · exact Report1581.explained_of_reason (errorText_ne_nil (by decide))
    · exact Report1581.explained_commandFailure _ _ (by decide)
  | case2 lba image hlba =>
    rw [readImageFrom, dif_neg hlba]
    exact .pure nofun

/-- Two reads tell their failures. -/
theorem readTwice_told (image secondImage : List UInt8) (report : Report1581) :
    Ensures Report1581.Explained (readTwice image secondImage report) := by
  refine .bind (readImageFrom_told _ _ _) fun ⟨done, image, report⟩ hread => .ite (fun hdone => ?_)
    fun _ => .bind (readImageFrom_told _ _ _) fun ⟨done, secondImage, report⟩ hread =>
      .ite (fun hdone => ?_) fun _ => .ite (fun _ => .pure ?_) fun _ => .pure ?_
  · exact .pure (hread (by simpa using hdone))
  · exact .pure (hread (by simpa using hdone))
  · exact Report1581.explained_of_reason (errorText_ne_nil (by decide))
  · exact Report1581.explained_of_reason (errorText_ne_nil (by decide))

/-- The comparison of two reads tells its failures. -/
theorem compareCompleteReads_told (report : Report1581) :
    Ensures Report1581.Explained (compareCompleteReads report) := by
  refine .after fun image => .after fun secondImage => ?_
  split
  · exact readTwice_told _ _ _
  · exact .pure (Report1581.explained_of_reason (errorText_ne_nil (by decide)))

/-- A boundary read tells its failure. -/
theorem probeBoundary_told (lba : UInt32) {operation : String} (report : Report1581)
    (h : (CString.lit operation).bytes ≠ []) :
    Ensures (fun out => out.1 = false → out.2.Explained) (probeBoundary lba operation report) := by
  refine .after fun out => .ite (fun _ => .ite (fun _ => .pure fun _ => ?_) fun _ =>
    .pure fun _ => ?_) fun _ => .pure nofun
  · exact Report1581.explained_of_reason (copyCommandFailure_ne_nil _ _ h)
  · exact Report1581.explained_commandFailure _ _ h

/-- The reads of the medium tell their failures. -/
theorem readMedium_told (report : Report1581) :
    Ensures Report1581.Explained (readMedium report) := by
  refine .bind (probeBoundary_told 9 _ (by decide)) fun ⟨read, report⟩ hread =>
    .ite (fun hfailed => .pure (hread (by simpa using hfailed))) fun _ =>
      .bind (probeBoundary_told 1599 _ (by decide)) fun ⟨read, report⟩ hread =>
        .ite (fun hfailed => .pure (hread (by simpa using hfailed))) fun _ =>
          compareCompleteReads_told _

/-- The verification tells its failures. -/
theorem verifyGeometry_told (report : Report1581) :
    Ensures Report1581.Explained (verifyGeometry report) := by
  refine .after fun ⟨result, mode⟩ => .ite (fun _ => .pure ?_) fun _ =>
    .ite (fun _ => .pure ?_) fun _ => readMedium_told _
  · exact Report1581.explained_commandFailure _ _ (by decide)
  · exact Report1581.explained_of_reason (errorText_ne_nil (by decide))

/-- The change tells its failures. -/
theorem changeGeometry_told (report : Report1581) :
    Ensures Report1581.Explained (changeGeometry report) := by
  refine .after fun result => .ite (fun _ => .ite (fun _ => .pure ?_) fun _ => .pure ?_) fun _ =>
    verifyGeometry_told _
  · exact Report1581.explained_of_reason (copyCommandFailure_ne_nil _ _ (by decide))
  · exact Report1581.explained_commandFailure _ _ (by decide)

/-- The probe tells its failures. -/
theorem probeGeometry_told (report : Report1581) :
    Ensures (fun progress => progress.report.Explained) (probeGeometry report) := by
  refine .after fun ⟨result, original⟩ => .ite (fun _ => .pure ?_) fun _ =>
    .after fun ⟨result, changeable⟩ => .ite (fun _ => .pure ?_) fun _ => ?_
  · exact Report1581.explained_commandFailure _ _ (by decide)
  · exact Report1581.explained_commandFailure _ _ (by decide)
  · dsimp only
    split
    next detail hrefused =>
      refine .pure (Report1581.explained_of_reason ?_)
      exact geometryChangesAllowed_erring (P := fun detail => detail.bytes ≠ [])
        (fun _ _ => Text.format_ne_nil (by decide) (by decide)) _ _ _ detail hrefused
    next => exact .bind (changeGeometry_told _) fun report hreport => .pure hreport

/-- A failed restoration is explained. -/
theorem Report1581.explained_restoreFailure (report : Report1581) (result : CommandResult) :
    (report.restoreFailure result).Explained := by
  refine explained_of_reason (reasonAppend_ne_nil ?_)
  split <;> exact Text.format_ne_nil (by decide) (by decide)

/-- The restoration tells its failures, and keeps what was told before. -/
theorem restoreController_told {progress : Progress} (h : progress.report.Explained) :
    Ensures Report1581.Explained (restoreController progress) := by
  refine .ite (fun _ => .after fun _ => .after fun result => .ite (fun _ => .pure h) fun _ =>
    .pure ?_) fun _ => .ite (fun _ => .pure h) fun _ => .pure h
  exact Report1581.explained_restoreFailure _ _

/-- The release tells its failure, and keeps what was told before. -/
theorem releaseController_told {report : Report1581} (h : report.Explained) :
    Ensures Report1581.Explained (releaseController report) := by
  refine .after fun reply => ?_
  have hreleased : ∀ report' : Report1581, report'.Explained → Ensures Report1581.Explained
      (if report'.status ≠ .supported then
        (pure { report' with image := none, imageLength := 0 } : Workflow Report1581)
      else pure report') :=
    fun report' hreport => .ite (fun _ => .pure hreport) fun _ => .pure hreport
  refine hreleased _ ?_
  by_cases hlost : reply.status ≠ .ok
  · simp only [if_pos hlost]
    exact Report1581.explained_of_reason
      (reasonAppend_ne_nil (detailOr_ne_nil (errorText_ne_nil (by decide))))
  · simp only [if_neg hlost]
    exact h

/-- The report of a test that failed says why. -/
theorem test1581_told (acknowledgement : Bool) :
    Ensures Report1581.Explained (test1581 acknowledgement) := by
  refine .after fun _ => .ite (fun _ => .pure ?_) fun _ => .after fun reply =>
    .ite (fun _ => .pure ?_) fun _ => .bind (probeGeometry_told _) fun progress hprogress =>
      .bind (restoreController_told hprogress) fun report hreport => releaseController_told hreport
  · exact Report1581.explained_of_reason (errorText_ne_nil (by decide))
  · exact Report1581.explained_of_reason (detailOr_ne_nil (errorText_ne_nil (by decide)))

end M65
