import FloppyProbe.Main.ExitStatus
import FloppyProbe.Probe.Inspection
import FloppyProbe.Process.Capture

/-!
# From the device to the document

An `inspect` that exits with 0 prints what the parsers make of the data that IOUSBLib delivered,
for the device that was selected among the media of the I/O Registry.

* `inspectsDevice_of_exec`: the way through `main`;
* `process_inspects`: the whole way, from the data of the bulk transfers to the document.
-/

namespace M65

open Interaction

variable {thread : RunLoopRef} {argv : List CString} {s s' : Bool}

/-! ## The program -/

/-- A device that was chosen among the media of the registry, inspected, and printed. -/
structure InspectsDevice (options : CliOptions) (t : List MainEvent) (device : DeviceInfo)
    (report : InspectReport) : Prop where
  selected : ∃ s media, (⟨s, .discovery .ioIteratorNext, media⟩ : MainEvent) ∈ t ∧
    admitDevice (media.foldl addMedia {}) options.device = .ok device
  inspected : ∃ s s', Exec inspect s (workflowEvents t) report s'
  good : report.code = .ok
  printed : ∀ text ∈ documents t,
    ∃ allocator, outputInspectJson allocator device report = some text

/-- The part of `main` after the choice of the device. -/
theorem inspected_of_runSelected {options : CliOptions} {device : DeviceInfo} {t : List MainEvent}
    (hcommand : options.command = .inspect)
    (h : Exec (runSelected options device) s t 0 s') :
    ∃ report, (∃ s s', Exec inspect s (workflowEvents t) report s') ∧ report.code = .ok ∧
      ∀ text ∈ documents t, ∃ allocator, outputInspectJson allocator device report = some text := by
  unfold runSelected at h
  obtain ⟨t₁, created, s₁, t₂, hcreated, h₁, rfl⟩ := exec_bind.1 h
  rw [if_pos hcommand] at h₁
  obtain ⟨u, report, s₂, v, hreport, h₂, rfl⟩ := exec_bind.1 h₁
  obtain ⟨hstatus, hprinted⟩ := printed_of_exec h₂
  -- the status 0 leaves only the run whose transport was created
  have hcode : report.code = .ok := exitCode_eq_zero_iff.1 hstatus.symm
  cases created with
  | error failure =>
    obtain ⟨-, rfl, -⟩ := exec_pure.1 hreport
    exact absurd hcode (codeForCreation_ne failure.status)
  | ok =>
    obtain ⟨l, -, rfl⟩ := (exec_lift (f := MainCall.creation)).1 hcreated
    obtain ⟨w, hinspect, rfl⟩ := (exec_lift (f := MainCall.workflow)).1 hreport
    refine ⟨report, ⟨s₁, s₂, ?_⟩, hcode, ?_⟩
    · rw [workflowEvents_append, workflowEvents_append, workflowEvents_lift_workflow,
        hprinted.parts.2, List.append_nil, workflowEvents_lift_creation]
      exact hinspect
    · have hcreation : documents (l.map (Event.lift (σ := MainReply) MainCall.creation)) = [] :=
        filterMap_lift_eq_nil (fun _ => rfl) l
      have hworkflow : documents (w.map (Event.lift (σ := MainReply) MainCall.workflow)) = [] :=
        filterMap_lift_eq_nil (fun _ => rfl) w
      rw [documents_append, documents_append, hcreation, hworkflow]
      exact hprinted.documents

/-- An execution of `main` that inspects with success found the device and reports on it. -/
theorem inspectsDevice_of_exec {options : CliOptions} {t : List MainEvent}
    (hparse : cliParse argv = .ok options) (hcommand : options.command = .inspect)
    (h : Exec (main argv) s t 0 s') : ∃ device report, InspectsDevice options t device report := by
  generalize hstatus : 0 = status at h
  cases mainRun_of_exec h with
  | usage => cases hstatus
  | notDiscovered => cases hstatus
  | @discovered l u s₁ _ _ options' devices hparse' hdiscovery hrun =>
    obtain rfl := Except.ok.inj (hparse'.symm.trans hparse)
    -- neither a list nor a refusal has this command and the status 0
    cases hrun with
    | listed hlist => exact absurd (hlist.symm.trans hcommand) nofun
    | refused => cases hstatus
    | @selected _ _ device _ hadmitted hrun =>
      subst hstatus
      obtain ⟨report, hinspected, hgood, hprinted⟩ := inspected_of_runSelected hcommand hrun
      have hdocuments : documents (l.map (Event.lift MainCall.discovery)) = [] := by
        rw [documents, List.filterMap_map, List.filterMap_eq_nil_iff]
        exact fun _ _ => rfl
      refine ⟨device, report, ?_, ?_, hgood, ?_⟩
      · cases hdiscovery with
        | listed hmedia =>
          exact ⟨_, _, List.mem_append_left _ (List.mem_map.2 ⟨_, hmedia, rfl⟩), hadmitted⟩
      · rwa [workflowEvents_append, workflowEvents_lift_discovery]
      · rwa [documents_append, hdocuments]

/-! ## The process -/

/-- The selected device, what it delivered, and what was printed of it. -/
structure Inspects (options : CliOptions) (t : List ProcessEvent) (device : DeviceInfo)
    (report : InspectReport) : Prop where
  selected : ∃ s media, (⟨s, .discovery .ioIteratorNext, media⟩ : MainEvent) ∈ mainCalls t ∧
    admitDevice (media.foldl addMedia {}) options.device = .ok device
  delivered : ∃ inquiry capacity formats current changeable,
    [inquiry, capacity, formats, current, changeable].Sublist (processDeliveries.entries none t) ∧
      InspectionDelivered report inquiry capacity formats current changeable
  printed : ∀ text ∈ documents (mainCalls t),
    ∃ allocator, outputInspectJson allocator device report = some text

/-- An `inspect` that exits with 0 prints a report that is made of what the device delivered. -/
theorem process_inspects {interrupted : Bool} (r : ProcessRun thread argv interrupted)
    {options : CliOptions} (hparse : cliParse argv = .ok options)
    (hcommand : options.command = .inspect) (hresult : r.result = 0) :
    ∃ device report, Inspects options r.trace device report := by
  obtain ⟨trace, status, ⟨s', u'⟩, hexec⟩ := r
  obtain rfl : status = 0 := hresult
  obtain ⟨l, hmain, hserved⟩ := main_of_process hexec
  obtain ⟨device, report, hdevice⟩ := inspectsDevice_of_exec hparse hcommand hmain
  obtain ⟨s₁, s₂, hinspect⟩ := hdevice.inspected
  obtain ⟨inquiry, capacity, formats, current, changeable, hdeliveries, hdelivered⟩ :=
    inspectionDelivered_of_exec hinspect hdevice.good
  -- the device, the deliveries and the document, each carried over from the run of main
  refine ⟨device, report, ?_, ⟨inquiry, capacity, formats, current, changeable, ?_, hdelivered⟩, ?_⟩
  · obtain ⟨s₃, media, hmedia, hadmitted⟩ := hdevice.selected
    refine ⟨s₃, media, ?_, hadmitted⟩
    rw [mainCalls_eq_of_served hserved]
    exact List.mem_filterMap.2 ⟨_, hmedia, rfl⟩
  · rw [← hdeliveries]
    exact deliveriesOf_sublist hserved
  · have hdocuments : documents (mainCalls trace) = documents (l.filterMap Event.visible) :=
      mainCalls_of_served hserved rfl
    rw [hdocuments]
    exact hdevice.printed

/-! ## A drive that answers -/

/-- A floppy disk as the discovery sees it. -/
def diskMedia : Media where
  bsdName := some (CString.lit "disk4")
  vendorId := some 0x0644
  productId := some 0
  productString := some (CString.lit "TEAC UF000x")
  description := some
    { deviceInternal := some false, mediaRemovable := some true, mediaWhole := some true,
      mediaSize := some 819200, mediaBlockSize := some 512 }

/-- The USB interface of a known drive. -/
def ufiInterface : RegistryEntry where
  usbInterfaceClass := some 8
  usbInterfaceSubClass := some 4
  usbInterfaceProtocol := some 0
  usbVendorId := some 0x0644
  usbProductId := some 0
  exposesUsbInterfacePlugin := true

/-- What the drive returns into a buffer of `length` bytes. -/
def drivenData (length : ℕ) : List UInt8 :=
  if length = ufiSenseLength then 0x70 :: List.replicate 17 0
  else if length = 256 then modeResponse 0
  else List.replicate (min length 36) 0

/-- The replies of a system with one drive, which completes each request for an interrupt in the
first round of the run loop. -/
def driveSystem (n : ℕ) : (call : ProcessCall) → ProcessReply call
  | .discovery .ioIteratorNext => [diskMedia]
  | .discovery call => emptySystem true n (.discovery call)
  | .creation (.ioServiceGetMatchingService _) => [ufiInterface]
  | .creation .ioCreatePlugInInterfaceForService => ⟨0, true⟩
  | .creation .queryInterface => ⟨0, true⟩
  | .creation .calloc => true
  | .testInterrupt => 0
  | .clearInterrupt => 0
  | .malloc _ => none
  | .usb (.readPipeTO (n := length) _ _ _ _) =>
      ⟨kIOReturnSuccess, (drivenData length).length.toUInt32,
        Vector.ofFn fun i => (drivenData length).getD i 0⟩
  -- an exchange takes six or seven calls, and its request is the next one in the table
  | .usb call => workingInterface kIOReturnSuccess
      (some ⟨(n - 27) / 6, kIOReturnSuccess, 2, Vector.replicate _ 0⟩) n call
  | .uninitialised => Text.empty
  | .file call => emptySystem true n (.file call)
  | .jsonAllocator => generousAllocator
  | .fputs _ => ()

/-- `inspect --device disk4 --json` on such a system. -/
def inspectRun : ProcessRun ⟨0⟩ [CString.lit "m65-floppy-probe", CString.lit "inspect",
    CString.lit "--device", CString.lit "disk4", CString.lit "--json"] false :=
  (process _ _).replay driveSystem _

/-- A run that inspects such a drive. -/
theorem inspectRun_inspects :
    (documents (mainCalls inspectRun.trace)).length = 1 ∧
      ∃ options device report, Inspects options inspectRun.trace device report := by
  obtain ⟨hresult, hprinted⟩ : inspectRun.result = 0 ∧
      (documents (mainCalls inspectRun.trace)).length = 1 := by decide +kernel
  exact ⟨hprinted,
    { command := .inspect, device := some (CString.lit "disk4"), json := true },
    process_inspects inspectRun (by decide +kernel) rfl hresult⟩

end M65
