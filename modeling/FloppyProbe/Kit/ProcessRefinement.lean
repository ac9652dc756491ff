import FloppyProbe.Kit.DiscoveryRefinement
import FloppyProbe.Kit.Process
import FloppyProbe.Kit.UsbRefinement
import FloppyProbe.Process.Process

/-!
# The program refines `main`

A run of the program of `Kit/Process.lean` that comes to its end is made into a run of `main` of
`Main/Main.lean`: its calls without objects stay as they are, and the calls on objects become those
of the discovery and the creation for the media and the ancestry that they read (`MadeOf`).

* `process_refines`: so the program ends as `main` may end, with the same workflow, output file,
  documents and exit status.
-/

namespace M65.Kit

open Interaction

variable {s s' : Bool}

/-! ## Traces -/

section Traces

/-- The calls of `main` that no calls on objects stand behind. -/
def Outside : MainCall → Prop
  | .discovery _ => False
  | .creation _ => False
  | _ => True

instance : DecidablePred Outside
  | .discovery _ => inferInstanceAs (Decidable False)
  | .creation _ => inferInstanceAs (Decidable False)
  | .workflow _ | .file _ | .jsonAllocator | .fputs _ => inferInstanceAs (Decidable True)

/-- A run of `main` that is made of a trace: the same calls outside, and what the trace read. -/
structure MadeOf (t : List KitMainEvent) (l : List MainEvent) : Prop where
  outside : l.filter (fun e => Outside e.call) = t.filterMap Event.visible
  media : ∀ s media, (⟨s, .discovery .ioIteratorNext, media⟩ : MainEvent) ∈ l →
    media = mediaOf (t.filterMap objectCall)
  ancestry : ∀ s name ancestry,
    (⟨s, .creation (.ioServiceGetMatchingService name), ancestry⟩ : MainEvent) ∈ l →
      ancestry = ancestryOf (t.filterMap objectCall)

/-- Such a run without a discovery. -/
structure MadeUndiscovered (t : List KitMainEvent) (l : List MainEvent) : Prop extends
    MadeOf t l where
  undiscovered : ∀ e ∈ l, ∀ call, e.call ≠ .discovery call
  notNext : ∀ e ∈ t.filterMap objectCall, NotNext e.call

end Traces

/-! ## Parts of `main` -/

section Parts

/-- Printing is outside the objects. -/
theorem outside_of_prints {call : MainCall} (h : call.Prints) : Outside call := by
  cases call <;> trivial

/-- The workflow is outside the objects. -/
theorem workflow_outside {α : Type} (p : Workflow α) :
    Only Outside (Prog.lift MainCall.workflow p : Main α) := by
  have hlift : Only (∃ call, · = MainCall.workflow call)
      (Prog.lift MainCall.workflow p : Main α) := .lift _
  refine hlift.mono fun call hcall => ?_
  obtain ⟨_, rfl⟩ := hcall
  trivial

/-- An inspection is outside the objects. -/
theorem inspectSelected_outside (created : Except CreationFailure Unit) :
    Only Outside (inspectSelected created) := by
  cases created with
  | error failure => exact .pure _
  | ok => exact workflow_outside inspect

/-- A test is outside the objects. -/
theorem testSelected_outside (acknowledgement : Bool) (created : Except CreationFailure Unit) :
    Only Outside (testSelected acknowledgement created) := by
  cases created with
  | error failure => exact .pure _
  | ok => exact workflow_outside (test1581 acknowledgement)

/-- The document is printed outside the objects. -/
theorem printed_outside {status : ℕ} (json : Bool) (document : Allocator → Option CString) :
    Only Outside
      (if json then (do printJson document; return status : Main ℕ) else return status) :=
  (printed_prints json document).mono fun _ => outside_of_prints

/-- The image is written outside the objects. -/
theorem writeOutput_outside (output : Option CString) (report : Report1581) :
    Only Outside (writeOutput output report) :=
  (writeOutput_only output report).mono fun _ ⟨_, hcall⟩ => by rw [hcall]; trivial

/-- `run_selected` from the creation on. -/
def afterCreation (options : CliOptions) (device : DeviceInfo)
    (created : Except CreationFailure Unit) : Main ℕ :=
  if options.command = .inspect then do
    let report ← inspectSelected created
    if options.json then
      printJson fun allocator => outputInspectJson allocator device report
    return exitCode report.code
  else do
    let report ← testSelected options.acknowledgement created
    let report ← writeOutput options.output report
    if options.json then
      printJson fun allocator => output1581Json allocator device report options.output
    return exitCode report.code

/-- A run on a device is its creation and what comes after it. -/
theorem runSelected_eq (options : CliOptions) (device : DeviceInfo) :
    M65.runSelected options device =
      Prog.lift MainCall.creation (M65.usbCbiTransportCreate device.bsdName.toCString) >>=
        afterCreation options device := rfl

/-- What comes after the creation is outside the objects. -/
theorem afterCreation_outside (options : CliOptions) (device : DeviceInfo)
    (created : Except CreationFailure Unit) :
    Only Outside (afterCreation options device created) :=
  .ite (.bind (inspectSelected_outside _) fun _ => printed_outside _ _)
    (.bind (testSelected_outside _ _) fun _ => .bind (writeOutput_outside _ _) fun _ =>
      printed_outside _ _)

/-- The destruction in between leaves the state alone. -/
theorem runCreated_of_exec {options : CliOptions} {device : DeviceInfo}
    {created : Except CreationFailure Unit} {destroy : Prog Bool KitReply Unit}
    {t : List KitMainEvent} {ended : Ended}
    (hdestroy : ∀ s u v s', Exec destroy s u v s' → s' = s)
    (h : Exec (runCreated options device created destroy) s t ended s') :
    ∃ status s₁ s₂, ended = .exited status ∧
      Exec (afterCreation options device created) s (t.filterMap Event.visible) status s' ∧
      Exec destroy s₁ (t.filterMap objectCall) () s₂ := by
  -- the report is made, the transport is destroyed, and only then the report is printed
  have hparts {α : Type} {first : Main α} {last : α → Main ℕ} {t : List KitMainEvent}
      (h : Exec (do
        let report ← aside first
        onObjects destroy
        toEnd (last report)) s t ended s') :
      ∃ status s₁ s₂, ended = .exited status ∧
        Exec (first >>= last) s (t.filterMap Event.visible) status s' ∧
        Exec destroy s₁ (t.filterMap objectCall) () s₂ := by
    obtain ⟨t₁, report, s₁, t₂, hfirst, h₁, rfl⟩ := exec_bind.1 h
    obtain ⟨t₃, _, s₂, t₄, hdestroyed, h₂, rfl⟩ := exec_bind.1 h₁
    obtain ⟨hreport, hnone⟩ := aside_of_exec hfirst
    obtain ⟨hobjects, hunseen⟩ := onObjects_of_exec hdestroyed
    obtain ⟨status, rfl, hlast, hnone'⟩ := toEnd_of_exec h₂
    obtain rfl := hdestroy _ _ _ _ hobjects
    refine ⟨status, s₂, s₂, rfl, ?_, ?_⟩
    · rw [List.filterMap_append, List.filterMap_append, hunseen, List.nil_append]
      exact exec_bind.2 ⟨_, report, s₂, _, hreport, hlast, rfl⟩
    · rw [List.filterMap_append, List.filterMap_append, hnone, hnone', List.append_nil]
      exact hobjects
  rcases exec_ite.1 h with ⟨hcommand, h₁⟩ | ⟨hcommand, h₁⟩
  · unfold afterCreation
    rw [if_pos hcommand]
    exact hparts h₁
  · unfold afterCreation
    rw [if_neg hcommand]
    exact hparts h₁

end Parts

/-! ## Refinement -/

section Refinement

variable {t : List KitMainEvent} {u : List (KitEvent Bool)} {l : List MainEvent}

/-- What the abstract creation reads of the ancestry is what was read. -/
theorem eq_of_mem_creationEvents {bsdName : CString} {name : List UInt8}
    {ancestry : List RegistryEntry}
    (h : (⟨s', .ioServiceGetMatchingService name, ancestry⟩ : Event Bool CreationReply) ∈
      creationEvents s bsdName u) : ancestry = ancestryOf u := by
  unfold creationEvents at h
  split at h
  · cases h
  rcases List.mem_cons.1 h with h | h
  · cases h
    rfl
  · obtain ⟨⟨s₁, call, reply⟩, -, he⟩ := List.mem_filterMap.1 h
    cases call <;> cases he

/-- What the abstract discovery reads of the media is what was read. -/
theorem eq_of_mem_discoveryEvents {media : List Media}
    (h : (⟨s', .ioIteratorNext, media⟩ : Event Bool DiscoveryReply) ∈ discoveryEvents s u) :
    media = mediaOf u := by
  rcases List.mem_append.1 h with h | h
  · obtain ⟨⟨s₁, call, reply⟩, -, he⟩ := List.mem_filterMap.1 h
    cases call <;> cases he
  · split at h
    · cases List.mem_singleton.1 h
      rfl
    · cases h

/-- A run without discovery and creation is made of its calls. -/
theorem madeOf_outside (hl : t.filterMap Event.visible = l) (houtside : ∀ e ∈ l, Outside e.call)
    (hobjects : t.filterMap objectCall = []) : MadeUndiscovered t l where
  outside := by
    rw [hl, List.filter_eq_self]
    exact fun e he => decide_eq_true (houtside e he)
  media _ _ he := (houtside _ he).elim
  ancestry _ _ _ he := (houtside _ he).elim
  undiscovered e he call hcall := by
    have houtside := houtside e he
    rw [hcall] at houtside
    exact houtside
  notNext := by
    rw [hobjects]
    exact List.forall_mem_nil _

/-- A creation before calls outside, and before a destruction. -/
theorem madeOf_creation {t' : List KitMainEvent} {bsdName : CString}
    (hunseen : t.filterMap Event.visible = [])
    (hunread : Unread (t'.filterMap objectCall))
    (houtside : ∀ e ∈ t'.filterMap Event.visible, Outside e.call)
    (hnext : ∀ e ∈ t.filterMap objectCall, NotNext e.call)
    (hnext' : ∀ e ∈ t'.filterMap objectCall, NotNext e.call) :
    MadeUndiscovered (t ++ t')
      ((creationEvents s bsdName (t.filterMap objectCall)).map (Event.lift MainCall.creation) ++
        t'.filterMap Event.visible) where
  outside := by
    rw [List.filter_append, List.filterMap_append, hunseen,
      List.filter_eq_self.2 fun e he => decide_eq_true (houtside e he)]
    refine congrArg (· ++ _) (List.filter_eq_nil_iff.2 fun e he => ?_)
    obtain ⟨e', -, rfl⟩ := List.mem_map.1 he
    exact decide_eq_true_iff.not.2 id
  media _ _ he := by
    rcases List.mem_append.1 he with he | he
    · obtain ⟨e', -, he'⟩ := List.mem_map.1 he
      cases he'
    · exact (houtside _ he).elim
  ancestry _ _ _ he := by
    rw [List.filterMap_append, ancestryOf_append_unread hunread]
    rcases List.mem_append.1 he with he | he
    · obtain ⟨⟨s₂, call, reply⟩, he', heq⟩ := List.mem_map.1 he
      cases call <;> cases heq
      exact eq_of_mem_creationEvents he'
    · exact (houtside _ he).elim
  undiscovered e he call hcall := by
    rcases List.mem_append.1 he with he | he
    · obtain ⟨e', -, rfl⟩ := List.mem_map.1 he
      cases hcall
    · have houtside := houtside e he
      rw [hcall] at houtside
      exact houtside
  notNext := by
    rw [List.filterMap_append]
    exact List.forall_mem_append.2 ⟨hnext, hnext'⟩

/-- A discovery before the rest, which reads an ancestry but no media. -/
theorem MadeUndiscovered.discovered {t' : List KitMainEvent} (h : MadeUndiscovered t' l)
    (hunseen : t.filterMap Event.visible = []) (hunread : Unread (t.filterMap objectCall))
    (hafter : mediaReadings.after none (t.filterMap objectCall) = none) :
    MadeOf (t ++ t')
      ((discoveryEvents s (t.filterMap objectCall)).map (Event.lift MainCall.discovery) ++ l) where
  outside := by
    rw [List.filter_append, List.filterMap_append, h.outside, hunseen]
    refine congrArg (· ++ _) (List.filter_eq_nil_iff.2 fun e he => ?_)
    obtain ⟨e', -, rfl⟩ := List.mem_map.1 he
    exact decide_eq_true_iff.not.2 id
  -- the media are those of the discovery, and nothing behind it reads any
  media _ _ he := by
    rw [List.filterMap_append, mediaOf_append hafter h.notNext]
    rcases List.mem_append.1 he with he | he
    · obtain ⟨⟨s₂, call, reply⟩, he', heq⟩ := List.mem_map.1 he
      cases call <;> cases heq
      exact eq_of_mem_discoveryEvents he'
    · exact absurd rfl (h.undiscovered _ he _)
  ancestry _ _ _ he := by
    rw [List.filterMap_append, ancestryOf_unread_append hunread]
    rcases List.mem_append.1 he with he | he
    · obtain ⟨e', -, he'⟩ := List.mem_map.1 he
      cases he'
    · exact h.ancestry _ _ _ he

end Refinement

/-! ## Objects of the parts -/

section Objects

/-- Opening the interface takes no medium. -/
theorem openUsbInterface_notNext (service : ℕ) :
    Only (S := Bool) NotNext (openUsbInterface service) := by
  refine .bind (.call trivial) fun created => .bind (.call trivial) fun _ => ?_
  cases created.stored with
  | none => exact .pure _
  | some plugin =>
    refine .ite (.bind (.call trivial) fun _ => .pure _) ?_
    refine .bind (.call trivial) fun queried => .bind (.call trivial) fun _ => ?_
    cases queried.pointer none with
    | none => exact .pure _
    | some interface => exact .ite (.bind (.call trivial) fun _ => .pure _) (.pure _)

/-- Destroying the adapter takes no medium. -/
theorem macDestroyIo_notNext (interface context io : ℕ) :
    Only (S := Bool) NotNext (macDestroyIo interface context io) :=
  .bind (.call trivial) fun _ => .bind (.call trivial) fun _ => .call trivial

/-- Creating the engine takes no medium. -/
theorem cbiTransportCreate_notNext : Only (S := Bool) NotNext cbiTransportCreate := by
  refine .bind (.call trivial) fun transport => .bind (.call trivial) fun context => ?_
  have hfree : Only NotNext (do
      Prog.call (KitCall.free context)
      Prog.call (KitCall.free transport)
      return none : Prog Bool KitReply (Option (ℕ × ℕ))) :=
    .bind (.call trivial) fun _ => .bind (.call trivial) fun _ => .pure _
  cases transport with
  | none => exact hfree
  | some transport =>
    cases context with
    | none => exact hfree
    | some context => exact .pure _

/-- Creating the adapter takes no medium. -/
theorem createOnInterface_notNext (interface : ℕ) :
    Only (S := Bool) NotNext (createOnInterface interface) := by
  refine .bind (.call trivial) fun io => .bind (.call trivial) fun context => ?_
  have hfree (failure : CreationFailure) : Only NotNext (do
      Prog.call (KitCall.free io)
      Prog.call (KitCall.free context)
      let _ ← Prog.call (KitCall.release interface)
      return .error failure : Prog Bool KitReply (Except CreationFailure UsbTransport)) :=
    .bind (.call trivial) fun _ => .bind (.call trivial) fun _ =>
      .bind (.call trivial) fun _ => .pure _
  cases io with
  | none => exact hfree _
  | some io =>
    cases context with
    | none => exact hfree _
    | some context =>
      refine .bind cbiTransportCreate_notNext fun made => ?_
      cases made with
      | none => exact .bind (macDestroyIo_notNext _ _ _) fun _ => .pure _
      | some blocks => exact .pure _

/-- Creating the transport takes no medium. -/
theorem usbCbiTransportCreate_notNext (rounds : ℕ) (bsdName : CString) :
    Only (S := Bool) NotNext (usbCbiTransportCreate rounds bsdName) := by
  have hlookup : Only (S := Bool) NotNext (copyUsbInterfaceForBsdName rounds
      (normalizeBsdName bsdName.bytes)) :=
    (copyUsbInterfaceForBsdName_lookup rounds _).mono fun call hcall => by
      cases call <;> trivial
  refine .ite (.pure _) (.bind hlookup fun walk => ?_)
  cases walk with
  | unfinished | missing => exact .pure _
  | found service =>
    refine .bind (openUsbInterface_notNext service) fun opened => ?_
    cases opened with
    | error failure => exact .pure _
    | ok interface =>
      refine .bind (createOnInterface_notNext interface) fun made => ?_
      cases made <;> exact .pure _

/-- What stands behind a destruction. -/
structure Destroys (destroy : Prog Bool KitReply Unit) : Prop where
  unread : ∀ s u v s', Exec destroy s u v s' → Unread u ∧ s' = s
  notNext : Only NotNext destroy

/-- A transport that was not created needs no destruction. -/
theorem destroys_nothing : Destroys (pure ()) where
  unread _ _ _ _ h := by
    obtain ⟨rfl, -, rfl⟩ := exec_pure.1 h
    exact ⟨.nil, rfl⟩
  notNext := .pure _

/-- The destruction of a transport gives its objects back. -/
theorem destroys_cbiDestroy (transport : UsbTransport) : Destroys (cbiDestroy transport) where
  unread _ _ _ _ h := by
    obtain ⟨t₁, _, s₁, t₂, hio, h₁, rfl⟩ := exec_bind.1 h
    obtain ⟨count, t₃, h₂, rfl⟩ := exec_call_bind.1 hio
    obtain ⟨_, t₄, h₃, rfl⟩ := exec_call_bind.1 h₂
    obtain ⟨rfl, rfl⟩ := exec_call.1 h₃
    obtain ⟨_, t₅, h₄, rfl⟩ := exec_call_bind.1 h₁
    obtain ⟨rfl, rfl⟩ := exec_call.1 h₄
    exact ⟨by simp [Recorder.Silent, registryReadings], rfl⟩
  notNext :=
    .bind (macDestroyIo_notNext _ _ _) fun _ => .bind (.call trivial) fun _ => .call trivial

/-- A discovery that comes to its end leaves no medium at hand, and reads no ancestry. -/
theorem Discovers.ended {rounds : ℕ} {u : List (KitEvent Bool)} {out : Discovered}
    (h : Discovers rounds s u out s') :
    Unread u ∧ (out.outcome.isSome → mediaReadings.after none u = none) := by
  -- the loop over the media reads properties of media only, never the registry of a device
  have hloop {session iterator : ℕ} {u : List (KitEvent Bool)} {out : Option DeviceList}
      {s s' : Bool} (hall : Exec (addAllMedia session iterator rounds {}) s u out s') :
      Unread u := by
    intro e he reading
    have hcall := addAllMedia_reading session iterator rounds {} hall e he
    obtain ⟨s₁, call, reply⟩ := e
    cases call with
    | ioRegistryEntryCreateCfProperty entry key =>
      obtain rfl : key = .bsdName := hcall
      rfl
    | _ => first | rfl | exact hcall.elim
  have hopening {session matching : ℕ} {enumerated : StoredReply} :
      Unread (openingEvents s session matching enumerated) := by
    simp [Recorder.Silent, openingEvents, registryReadings]
  cases h with
  | sessionless | unmatched =>
    exact ⟨by simp [Recorder.Silent, registryReadings], fun _ => rfl⟩
  | refused | vacant =>
    exact ⟨hopening.append (by simp [Recorder.Silent, registryReadings]), fun _ => rfl⟩
  | unfinished hall => exact ⟨hopening.append (hloop hall), by simp [Discovered.outcome]⟩
  | listed hresult hall =>
    refine ⟨hopening.append ((hloop hall).append (by simp [Recorder.Silent, registryReadings])),
      fun _ => ?_⟩
    obtain ⟨hafter, -⟩ := (addAllMedia_of_exec hall).2 none _ rfl
    rw [Recorder.after_append, Recorder.after_append]
    show mediaReadings.after (mediaReadings.after none _) _ = none
    rw [hafter]
    rfl

end Objects

/-! ## The whole program -/

section Program

variable {rounds : ℕ} {options : CliOptions} {t : List KitMainEvent} {ended : Ended}

/-- A run is unfinished, or a run of `p` with its status is made of its trace. -/
def Refined (Made : List KitMainEvent → List MainEvent → Prop) (p : Main ℕ) (s s' : Bool)
    (t : List KitMainEvent) (ended : Ended) : Prop :=
  (∀ status, ended ≠ .exited status) ∨ ∃ status l, ended = .exited status ∧
    Exec p s l status s' ∧ Made t l

/-- A run to the end is one of the abstract program. -/
theorem refined_of_toEnd {p : Main ℕ} (hp : Only Outside p) (h : Exec (toEnd p) s t ended s') :
    Refined MadeUndiscovered p s s' t ended := by
  obtain ⟨status, rfl, hexec, hobjects⟩ := toEnd_of_exec h
  exact .inr ⟨status, _, rfl, hexec, madeOf_outside rfl (hp hexec) hobjects⟩

/-- A run on a device is one of the abstract program. -/
theorem refined_of_runSelected {device : DeviceInfo}
    (h : Exec (runSelected rounds options device) s t ended s') :
    Refined MadeUndiscovered (M65.runSelected options device) s s' t ended := by
  obtain ⟨t₁, created, s₁, t₂, hcreated, h₁, rfl⟩ := exec_bind.1 h
  obtain ⟨hobjects, hunseen⟩ := onObjects_of_exec hcreated
  have hnext := usbCbiTransportCreate_notNext rounds _ hobjects
  -- the creation is over, and the destruction fits what it made
  have hfinish {destroy : Prog Bool KitReply Unit} {outcome : Except CreationFailure Unit}
      (hdestroy : Destroys destroy)
      (hmodel : Exec (M65.usbCbiTransportCreate device.bsdName.toCString) s
        (creationEvents s device.bsdName.toCString (t₁.filterMap objectCall)) outcome s₁)
      (h₂ : Exec (runCreated options device outcome destroy) s₁ t₂ ended s') :
      Refined MadeUndiscovered (M65.runSelected options device) s s' (t₁ ++ t₂) ended := by
    obtain ⟨status, s₂, s₃, rfl, hrest, hdestroyed⟩ :=
      runCreated_of_exec (fun s u v s' h => (hdestroy.unread s u v s' h).2) h₂
    obtain ⟨hunread, -⟩ := hdestroy.unread _ _ _ _ hdestroyed
    have hcreation : Exec (Prog.lift MainCall.creation
        (M65.usbCbiTransportCreate device.bsdName.toCString) : Main _) s _ outcome s₁ :=
      exec_lift.2 ⟨_, hmodel, rfl⟩
    have hexec := exec_bind.2 ⟨_, outcome, s₁, _, hcreation, hrest, rfl⟩
    rw [← runSelected_eq] at hexec
    exact .inr ⟨status, _, rfl, hexec, madeOf_creation hunseen hunread
      (afterCreation_outside options device outcome hrest) hnext (hdestroy.notNext hdestroyed)⟩
  rcases refines_of_exec hobjects with ⟨service, rfl⟩ | ⟨outcome, houtcome, hmodel⟩
  · obtain ⟨-, rfl, -⟩ := exec_pure.1 h₁
    exact .inl nofun
  · cases created with
    | unfinished service => cases houtcome
    | failed failure =>
      cases houtcome
      exact hfinish destroys_nothing hmodel h₁
    | created transport =>
      cases houtcome
      exact hfinish (destroys_cbiDestroy transport) hmodel h₁

/-- A run on the devices is one of the abstract program. -/
theorem refined_of_mainOnDevices {devices : DeviceList}
    (h : Exec (mainOnDevices rounds options devices) s t ended s') :
    Refined MadeUndiscovered (M65.mainOnDevices options devices) s s' t ended := by
  rcases exec_ite.1 h with ⟨hlist, h₁⟩ | ⟨hlist, h₁⟩
  · refine refined_of_toEnd ?_ h₁
    simp only [M65.mainOnDevices, if_pos hlist]
    exact printed_outside _ _
  cases hadmitted : admitDevice devices options.device with
  | error refusal =>
    rw [hadmitted] at h₁
    refine refined_of_toEnd ?_ h₁
    simp only [M65.mainOnDevices, if_neg hlist, hadmitted]
    exact printed_outside _ _
  | ok device =>
    rw [hadmitted] at h₁
    simp only [M65.mainOnDevices, if_neg hlist, hadmitted]
    exact refined_of_runSelected h₁

/-- `main` from the discovery on. -/
def afterDiscovery (options : CliOptions) : Except ErrorText DeviceList → Main ℕ
  | .error detail => do
      if options.json then
        printJson fun allocator => outputErrorJson allocator
          (some (CString.lit (commandName options.command))) none (some detail.toCString)
      return 4
  | .ok devices => M65.mainOnDevices options devices

/-- `main` is the discovery and what comes after it, when the options parse. -/
theorem main_eq {argv : List CString} (hparse : cliParse argv = .ok options) :
    M65.main argv =
      Prog.lift MainCall.discovery M65.discoverDevices >>= afterDiscovery options := by
  simp only [M65.main, hparse]
  exact bind_congr fun out => by cases out <;> rfl

/-- A run of the process is one of the abstract program. -/
theorem refined_of_main {argv : List CString} (h : Exec (main rounds argv) s t ended s') :
    Refined MadeOf (M65.main argv) s s' t ended := by
  unfold main at h
  cases hparse : cliParse argv with
  | error detail =>
    rw [hparse] at h
    have hprints : Only Outside (M65.main argv) := by
      simp only [M65.main, hparse]
      exact printed_outside _ _
    rcases refined_of_toEnd hprints h with hunfinished | ⟨status, l, hended, hexec, hmade⟩
    · exact .inl hunfinished
    · exact .inr ⟨status, l, hended, hexec, hmade.toMadeOf⟩
  | ok options =>
    rw [hparse] at h
    obtain ⟨t₁, discovered, s₁, t₂, hdiscovered, h₁, rfl⟩ := exec_bind.1 h
    obtain ⟨hobjects, hunseen⟩ := onObjects_of_exec hdiscovered
    have hdiscovers := discovers_of_exec hobjects
    obtain ⟨hunread, hafter⟩ := hdiscovers.ended
    rw [main_eq hparse]
    -- the discovery is over, and the rest of `main` refines what follows it
    have hfinish {out : Except ErrorText DeviceList}
        (hafter : mediaReadings.after none (t₁.filterMap objectCall) = none)
        (hmodel : Exec M65.discoverDevices s (discoveryEvents s (t₁.filterMap objectCall)) out s₁)
        (hrest : Refined MadeUndiscovered (afterDiscovery options out) s₁ s' t₂ ended) :
        Refined MadeOf (Prog.lift MainCall.discovery M65.discoverDevices >>= afterDiscovery options)
          s s' (t₁ ++ t₂) ended := by
      rcases hrest with hunfinished | ⟨status, l, hended, hexec, hmade⟩
      · exact .inl hunfinished
      · have hmain : Exec (Prog.lift MainCall.discovery M65.discoverDevices >>=
            afterDiscovery options) s _ status s' :=
          exec_bind.2 ⟨_, out, s₁, _, exec_lift.2 ⟨_, hmodel, rfl⟩, hexec, rfl⟩
        exact .inr ⟨status, _, hended, hmain, hmade.discovered hunseen hunread hafter⟩
    rcases refines_of_discovers hdiscovers with ⟨session, iterator, rfl⟩ |
      ⟨outcome, houtcome, hmodel⟩
    · obtain ⟨-, rfl, -⟩ := exec_pure.1 h₁
      exact .inl (by simp)
    refine hfinish (hafter (Option.isSome_of_eq_some houtcome)) hmodel ?_
    cases discovered with
    | unfinished session iterator => cases houtcome
    | failed detail =>
      cases houtcome
      exact refined_of_toEnd (printed_outside _ _) h₁
    | listed devices =>
      cases houtcome
      exact refined_of_mainOnDevices h₁

/-- A program that ends does so as `main` may end, for the media and the ancestry that it read. -/
theorem process_refines (rounds : ℕ) (argv : List CString) (interrupted : Bool)
    (r : Run (main rounds argv) interrupted) :
    (∀ status, r.result ≠ .exited status) ∨ ∃ status l, r.result = .exited status ∧
      Exec (M65.main argv) interrupted l status r.final ∧ MadeOf r.trace l :=
  refined_of_main r.exec

end Program

end M65.Kit
