import FloppyProbe.Main.Runs

/-!
# The gate before the seizure

`main` reaches `run_selected`, which seizes the USB interface, for a device that `admitDevice`
admits. Such a device is the only known controller with the given name and passes every check of
its own record. The other entries of its disk are not looked at, so the gate keeps what it
promises exactly when none of the slices of an admitted disk is mounted.
-/

namespace M65

open Interaction

/-! ## Names -/

/-- The argument stands for `name`: a `/dev/` in front is left out, and so is the `r` of a raw
node behind it. -/
def Denotes (argument name : List UInt8) : Prop :=
  ∃ node, (argument = str "/dev/" ++ node ∨ argument = node ∧ ¬str "/dev/" <+: argument) ∧
    (node = str "r" ++ name ∧ str "disk" <+: name ∨ node = name ∧ ¬str "rdisk" <+: node)

/-- A word is skipped exactly when the bytes begin with it. -/
theorem skipWord_eq_iff {word : String} {bytes rest : List UInt8} :
    skipWord word bytes = rest ↔
      bytes = str word ++ rest ∨ bytes = rest ∧ ¬str word <+: bytes := by
  unfold skipWord
  by_cases h : str word <+: bytes
  · obtain ⟨rest', rfl⟩ := h
    simp
  · have htake : bytes.take (str word).length ≠ str word := fun heq =>
      h (heq ▸ List.take_prefix _ _)
    rw [if_neg htake]
    constructor
    · exact fun heq => .inr ⟨heq, h⟩
    · rintro (rfl | ⟨heq, -⟩)
      · exact absurd (List.prefix_append _ _) h
      · exact heq

/-- `normalize_bsd_name` gives the name that an argument stands for. -/
theorem normalizeBsdName_eq_iff {argument name : List UInt8} :
    normalizeBsdName argument = name ↔ Denotes argument name := by
  -- the raw node of a disk stands for the disk, and every other name for itself
  have hraw : ∀ node : List UInt8,
      (if node.take 5 = str "rdisk" then node.drop 1 else node) = name ↔
        (node = str "r" ++ name ∧ str "disk" <+: name ∨ node = name ∧ ¬str "rdisk" <+: node) := by
    intro node
    by_cases h : str "rdisk" <+: node
    · obtain ⟨rest, rfl⟩ := h
      have htake : (str "rdisk" ++ rest).take 5 = str "rdisk" := rfl
      have hdrop : (str "rdisk" ++ rest).drop 1 = str "disk" ++ rest := rfl
      rw [if_pos htake, hdrop]
      constructor
      · rintro rfl
        exact .inl ⟨rfl, List.prefix_append _ _⟩
      · rintro (⟨heq, -⟩ | ⟨-, hnot⟩)
        · exact List.append_cancel_left (show str "r" ++ (str "disk" ++ rest) = _ from heq)
        · exact absurd (List.prefix_append _ _) hnot
    · have htake : node.take 5 ≠ str "rdisk" := fun heq => h (heq ▸ List.take_prefix _ _)
      rw [if_neg htake]
      constructor
      · exact fun heq => .inr ⟨heq, h⟩
      · rintro (⟨rfl, rest, rfl⟩ | ⟨heq, -⟩)
        · exact absurd (List.prefix_append (str "rdisk") rest) h
        · exact heq
  unfold normalizeBsdName Denotes
  dsimp only
  rw [hraw]
  constructor
  · intro h
    exact ⟨_, skipWord_eq_iff.1 rfl, h⟩
  · rintro ⟨node, hnode, h⟩
    rwa [skipWord_eq_iff.2 hnode]

/-! ## The gate -/

/-- `entry` is a slice of the disk `device`. -/
def IsSliceOf (device entry : DeviceInfo) : Prop :=
  ∃ number, number ≠ [] ∧ (∀ digit ∈ number, 0x30 ≤ digit ∧ digit ≤ 0x39) ∧
    entry.bsdName.bytes = device.bsdName.bytes ++ (str "s" ++ number)

/-- The entry is a known controller with the name that the argument stands for. -/
def IsNamed (argument : CString) (entry : DeviceInfo) : Prop :=
  entry.knownController = true ∧ Denotes argument.bytes entry.bsdName.bytes

/-- What has to hold of a device before its interface is seized. -/
structure MayBeSeized (devices : DeviceList) (argument : CString) (device : DeviceInfo) :
    Prop where
  mem : device ∈ devices.items
  named : IsNamed argument device
  /-- It is the only entry of this kind, also by its place in the list. -/
  only : ∃ before after, devices.items = before ++ device :: after ∧
    ∀ entry ∈ before ++ after, ¬IsNamed argument entry
  external : device.external = true
  removable : device.removable = true
  whole : device.whole = true
  blockSize : device.blockSize = 512
  unmounted : device.mounted = false
  slicesUnmounted : ∀ entry ∈ devices.items, IsSliceOf device entry → entry.mounted = false

/-- The record of a disk by itself permits the seizure. -/
structure Validated (device : DeviceInfo) : Prop where
  external : device.external = true
  unmounted : device.mounted = false
  removable : device.removable = true
  whole : device.whole = true
  blockSize : device.blockSize = 512
  knownController : device.knownController = true

/-- When exactly one entry has the name that the argument stands for, and its own record permits
the seizure, no slice of it is mounted. -/
def NoMountedSlice (devices : DeviceList) (argument : CString) : Prop :=
  ∀ before device after, devices.items = before ++ device :: after → IsNamed argument device →
    (∀ entry ∈ before ++ after, ¬IsNamed argument entry) → Validated device →
      ∀ entry ∈ devices.items, IsSliceOf device entry → entry.mounted = false

/-- Exactly the entries with the name of the argument match. -/
theorem deviceMatches_iff {argument : CString} {entry : DeviceInfo} :
    deviceMatches (some argument) entry = true ↔ IsNamed argument entry := by
  rw [deviceMatches, Bool.and_eq_true, decide_eq_true_eq, IsNamed, ← normalizeBsdName_eq_iff]
  exact and_congr_right fun _ => eq_comm

/-- The checks of `m65_validate_device`. -/
theorem validateDevice_accepted_iff {device : DeviceInfo} :
    validateDevice (some device) = .accepted ↔ Validated device := by
  constructor
  · intro h
    simp only [validateDevice] at h
    split_ifs at h with h₁ h₂ h₃ h₄ h₅ h₆
    exact ⟨by simpa using h₁, by simpa using h₂, by simpa using h₃, by simpa using h₄,
      of_not_not h₅, by simpa using h₆⟩
  · rintro ⟨hexternal, hmounted, hremovable, hwhole, hsize, hknown⟩
    simp [validateDevice, hexternal, hmounted, hremovable, hwhole, hsize, hknown]

/-- A device is admitted exactly when it is the only entry that matches and its record is
accepted. -/
theorem admitDevice_eq_ok_iff {devices : DeviceList} {bsdName : Option CString}
    {device : DeviceInfo} : admitDevice devices bsdName = .ok device ↔
      devices.items.filter (deviceMatches bsdName) = [device] ∧
        validateDevice (some device) = .accepted := by
  -- the selection is unique, and then the record of the selected device decides
  rw [← selectDevice_eq_some_iff]
  unfold admitDevice
  generalize selectDevice devices bsdName = choice
  obtain ⟨selected, ambiguous⟩ := choice
  cases selected with
  | none => simp
  | some selected =>
    by_cases haccepted : validateDevice (some selected) = .accepted
    · simp only [haccepted]
      constructor
      · intro h
        obtain rfl := Except.ok.inj h
        exact ⟨rfl, haccepted⟩
      · rintro ⟨heq, -⟩
        rw [Option.some.inj heq]
    · refine iff_of_false ?_ ?_
      · simp only
        exact nofun
      · rintro ⟨heq, h⟩
        exact haccepted (Option.some.inj heq ▸ h)

/-- A filter leaves one element exactly when that one satisfies the predicate and no other does. -/
theorem filter_eq_singleton_iff {p : DeviceInfo → Bool} {items : List DeviceInfo}
    {device : DeviceInfo} : items.filter p = [device] ↔
      p device = true ∧ ∃ before after, items = before ++ device :: after ∧
        ∀ entry ∈ before ++ after, ¬p entry = true := by
  constructor
  · intro h
    obtain ⟨before, after, rfl, hbefore, hdevice, hafter⟩ := List.filter_eq_cons_iff.1 h
    refine ⟨hdevice, before, after, rfl, List.forall_mem_append.2 ⟨hbefore, ?_⟩⟩
    exact List.filter_eq_nil_iff.1 hafter
  · rintro ⟨hdevice, before, after, rfl, hothers⟩
    obtain ⟨hbefore, hafter⟩ := List.forall_mem_append.1 hothers
    rw [List.filter_append, List.filter_cons_of_pos hdevice, List.filter_eq_nil_iff.2 hbefore,
      List.filter_eq_nil_iff.2 hafter]
    rfl

/-- What the gate looks at: everything except the slices. -/
theorem admitDevice_some_eq_ok_iff {devices : DeviceList} {argument : CString}
    {device : DeviceInfo} : admitDevice devices (some argument) = .ok device ↔
      (IsNamed argument device ∧ ∃ before after, devices.items = before ++ device :: after ∧
        ∀ entry ∈ before ++ after, ¬IsNamed argument entry) ∧ Validated device := by
  rw [admitDevice_eq_ok_iff, filter_eq_singleton_iff, validateDevice_accepted_iff]
  simp only [deviceMatches_iff]

/-- An admitted disk may be seized, if none of its slices is mounted. -/
theorem mayBeSeized_of_admitDevice {devices : DeviceList} {argument : CString}
    {device : DeviceInfo} (h : admitDevice devices (some argument) = .ok device)
    (hslices : ∀ entry ∈ devices.items, IsSliceOf device entry → entry.mounted = false) :
    MayBeSeized devices argument device := by
  obtain ⟨⟨hnamed, before, after, hitems, hothers⟩, hchecks⟩ := admitDevice_some_eq_ok_iff.1 h
  refine ⟨?_, hnamed, ⟨before, after, hitems, hothers⟩, hchecks.external, hchecks.removable,
    hchecks.whole, hchecks.blockSize, hchecks.unmounted, hslices⟩
  rw [hitems]
  simp

/-! ## The program -/

/-- `main` goes on to `run_selected` for `device`. -/
structure ReachesRunSelected (options : CliOptions) (devices : DeviceList) (device : DeviceInfo) :
    Prop where
  command_ne : options.command ≠ .list
  admitted : admitDevice devices options.device = .ok device

/-- Once `run_selected` is reached, the rest of `main` is `run_selected`. -/
theorem mainOnDevices_of_reaches {options : CliOptions} {devices : DeviceList} {device : DeviceInfo}
    (h : ReachesRunSelected options devices device) :
    mainOnDevices options devices = runSelected options device := by
  unfold mainOnDevices
  rw [if_neg h.command_ne, h.admitted]

/-- Without a device for `run_selected`, only a document is printed. -/
theorem mainOnDevices_prints {options : CliOptions} {devices : DeviceList}
    (h : ∀ device, ¬ReachesRunSelected options devices device) :
    Only MainCall.Prints (mainOnDevices options devices) := by
  intro s t status s' hexec
  cases devicesRun_of_exec hexec with
  | listed _ hprinted => exact hprinted.prints
  | refused _ _ hprinted => exact hprinted.prints
  | selected hcommand hadmitted => exact absurd ⟨hcommand, hadmitted⟩ (h _)

/-- `main` reaches `run_selected` only for a device that may be seized, exactly when no slice of a
disk that passes its own checks is mounted. -/
theorem main_seizureGate_iff (devices : DeviceList) (options : CliOptions) (argument : CString) :
    let options := { options with device := some argument }
    (∀ device, ReachesRunSelected options devices device →
      mainOnDevices options devices = runSelected options device) ∧
    ((∀ device, ¬ReachesRunSelected options devices device) →
      Only MainCall.Prints (mainOnDevices options devices)) ∧
    ((∀ device, ReachesRunSelected options devices device →
      MayBeSeized devices argument device) ↔
        (options.command ≠ .list → NoMountedSlice devices argument)) := by
  refine ⟨fun device h => mainOnDevices_of_reaches h, mainOnDevices_prints, ?_, ?_⟩
  · intro h hcommand before device after hitems hnamed hothers hchecks
    have hadmitted := admitDevice_some_eq_ok_iff.2
      ⟨⟨hnamed, before, after, hitems, hothers⟩, hchecks⟩
    exact (h device ⟨hcommand, hadmitted⟩).slicesUnmounted
  · rintro h device ⟨hcommand, hadmitted⟩
    obtain ⟨⟨hnamed, before, after, hitems, hothers⟩, hchecks⟩ :=
      admitDevice_some_eq_ok_iff.1 hadmitted
    exact mayBeSeized_of_admitDevice hadmitted
      (h hcommand before device after hitems hnamed hothers hchecks)

/-- An unmounted floppy disk. -/
def floppyDisk : DeviceInfo where
  bsdName := Text.lit "disk4"
  knownController := true
  mediaPresent := true
  external := true
  removable := true
  whole := true
  capacityBytes := 737280
  blockSize := 512

/-- A slice of it that is mounted. -/
def mountedSlice : DeviceInfo :=
  { floppyDisk with bsdName := Text.lit "disk4s1", whole := false, mounted := true }

/-- The list of the disk and its slice. -/
def slicedDisk : DeviceList := { items := [floppyDisk, mountedSlice], count_le := by decide }

/-- The disk is selected although a slice of it is mounted. -/
theorem slicedDisk_reached :
    ¬ ∀ (devices : DeviceList) (options : CliOptions) (argument : CString) (device : DeviceInfo),
      ReachesRunSelected { options with device := some argument } devices device →
        MayBeSeized devices argument device := by
  intro hall
  have hreached : ReachesRunSelected
      { command := .inspect, device := some (CString.lit "disk4") } slicedDisk floppyDisk :=
    ⟨by decide, by decide +kernel⟩
  have hgate := hall slicedDisk { command := .inspect } (CString.lit "disk4") floppyDisk hreached
  have hslice : IsSliceOf floppyDisk mountedSlice := ⟨str "1", by decide, by simp [str], by decide⟩
  have hunmounted := hgate.slicesUnmounted mountedSlice (by simp [slicedDisk]) hslice
  exact absurd hunmounted (by decide)

/-! ## Runs of the program -/

/-- The list that the discovery of a run gave. -/
def Discovered (t : List MainEvent) (devices : DeviceList) : Prop :=
  ∃ s, ∃ media : List Media, ⟨s, .discovery .ioIteratorNext, media⟩ ∈ t ∧
    devices = media.foldl addMedia {}

/-- A run that touches a device or a file has gone on to `run_selected`, for a device of the list
that was discovered. -/
theorem main_touches {argv : List CString} {s : Bool} (r : Run (main argv) s) {e : MainEvent}
    (he : e ∈ r.trace) (htouches : e.call.Touches) :
    ∃ options devices device, cliParse argv = .ok options ∧ Discovered r.trace devices ∧
      ReachesRunSelected options devices device := by
  have hrun := mainRun_of_exec r.exec
  -- the only branch with a command for the device comes after the admission
  generalize r.trace = t, r.result = status, r.final = s' at hrun he ⊢
  cases hrun with
  | usage hparse hprinted => exact absurd htouches (hprinted.prints e he).not_touches
  | notDiscovered hparse hdiscovery hprinted =>
    rcases List.mem_append.1 he with he | he
    · obtain ⟨e', -, rfl⟩ := List.mem_map.1 he
      exact absurd htouches id
    · exact absurd htouches (hprinted.prints e he).not_touches
  | discovered hparse hdiscovery hrun =>
    rcases List.mem_append.1 he with he | he
    · obtain ⟨e', -, rfl⟩ := List.mem_map.1 he
      exact absurd htouches id
    · cases hrun with
      | listed _ hprinted => exact absurd htouches (hprinted.prints e he).not_touches
      | refused _ _ hprinted => exact absurd htouches (hprinted.prints e he).not_touches
      | selected hcommand hadmitted =>
        cases hdiscovery with
        | listed hmedia =>
          refine ⟨_, _, _, hparse, ⟨s, _, ?_, rfl⟩, hcommand, hadmitted⟩
          exact List.mem_append_left _ (List.mem_map_of_mem hmedia)

end M65
