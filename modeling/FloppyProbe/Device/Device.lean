import Mathlib.Data.List.Induction
import FloppyProbe.Types

/-!
# Devices

The device records of `include/m65/device.h`, the check that admits one (`src/device.c`), and the
choice of an entry of the device list by its BSD name (`src/discovery_macos.c`).
-/

namespace M65

/-- The number of entries that a list can hold, `M65_MAX_DEVICES`. -/
abbrev maxDevices : ℕ := 16

/-- The size of a BSD name with its terminator, `M65_MAX_BSD_NAME`. -/
abbrev maxBsdName : ℕ := 32

/-- The size of an identity string with its terminator, `M65_MAX_IDENTITY`. -/
abbrev maxIdentity : ℕ := 128

instance : NeZero maxBsdName := ⟨by decide⟩

instance : NeZero maxIdentity := ⟨by decide⟩

/-- `M65DeviceInfo`, without the registry path, which nothing reads. -/
structure DeviceInfo where
  bsdName : Text maxBsdName := Text.empty
  rawPath : Text maxIdentity := Text.empty
  mediaName : Text maxIdentity := Text.empty
  usbManufacturer : Text maxIdentity := Text.empty
  usbProduct : Text maxIdentity := Text.empty
  productRevision : Text maxIdentity := Text.empty
  usbVid : UInt16 := 0
  usbPid : UInt16 := 0
  usbDeviceRevision : UInt16 := 0
  knownController : Bool := false
  mediaPresent : Bool := false
  external : Bool := false
  removable : Bool := false
  whole : Bool := false
  mounted : Bool := false
  readable : Bool := false
  capacityBytes : UInt64 := 0
  blockSize : UInt32 := 0
  permissionErrno : Int32 := 0
deriving DecidableEq

/-- `M65DeviceList`: the first `count` items. -/
structure DeviceList where
  items : List DeviceInfo := []
  count_le : items.length ≤ maxDevices := by exact Nat.zero_le _

/-- What `m65_validate_device` finds, `M65DeviceValidation`. -/
inductive DeviceValidation where
  | accepted
  | internal
  | mounted
  | notRemovable
  | notWhole
  | wrongBlockSize
  | unknownController
deriving DecidableEq

/-- `m65_validate_device`; a NULL device is nothing. -/
def validateDevice : Option DeviceInfo → DeviceValidation
  | none => .internal
  | some device =>
      if !device.external then .internal
      else if device.mounted then .mounted
      else if !device.removable then .notRemovable
      else if !device.whole then .notWhole
      else if device.blockSize ≠ 512 then .wrongBlockSize
      else if !device.knownController then .unknownController
      else .accepted

/-- `m65_device_validation_text`. -/
def deviceValidationText : DeviceValidation → String
  | .accepted => "accepted"
  | .internal => "device is internal"
  | .mounted => "media is mounted"
  | .notRemovable => "device is not removable"
  | .notWhole => "device is not whole media"
  | .wrongBlockSize => "device block size is not 512 bytes"
  | .unknownController => "USB identity does not match the known TEAC controller"

/-! ## Choice by name -/

/-- The bytes behind `word`, if the string starts with it. -/
def skipWord (word : String) (name : List UInt8) : List UInt8 :=
  if name.take (str word).length = str word then name.drop (str word).length else name

/-- `normalize_bsd_name`: without `/dev/`, and without the `r` of a raw node. -/
def normalizeBsdName (name : List UInt8) : List UInt8 :=
  let normalized := skipWord "/dev/" name
  if normalized.take 5 = str "rdisk" then normalized.drop 1 else normalized

/-- An entry that `m65_select_device` counts. A NULL name matches every known controller. -/
def deviceMatches (bsdName : Option CString) (candidate : DeviceInfo) : Bool :=
  candidate.knownController &&
    match bsdName with
    | none => true
    | some name => candidate.bsdName.bytes = normalizeBsdName name.bytes

/-- The loop of `m65_select_device`: the last entry that counts, and how many do. -/
def countMatches (bsdName : Option CString) (items : List DeviceInfo) : Option DeviceInfo × ℕ :=
  items.foldl (fun (selected, hits) candidate =>
    if deviceMatches bsdName candidate then (some candidate, hits + 1) else (selected, hits))
    (none, 0)

/-- `m65_select_device`: the entry, if there is exactly one, and whether there are several. -/
def selectDevice (list : DeviceList) (bsdName : Option CString) : Option DeviceInfo × Bool :=
  let (selected, hits) := countMatches bsdName list.items
  if hits ≠ 1 then (none, decide (1 < hits)) else (selected, false)

/-- The loop of `m65_select_device` keeps the last match and counts all of them. -/
theorem countMatches_append (bsdName : Option CString) (items : List DeviceInfo)
    (device : DeviceInfo) :
    countMatches bsdName (items ++ [device]) =
      if deviceMatches bsdName device then (some device, (countMatches bsdName items).2 + 1)
      else countMatches bsdName items := by
  simp [countMatches]

/-- The loop gives the last entry of those that count, and their number. -/
theorem countMatches_eq (bsdName : Option CString) (items : List DeviceInfo) :
    countMatches bsdName items =
      ((items.filter (deviceMatches bsdName)).getLast?,
        (items.filter (deviceMatches bsdName)).length) := by
  induction items using List.reverseRecOn with
  | nil => rfl
  | append_singleton items device ih =>
    rw [countMatches_append, ih]
    by_cases h : deviceMatches bsdName device = true <;> simp [h]

/-- An entry is selected when it is the only one that counts. -/
theorem selectDevice_eq_some_iff {list : DeviceList} {bsdName : Option CString}
    {device : DeviceInfo} :
    (selectDevice list bsdName).1 = some device ↔
      list.items.filter (deviceMatches bsdName) = [device] := by
  simp only [selectDevice, countMatches_eq]
  by_cases h : (list.items.filter (deviceMatches bsdName)).length = 1
  · obtain ⟨only, honly⟩ := List.length_eq_one_iff.1 h
    simp [honly]
  · rw [if_pos h]
    refine iff_of_false (by simp) fun heq => h ?_
    rw [heq]
    rfl

end M65
