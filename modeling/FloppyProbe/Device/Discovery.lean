import FloppyProbe.Device.Device
import FloppyProbe.Interaction.Program

/-!
# Discovery

`m65_discover_devices` of `src/discovery_macos.c`, as a program that asks the I/O Registry and Disk
Arbitration. What they say about one medium is one record (`Media`), and the media that the
iterator gives are one reply. Objects are not released, and the registry path is left out.
-/

namespace M65

open Interaction

/-! ## Environment -/

/-- What Disk Arbitration says about a disk; a value that is missing or has another type is
nothing. -/
structure DiskDescription where
  deviceInternal : Option Bool := none
  mediaRemovable : Option Bool := none
  mediaWhole : Option Bool := none
  mediaSize : Option Int64 := none
  mediaBlockSize : Option Int64 := none
  /-- Whether there is a volume path. -/
  volumePath : Bool := false

/-- What is known about a medium; a property that is missing or has another type is nothing. -/
structure Media where
  bsdName : Option CString := none
  name : Option (Text maxIdentity) := none
  vendorId : Option Int64 := none
  productId : Option Int64 := none
  bcdDevice : Option Int64 := none
  vendorString : Option CString := none
  productString : Option CString := none
  productName : Option CString := none
  description : Option DiskDescription := none
  /-- The `errno` with which `access` to the raw node fails, if it does. -/
  accessErrno : Option Int32 := none

/-- `kern_return_t`. -/
abbrev KernReturn : Type := UInt32

/-- `KERN_SUCCESS`. -/
abbrev kernSuccess : KernReturn := 0

/-- The calls of `m65_discover_devices`; what it reads of a medium comes with the iterator. -/
inductive DiscoveryCall where
  /-- The reply tells whether there is a session. -/
  | daSessionCreate
  /-- The reply tells whether there is a dictionary. -/
  | ioServiceMatching
  | ioServiceGetMatchingServices
  /-- The reply is everything that the iterator gives. -/
  | ioIteratorNext

/-- The reply to each of these calls. -/
abbrev DiscoveryReply : DiscoveryCall → Type
  | .daSessionCreate => Bool
  | .ioServiceMatching => Bool
  | .ioServiceGetMatchingServices => KernReturn
  | .ioIteratorNext => List Media

/-! ## Properties -/

/-- `copy_cf_string`: a string that does not fit is dropped. -/
def copyCfString {n : ℕ} [NeZero n] : Option CString → Text n
  | none => Text.empty
  | some value => if h : value.bytes.length < n then { value with fits := h } else Text.empty

/-- `recursive_u16`: a number that does not fit counts as missing. -/
def recursiveU16 : Option Int64 → UInt16
  | none => 0
  | some number =>
      if 0 ≤ number ∧ number ≤ 0xffff then UInt16.ofNat number.toNatClampNeg else 0

/-- `dictionary_u64`: a negative number counts as missing. -/
def dictionaryU64 : Option Int64 → UInt64
  | none => 0
  | some number => if 0 ≤ number then number.toUInt64 else 0

/-- `strstr(text, word) != NULL`. -/
def hasWord (text : CString) (word : String) : Bool :=
  text.bytes.tails.any fun rest => (str word).isPrefixOf rest

/-- `identity_matches`: the vendor and product numbers, and a known word in one of the names. -/
def identityMatches (device : DeviceInfo) : Bool :=
  let productMatch := hasWord device.usbProduct.toCString "UF000" ||
    hasWord device.usbProduct.toCString "TEAC" || hasWord device.mediaName.toCString "UF000" ||
    hasWord device.usbManufacturer.toCString "TEACV0.0"
  device.usbVid == 0x0644 && device.usbPid == 0x0000 && productMatch

/-- `populate_identity`. -/
def populateIdentity (media : Media) (device : DeviceInfo) : DeviceInfo :=
  let usbProduct : Text maxIdentity := copyCfString media.productString
  let device :=
    { device with
      usbVid := recursiveU16 media.vendorId
      usbPid := recursiveU16 media.productId
      usbDeviceRevision := recursiveU16 media.bcdDevice
      usbManufacturer := copyCfString media.vendorString
      usbProduct := if usbProduct.bytes = [] then copyCfString media.productName else usbProduct
      productRevision :=
        Text.format [str "0x", hexDigits 4 (recursiveU16 media.bcdDevice).toNat] }
  { device with knownController := identityMatches device }

/-- `fill_da_description`; without a description the device stays as it is. -/
def fillDaDescription (description : Option DiskDescription) (device : DeviceInfo) : DeviceInfo :=
  match description with
  | none => device
  | some description =>
      let capacityBytes := dictionaryU64 description.mediaSize
      { device with
        external := !description.deviceInternal.getD true
        removable := description.mediaRemovable.getD false
        whole := description.mediaWhole.getD false
        capacityBytes := capacityBytes
        blockSize := (dictionaryU64 description.mediaBlockSize).toUInt32
        mounted := description.volumePath
        mediaPresent := decide (0 < capacityBytes) }

/-- The name of the medium without ` Media` at its end. -/
def mediaNameOf (name : Text maxIdentity) : Text maxIdentity :=
  let suffix := str " Media"
  let nameLength := name.bytes.length - suffix.length
  if 0 < nameLength ∧ name.bytes.drop nameLength = suffix then
    Text.format [name.bytes.take nameLength]
  else
    name

/-! ## The list -/

/-- The record of a medium with a BSD name. -/
def deviceOf (media : Media) (bsdName : Text maxBsdName) : DeviceInfo :=
  let device : DeviceInfo :=
    { bsdName := bsdName
      mediaName := (media.name.map mediaNameOf).getD Text.empty }
  let device := populateIdentity media device
  let device := { device with rawPath := Text.format [str "/dev/r", bsdName.bytes] }
  let device := fillDaDescription media.description device
  { device with
    readable := media.accessErrno.isNone
    permissionErrno := media.accessErrno.getD 0 }

/-- One round of the loop: known controllers are listed while there is room. -/
def addMedia (list : DeviceList) (media : Media) : DeviceList :=
  let bsdName : Text maxBsdName := copyCfString media.bsdName
  if bsdName.bytes = [] then
    list
  else
    let device := deviceOf media bsdName
    if h : device.knownController = true ∧ list.items.length < maxDevices then
      ⟨list.items ++ [device], by rw [List.length_append]; exact h.2⟩
    else
      list

/-- `m65_discover_devices`: the list, or the detail of the failure. -/
def discoverDevices {S : Type} : Prog S DiscoveryReply (Except ErrorText DeviceList) := do
  if !(← Prog.call DiscoveryCall.daSessionCreate) then
    return .error (errorText "unable to create a Disk Arbitration session")
  if !(← Prog.call DiscoveryCall.ioServiceMatching) then
    return .error Text.empty
  let kernelResult : KernReturn ← Prog.call DiscoveryCall.ioServiceGetMatchingServices
  if kernelResult ≠ kernSuccess then
    return .error (Text.format [str "I/O Registry media enumeration failed: 0x",
      hexDigits 8 kernelResult.toNat])
  let media : List Media ← Prog.call DiscoveryCall.ioIteratorNext
  return .ok (media.foldl addMedia {})

/-! ## Outcomes -/

/-- `IOServiceMatching` returned NULL. -/
def MatchingRefused {S : Type} : Event S DiscoveryReply → Prop
  | ⟨_, .ioServiceMatching, reply⟩ => reply = false
  | _ => False

/-- What a discovery ends with: a failure with a detail, the failure without one, or the list. -/
inductive Discovery {S : Type} (s : S) :
    List (Event S DiscoveryReply) → Except ErrorText DeviceList → Prop
  | failed {t : List (Event S DiscoveryReply)} {detail : ErrorText} (htold : detail.bytes ≠ [])
      (hmatching : ∀ e ∈ t, ¬MatchingRefused e) : Discovery s t (.error detail)
  | silent {t : List (Event S DiscoveryReply)} (hmatching : ∃ e ∈ t, MatchingRefused e) :
      Discovery s t (.error Text.empty)
  | listed {t : List (Event S DiscoveryReply)} {media : List Media}
      (hmedia : (⟨s, .ioIteratorNext, media⟩ : Event S DiscoveryReply) ∈ t)
      (hmatching : ∀ e ∈ t, ¬MatchingRefused e) : Discovery s t (.ok (media.foldl addMedia {}))

/-- Every execution of the discovery is one of its cases. -/
theorem discovery_of_exec {S : Type} {s s' : S} {t : List (Event S DiscoveryReply)}
    {out : Except ErrorText DeviceList} (h : Exec discoverDevices s t out s') :
    Discovery s t out := by
  unfold discoverDevices at h
  simp only [exec_bind, exec_call, exec_ite, exec_pure] at h
  obtain ⟨_, session, s₁, t₁, ⟨rfl, rfl⟩, h, rfl⟩ := h
  rcases h with ⟨-, rfl, rfl, -⟩ | ⟨-, h⟩
  · exact .failed (by decide) (by simp [MatchingRefused])
  obtain ⟨_, matching, s₂, t₂, ⟨rfl, rfl⟩, h, rfl⟩ := h
  rcases h with ⟨hrefused, rfl, rfl, -⟩ | ⟨hmatching, h⟩
  · have hrefused : matching = false := by simpa using hrefused
    exact .silent ⟨⟨s₂, .ioServiceMatching, matching⟩, by simp, hrefused⟩
  have hmatching : matching = true := by simpa using hmatching
  obtain ⟨_, kernelResult, _, t₃, ⟨rfl, rfl⟩, h, rfl⟩ := h
  rcases h with ⟨-, rfl, rfl, -⟩ | ⟨-, h⟩
  · exact .failed (Text.format_ne_nil (by decide) (by decide))
      (by simp [MatchingRefused, hmatching])
  · obtain ⟨_, media, _, _, ⟨rfl, rfl⟩, ⟨rfl, rfl, -⟩, rfl⟩ := h
    exact .listed (by simp) (by simp [MatchingRefused, hmatching])

end M65
