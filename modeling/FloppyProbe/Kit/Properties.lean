import FloppyProbe.Interaction.Recorder
import FloppyProbe.Kit.Objects

/-!
# Registry properties

The functions of `src/usb_cbi_macos.c`, `src/scsi_macos.c` and `src/discovery_macos.c` that look a
property up, with the objects that they create on the way. Each of them gives back all it created,
on every way through it (`trades_cfNumberU16` and the like).
-/

namespace M65.Kit

open Interaction

variable {S α : Type}

/-! ## Values -/

/-- A value is looked at and released, if there is one. -/
def takeValue (value : Option CfObject) (look : CfContent → α) (missing : α) :
    Prog S KitReply α := do
  match value with
  | none => return missing
  | some value =>
      Prog.call (KitCall.cfRead value)
      Prog.call (KitCall.cfRelease value.ref)
      return look value.content

/-- `cf_number_u16`. -/
def cfNumberU16 (entry : ℕ) (key : PropertyKey) : Prog S KitReply (Option UInt16) := do
  let value : Option CfObject ← Prog.call (KitCall.ioRegistryEntryCreateCfProperty entry key)
  takeValue value (fun content => M65.cfNumberU16 content.sint32) none

/-- `is_direct_access_scsi_service`. -/
def isDirectAccessScsiService (service : ℕ) : Prog S KitReply Bool := do
  let value : Option CfObject ←
    Prog.call (KitCall.ioRegistryEntryCreateCfProperty service .peripheralDeviceType)
  takeValue value (fun content => content.sint32 == some 0) false

/-! ## Plug-in types -/

/-- The byte in lower case. -/
def lowerByte (byte : UInt8) : UInt8 := if 65 ≤ byte ∧ byte ≤ 90 then byte + 32 else byte

/-- `CFStringCompare` with `kCFCompareCaseInsensitive`, where one text is an identifier. -/
def equalCaseless (text identifier : CString) : Bool :=
  text.bytes.map lowerByte == identifier.bytes.map lowerByte

/-- `find_plugin_type` for the key of an entry. -/
def findPluginType (expected : CfContent) (found : Bool) (entry : CfScalar × CfScalar) : Bool :=
  found || match entry.1, expected with
    | .string key, .scalar (.string expected) => equalCaseless key expected
    | _, _ => false

/-- `CFDictionaryContainsKey`. -/
def containsKey (entries : List (CfScalar × CfScalar)) (key : CfContent) : Bool :=
  entries.any fun entry => CfContent.scalar entry.1 == key

/-- What the two functions that look for a type of plug-ins have in common. -/
def exposesPlugin (service : ℕ) (type : PlugInType)
    (search : List (CfScalar × CfScalar) → CfContent → Bool) : Prog S KitReply Bool := do
  let value : Option CfObject ←
    Prog.call (KitCall.ioRegistryEntryCreateCfProperty service .kIoCfPlugInTypesKey)
  match value with
  | none => return false
  | some value =>
      Prog.call (KitCall.cfRead value)
      match value.content with
      | .scalar _ =>
          Prog.call (KitCall.cfRelease value.ref)
          return false
      | .dictionary entries =>
          let typeString : Option CfObject ← Prog.call (KitCall.cfUuidCreateString type)
          let found ← takeValue typeString (search entries) false
          Prog.call (KitCall.cfRelease value.ref)
          return found

/-- `exposes_usb_interface_plugin`. -/
def exposesUsbInterfacePlugin (service : ℕ) : Prog S KitReply Bool :=
  exposesPlugin service .kIoUsbInterfaceUserClientTypeId fun entries expected =>
    entries.foldl (findPluginType expected) false

/-- `exposes_scsi_task_plugin`. -/
def exposesScsiTaskPlugin (service : ℕ) : Prog S KitReply Bool :=
  exposesPlugin service .kIoScsiTaskDeviceUserClientTypeId containsKey

/-- `is_known_ufi_cbi_interface`. -/
def isKnownUfiCbiInterface (service : ℕ) : Prog S KitReply Bool := do
  let some interfaceClass ← cfNumberU16 service .kUsbInterfaceClass | return false
  let some interfaceSubclass ← cfNumberU16 service .kUsbInterfaceSubClass | return false
  let some interfaceProtocol ← cfNumberU16 service .kUsbInterfaceProtocol | return false
  let some vendor ← cfNumberU16 service .kUsbVendorId | return false
  let some product ← cfNumberU16 service .kUsbProductId | return false
  if interfaceClass == 0x08 && interfaceSubclass == 0x04 && interfaceProtocol == 0x00 &&
      vendor == 0x0644 && product == 0x0000 then
    exposesUsbInterfacePlugin service
  else
    return false

/-! ## References -/

section References

variable {entry : ℕ} {F : Multiset KitObject}

/-- Looking at a value gives it back. -/
theorem trades_takeValue (value : Option CfObject) (look : CfContent → α) (missing : α) :
    Trades (S := S) kitLedger (valueRef value + F) (takeValue value look missing)
      fun _ => F := by
  cases value with
  | none => exact .pure (zero_add F)
  | some value =>
    exact .bind (trades_cfRead value) fun _ => .bind (trades_cfRelease value.ref) fun _ => .pure rfl

/-- Reading a number gives everything back. -/
theorem trades_cfNumberU16 (key : PropertyKey) :
    Trades (S := S) kitLedger {.io entry} (cfNumberU16 entry key)
      fun _ => {.io entry} :=
  .bind (trades_createProperty entry key) fun value => trades_takeValue value _ _

/-- The test for a direct-access device gives everything back. -/
theorem trades_isDirectAccessScsiService :
    Trades (S := S) kitLedger {.io entry} (isDirectAccessScsiService entry)
      fun _ => {.io entry} :=
  .bind (trades_createProperty entry _) fun value => trades_takeValue value _ _

/-- The search for a plug-in type gives everything back. -/
theorem trades_exposesPlugin (type : PlugInType)
    (search : List (CfScalar × CfScalar) → CfContent → Bool) :
    Trades (S := S) kitLedger {.io entry} (exposesPlugin entry type search)
      fun _ => {.io entry} := by
  refine .bind (trades_createProperty entry _) fun value => ?_
  cases value with
  | none => exact .pure (zero_add _)
  | some value =>
    refine .bind (trades_cfRead value) fun _ => ?_
    cases value.content with
    | scalar => exact .bind (trades_cfRelease value.ref) fun _ => .pure rfl
    | dictionary entries =>
      refine .bind (.use rfl (by simp [kitLedger])) fun typeString => ?_
      refine .bind (trades_takeValue typeString _ _) fun found => ?_
      exact .bind (trades_cfRelease value.ref) fun _ => .pure rfl

/-- The test for a known interface gives everything back. -/
theorem trades_isKnownUfiCbiInterface :
    Trades (S := S) kitLedger {.io entry} (isKnownUfiCbiInterface entry)
      fun _ => {.io entry} := by
  have hnumber {key : PropertyKey} {f : UInt16 → Prog S KitReply Bool}
      (hf : ∀ number, Trades kitLedger {.io entry} (f number) fun _ => {.io entry}) :
      Trades (S := S) kitLedger {.io entry} (do
        let some number ← cfNumberU16 entry key | return false
        f number) fun _ => {.io entry} := by
    refine .bind (trades_cfNumberU16 key) fun number => ?_
    cases number with
    | none => exact .pure rfl
    | some number => exact hf number
  refine hnumber fun interfaceClass => hnumber fun interfaceSubclass =>
    hnumber fun interfaceProtocol => hnumber fun vendor => hnumber fun product => ?_
  exact .ite (fun _ => trades_exposesPlugin _ _) fun _ => .pure rfl

end References

/-! ## Calls -/

/-- Looking at a value reads it and releases it. -/
theorem only_takeValue {P : KitCall → Prop} (hread : ∀ value, P (.cfRead value))
    (hrelease : ∀ ref, P (.cfRelease ref)) (value : Option CfObject) (look : CfContent → α)
    (missing : α) : Only (S := S) P (takeValue value look missing) := by
  cases value with
  | none => exact .pure _
  | some value =>
    exact .bind (.call (hread value)) fun _ => .bind (.call (hrelease value.ref)) fun _ => .pure _

/-- The calls that look something up. -/
def IsLookup : KitCall → Prop
  | .ioCreatePlugInInterfaceForService _ _ => False
  | .queryInterface _ => False
  | .calloc => False
  | .ioIteratorNext _ => False
  | _ => True

/-- Looking at a value is a lookup. -/
theorem takeValue_lookup (value : Option CfObject) (look : CfContent → α)
    (missing : α) : Only (S := S) IsLookup (takeValue value look missing) :=
  only_takeValue (fun _ => trivial) (fun _ => trivial) value look missing

/-- The search for a plug-in type is a lookup. -/
theorem exposesPlugin_lookup (service : ℕ) (type : PlugInType)
    (search : List (CfScalar × CfScalar) → CfContent → Bool) :
    Only (S := S) IsLookup (exposesPlugin service type search) := by
  refine .bind (.call trivial) fun value => ?_
  cases value with
  | none => exact .pure _
  | some value =>
    refine .bind (.call trivial) fun _ => ?_
    cases value.content with
    | scalar => exact .bind (.call trivial) fun _ => .pure _
    | dictionary entries =>
      refine .bind (.call trivial) fun typeString => ?_
      exact .bind (takeValue_lookup _ _ _) fun _ => .bind (.call trivial) fun _ => .pure _

/-- The test for a direct-access device is a lookup. -/
theorem isDirectAccessScsiService_lookup (service : ℕ) :
    Only (S := S) IsLookup (isDirectAccessScsiService service) :=
  .bind (.call trivial) fun value => takeValue_lookup value _ _

/-- The test for a known interface is a lookup. -/
theorem isKnownUfiCbiInterface_lookup (service : ℕ) :
    Only (S := S) IsLookup (isKnownUfiCbiInterface service) := by
  have hnumber {key : PropertyKey} {f : UInt16 → Prog S KitReply Bool}
      (hf : ∀ number, Only IsLookup (f number)) : Only (S := S) IsLookup (do
        let some number ← cfNumberU16 service key | return false
        f number) := by
    refine .bind (.bind (.call trivial) fun value => takeValue_lookup _ _ _) fun number => ?_
    cases number with
    | none => exact .pure _
    | some number => exact hf number
  refine hnumber fun interfaceClass => hnumber fun interfaceSubclass =>
    hnumber fun interfaceProtocol => hnumber fun vendor => hnumber fun product => ?_
  exact .ite (exposesPlugin_lookup _ _ _) (.pure _)

/-! ## Recorders -/

/-- A recorder that takes no notice of what is looked at and released. -/
theorem silent_of_takeValue {Q E : Type} {m : Recorder KitReply Q E}
    (hread : ∀ q value, m q (.cfRead value) () = (q, []))
    (hrelease : ∀ q ref, m q (.cfRelease ref) () = (q, [])) {value : Option CfObject}
    {look : CfContent → α} {missing out : α} {s s' : S} {t : List (KitEvent S)}
    (h : Exec (takeValue value look missing) s t out s') :
    m.Silent t ∧ out = (value.map fun value => look value.content).getD missing ∧ s' = s := by
  cases value with
  | none =>
    obtain ⟨rfl, rfl, rfl⟩ := exec_pure.1 h
    exact ⟨.nil, rfl, rfl⟩
  | some value =>
    obtain ⟨_, t₁, h₁, rfl⟩ := exec_call_bind.1 h
    obtain ⟨_, t₂, h₂, rfl⟩ := exec_call_bind.1 h₁
    obtain ⟨rfl, rfl, rfl⟩ := exec_pure.1 h₂
    exact ⟨by simp [Recorder.Silent, hread, hrelease], rfl, rfl⟩

end M65.Kit
