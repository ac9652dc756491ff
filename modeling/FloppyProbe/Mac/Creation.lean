import FloppyProbe.Device.Device
import FloppyProbe.Mac.Adapter

/-!
# Creation of the transport

`m65_usb_cbi_transport_create` of `src/usb_cbi_macos.c`, as a program that asks the I/O Registry,
the plug-in interface and the allocator. What is created is a `macTransport` in its first state;
the program itself only decides whether there is one, and says why not.
-/

namespace M65

open Interaction

/-! ## Environment -/

/-- The properties of an entry of the I/O Registry; one that is missing or has another type is
nothing. -/
structure RegistryEntry where
  usbInterfaceClass : Option Int32 := none
  usbInterfaceSubClass : Option Int32 := none
  usbInterfaceProtocol : Option Int32 := none
  usbVendorId : Option Int32 := none
  usbProductId : Option Int32 := none
  /-- Whether the plug-in of USB interfaces is among its plug-in types. -/
  exposesUsbInterfacePlugin : Bool := false

/-- A result with whether a pointer was stored along with it. -/
structure PointerReply where
  result : UInt32
  stored : Bool

/-- The functions of the system that the creation of a USB transport calls. -/
inductive CreationCall where
  /-- The reply is the media service with this name and its ancestors, nearest first. -/
  | ioServiceGetMatchingService (bsdName : List UInt8)
  | ioCreatePlugInInterfaceForService
  | queryInterface
  /-- The reply tells whether there was memory. -/
  | calloc

/-- What each of these functions returns. -/
abbrev CreationReply : CreationCall → Type
  | .ioServiceGetMatchingService _ => List RegistryEntry
  | .ioCreatePlugInInterfaceForService => PointerReply
  | .queryInterface => PointerReply
  | .calloc => Bool

/-! ## The interface -/

/-- `cf_number_u16`: a number of the registry that fits sixteen bits. -/
def cfNumberU16 : Option Int32 → Option UInt16
  | none => none
  | some number =>
      if 0 ≤ number ∧ number ≤ 0xffff then some (UInt16.ofNat number.toNatClampNeg) else none

/-- `is_known_ufi_cbi_interface`: class, subclass, protocol, vendor and product are the known
ones. -/
def isKnownUfiCbiInterface (service : RegistryEntry) : Bool :=
  cfNumberU16 service.usbInterfaceClass == some 0x08 &&
    cfNumberU16 service.usbInterfaceSubClass == some 0x04 &&
    cfNumberU16 service.usbInterfaceProtocol == some 0x00 &&
    cfNumberU16 service.usbVendorId == some 0x0644 &&
    cfNumberU16 service.usbProductId == some 0x0000 && service.exposesUsbInterfacePlugin

/-- `transport_status_for_cbi`. -/
def transportStatusForCbi : CbiIoStatus → TransportStatus
  | .ok => .ok
  | .permission => .permission
  | .noDevice => .noDevice
  | .timeout => .timeout
  | .stall => .io
  | .error => .io
  | .protocol => .protocol

/-! ## Creation -/

/-- A failed creation: the status and the detail. -/
structure CreationFailure where
  status : TransportStatus
  detail : ErrorText

/-- `m65_usb_cbi_transport_create`; `normalize_name` is `normalize_bsd_name` once more. -/
def usbCbiTransportCreate {S : Type} (bsdName : CString) :
    Prog S CreationReply (Except CreationFailure Unit) := do
  let name := normalizeBsdName bsdName.bytes
  if name = [] then
    return .error ⟨.io, errorText "missing BSD device name"⟩
  let ancestry : List RegistryEntry ← Prog.call (CreationCall.ioServiceGetMatchingService name)
  if !ancestry.any isKnownUfiCbiInterface then
    return .error ⟨.noDevice, errorText
      "selected media has no matching TEAC USB UFI/CBI interface in its ancestry"⟩
  let created : PointerReply ← Prog.call CreationCall.ioCreatePlugInInterfaceForService
  if created.result ≠ kIOReturnSuccess ∨ created.stored = false then
    -- success without a plug-in has a text of its own
    if created.result = kIOReturnSuccess then
      return .error ⟨.io, errorText "documented IOUSBLib plug-in creation returned NULL"⟩
    return .error ⟨transportStatusForCbi (mapIoReturn created.result),
      describeIoReturn "create documented IOUSBLib interface plug-in" created.result⟩
  let queried : PointerReply ← Prog.call CreationCall.queryInterface
  if queried.result ≠ 0 ∨ queried.stored = false then
    return .error ⟨.io, Text.format [
      str "query documented IOUSBInterfaceInterface190 failed with HRESULT 0x",
      hexDigits 8 queried.result.toNat]⟩
  let io ← Prog.call CreationCall.calloc
  let context ← Prog.call CreationCall.calloc
  -- both blocks are asked for before either is looked at
  if !(io && context) then
    return .error ⟨.io, errorText "out of memory creating USB CBI transport"⟩
  let transport ← Prog.call CreationCall.calloc
  let engine ← Prog.call CreationCall.calloc
  if !(transport && engine) then
    return .error ⟨.io, errorText "unable to create USB CBI command engine"⟩
  return .ok ()

end M65
