import FloppyProbe.Device.Discovery
import FloppyProbe.Interaction.Ledger
import FloppyProbe.Mac.Creation

/-!
# Counted objects

The calls of IOKit, Core Foundation, Disk Arbitration and the allocator that stand behind the
discovery and the creation of a transport, one by one, with the objects that they hand out.
`kitLedger` says which references each call uses, which it gives back, and which its reply hands
out.

What a Core Foundation object holds does not change. It is known with the object (`CfObject`), and
looking at it is a call without a result.
-/

namespace M65

open Interaction

/-! ## Core Foundation -/

/-- The keys of a disk description. -/
inductive DescriptionKey where
  | deviceInternal
  | mediaRemovable
  | mediaWhole
  | mediaSize
  | mediaBlockSize
  | volumePath
deriving DecidableEq

/-- A value that is not a container. -/
inductive CfScalar where
  /-- What `CFNumberGetValue` makes of it as an `SInt32` and as an `SInt64`. -/
  | number (sint32 : Option Int32) (sint64 : Option Int64)
  | string (text : CString)
  | boolean (value : Bool)
  /-- A string that Disk Arbitration defines. -/
  | constant (key : DescriptionKey)
  | other
deriving DecidableEq

/-- The content of a Core Foundation object: a scalar, or a dictionary of scalars. -/
inductive CfContent where
  | scalar (value : CfScalar)
  | dictionary (entries : List (CfScalar × CfScalar))
deriving DecidableEq

/-- A Core Foundation object: the reference to it, and its content. -/
structure CfObject where
  ref : ℕ
  content : CfContent
deriving DecidableEq

namespace CfContent

/-- The number as `kCFNumberSInt32Type`, when the object is one. -/
def sint32 : CfContent → Option Int32
  | .scalar (.number sint32 _) => sint32
  | _ => none

/-- The number as `kCFNumberSInt64Type`, when the object is one. -/
def sint64 : CfContent → Option Int64
  | .scalar (.number _ sint64) => sint64
  | _ => none

/-- The text, when the object is a string. -/
def string : CfContent → Option CString
  | .scalar (.string text) => some text
  | _ => none

/-- The entries, when the object is a dictionary. -/
def entries : CfContent → List (CfScalar × CfScalar)
  | .dictionary entries => entries
  | _ => []

end CfContent

/-! ## Calls -/

/-- The keys of registry properties, under the source's names for them. -/
inductive PropertyKey where
  | kUsbInterfaceClass
  | kUsbInterfaceSubClass
  | kUsbInterfaceProtocol
  | kUsbVendorId
  | kUsbProductId
  | kIoCfPlugInTypesKey
  | kUsbVendorString
  | kUsbProductString
  | kIoPropertyProductNameKey
  | bsdName
  | bcdDevice
  | peripheralDeviceType
deriving DecidableEq

/-- The types of plug-ins whose identifiers the source makes a string of. -/
inductive PlugInType where
  | kIoUsbInterfaceUserClientTypeId
  | kIoScsiTaskDeviceUserClientTypeId
deriving DecidableEq

/-- The objects that are counted. -/
inductive KitObject where
  | cf (ref : ℕ)
  | io (ref : ℕ)
  | plugIn (ref : ℕ)
  | interface (ref : ℕ)
  | memory (ref : ℕ)
deriving DecidableEq

/-- The calls of IOKit, Core Foundation and the allocator that take a reference or give one back. -/
inductive KitCall where
  | cfRead (value : CfObject)
  | cfRelease (ref : ℕ)
  | cfStringCreateWithCString (key : PropertyKey)
  | cfUuidCreateString (type : PlugInType)
  | ioBsdNameMatching (name : List UInt8)
  | ioServiceMatching
  | ioServiceGetMatchingService (matching : ℕ)
  | ioServiceGetMatchingServices (matching : ℕ)
  | ioIteratorNext (iterator : ℕ)
  | ioRegistryEntryGetParentEntry (entry : ℕ)
  | ioRegistryEntryCreateCfProperty (entry : ℕ) (key : PropertyKey)
  /-- The key is a string that was created for it. -/
  | ioRegistryEntrySearchCfProperty (entry : ℕ) (key : PropertyKey) (keyRef : ℕ)
  | ioRegistryEntryGetName (entry : ℕ)
  | ioRegistryEntryGetPath (entry : ℕ)
  | ioObjectRelease (object : ℕ)
  | ioCreatePlugInInterfaceForService (service : ℕ) (type : PlugInType)
  | queryInterface (plugIn : ℕ)
  | ioDestroyPlugInInterface (plugIn : ℕ)
  | release (interface : ℕ)
  | calloc
  | free (block : Option ℕ)
  | daSessionCreate
  | daDiskCreateFromBsdName (session : ℕ) (path : CString)
  | daDiskCopyDescription (disk : ℕ)
  | access (path : CString)

/-- A result with the object that was stored along with it. -/
structure StoredReply where
  /-- The `kern_return_t` of the call. -/
  result : UInt32
  /-- The object, `none` for NULL. -/
  stored : Option ℕ
deriving DecidableEq

/-- The answer to a query for an interface. A failed query can store a pointer too, and a query
that succeeds can leave the variable of its caller as it was. -/
structure QueryReply where
  /-- The `HRESULT` of the call. -/
  result : UInt32
  /-- The pointer that the call stores, with `some none` for NULL; `none` when it stores none. -/
  written : Option (Option ℕ)
deriving DecidableEq

/-- What the variable for the interface holds after the query, where it held `before`. -/
def QueryReply.pointer (reply : QueryReply) (before : Option ℕ) : Option ℕ :=
  reply.written.getD before

/-- The interface that the query delivers to a caller whose variable held `before`: the query
succeeded, and the variable is not NULL. -/
def QueryReply.delivered (reply : QueryReply) (before : Option ℕ) : Option ℕ :=
  if reply.result = 0 then reply.pointer before else none

/-- The reply to each of these calls. -/
abbrev KitReply : KitCall → Type
  | .cfRead _ => Unit
  | .cfRelease _ => Unit
  | .cfStringCreateWithCString _ => Option CfObject
  | .cfUuidCreateString _ => Option CfObject
  | .ioBsdNameMatching _ => Option ℕ
  | .ioServiceMatching => Option ℕ
  | .ioServiceGetMatchingService _ => Option ℕ
  | .ioServiceGetMatchingServices _ => StoredReply
  | .ioIteratorNext _ => Option ℕ
  | .ioRegistryEntryGetParentEntry _ => StoredReply
  | .ioRegistryEntryCreateCfProperty _ _ => Option CfObject
  | .ioRegistryEntrySearchCfProperty _ _ _ => Option CfObject
  | .ioRegistryEntryGetName _ => Option (Text maxIdentity)
  | .ioRegistryEntryGetPath _ => KernReturn
  | .ioObjectRelease _ => KernReturn
  | .ioCreatePlugInInterfaceForService _ _ => StoredReply
  | .queryInterface _ => QueryReply
  | .ioDestroyPlugInInterface _ => IOReturn
  | .release _ => UInt32
  | .calloc => Option ℕ
  | .free _ => Unit
  | .daSessionCreate => Option ℕ
  | .daDiskCreateFromBsdName _ _ => Option ℕ
  | .daDiskCopyDescription _ => Option CfObject
  | .access _ => Option Int32

/-- A call with its reply. -/
abbrev KitEvent (S : Type) : Type := Event S KitReply

/-! ## References -/

/-- The reference to an object, nothing for NULL. -/
def refTo (kind : ℕ → KitObject) (object : Option ℕ) : Multiset KitObject :=
  (object.map fun ref => {kind ref}).getD 0

/-- The reference to a value, when there is one. -/
def valueRef (value : Option CfObject) : Multiset KitObject :=
  refTo .cf (value.map CfObject.ref)

/-- What is stored along with a failure of the kernel is no object. -/
def StoredReply.found (reply : StoredReply) : Option ℕ :=
  if reply.result = kernSuccess then reply.stored else none

/-- The references of the calls. A matching dictionary is given away with the search that it is
for. Whatever is stored is handed out, by `QueryInterface` also when it fails. -/
def kitLedger : Ledger KitReply KitObject where
  uses
    | .cfRead value => [.cf value.ref]
    | .ioIteratorNext iterator => [.io iterator]
    | .ioRegistryEntryGetParentEntry entry => [.io entry]
    | .ioRegistryEntryCreateCfProperty entry _ => [.io entry]
    | .ioRegistryEntrySearchCfProperty entry _ keyRef => [.io entry, .cf keyRef]
    | .ioRegistryEntryGetName entry => [.io entry]
    | .ioRegistryEntryGetPath entry => [.io entry]
    | .ioCreatePlugInInterfaceForService service _ => [.io service]
    | .queryInterface plugIn => [.plugIn plugIn]
    | .daDiskCreateFromBsdName session _ => [.cf session]
    | .daDiskCopyDescription disk => [.cf disk]
    | _ => []
  releases
    | .cfRelease ref => {.cf ref}
    | .ioServiceGetMatchingService matching => {.cf matching}
    | .ioServiceGetMatchingServices matching => {.cf matching}
    | .ioObjectRelease object => {.io object}
    | .ioDestroyPlugInInterface plugIn => {.plugIn plugIn}
    | .release interface => {.interface interface}
    | .free block => refTo .memory block
    | _ => 0
  obtains
    | .cfStringCreateWithCString _, value => valueRef value
    | .cfUuidCreateString _, value => valueRef value
    | .ioBsdNameMatching _, matching => refTo .cf matching
    | .ioServiceMatching, matching => refTo .cf matching
    | .ioServiceGetMatchingService _, service => refTo .io service
    | .ioServiceGetMatchingServices _, reply => refTo .io reply.found
    | .ioIteratorNext _, entry => refTo .io entry
    | .ioRegistryEntryGetParentEntry _, reply => refTo .io reply.found
    | .ioRegistryEntryCreateCfProperty _ _, value => valueRef value
    | .ioRegistryEntrySearchCfProperty _ _ _, value => valueRef value
    | .ioCreatePlugInInterfaceForService _ _, reply => refTo .plugIn reply.stored
    | .queryInterface _, reply => refTo .interface (reply.pointer none)
    | .calloc, block => refTo .memory block
    | .daSessionCreate, session => refTo .cf session
    | .daDiskCreateFromBsdName _ _, disk => refTo .cf disk
    | .daDiskCopyDescription _, value => valueRef value
    | _, _ => 0

/-- Nothing is no reference. -/
@[simp]
theorem refTo_none (kind : ℕ → KitObject) : refTo kind none = 0 := rfl

/-- Something is one reference. -/
@[simp]
theorem refTo_some (kind : ℕ → KitObject) (ref : ℕ) : refTo kind (some ref) = {kind ref} := rfl

@[simp]
theorem valueRef_none : valueRef none = 0 := rfl

@[simp]
theorem valueRef_some (value : CfObject) : valueRef (some value) = {.cf value.ref} := rfl

/-! ## Rules -/

namespace Kit

section Rules

variable {S α : Type} {F : Multiset KitObject}

/-- Reading a value needs it and keeps it. -/
theorem trades_cfRead (value : CfObject) :
    Trades (S := S) kitLedger ({.cf value.ref} + F) (Prog.call (KitCall.cfRead value))
      fun _ => {.cf value.ref} + F :=
  (Trades.use rfl (by simp [kitLedger])).congr rfl fun _ => zero_add _

/-- A value is given back. -/
theorem trades_cfRelease (ref : ℕ) :
    Trades (S := S) kitLedger ({.cf ref} + F) (Prog.call (KitCall.cfRelease ref))
      fun _ => F :=
  .give (L := kitLedger) (i := .cfRelease ref) rfl fun _ => rfl

/-- An IOKit object is given back. -/
theorem trades_ioObjectRelease (object : ℕ) :
    Trades (S := S) kitLedger ({.io object} + F)
      (Prog.call (KitCall.ioObjectRelease object)) fun _ => F :=
  .give (L := kitLedger) (i := .ioObjectRelease object) rfl fun _ => rfl

/-- A plug-in is given back. -/
theorem trades_ioDestroyPlugInInterface (plugin : ℕ) :
    Trades (S := S) kitLedger ({.plugIn plugin} + F)
      (Prog.call (KitCall.ioDestroyPlugInInterface plugin)) fun _ => F :=
  .give (L := kitLedger) (i := .ioDestroyPlugInInterface plugin) rfl fun _ => rfl

/-- An interface is given back. -/
theorem trades_release (interface : ℕ) :
    Trades (S := S) kitLedger ({.interface interface} + F)
      (Prog.call (KitCall.release interface)) fun _ => F :=
  .give (L := kitLedger) (i := .release interface) rfl fun _ => rfl

/-- A block of memory is given back. -/
theorem trades_free (block : Option ℕ) :
    Trades (S := S) kitLedger (refTo .memory block + F) (Prog.call (KitCall.free block))
      fun _ => F :=
  .give (L := kitLedger) (i := .free block) rfl fun _ => rfl

/-- A block of memory is obtained, unless there is none. -/
theorem trades_calloc :
    Trades (S := S) kitLedger F (Prog.call KitCall.calloc)
      fun block => refTo .memory block + F :=
  .use (L := kitLedger) (i := .calloc) rfl (by simp [kitLedger])

/-- A matching dictionary is a new object. -/
theorem trades_ioBsdNameMatching {name : List UInt8} :
    Trades (S := S) kitLedger F (Prog.call (KitCall.ioBsdNameMatching name))
      fun matching => refTo .cf matching + F :=
  .use rfl (by simp [kitLedger])

/-- The search for a service uses up the dictionary that it is for. -/
theorem trades_ioServiceGetMatchingService (matching : ℕ) :
    Trades (S := S) kitLedger ({.cf matching} + F)
      (Prog.call (KitCall.ioServiceGetMatchingService matching))
      fun service => refTo .io service + F :=
  .call (L := kitLedger) (i := .ioServiceGetMatchingService matching) (by simp [kitLedger])

/-- A property is a new object beside its entry. -/
theorem trades_createProperty (entry : ℕ) (key : PropertyKey) :
    Trades (S := S) kitLedger {.io entry}
      (Prog.call (KitCall.ioRegistryEntryCreateCfProperty entry key))
      fun value => valueRef value + {.io entry} :=
  .use rfl (by simp [kitLedger])

/-- A step to the parent gives the entry back for it. -/
theorem trades_stepToParent {current : ℕ} {f : Option ℕ → Prog S KitReply α}
    {R : α → Multiset KitObject}
    (hf : ∀ parent, Trades kitLedger (refTo .io parent) (f parent) R) :
    Trades kitLedger {.io current} (do
      let reply : StoredReply ← Prog.call (KitCall.ioRegistryEntryGetParentEntry current)
      let _ ← Prog.call (KitCall.ioObjectRelease current)
      f reply.found) R := by
  refine .bind (.use rfl (by simp [kitLedger])) fun reply => ?_
  refine .bind ((trades_ioObjectRelease current).congr ?_ fun _ => rfl) fun _ => hf _
  exact add_comm _ _

end Rules

end Kit

end M65
