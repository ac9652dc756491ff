import FloppyProbe.Kit.Properties

/-!
# Discovery, with its objects

`m65_discover_devices` of `src/discovery_macos.c` once more, with every object of IOKit, Core
Foundation and Disk Arbitration. The iterator is at its end some time; here at most `rounds` media
are taken from it.

* `discovery_balanced`: the discovery uses only what it holds, and gives back all it obtained once,
  whether it lists the devices or fails.
-/

namespace M65.Kit

open Interaction

variable {S : Type}

/-! ## Properties of a medium -/

/-- `copy_recursive_property` with a key that is created for it. -/
def copyRecursiveProperty (entry : ℕ) (key : PropertyKey) :
    Prog S KitReply (Option CfObject) := do
  let cfKey : Option CfObject ← Prog.call (KitCall.cfStringCreateWithCString key)
  match cfKey with
  | none => return none
  | some cfKey =>
      let value : Option CfObject ←
        Prog.call (KitCall.ioRegistryEntrySearchCfProperty entry key cfKey.ref)
      Prog.call (KitCall.cfRelease cfKey.ref)
      return value

/-- `copy_cf_string`, and the release of the value. -/
def takeString {n : ℕ} [NeZero n] (value : Option CfObject) : Prog S KitReply (Text n) :=
  takeValue value (fun content => copyCfString content.string) Text.empty

/-- `recursive_u16`. -/
def recursiveU16 (entry : ℕ) (key : PropertyKey) : Prog S KitReply UInt16 := do
  let value ← copyRecursiveProperty entry key
  takeValue value (fun content => M65.recursiveU16 content.sint64) 0

/-- `recursive_string`. -/
def recursiveString {n : ℕ} [NeZero n] (entry : ℕ) (key : PropertyKey) :
    Prog S KitReply (Text n) := do
  let value ← copyRecursiveProperty entry key
  takeString value

/-- The product string, or else the name of the product. -/
def readProduct (entry : ℕ) : Prog S KitReply (Text maxIdentity) := do
  let usbProduct : Text maxIdentity ← recursiveString entry .kUsbProductString
  if usbProduct.bytes = [] then
    recursiveString entry .kIoPropertyProductNameKey
  else
    return usbProduct

/-- `populate_identity`. -/
def populateIdentity (entry : ℕ) (device : DeviceInfo) : Prog S KitReply DeviceInfo := do
  let usbVid ← recursiveU16 entry .kUsbVendorId
  let usbPid ← recursiveU16 entry .kUsbProductId
  let usbDeviceRevision ← recursiveU16 entry .bcdDevice
  let usbManufacturer : Text maxIdentity ← recursiveString entry .kUsbVendorString
  let usbProduct ← readProduct entry
  let device :=
    { device with
      usbVid := usbVid
      usbPid := usbPid
      usbDeviceRevision := usbDeviceRevision
      usbManufacturer := usbManufacturer
      usbProduct := usbProduct
      productRevision := Text.format [str "0x", hexDigits 4 usbDeviceRevision.toNat] }
  return { device with knownController := identityMatches device }

/-- `dictionary_bool`. -/
def dictionaryBool (entries : List (CfScalar × CfScalar)) (key : DescriptionKey)
    (fallback : Bool) : Bool :=
  match entries.lookup (.constant key) with
  | some (.boolean value) => value
  | _ => fallback

/-- `dictionary_u64`. -/
def dictionaryU64 (entries : List (CfScalar × CfScalar)) (key : DescriptionKey) : UInt64 :=
  match entries.lookup (.constant key) with
  | some (.number _ sint64) => M65.dictionaryU64 sint64
  | _ => 0

/-- The device as its description has it. -/
def describe (entries : List (CfScalar × CfScalar)) (device : DeviceInfo) : DeviceInfo :=
  let capacityBytes := dictionaryU64 entries .mediaSize
  { device with
    external := !dictionaryBool entries .deviceInternal true
    removable := dictionaryBool entries .mediaRemovable false
    whole := dictionaryBool entries .mediaWhole false
    capacityBytes := capacityBytes
    blockSize := (dictionaryU64 entries .mediaBlockSize).toUInt32
    mounted := (entries.lookup (.constant .volumePath)).isSome
    mediaPresent := decide (0 < capacityBytes) }

/-- `fill_da_description`. -/
def fillDaDescription (session : ℕ) (device : DeviceInfo) : Prog S KitReply DeviceInfo := do
  let blockPath : Text maxIdentity := Text.format [str "/dev/", device.bsdName.bytes]
  let disk : Option ℕ ← Prog.call (KitCall.daDiskCreateFromBsdName session blockPath.toCString)
  match disk with
  -- without a description the fields stay zero, and the medium is listed all the same
  | none => return device
  | some disk =>
      let description : Option CfObject ← Prog.call (KitCall.daDiskCopyDescription disk)
      match description with
      | none =>
          Prog.call (KitCall.cfRelease disk)
          return device
      | some description =>
          Prog.call (KitCall.cfRead description)
          Prog.call (KitCall.cfRelease description.ref)
          Prog.call (KitCall.cfRelease disk)
          return describe description.content.entries device

/-! ## The list -/

/-- A known controller is listed while there is room. -/
def listDevice (list : DeviceList) (device : DeviceInfo) : DeviceList :=
  -- media beyond the last entry are read and then forgotten
  if h : device.knownController = true ∧ list.items.length < maxDevices then
    ⟨list.items ++ [device], by rw [List.length_append]; exact h.2⟩
  else
    list

/-- The record of a medium with a BSD name. -/
def readDevice (session media : ℕ) (bsdName : Text maxBsdName) : Prog S KitReply DeviceInfo := do
  let mediaName : Option (Text maxIdentity) ← Prog.call (KitCall.ioRegistryEntryGetName media)
  -- nothing reads the path that this call returns
  let _ ← Prog.call (KitCall.ioRegistryEntryGetPath media)
  let device ← populateIdentity media
    { bsdName := bsdName, mediaName := (mediaName.map mediaNameOf).getD Text.empty }
  let device ← fillDaDescription session
    { device with rawPath := Text.format [str "/dev/r", bsdName.bytes] }
  let accessErrno : Option Int32 ← Prog.call (KitCall.access device.rawPath.toCString)
  return { device with
    readable := accessErrno.isNone
    permissionErrno := accessErrno.getD 0 }

/-- One round of the loop. -/
def addMedia (session media : ℕ) (list : DeviceList) : Prog S KitReply DeviceList := do
  let bsdValue : Option CfObject ←
    Prog.call (KitCall.ioRegistryEntryCreateCfProperty media .bsdName)
  let bsdName : Text maxBsdName ← takeString bsdValue
  -- a medium without a name is passed over
  if bsdName.bytes = [] then
    let _ ← Prog.call (KitCall.ioObjectRelease media)
    return list
  else
    let device ← readDevice session media bsdName
    let _ ← Prog.call (KitCall.ioObjectRelease media)
    return listDevice list device

/-- The loop over the media, nothing if there are more of them. -/
def addAllMedia (session iterator : ℕ) : ℕ → DeviceList → Prog S KitReply (Option DeviceList)
  | 0, _ => return none
  | rounds + 1, list => do
      let media : Option ℕ ← Prog.call (KitCall.ioIteratorNext iterator)
      match media with
      | none => return some list
      | some media =>
          let list ← addMedia session media list
          addAllMedia session iterator rounds list

/-- How a discovery ends: with a list, with a text, or while it is still at its media. -/
inductive Discovered where
  | listed (list : DeviceList)
  | failed (detail : ErrorText)
  /-- There are more media. -/
  | unfinished (session iterator : ℕ)

/-- `m65_discover_devices`. An enumeration that succeeds without an iterator has no media. -/
def discoverDevices (rounds : ℕ) : Prog S KitReply Discovered := do
  let session : Option ℕ ← Prog.call KitCall.daSessionCreate
  match session with
  | none => return .failed (errorText "unable to create a Disk Arbitration session")
  | some session =>
      let matching : Option ℕ ← Prog.call KitCall.ioServiceMatching
      match matching with
      | none =>
          Prog.call (KitCall.cfRelease session)
          -- the one failure that the source leaves without a text
          return .failed Text.empty
      | some matching =>
          let enumerated : StoredReply ←
            Prog.call (KitCall.ioServiceGetMatchingServices matching)
          if enumerated.result ≠ kernSuccess then
            Prog.call (KitCall.cfRelease session)
            return .failed (Text.format [str "I/O Registry media enumeration failed: 0x",
              hexDigits 8 enumerated.result.toNat])
          match enumerated.stored with
          | none =>
              Prog.call (KitCall.cfRelease session)
              return .listed {}
          | some iterator =>
              match ← addAllMedia session iterator rounds {} with
              | none => return .unfinished session iterator
              | some list =>
                  let _ ← Prog.call (KitCall.ioObjectRelease iterator)
                  Prog.call (KitCall.cfRelease session)
                  return .listed list

/-! ## References -/

/-- What a discovery holds at its end: its session and its iterator while it is at its media. -/
def Discovered.held : Discovered → Multiset KitObject
  | .unfinished session iterator => {.io iterator} + {.cf session}
  | _ => 0

section References

variable {F : Multiset KitObject} {entry : ℕ}

/-- The search for a property gives a value back to its caller, and nothing else. -/
theorem trades_copyRecursiveProperty (key : PropertyKey) :
    Trades (S := S) kitLedger {.io entry} (copyRecursiveProperty entry key)
      fun value => valueRef value + {.io entry} := by
  refine .bind (.use rfl (by simp [kitLedger])) fun cfKey => ?_
  cases cfKey with
  | none => exact .pure rfl
  | some cfKey =>
    refine .bind (.use rfl ?_) fun value => .bind ((trades_cfRelease cfKey.ref).congr
      (add_left_comm _ _ _) fun _ => rfl) fun _ => .pure rfl
    show ∀ x ∈ [KitObject.io entry, .cf cfKey.ref], x ∈ ({.cf cfKey.ref} + {.io entry} : Multiset _)
    simp

/-- Reading a number gives everything back. -/
theorem trades_recursiveU16 (key : PropertyKey) :
    Trades (S := S) kitLedger {.io entry} (recursiveU16 entry key)
      fun _ => {.io entry} :=
  .bind (trades_copyRecursiveProperty key) fun value => trades_takeValue value _ _

/-- Reading a string gives everything back. -/
theorem trades_recursiveString {n : ℕ} [NeZero n] (key : PropertyKey) :
    Trades (S := S) kitLedger {.io entry} (recursiveString (n := n) entry key)
      fun _ => {.io entry} :=
  .bind (trades_copyRecursiveProperty key) fun value => trades_takeValue value _ _

/-- Reading the names of a product gives everything back. -/
theorem trades_readProduct :
    Trades (S := S) kitLedger {.io entry} (readProduct entry) fun _ => {.io entry} :=
  .bind (trades_recursiveString _) fun _ => .ite (fun _ => trades_recursiveString _) fun _ =>
    .pure rfl

/-- Reading the identity of a device gives everything back. -/
theorem trades_populateIdentity (device : DeviceInfo) :
    Trades (S := S) kitLedger {.io entry} (populateIdentity entry device)
      fun _ => {.io entry} :=
  .bind (trades_recursiveU16 _) fun _ => .bind (trades_recursiveU16 _) fun _ =>
    .bind (trades_recursiveU16 _) fun _ => .bind (trades_recursiveString _) fun _ =>
      .bind trades_readProduct fun _ => .pure rfl

/-- Reading the description of a disk gives everything back. -/
theorem trades_fillDaDescription (session : ℕ) (device : DeviceInfo) :
    Trades (S := S) kitLedger {.cf session} (fillDaDescription session device)
      fun _ => {.cf session} := by
  refine .bind (.use rfl (by simp [kitLedger])) fun disk => ?_
  cases disk with
  | none => exact .pure (zero_add _)
  | some disk =>
    refine .bind (.use rfl (by simp [kitLedger])) fun description => ?_
    cases description with
    | none =>
      exact .bind ((trades_cfRelease disk).congr (zero_add _) fun _ => rfl) fun _ => .pure rfl
    | some description =>
      exact .bind (trades_cfRead description) fun _ => .bind (trades_cfRelease description.ref)
        fun _ => .bind (trades_cfRelease disk) fun _ => .pure rfl

/-- A medium is looked at while the session is held. -/
theorem trades_readDevice (session media : ℕ) (bsdName : Text maxBsdName) :
    Trades (S := S) kitLedger ({.io media} + {.cf session})
      (readDevice session media bsdName) fun _ => {.io media} + {.cf session} := by
  refine .bind ((Trades.use rfl (by simp [kitLedger])).congr rfl fun _ => zero_add _) fun _ => ?_
  refine .bind ((Trades.use rfl (by simp [kitLedger])).congr rfl fun _ => zero_add _) fun _ => ?_
  refine .bind ((trades_populateIdentity _).frame _) fun device => ?_
  refine .bind (((trades_fillDaDescription session _).frame {.io media}).congr (add_comm _ _)
    fun _ => add_comm _ _) fun device => ?_
  exact .bind ((Trades.use rfl (by simp [kitLedger])).congr rfl fun _ => zero_add _)
    fun _ => .pure rfl

/-- Adding a medium gives the medium back and keeps the session. -/
theorem trades_addMedia (session media : ℕ) (list : DeviceList) :
    Trades (S := S) kitLedger ({.io media} + {.cf session}) (addMedia session media list)
      fun _ => {.cf session} := by
  refine .bind ((trades_createProperty media _).frame _) fun bsdValue => ?_
  refine .bind ((trades_takeValue bsdValue _ _).congr (add_assoc _ _ _) fun _ => rfl)
    fun bsdName => .ite (fun _ => ?_) fun _ => ?_
  · exact .bind (trades_ioObjectRelease media) fun _ => .pure rfl
  · exact .bind (trades_readDevice session media bsdName) fun device =>
      .bind (trades_ioObjectRelease media) fun _ => .pure rfl

/-- Adding all media gives each of them back. -/
theorem trades_addAllMedia (session iterator : ℕ) (rounds : ℕ) (list : DeviceList) :
    Trades (S := S) kitLedger ({.io iterator} + {.cf session})
      (addAllMedia session iterator rounds list) fun _ => {.io iterator} + {.cf session} := by
  induction rounds generalizing list with
  | zero => exact .pure rfl
  | succ rounds ih =>
    refine .bind (.use rfl (by simp [kitLedger])) fun media => ?_
    cases media with
    | none => exact .pure (zero_add _)
    | some media =>
      refine .bind (((trades_addMedia session media list).frame {.io iterator}).congr ?_
        fun _ => add_comm _ _) fun list => ih list
      show ({.io media} : Multiset KitObject) + ({.io iterator} + {.cf session}) =
        {.io media} + {.cf session} + {.io iterator}
      ac_rfl

/-- A discovery ends with what it holds. -/
theorem trades_discoverDevices (rounds : ℕ) :
    Trades (S := S) kitLedger 0 (discoverDevices rounds) Discovered.held := by
  refine .bind (.use rfl (by simp [kitLedger])) fun session => ?_
  cases session with
  | none => exact .pure rfl
  | some session =>
    -- every return behind this point releases the session
    have hclose (result : Discovered) (hheld : result.held = 0) :
        Trades (S := S) kitLedger {.cf session} (do
          Prog.call (KitCall.cfRelease session)
          return result) Discovered.held :=
      .bind ((trades_cfRelease session).congr (add_zero _).symm fun _ => rfl) fun _ =>
        .pure hheld.symm
    refine .bind (.use rfl (by simp [kitLedger])) fun matching => ?_
    cases matching with
    | none => exact (hclose _ rfl).congr (zero_add _) fun _ => rfl
    | some matching =>
      refine .bind (.call (L := kitLedger) (i := .ioServiceGetMatchingServices matching)
        (by simp [kitLedger])) fun enumerated => ?_
      show Trades _ (refTo .io enumerated.found + {.cf session}) _ _
      refine .ite (fun hfailed => ?_) fun hlisted => ?_
      · rw [StoredReply.found, if_neg hfailed]
        exact (hclose _ rfl).congr (zero_add _) fun _ => rfl
      rw [StoredReply.found, if_pos (not_not.1 hlisted)]
      cases enumerated.stored with
      | none => exact (hclose _ rfl).congr (zero_add _) fun _ => rfl
      | some iterator =>
        refine .bind (trades_addAllMedia session iterator rounds {}) fun list => ?_
        cases list with
        | none => exact .pure rfl
        | some list => exact .bind (trades_ioObjectRelease iterator) fun _ => hclose _ rfl

end References

/-! ## Ways through -/

/-- The calls before the loop. -/
def openingEvents (s : S) (session matching : ℕ) (enumerated : StoredReply) :
    List (KitEvent S) :=
  [⟨s, .daSessionCreate, some session⟩, ⟨s, .ioServiceMatching, some matching⟩,
    ⟨s, .ioServiceGetMatchingServices matching, enumerated⟩]

/-- What a discovery does from `s` on, with the state that it ends in. -/
inductive Discovers (rounds : ℕ) (s : S) : List (KitEvent S) → Discovered → S → Prop
  | sessionless : Discovers rounds s [⟨s, .daSessionCreate, none⟩]
      (.failed (errorText "unable to create a Disk Arbitration session")) s
  | unmatched {session : ℕ} : Discovers rounds s [⟨s, .daSessionCreate, some session⟩,
      ⟨s, .ioServiceMatching, none⟩, ⟨s, .cfRelease session, ()⟩] (.failed Text.empty) s
  | refused {session matching : ℕ} {enumerated : StoredReply}
      (hresult : enumerated.result ≠ kernSuccess) :
      Discovers rounds s
        (openingEvents s session matching enumerated ++ [⟨s, .cfRelease session, ()⟩])
        (.failed (Text.format [str "I/O Registry media enumeration failed: 0x",
          hexDigits 8 enumerated.result.toNat])) s
  | vacant {session matching : ℕ} {enumerated : StoredReply}
      (hresult : enumerated.result = kernSuccess) :
      Discovers rounds s
        (openingEvents s session matching enumerated ++ [⟨s, .cfRelease session, ()⟩])
        (.listed {}) s
  | listed {session matching iterator : ℕ} {enumerated : StoredReply} {t : List (KitEvent S)}
      {list : DeviceList} {s' : S} {released : KernReturn}
      (hresult : enumerated.result = kernSuccess)
      (hall : Exec (addAllMedia session iterator rounds {}) s t (some list) s') :
      Discovers rounds s (openingEvents s session matching enumerated ++
        (t ++ [⟨s', .ioObjectRelease iterator, released⟩, ⟨s', .cfRelease session, ()⟩]))
        (.listed list) s'
  | unfinished {session matching iterator : ℕ} {enumerated : StoredReply}
      {t : List (KitEvent S)} {s' : S}
      (hall : Exec (addAllMedia session iterator rounds {}) s t none s') :
      Discovers rounds s (openingEvents s session matching enumerated ++ t)
        (.unfinished session iterator) s'

/-- Every execution of the discovery is one of its cases. -/
theorem discovers_of_exec {rounds : ℕ} {s s' : S} {t : List (KitEvent S)} {out : Discovered}
    (h : Exec (discoverDevices rounds) s t out s') : Discovers rounds s t out s' := by
  obtain ⟨session, t₁, h₁, rfl⟩ := exec_call_bind.1 h
  cases session with
  | none =>
    obtain ⟨rfl, rfl, rfl⟩ := exec_pure.1 h₁
    exact .sessionless
  | some session =>
    obtain ⟨matching, t₂, h₂, rfl⟩ := exec_call_bind.1 h₁
    cases matching with
    | none =>
      obtain ⟨_, t₃, h₃, rfl⟩ := exec_call_bind.1 h₂
      obtain ⟨rfl, rfl, rfl⟩ := exec_pure.1 h₃
      exact .unmatched
    | some matching =>
      obtain ⟨enumerated, t₃, h₃, rfl⟩ := exec_call_bind.1 h₂
      rcases exec_ite.1 h₃ with ⟨hresult, h₄⟩ | ⟨hresult, h₄⟩
      · obtain ⟨_, t₄, h₅, rfl⟩ := exec_call_bind.1 h₄
        obtain ⟨rfl, rfl, rfl⟩ := exec_pure.1 h₅
        exact .refused hresult
      -- the result was good, but an iterator need not have been stored
      obtain ⟨result, stored⟩ := enumerated
      cases stored with
      | none =>
        obtain ⟨_, t₄, h₅, rfl⟩ := exec_call_bind.1 h₄
        obtain ⟨rfl, rfl, rfl⟩ := exec_pure.1 h₅
        exact .vacant (not_not.1 hresult)
      | some iterator =>
        obtain ⟨t₄, list, s₁, t₅, hall, h₅, rfl⟩ := exec_bind.1 h₄
        cases list with
        | none =>
          obtain ⟨rfl, rfl, rfl⟩ := exec_pure.1 h₅
          rw [List.append_nil]
          exact .unfinished hall
        | some list =>
          obtain ⟨released, t₆, h₆, rfl⟩ := exec_call_bind.1 h₅
          obtain ⟨_, t₇, h₇, rfl⟩ := exec_call_bind.1 h₆
          obtain ⟨rfl, rfl, rfl⟩ := exec_pure.1 h₇
          exact .listed (not_not.1 hresult) hall

/-! ## Rounds -/

/-- The media that the iterator gave. -/
def mediaCount (t : List (KitEvent S)) : ℕ :=
  t.countP fun e =>
    match e with
    | ⟨_, .ioIteratorNext _, media⟩ => (media : Option ℕ).isSome
    | _ => false

/-- The media of two traces are counted together. -/
theorem mediaCount_append (t t' : List (KitEvent S)) :
    mediaCount (t ++ t') = mediaCount t + mediaCount t' := List.countP_append

/-- A loop over the media that did not end has taken one in each of its rounds. -/
theorem rounds_le_of_addAllMedia {session iterator rounds : ℕ} {list : DeviceList} {s s' : S}
    {t : List (KitEvent S)} (h : Exec (addAllMedia session iterator rounds list) s t none s') :
    rounds ≤ mediaCount t := by
  induction rounds generalizing list t s with
  | zero => exact Nat.zero_le _
  | succ rounds ih =>
    obtain ⟨media, t₁, h₁, rfl⟩ := exec_call_bind.1 h
    cases media with
    | none =>
      obtain ⟨-, hlist, -⟩ := exec_pure.1 h₁
      cases hlist
    | some media =>
      obtain ⟨t₂, list', s₁, t₃, -, h₂, rfl⟩ := exec_bind.1 h₁
      have hrest := ih h₂
      simp only [mediaCount, List.countP_cons, List.countP_append] at hrest ⊢
      simp only [Option.isSome_some, if_true]
      omega

/-- A discovery that did not end has taken a medium in each of its rounds. -/
theorem rounds_le_of_discovery {rounds session iterator : ℕ} {s s' : S} {t : List (KitEvent S)}
    (h : Exec (discoverDevices rounds) s t (.unfinished session iterator) s') :
    rounds ≤ mediaCount t := by
  cases discovers_of_exec h with
  | unfinished hall =>
    refine (rounds_le_of_addAllMedia hall).trans ?_
    simp [mediaCount, openingEvents]

/-- The discovery gives back all it obtained, also where it fails. Only an iterator with more than
`rounds` media stops it in between. -/
theorem discovery_balanced (rounds : ℕ) (s : S) (r : Run (discoverDevices rounds) s) :
    kitLedger.monitor.run 0 r.trace = some r.result.held ∧
      ∀ session iterator, r.result = .unfinished session iterator →
        rounds ≤ mediaCount r.trace := by
  refine ⟨(trades_discoverDevices rounds).run r.exec, ?_⟩
  obtain ⟨trace, result, s', hexec⟩ := r
  rintro session iterator rfl
  exact rounds_le_of_discovery hexec

end M65.Kit
