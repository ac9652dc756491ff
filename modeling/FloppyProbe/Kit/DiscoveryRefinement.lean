import FloppyProbe.Kit.Discovery

/-!
# The discovery refines its model

What the discovery reads of each medium that it takes from the iterator is a record as
`Device/Discovery.lean` gets it (`mediaOf`). For these media, and for what the calls before the
loop returned (`discoveryEvents`), the model lists the same devices or fails with the same detail.
-/

namespace M65.Kit

open Interaction

variable {S : Type} {s s' : S} {t t' : List (KitEvent S)}

/-! ## Readings -/

/-- The truth value under a key of the dictionary. -/
def booleanAt (entries : List (CfScalar × CfScalar)) (key : DescriptionKey) : Option Bool :=
  match entries.lookup (.constant key) with
  | some (.boolean value) => some value
  | _ => none

/-- The number under a key of the dictionary. -/
def numberAt (entries : List (CfScalar × CfScalar)) (key : DescriptionKey) : Option Int64 :=
  match entries.lookup (.constant key) with
  | some (.number _ sint64) => sint64
  | _ => none

/-- What a dictionary says about a disk. -/
def descriptionOf (entries : List (CfScalar × CfScalar)) : DiskDescription where
  deviceInternal := booleanAt entries .deviceInternal
  mediaRemovable := booleanAt entries .mediaRemovable
  mediaWhole := booleanAt entries .mediaWhole
  mediaSize := numberAt entries .mediaSize
  mediaBlockSize := numberAt entries .mediaBlockSize
  volumePath := (entries.lookup (.constant .volumePath)).isSome

/-- A flag is read from the dictionary as from its description. -/
theorem dictionaryBool_eq (entries : List (CfScalar × CfScalar)) (key : DescriptionKey)
    (fallback : Bool) :
    dictionaryBool entries key fallback = (booleanAt entries key).getD fallback := by
  unfold dictionaryBool booleanAt
  cases entries.lookup (.constant key) with
  | none => rfl
  | some value => cases value <;> rfl

/-- A number is read from the dictionary as from its description. -/
theorem dictionaryU64_eq (entries : List (CfScalar × CfScalar)) (key : DescriptionKey) :
    dictionaryU64 entries key = M65.dictionaryU64 (numberAt entries key) := by
  unfold dictionaryU64 numberAt
  cases entries.lookup (.constant key) with
  | none => rfl
  | some value => cases value <;> rfl

/-- A dictionary describes a device as its description does. -/
theorem describe_eq (entries : List (CfScalar × CfScalar)) (device : DeviceInfo) :
    describe entries device = M65.fillDaDescription (some (descriptionOf entries)) device := by
  unfold describe
  simp only [dictionaryBool_eq, dictionaryU64_eq]
  rfl

/-- The medium with one more property. -/
def withProperty (content : Option CfContent) : PropertyKey → Media → Media
  | .bsdName, media => { media with bsdName := content.bind CfContent.string }
  | .kUsbVendorId, media => { media with vendorId := content.bind CfContent.sint64 }
  | .kUsbProductId, media => { media with productId := content.bind CfContent.sint64 }
  | .bcdDevice, media => { media with bcdDevice := content.bind CfContent.sint64 }
  | .kUsbVendorString, media => { media with vendorString := content.bind CfContent.string }
  | .kUsbProductString, media => { media with productString := content.bind CfContent.string }
  | .kIoPropertyProductNameKey, media =>
      { media with productName := content.bind CfContent.string }
  | _, media => media

/-- The medium with its description. -/
def withDescription (entries : Option (List (CfScalar × CfScalar))) (media : Media) : Media :=
  { media with description := entries.map descriptionOf }

/-- The media that a trace read, each from the iterator to its release. -/
def mediaReadings : Recorder KitReply (Option Media) Media
  | _, .ioIteratorNext _, media => ((media : Option ℕ).map fun _ => {}, [])
  | some media, .ioRegistryEntryCreateCfProperty _ key, value =>
      (some (withProperty (value.map CfObject.content) key media), [])
  -- without a key there is no property
  | some media, .cfStringCreateWithCString key, _ => (some (withProperty none key media), [])
  | some media, .ioRegistryEntrySearchCfProperty _ key _, value =>
      (some (withProperty (value.map CfObject.content) key media), [])
  | some media, .ioRegistryEntryGetName _, name => (some { media with name := name }, [])
  | some media, .daDiskCreateFromBsdName _ _, _ => (some (withDescription none media), [])
  | some media, .daDiskCopyDescription _, value =>
      (some (withDescription (value.map fun value : CfObject => value.content.entries) media), [])
  | some media, .access _, errno => (some { media with accessErrno := errno }, [])
  | some media, .ioObjectRelease _, _ => (none, [media])
  | state, _, _ => (state, [])

/-- The media of a trace, each with what was read of it. -/
def mediaOf (t : List (KitEvent S)) : List Media := mediaReadings.entries none t

/-- What a trace reads of the medium at hand. -/
structure ReadsAs (f : Media → Media) (t : List (KitEvent S)) : Prop where
  after : ∀ media, mediaReadings.after (some media) t = some (f media)
  entries : ∀ media, mediaReadings.entries (some media) t = []

/-- Two readings of a medium add up. -/
theorem ReadsAs.append {f g : Media → Media} (h : ReadsAs f t) (h' : ReadsAs g t') :
    ReadsAs (fun media => g (f media)) (t ++ t') where
  after media := by rw [Recorder.after_append, h.after, h'.after]
  entries media := by rw [Recorder.entries_append, h.after, h.entries, h'.entries]; rfl

/-- What reads nothing may follow. -/
theorem ReadsAs.silent {f : Media → Media} (h : ReadsAs f t) (h' : mediaReadings.Silent t') :
    ReadsAs f (t ++ t') :=
  h.append (g := id) ⟨fun _ => h'.after _, fun _ => h'.entries _⟩

/-- The medium is written down when it is released. -/
theorem ReadsAs.released {f : Media → Media} (h : ReadsAs f t) (s : S) (object : ℕ)
    (result : KernReturn) (media : Media) :
    mediaReadings.after (some media) (t ++ [⟨s, .ioObjectRelease object, result⟩]) = none ∧
      mediaReadings.entries (some media) (t ++ [⟨s, .ioObjectRelease object, result⟩]) =
        [f media] := by
  constructor
  · rw [Recorder.after_append, h.after]
    rfl
  · rw [Recorder.entries_append, h.after, h.entries]
    rfl

/-- The calls that take no medium. -/
def NotNext : KitCall → Prop
  | .ioIteratorNext _ => False
  | _ => True

/-- Where no medium is at hand and none is taken, none is read. -/
theorem mediaOf_append (hafter : mediaReadings.after none t = none)
    (hnext : ∀ e ∈ t', NotNext e.call) :
    mediaOf (t ++ t') = mediaOf t := by
  have hnone : mediaReadings.entries none t' = [] := by
    induction t' with
    | nil => rfl
    | cons e t' ih =>
      obtain ⟨he, ht'⟩ := List.forall_mem_cons.1 hnext
      have hsilent : mediaReadings none e.call e.reply = (none, []) := by
        obtain ⟨s, call, reply⟩ := e
        cases call <;> first | rfl | exact he.elim
      rw [Recorder.entries_cons, hsilent, ih ht']
      rfl
  rw [mediaOf, Recorder.entries_append, hafter, hnone, List.append_nil]
  rfl

/-! ## Properties -/

section Properties

variable {entry : ℕ} {key : PropertyKey}

/-- The search for a property is a reading of that property. -/
theorem readsAs_of_copyRecursiveProperty {value : Option CfObject}
    (h : Exec (copyRecursiveProperty entry key) s t value s') :
    ReadsAs (withProperty (value.map CfObject.content) key) t ∧ s' = s := by
  obtain ⟨cfKey, t₁, h₁, rfl⟩ := exec_call_bind.1 h
  cases cfKey with
  | none =>
    obtain ⟨rfl, rfl, rfl⟩ := exec_pure.1 h₁
    exact ⟨⟨fun _ => rfl, fun _ => rfl⟩, rfl⟩
  | some cfKey =>
    obtain ⟨found, t₂, h₂, rfl⟩ := exec_call_bind.1 h₁
    obtain ⟨_, t₃, h₃, rfl⟩ := exec_call_bind.1 h₂
    obtain ⟨rfl, rfl, rfl⟩ := exec_pure.1 h₃
    refine ⟨⟨fun media => ?_, fun _ => rfl⟩, rfl⟩
    cases key <;> rfl

/-- A property is looked at once it was read. -/
theorem readsAs_of_taken {α : Type} {look : CfContent → α} {missing out : α}
    (h : Exec (copyRecursiveProperty entry key >>= fun value => takeValue value look missing)
      s t out s') :
    ∃ content, ReadsAs (withProperty content key) t ∧ out = (content.map look).getD missing ∧
      s' = s := by
  obtain ⟨t₁, value, s₁, t₂, hvalue, h₁, rfl⟩ := exec_bind.1 h
  obtain ⟨hreads, rfl⟩ := readsAs_of_copyRecursiveProperty hvalue
  obtain ⟨hsilent, rfl, rfl⟩ :=
    silent_of_takeValue (m := mediaReadings) (fun _ _ => by rfl) (fun _ _ => by rfl) h₁
  refine ⟨_, hreads.silent hsilent, ?_, rfl⟩
  cases value <;> rfl

/-- A number is read as the property of the medium. -/
theorem recursiveU16_of_exec {out : UInt16} (h : Exec (recursiveU16 entry key) s t out s') :
    ∃ content, ReadsAs (withProperty content key) t ∧
      out = M65.recursiveU16 (content.bind CfContent.sint64) ∧ s' = s := by
  obtain ⟨content, hreads, rfl, rfl⟩ := readsAs_of_taken h
  refine ⟨content, hreads, ?_, rfl⟩
  cases content <;> rfl

/-- A string is read as the property of the medium. -/
theorem recursiveString_of_exec {n : ℕ} [NeZero n] {out : Text n}
    (h : Exec (recursiveString entry key) s t out s') :
    ∃ content, ReadsAs (withProperty content key) t ∧
      out = copyCfString (content.bind CfContent.string) ∧ s' = s := by
  obtain ⟨content, hreads, rfl, rfl⟩ := readsAs_of_taken h
  refine ⟨content, hreads, ?_, rfl⟩
  cases content <;> rfl

/-- The product of a medium, of which the name may have been read too. -/
def productOf (media : Media) : Text maxIdentity :=
  let usbProduct : Text maxIdentity := copyCfString media.productString
  if usbProduct.bytes = [] then copyCfString media.productName else usbProduct

/-- The names of a product are read as those of the medium. -/
theorem readProduct_of_exec {out : Text maxIdentity} (h : Exec (readProduct entry) s t out s') :
    ∃ f : Media → Media, ReadsAs f t ∧ s' = s ∧
      ∀ media, ∃ productString productName,
        f media = { media with productString := productString, productName := productName } ∧
          out = productOf (f media) := by
  obtain ⟨t₁, usbProduct, s₁, t₂, hproduct, h₁, rfl⟩ := exec_bind.1 h
  obtain ⟨content, hreads, rfl, rfl⟩ := recursiveString_of_exec hproduct
  rcases exec_ite.1 h₁ with ⟨hempty, h₂⟩ | ⟨hnamed, h₂⟩
  · obtain ⟨content', hreads', rfl, rfl⟩ := recursiveString_of_exec h₂
    exact ⟨_, hreads.append hreads', rfl, fun media => ⟨_, _, rfl, (if_pos hempty).symm⟩⟩
  · obtain ⟨rfl, rfl, rfl⟩ := exec_pure.1 h₂
    rw [List.append_nil]
    exact ⟨_, hreads, rfl, fun media => ⟨_, media.productName, rfl, (if_neg hnamed).symm⟩⟩

/-- The identity of a device is that of the medium that was read, of which no name is read. -/
theorem populateIdentity_of_exec {device out : DeviceInfo}
    (h : Exec (populateIdentity entry device) s t out s') :
    ∃ f : Media → Media, ReadsAs f t ∧ s' = s ∧
      ∀ media, (f media).bsdName = media.bsdName ∧ (f media).name = media.name ∧
        out = M65.populateIdentity (f media) device := by
  obtain ⟨t₁, usbVid, s₁, u₁, hvid, h₁, rfl⟩ := exec_bind.1 h
  obtain ⟨c₁, hreads₁, rfl, rfl⟩ := recursiveU16_of_exec hvid
  obtain ⟨t₂, usbPid, s₂, u₂, hpid, h₂, rfl⟩ := exec_bind.1 h₁
  obtain ⟨c₂, hreads₂, rfl, rfl⟩ := recursiveU16_of_exec hpid
  obtain ⟨t₃, usbDeviceRevision, s₃, u₃, hrevision, h₃, rfl⟩ := exec_bind.1 h₂
  obtain ⟨c₃, hreads₃, rfl, rfl⟩ := recursiveU16_of_exec hrevision
  obtain ⟨t₄, usbManufacturer, s₄, u₄, hmanufacturer, h₄, rfl⟩ := exec_bind.1 h₃
  obtain ⟨c₄, hreads₄, rfl, rfl⟩ := recursiveString_of_exec hmanufacturer
  obtain ⟨t₅, usbProduct, s₅, u₅, husbProduct, h₅, rfl⟩ := exec_bind.1 h₄
  obtain ⟨f, hreads₅, rfl, hproduct⟩ := readProduct_of_exec husbProduct
  obtain ⟨rfl, rfl, rfl⟩ := exec_pure.1 h₅
  rw [List.append_nil]
  -- the five readings one after the other
  refine ⟨_, hreads₁.append (hreads₂.append (hreads₃.append (hreads₄.append hreads₅))), rfl,
    fun media => ?_⟩
  obtain ⟨productString, productName, hmedia, hout⟩ := hproduct
    (withProperty c₄ .kUsbVendorString (withProperty c₃ .bcdDevice
      (withProperty c₂ .kUsbProductId (withProperty c₁ .kUsbVendorId media))))
  rw [hmedia] at hout ⊢
  exact ⟨rfl, rfl, by rw [hout]; rfl⟩

/-- The description of a disk is read as that of the medium. -/
theorem fillDaDescription_of_exec {session : ℕ} {device out : DeviceInfo}
    (h : Exec (fillDaDescription session device) s t out s') :
    ∃ entries, ReadsAs (withDescription entries) t ∧ s' = s ∧
      out = M65.fillDaDescription (entries.map descriptionOf) device := by
  obtain ⟨disk, t₁, h₁, rfl⟩ := exec_call_bind.1 h
  cases disk with
  -- without a disk or a description the fields keep their values
  | none =>
    obtain ⟨rfl, rfl, rfl⟩ := exec_pure.1 h₁
    exact ⟨none, ⟨fun _ => rfl, fun _ => rfl⟩, rfl, rfl⟩
  | some disk =>
    obtain ⟨description, t₂, h₂, rfl⟩ := exec_call_bind.1 h₁
    cases description with
    | none =>
      obtain ⟨_, t₃, h₃, rfl⟩ := exec_call_bind.1 h₂
      obtain ⟨rfl, rfl, rfl⟩ := exec_pure.1 h₃
      exact ⟨none, ⟨fun _ => rfl, fun _ => rfl⟩, rfl, rfl⟩
    | some description =>
      obtain ⟨_, t₃, h₃, rfl⟩ := exec_call_bind.1 h₂
      obtain ⟨_, t₄, h₄, rfl⟩ := exec_call_bind.1 h₃
      obtain ⟨_, t₅, h₅, rfl⟩ := exec_call_bind.1 h₄
      obtain ⟨rfl, rfl, rfl⟩ := exec_pure.1 h₅
      refine ⟨some description.content.entries, ⟨fun _ => rfl, fun _ => rfl⟩, rfl, ?_⟩
      exact describe_eq _ _

end Properties

/-! ## The loop -/

section Loop

variable {session media iterator : ℕ}

/-- A device is read as what its medium describes. -/
theorem readDevice_of_exec {bsdName : Text maxBsdName} {out : DeviceInfo}
    (h : Exec (readDevice session media bsdName) s t out s') :
    ∃ f : Media → Media, ReadsAs f t ∧ s' = s ∧
      ∀ media, (f media).bsdName = media.bsdName ∧ out = deviceOf (f media) bsdName := by
  obtain ⟨name, t₁, h₁, rfl⟩ := exec_call_bind.1 h
  obtain ⟨path, t₂, h₂, rfl⟩ := exec_call_bind.1 h₁
  obtain ⟨t₃, device, s₁, t₄, hidentity, h₃, rfl⟩ := exec_bind.1 h₂
  obtain ⟨f, hreads, rfl, hf⟩ := populateIdentity_of_exec hidentity
  obtain ⟨t₅, described, s₂, t₆, hdescription, h₄, rfl⟩ := exec_bind.1 h₃
  obtain ⟨entries, hreads', rfl, rfl⟩ := fillDaDescription_of_exec hdescription
  obtain ⟨errno, t₇, h₅, rfl⟩ := exec_call_bind.1 h₄
  obtain ⟨rfl, rfl, rfl⟩ := exec_pure.1 h₅
  -- what is read of the medium, in the order of the source
  have hnamed : ReadsAs (fun media => { media with name := name })
      [⟨s', .ioRegistryEntryGetName media, name⟩, ⟨s', .ioRegistryEntryGetPath media, path⟩] :=
    ⟨fun _ => rfl, fun _ => rfl⟩
  have haccessed {raw : CString} : ReadsAs (fun media => { media with accessErrno := errno })
      [(⟨s', .access raw, errno⟩ : KitEvent S)] := ⟨fun _ => rfl, fun _ => rfl⟩
  refine ⟨_, hnamed.append (hreads.append (hreads'.append haccessed)), rfl, fun media => ?_⟩
  obtain ⟨hbsdName, hname, hdevice⟩ := hf { media with name := name }
  refine ⟨hbsdName, ?_⟩
  rw [hdevice]
  unfold deviceOf withDescription
  simp only [hname]
  rfl

/-- A medium with a name is listed as the device that it describes. -/
theorem addMedia_eq (list : DeviceList) (media : Media) :
    M65.addMedia list media =
      if (copyCfString media.bsdName : Text maxBsdName).bytes = [] then list
      else listDevice list (deviceOf media (copyCfString media.bsdName)) := rfl

/-- A round reads one medium and adds it as the model does. -/
theorem addMedia_of_exec {list out : DeviceList}
    (h : Exec (addMedia session media list) s t out s') :
    s' = s ∧ mediaReadings.after (some {}) t = none ∧
      ∃ m, mediaReadings.entries (some {}) t = [m] ∧ out = M65.addMedia list m := by
  obtain ⟨value, t₁, h₁, rfl⟩ := exec_call_bind.1 h
  obtain ⟨t₂, bsdName, s₁, t₃, hname, h₂, rfl⟩ := exec_bind.1 h₁
  obtain ⟨hsilent, hbsdName, rfl⟩ :=
    silent_of_takeValue (m := mediaReadings) (fun _ _ => by rfl) (fun _ _ => by rfl) hname
  have hbsdName : bsdName = copyCfString ((value.map CfObject.content).bind CfContent.string) := by
    rw [hbsdName]
    cases value <;> rfl
  -- the name is the first thing that is read of a medium
  have hread : ReadsAs (withProperty (value.map CfObject.content) .bsdName)
      ([⟨s₁, .ioRegistryEntryCreateCfProperty media .bsdName, value⟩] ++ t₂) :=
    ReadsAs.silent ⟨fun _ => rfl, fun _ => rfl⟩ hsilent
  rcases exec_ite.1 h₂ with ⟨hempty, h₃⟩ | ⟨hnamed, h₃⟩
  · -- a medium without a name is passed over
    obtain ⟨result, t₄, h₄, rfl⟩ := exec_call_bind.1 h₃
    obtain ⟨rfl, rfl, rfl⟩ := exec_pure.1 h₄
    obtain ⟨hafter, hentries⟩ := hread.released s' media result {}
    refine ⟨rfl, hafter, _, hentries, ?_⟩
    rw [addMedia_eq]
    exact (if_pos (hbsdName ▸ hempty)).symm
  · obtain ⟨t₄, device, s₂, t₅, hdevice, h₄, rfl⟩ := exec_bind.1 h₃
    obtain ⟨f, hreads, rfl, hf⟩ := readDevice_of_exec hdevice
    obtain ⟨result, t₆, h₅, rfl⟩ := exec_call_bind.1 h₄
    obtain ⟨rfl, rfl, rfl⟩ := exec_pure.1 h₅
    obtain ⟨hafter, hentries⟩ := (hread.append hreads).released s' media result {}
    simp only [List.append_assoc, List.singleton_append] at hafter hentries
    refine ⟨rfl, hafter, _, hentries, ?_⟩
    obtain ⟨hname', rfl⟩ := hf (withProperty (value.map CfObject.content) .bsdName {})
    rw [addMedia_eq, hname']
    subst hbsdName
    exact (if_neg hnamed).symm

/-- The loop over the media lists what it has read of each of them. -/
theorem addAllMedia_of_exec {rounds : ℕ} {list : DeviceList} {out : Option DeviceList}
    (h : Exec (addAllMedia session iterator rounds list) s t out s') :
    s' = s ∧ ∀ state list', out = some list' → mediaReadings.after state t = none ∧
      list' = (mediaReadings.entries state t).foldl M65.addMedia list := by
  induction rounds generalizing list t s with
  | zero =>
    obtain ⟨rfl, rfl, rfl⟩ := exec_pure.1 h
    exact ⟨rfl, fun _ _ hout => by cases hout⟩
  | succ rounds ih =>
    obtain ⟨media, t₁, h₁, rfl⟩ := exec_call_bind.1 h
    cases media with
    | none =>
      obtain ⟨rfl, rfl, rfl⟩ := exec_pure.1 h₁
      refine ⟨rfl, ?_⟩
      rintro state list' ⟨⟩
      exact ⟨rfl, rfl⟩
    | some media =>
      obtain ⟨t₂, list₁, s₁, t₃, hround, h₂, rfl⟩ := exec_bind.1 h₁
      -- the record of a medium is closed before the next one is opened
      obtain ⟨rfl, hafter, m, hentries, rfl⟩ := addMedia_of_exec hround
      obtain ⟨rfl, hrest⟩ := ih h₂
      refine ⟨rfl, fun state list' hout => ?_⟩
      obtain ⟨hafter', rfl⟩ := hrest none list' hout
      constructor
      · show mediaReadings.after (some {}) (t₂ ++ t₃) = none
        rw [Recorder.after_append, hafter, hafter']
      · show _ = (mediaReadings.entries (some {}) (t₂ ++ t₃)).foldl M65.addMedia list
        rw [Recorder.entries_append, hentries, hafter]
        rfl

end Loop

/-! ## Refinement -/

/-- The calls before the loop, as the model has them. -/
def discoveryEventOf : KitEvent S → Option (Event S DiscoveryReply)
  | ⟨s, .daSessionCreate, session⟩ => some ⟨s, .daSessionCreate, (session : Option ℕ).isSome⟩
  | ⟨s, .ioServiceMatching, matching⟩ =>
      some ⟨s, .ioServiceMatching, (matching : Option ℕ).isSome⟩
  | ⟨s, .ioServiceGetMatchingServices _, enumerated⟩ =>
      some ⟨s, .ioServiceGetMatchingServices, enumerated.result⟩
  | _ => none

/-- An enumeration that succeeded. -/
def Enumerated : KitEvent S → Bool
  | ⟨_, .ioServiceGetMatchingServices _, enumerated⟩ => enumerated.result == kernSuccess
  | _ => false

/-- What the trace of a discovery is for the model. -/
def discoveryEvents (s : S) (t : List (KitEvent S)) : List (Event S DiscoveryReply) :=
  t.filterMap discoveryEventOf ++ if t.any Enumerated then [⟨s, .ioIteratorNext, mediaOf t⟩] else []

/-- What the model returns for a result, nothing without one. -/
def Discovered.outcome : Discovered → Option (Except ErrorText DeviceList)
  | .listed list => some (.ok list)
  | .failed detail => some (.error detail)
  | .unfinished _ _ => none

/-- The calls of the loop. -/
def IsReading : KitCall → Prop
  | .daSessionCreate => False
  | .ioServiceMatching => False
  | .ioServiceGetMatchingServices _ => False
  | .ioRegistryEntryCreateCfProperty _ key => key = .bsdName
  | .ioRegistryEntryGetParentEntry _ => False
  | .cfUuidCreateString _ => False
  | _ => True

/-- A reading opens nothing. -/
theorem not_opening_of_isReading {e : KitEvent S} (h : IsReading e.call) :
    discoveryEventOf e = none ∧ Enumerated e = false := by
  obtain ⟨s, call, reply⟩ := e
  cases call <;> first | exact ⟨rfl, rfl⟩ | exact h.elim

/-- The search for a property only reads. -/
theorem copyRecursiveProperty_reading (entry : ℕ) (key : PropertyKey) :
    Only (S := S) IsReading (copyRecursiveProperty entry key) := by
  refine .bind (.call trivial) fun cfKey => ?_
  cases cfKey with
  | none => exact .pure _
  | some cfKey => exact .bind (.call trivial) fun _ => .bind (.call trivial) fun _ => .pure _

/-- Looking at a value only reads. -/
theorem takeValue_reading {α : Type} (value : Option CfObject) (look : CfContent → α)
    (missing : α) : Only (S := S) IsReading (takeValue value look missing) :=
  only_takeValue (fun _ => trivial) (fun _ => trivial) value look missing

/-- The identity of a device is only read. -/
theorem populateIdentity_reading (entry : ℕ) (device : DeviceInfo) :
    Only (S := S) IsReading (populateIdentity entry device) := by
  have hnumber (key : PropertyKey) : Only (S := S) IsReading (recursiveU16 entry key) :=
    .bind (copyRecursiveProperty_reading entry key) fun _ => takeValue_reading _ _ _
  have hstring (key : PropertyKey) :
      Only (S := S) IsReading (recursiveString (n := maxIdentity) entry key) :=
    .bind (copyRecursiveProperty_reading entry key) fun _ => takeValue_reading _ _ _
  exact .bind (hnumber _) fun _ => .bind (hnumber _) fun _ => .bind (hnumber _) fun _ =>
    .bind (hstring _) fun _ => .bind (.bind (hstring _) fun _ => .ite (hstring _) (.pure _))
      fun _ => .pure _

/-- The description of a disk is only read. -/
theorem fillDaDescription_reading (session : ℕ) (device : DeviceInfo) :
    Only (S := S) IsReading (fillDaDescription session device) := by
  refine .bind (.call trivial) fun disk => ?_
  cases disk with
  | none => exact .pure _
  | some disk =>
    refine .bind (.call trivial) fun description => ?_
    cases description with
    | none => exact .bind (.call trivial) fun _ => .pure _
    | some description =>
      exact .bind (.call trivial) fun _ => .bind (.call trivial) fun _ =>
        .bind (.call trivial) fun _ => .pure _

/-- A medium is only read. -/
theorem addMedia_reading (session media : ℕ) (list : DeviceList) :
    Only (S := S) IsReading (addMedia session media list) := by
  refine .bind (.call rfl) fun value => .bind (takeValue_reading value _ _) fun bsdName => ?_
  refine .ite (.bind (.call trivial) fun _ => .pure _) ?_
  refine .bind (.bind (.call trivial) fun name => .bind (.call trivial) fun _ => ?_) fun device =>
    .bind (.call trivial) fun _ => .pure _
  exact .bind (populateIdentity_reading media _) fun _ =>
    .bind (fillDaDescription_reading session _) fun _ => .bind (.call trivial) fun _ => .pure _

/-- The media are only read. -/
theorem addAllMedia_reading (session iterator rounds : ℕ) (list : DeviceList) :
    Only (S := S) IsReading (addAllMedia session iterator rounds list) := by
  induction rounds generalizing list with
  | zero => exact .pure _
  | succ rounds ih =>
    refine .bind (.call trivial) fun media => ?_
    cases media with
    | none => exact .pure _
    | some media => exact .bind (addMedia_reading session media list) fun list => ih list

/-- The calls of the loop are none of the model before its media. -/
theorem addAllMedia_events {session iterator rounds : ℕ} {list : DeviceList}
    {out : Option DeviceList} (h : Exec (addAllMedia session iterator rounds list) s t out s') :
    t.filterMap discoveryEventOf = [] :=
  List.filterMap_eq_nil_iff.2 fun e he =>
    (not_opening_of_isReading (addAllMedia_reading session iterator rounds list h e he)).1

section Model

/-- The calls before the media, as the model has them. -/
def modelOpening (s : S) (result : KernReturn) : List (Event S DiscoveryReply) :=
  [⟨s, .daSessionCreate, true⟩, ⟨s, .ioServiceMatching, true⟩,
    ⟨s, .ioServiceGetMatchingServices, result⟩]

/-- The abstract discovery ends with the failure of the enumeration. -/
theorem model_refused {result : KernReturn} (hresult : result ≠ kernSuccess) :
    Exec M65.discoverDevices s (modelOpening s result)
      (.error (Text.format [str "I/O Registry media enumeration failed: 0x",
        hexDigits 8 result.toNat])) s := by
  refine exec_call_bind.2 ⟨true, _, exec_ite.2 (.inr ⟨nofun, ?_⟩), rfl⟩
  refine exec_call_bind.2 ⟨true, _, exec_ite.2 (.inr ⟨nofun, ?_⟩), rfl⟩
  refine exec_call_bind.2 ⟨result, _, exec_ite.2 (.inl ⟨hresult, ?_⟩), rfl⟩
  exact exec_pure.2 ⟨rfl, rfl, rfl⟩

/-- The abstract discovery lists all media of the iterator. -/
theorem model_listed (media : List Media) :
    Exec M65.discoverDevices s (modelOpening s kernSuccess ++ [⟨s, .ioIteratorNext, media⟩])
      (.ok (media.foldl M65.addMedia {})) s := by
  refine exec_call_bind.2 ⟨true, _, exec_ite.2 (.inr ⟨nofun, ?_⟩), rfl⟩
  refine exec_call_bind.2 ⟨true, _, exec_ite.2 (.inr ⟨nofun, ?_⟩), rfl⟩
  refine exec_call_bind.2 ⟨kernSuccess, _, exec_ite.2 (.inr ⟨not_not.2 rfl, ?_⟩), rfl⟩
  exact exec_call_bind.2 ⟨media, _, exec_pure.2 ⟨rfl, rfl, rfl⟩, rfl⟩

/-- What the abstract discovery sees of an enumeration that succeeded. -/
theorem discoveryEvents_of_enumerated {session matching : ℕ} {enumerated : StoredReply}
    (hresult : enumerated.result = kernSuccess) (ht : t.filterMap discoveryEventOf = []) :
    discoveryEvents s (openingEvents s session matching enumerated ++ t) =
      modelOpening s kernSuccess ++ [⟨s, .ioIteratorNext, mediaOf t⟩] := by
  have hany : (openingEvents s session matching enumerated ++ t).any Enumerated = true := by
    simp [openingEvents, Enumerated, hresult]
  rw [discoveryEvents, hany, if_pos rfl, List.filterMap_append, ht, List.append_nil]
  show [_, _, (⟨s, .ioServiceGetMatchingServices, enumerated.result⟩ : Event S DiscoveryReply)] ++ _
    = _
  rw [hresult]
  rfl

end Model

/-- A discovery that ended is one of the abstract discovery. -/
theorem refines_of_discovers {rounds : ℕ} {out : Discovered} (h : Discovers rounds s t out s') :
    (∃ session iterator, out = .unfinished session iterator) ∨
      ∃ outcome, out.outcome = some outcome ∧
        Exec M65.discoverDevices s (discoveryEvents s t) outcome s' := by
  cases h with
  | unfinished => exact .inl ⟨_, _, rfl⟩
  | sessionless =>
    refine .inr ⟨_, rfl, ?_⟩
    exact exec_call_bind.2 ⟨false, [], exec_ite.2 (.inl ⟨rfl, exec_pure.2 ⟨rfl, rfl, rfl⟩⟩), rfl⟩
  | unmatched =>
    refine .inr ⟨_, rfl, exec_call_bind.2 ⟨true, _, exec_ite.2 (.inr ⟨nofun, ?_⟩), rfl⟩⟩
    exact exec_call_bind.2 ⟨false, [], exec_ite.2 (.inl ⟨rfl, exec_pure.2 ⟨rfl, rfl, rfl⟩⟩), rfl⟩
  | @refused session matching enumerated hresult =>
    refine .inr ⟨_, rfl, ?_⟩
    have hevents : discoveryEvents s (openingEvents s session matching enumerated ++
        [⟨s, .cfRelease session, ()⟩]) = modelOpening s enumerated.result := by
      simp [discoveryEvents, openingEvents, modelOpening, discoveryEventOf, Enumerated, hresult]
    exact hevents ▸ model_refused hresult
  | vacant hresult =>
    refine .inr ⟨_, rfl, ?_⟩
    rw [discoveryEvents_of_enumerated hresult rfl]
    exact model_listed []
  | listed hresult hall =>
    refine .inr ⟨_, rfl, ?_⟩
    obtain ⟨rfl, hlist⟩ := addAllMedia_of_exec hall
    obtain ⟨hafter, rfl⟩ := hlist none _ rfl
    rw [discoveryEvents_of_enumerated hresult
      (by rw [List.filterMap_append, addAllMedia_events hall]; rfl)]
    -- nothing is read once the last medium is released
    rw [mediaOf, Recorder.entries_append, hafter]
    simpa [mediaReadings] using model_listed _

/-- Whatever the discovery returns, the model returns for the media that the discovery read. -/
theorem discovery_refines (rounds : ℕ) (s : S) (r : Run (discoverDevices rounds) s) :
    (∃ session iterator, r.result = .unfinished session iterator) ∨
      ∃ outcome, r.result.outcome = some outcome ∧
        Exec M65.discoverDevices s (discoveryEvents s r.trace) outcome r.final :=
  refines_of_discovers (discovers_of_exec r.exec)

end M65.Kit
