import FloppyProbe.Interaction.Recorder
import FloppyProbe.Kit.UsbCreation

/-!
# The creation refines its model

What the creation reads from the registry is an ancestry as `Mac/Creation.lean` gets it in one
reply (`ancestryOf`), and its other calls are those of the model (`creationEvents`). With these
events the model returns the same.
-/

namespace M65.Kit

open Interaction

variable {S : Type} {s s' : S} {t : List (KitEvent S)}

/-! ## Readings -/

/-- What was read of the service at hand. -/
structure Reading where
  entry : RegistryEntry := {}
  pluginTypes : List (CfScalar × CfScalar) := []

/-- The reading after one more property. -/
def Reading.withProperty (reading : Reading) (content : Option CfContent) : PropertyKey → Reading
  | .kUsbInterfaceClass =>
      { reading with entry.usbInterfaceClass := content.bind CfContent.sint32 }
  | .kUsbInterfaceSubClass =>
      { reading with entry.usbInterfaceSubClass := content.bind CfContent.sint32 }
  | .kUsbInterfaceProtocol =>
      { reading with entry.usbInterfaceProtocol := content.bind CfContent.sint32 }
  | .kUsbVendorId => { reading with entry.usbVendorId := content.bind CfContent.sint32 }
  | .kUsbProductId => { reading with entry.usbProductId := content.bind CfContent.sint32 }
  | .kIoCfPlugInTypesKey => { reading with pluginTypes := (content.map CfContent.entries).getD [] }
  | _ => reading

/-- The entries that a trace read, one for each service that it left for its parent. -/
def registryReadings : Recorder KitReply Reading RegistryEntry
  | reading, .ioRegistryEntryCreateCfProperty _ key, value =>
      (reading.withProperty (value.map CfObject.content) key, [])
  | reading, .cfUuidCreateString _, typeString =>
      ({ reading with
        entry.exposesUsbInterfacePlugin :=
          (typeString.map fun typeString : CfObject =>
            reading.pluginTypes.foldl (findPluginType typeString.content) false).getD false }, [])
  | reading, .ioRegistryEntryGetParentEntry _, _ => ({}, [reading.entry])
  | reading, _, _ => (reading, [])

/-- The ancestry that a trace read. -/
def ancestryOf (t : List (KitEvent S)) : List RegistryEntry :=
  registryReadings.entries {} t ++ [(registryReadings.after {} t).entry]

/-- A part of a trace that reads nothing from the registry. -/
abbrev Unread (t : List (KitEvent S)) : Prop := registryReadings.Silent t

/-- What reads nothing of the ancestry may follow. -/
theorem ancestryOf_append_unread {t' : List (KitEvent S)} (h : Unread t') :
    ancestryOf (t ++ t') = ancestryOf t := by
  rw [ancestryOf, ancestryOf, Recorder.entries_append, Recorder.after_append, h.entries, h.after,
    List.append_nil]

/-- What reads nothing of the ancestry may come before. -/
theorem ancestryOf_unread_append {t' : List (KitEvent S)} (h : Unread t) :
    ancestryOf (t ++ t') = ancestryOf t' := by
  rw [ancestryOf, ancestryOf, Recorder.entries_append, Recorder.after_append, h.entries, h.after,
    List.nil_append]

/-! ## Properties -/

/-- Looking at a value reads nothing of the ancestry. -/
theorem unread_of_takeValue {α : Type} {value : Option CfObject} {look : CfContent → α}
    {missing out : α} (h : Exec (takeValue value look missing) s t out s') :
    Unread t ∧ out = (value.map fun value => look value.content).getD missing ∧ s' = s :=
  silent_of_takeValue (fun _ _ => rfl) (fun _ _ => rfl) h

/-- A number is read as the property of its key. -/
structure ReadsNumber (key : PropertyKey) (t : List (KitEvent S)) (out : Option UInt16) : Prop where
  reads : ∃ content, (∀ reading, registryReadings.after reading t =
      reading.withProperty content key) ∧
    out = M65.cfNumberU16 (content.bind CfContent.sint32)
  entries : ∀ reading, registryReadings.entries reading t = []

/-- A number is read as the property of the service. -/
theorem readsNumber_of_exec {entry : ℕ} {key : PropertyKey} {out : Option UInt16}
    (h : Exec (cfNumberU16 entry key) s t out s') : ReadsNumber key t out ∧ s' = s := by
  obtain ⟨value, t₁, h₁, rfl⟩ := exec_call_bind.1 h
  obtain ⟨hunread, rfl, rfl⟩ := unread_of_takeValue h₁
  refine ⟨⟨⟨value.map CfObject.content, fun reading => ?_, ?_⟩, fun reading => ?_⟩, rfl⟩
  · exact hunread.after _
  · cases value <;> rfl
  · exact hunread.entries _

/-- The search of the plug-in types. -/
theorem exposes_of_exec {service : ℕ} {exposed : Bool} {reading : Reading}
    (hblank : reading.entry.exposesUsbInterfacePlugin = false)
    (h : Exec (exposesUsbInterfacePlugin service) s t exposed s') :
    registryReadings.entries reading t = [] ∧
      (∃ types, registryReadings.after reading t = ⟨{ reading.entry with
        exposesUsbInterfacePlugin := exposed }, types⟩) ∧ s' = s := by
  obtain ⟨value, t₁, h₁, rfl⟩ := exec_call_bind.1 h
  cases value with
  | none =>
    obtain ⟨rfl, rfl, rfl⟩ := exec_pure.1 h₁
    exact ⟨rfl, ⟨[], by rw [← hblank]; rfl⟩, rfl⟩
  | some value =>
    obtain ⟨ref, content⟩ := value
    obtain ⟨_, t₂, h₂, rfl⟩ := exec_call_bind.1 h₁
    cases content with
    -- a value of another type is released unread
    | scalar =>
      obtain ⟨_, t₃, h₃, rfl⟩ := exec_call_bind.1 h₂
      obtain ⟨rfl, rfl, rfl⟩ := exec_pure.1 h₃
      exact ⟨rfl, ⟨[], by rw [← hblank]; rfl⟩, rfl⟩
    | dictionary entries =>
      obtain ⟨typeString, t₃, h₃, rfl⟩ := exec_call_bind.1 h₂
      obtain ⟨t₄, found, s₁, t₅, hfound, h₄, rfl⟩ := exec_bind.1 h₃
      obtain ⟨hunread, rfl, rfl⟩ := unread_of_takeValue hfound
      obtain ⟨_, t₆, h₅, rfl⟩ := exec_call_bind.1 h₄
      obtain ⟨rfl, rfl, rfl⟩ := exec_pure.1 h₅
      have hrest : Unread (t₄ ++ [⟨s', .cfRelease ref, ()⟩]) := by
        refine hunread.append ?_
        simp [Recorder.Silent, registryReadings]
      refine ⟨?_, ⟨entries, ?_⟩, rfl⟩
      · exact hrest.entries _
      · exact hrest.after _

/-- A number that is asked for: without it the service is not the interface. -/
theorem number_of_exec {service : ℕ} {key : PropertyKey} {f : UInt16 → Prog S KitReply Bool}
    {known : Bool} (h : Exec (do
      let some number ← cfNumberU16 service key | return false
      f number) s t known s') :
    ∃ t₁ t₂ out, t = t₁ ++ t₂ ∧ ReadsNumber key t₁ out ∧
      (out = none ∧ t₂ = [] ∧ known = false ∧ s' = s ∨
        ∃ number, out = some number ∧ Exec (f number) s t₂ known s') := by
  obtain ⟨t₁, out, s₁, t₂, hnumber, h₁, rfl⟩ := exec_bind.1 h
  obtain ⟨hreads, rfl⟩ := readsNumber_of_exec hnumber
  refine ⟨t₁, t₂, out, rfl, hreads, ?_⟩
  cases out with
  | none =>
    obtain ⟨rfl, rfl, rfl⟩ := exec_pure.1 h₁
    exact .inl ⟨rfl, rfl, rfl, rfl⟩
  | some number => exact .inr ⟨number, rfl, h₁⟩

/-- A service whose readings so far are numbers, with one more of them. -/
structure ReadsSo (reading : Reading) (t : List (KitEvent S)) : Prop where
  after : registryReadings.after {} t = reading
  entries : registryReadings.entries {} t = []

/-- Reading a number adds the property to what was read. -/
theorem ReadsSo.number {key : PropertyKey} {reading : Reading} {t₁ : List (KitEvent S)}
    {out : Option UInt16} (h : ReadsSo reading t) (hreads : ReadsNumber key t₁ out) :
    ∃ content, ReadsSo (reading.withProperty content key) (t ++ t₁) ∧
      M65.cfNumberU16 (content.bind CfContent.sint32) = out := by
  obtain ⟨⟨content, hafter, rfl⟩, hentries⟩ := hreads
  refine ⟨content, ⟨?_, ?_⟩, rfl⟩
  · rw [Recorder.after_append, h.after, hafter]
  · rw [Recorder.entries_append, h.after, h.entries, hentries]
    rfl

/-- The search for the plug-in type adds the types to what was read. -/
theorem ReadsSo.exposes {reading : Reading} {t₁ : List (KitEvent S)} {service : ℕ} {exposed : Bool}
    (h : ReadsSo reading t) (hblank : reading.entry.exposesUsbInterfacePlugin = false)
    (hexposes : Exec (exposesUsbInterfacePlugin service) s t₁ exposed s') :
    (∃ types, ReadsSo ⟨{ reading.entry with exposesUsbInterfacePlugin := exposed }, types⟩
      (t ++ t₁)) ∧ s' = s := by
  obtain ⟨hentries, ⟨types, hafter⟩, rfl⟩ := exposes_of_exec hblank hexposes
  refine ⟨⟨types, ?_, ?_⟩, rfl⟩
  · rw [Recorder.after_append, h.after, hafter]
  · rw [Recorder.entries_append, h.after, h.entries, hentries]
    rfl

/-- The interface is known exactly if the entry that was read is. -/
theorem known_of_exec {service : ℕ} {known : Bool}
    (h : Exec (isKnownUfiCbiInterface service) s t known s') :
    registryReadings.entries {} t = [] ∧
      M65.isKnownUfiCbiInterface (registryReadings.after {} t).entry = known ∧ s' = s := by
  have hblank : ReadsSo {} ([] : List (KitEvent S)) := ⟨rfl, rfl⟩
  -- an entry one of whose numbers is missing is not known
  have hmissing {reading : Reading} {t u : List (KitEvent S)} {s : S} (hreads : ReadsSo reading t)
      (htrace : u = t) (hknown : M65.isKnownUfiCbiInterface reading.entry = false) :
      registryReadings.entries {} u = [] ∧
        M65.isKnownUfiCbiInterface (registryReadings.after {} u).entry = false ∧ s = s := by
    subst htrace
    exact ⟨hreads.entries, hreads.after ▸ hknown, rfl⟩
  obtain ⟨t₁, u₁, _, rfl, hreads₁, hrest₁⟩ := number_of_exec h
  obtain ⟨c₁, hso₁, hnumber₁⟩ := hblank.number hreads₁
  rcases hrest₁ with ⟨rfl, rfl, rfl, rfl⟩ | ⟨interfaceClass, rfl, h₁⟩
  · exact hmissing hso₁ (by simp)
      (by simp [M65.isKnownUfiCbiInterface, Reading.withProperty, hnumber₁])
  obtain ⟨t₂, u₂, _, rfl, hreads₂, hrest₂⟩ := number_of_exec h₁
  obtain ⟨c₂, hso₂, hnumber₂⟩ := hso₁.number hreads₂
  rcases hrest₂ with ⟨rfl, rfl, rfl, rfl⟩ | ⟨interfaceSubclass, rfl, h₂⟩
  · exact hmissing hso₂ (by simp)
      (by simp [M65.isKnownUfiCbiInterface, Reading.withProperty, hnumber₂])
  obtain ⟨t₃, u₃, _, rfl, hreads₃, hrest₃⟩ := number_of_exec h₂
  obtain ⟨c₃, hso₃, hnumber₃⟩ := hso₂.number hreads₃
  rcases hrest₃ with ⟨rfl, rfl, rfl, rfl⟩ | ⟨interfaceProtocol, rfl, h₃⟩
  · exact hmissing hso₃ (by simp)
      (by simp [M65.isKnownUfiCbiInterface, Reading.withProperty, hnumber₃])
  obtain ⟨t₄, u₄, _, rfl, hreads₄, hrest₄⟩ := number_of_exec h₃
  obtain ⟨c₄, hso₄, hnumber₄⟩ := hso₃.number hreads₄
  rcases hrest₄ with ⟨rfl, rfl, rfl, rfl⟩ | ⟨vendor, rfl, h₄⟩
  · exact hmissing hso₄ (by simp)
      (by simp [M65.isKnownUfiCbiInterface, Reading.withProperty, hnumber₄])
  obtain ⟨t₅, u₅, _, rfl, hreads₅, hrest₅⟩ := number_of_exec h₄
  obtain ⟨c₅, hso₅, hnumber₅⟩ := hso₄.number hreads₅
  rcases hrest₅ with ⟨rfl, rfl, rfl, rfl⟩ | ⟨product, rfl, h₅⟩
  · exact hmissing hso₅ (by simp)
      (by simp [M65.isKnownUfiCbiInterface, Reading.withProperty, hnumber₅])
  -- all of them were read, so that the comparisons of both models are the same
  have hnumbers {exposed : Bool} : M65.isKnownUfiCbiInterface
      ⟨c₁.bind CfContent.sint32, c₂.bind CfContent.sint32, c₃.bind CfContent.sint32,
        c₄.bind CfContent.sint32, c₅.bind CfContent.sint32, exposed⟩ =
      (interfaceClass == 0x08 && interfaceSubclass == 0x04 && interfaceProtocol == 0x00 &&
        vendor == 0x0644 && product == 0x0000 && exposed) := by
    simp [M65.isKnownUfiCbiInterface, hnumber₁, hnumber₂, hnumber₃, hnumber₄, hnumber₅]
  rcases exec_ite.1 h₅ with ⟨hequal, h₆⟩ | ⟨hequal, h₆⟩
  · obtain ⟨⟨types, hso₆⟩, rfl⟩ := hso₅.exposes rfl h₆
    have htrace : t₁ ++ (t₂ ++ (t₃ ++ (t₄ ++ (t₅ ++ u₅)))) =
        [] ++ t₁ ++ t₂ ++ t₃ ++ t₄ ++ t₅ ++ u₅ := by simp
    rw [htrace]
    refine ⟨hso₆.entries, ?_, rfl⟩
    rw [hso₆.after]
    exact hnumbers.trans (by rw [hequal, Bool.true_and])
  · obtain ⟨rfl, rfl, rfl⟩ := exec_pure.1 h₆
    refine hmissing hso₅ (by simp) ?_
    exact hnumbers.trans (by rw [Bool.eq_false_iff.2 hequal, Bool.false_and])

/-! ## The walk -/

/-- The walk has found the interface. -/
def Walk.isFound : Walk → Bool
  | .found _ => true
  | _ => false

/-- The walk finds a service exactly if one of the entries that it read is known. -/
theorem walk_of_exec {rounds : ℕ} {current : Option ℕ} {walk : Walk}
    (h : Exec (walkToUsbInterface rounds current) s t walk s') :
    (ancestryOf t).any M65.isKnownUfiCbiInterface = walk.isFound ∧ s' = s := by
  induction rounds generalizing current t s with
  | zero =>
    cases current <;>
      · obtain ⟨rfl, rfl, rfl⟩ := exec_pure.1 h
        exact ⟨rfl, rfl⟩
  | succ rounds ih =>
    cases current with
    | none =>
      obtain ⟨rfl, rfl, rfl⟩ := exec_pure.1 h
      exact ⟨rfl, rfl⟩
    | some current =>
      obtain ⟨t₁, known, s₁, t₂, hknown, h₁, rfl⟩ := exec_bind.1 h
      obtain ⟨hentries, hentry, rfl⟩ := known_of_exec hknown
      rcases exec_ite.1 h₁ with ⟨htrue, h₁⟩ | ⟨hfalse, h₁⟩
      · obtain ⟨rfl, rfl, rfl⟩ := exec_pure.1 h₁
        rw [List.append_nil, ancestryOf, hentries, List.nil_append, List.any_cons, hentry, htrue]
        exact ⟨rfl, rfl⟩
      · -- the parent is taken up, and the rest of the walk starts with a blank reading
        obtain ⟨reply, t₃, h₂, rfl⟩ := exec_call_bind.1 h₁
        obtain ⟨result, t₄, h₃, rfl⟩ := exec_call_bind.1 h₂
        obtain ⟨hrest, rfl⟩ := ih h₃
        refine ⟨?_, rfl⟩
        have hancestry : ancestryOf (t₁ ++ ⟨s', .ioRegistryEntryGetParentEntry current, reply⟩ ::
            ⟨s', .ioObjectRelease current, result⟩ :: t₄) =
              (registryReadings.after {} t₁).entry :: ancestryOf t₄ := by
          rw [ancestryOf, Recorder.entries_append, Recorder.after_append, hentries]
          rfl
        rw [hancestry, List.any_cons, hentry, Bool.eq_false_iff.2 hfalse, Bool.false_or, hrest]

/-- The search finds an interface exactly when one of the ancestors is known. -/
theorem copied_of_exec {rounds : ℕ} {bsdName : List UInt8} {walk : Walk}
    (h : Exec (copyUsbInterfaceForBsdName rounds bsdName) s t walk s') :
    (ancestryOf t).any M65.isKnownUfiCbiInterface = walk.isFound ∧ s' = s := by
  obtain ⟨matching, t₁, h₁, rfl⟩ := exec_call_bind.1 h
  cases matching with
  | none =>
    obtain ⟨rfl, rfl, rfl⟩ := exec_pure.1 h₁
    exact ⟨rfl, rfl⟩
  | some matching =>
    obtain ⟨service, t₂, h₂, rfl⟩ := exec_call_bind.1 h₁
    obtain ⟨hfound, rfl⟩ := walk_of_exec h₂
    exact ⟨hfound, rfl⟩

/-! ## Events -/

/-- The calls behind the walk, as the model has them. -/
def creationEventOf : KitEvent S → Option (Event S CreationReply)
  | ⟨s, .ioCreatePlugInInterfaceForService _ _, reply⟩ =>
      some ⟨s, .ioCreatePlugInInterfaceForService, ⟨reply.result, reply.stored.isSome⟩⟩
  | ⟨s, .queryInterface _, reply⟩ =>
      some ⟨s, .queryInterface, ⟨reply.result, (reply.pointer none).isSome⟩⟩
  | ⟨s, .calloc, block⟩ => some ⟨s, .calloc, (block : Option ℕ).isSome⟩
  | _ => none

/-- What the trace of a creation is for the model. -/
def creationEvents (s : S) (bsdName : CString) (t : List (KitEvent S)) :
    List (Event S CreationReply) :=
  if normalizeBsdName bsdName.bytes = [] then []
  else
    ⟨s, .ioServiceGetMatchingService (normalizeBsdName bsdName.bytes), ancestryOf t⟩ ::
      t.filterMap creationEventOf

/-- What the model returns for a result, nothing without one. -/
def UsbCreated.outcome : UsbCreated → Option (Except CreationFailure Unit)
  | .created _ => some (.ok ())
  | .failed failure => some (.error failure)
  | .unfinished _ => none

section Model

variable {bsdName : CString} {ancestry : List RegistryEntry}

/-- The event in which the model gets the ancestry. -/
def matchingEvent (s : S) (bsdName : CString) (ancestry : List RegistryEntry) :
    Event S CreationReply :=
  ⟨s, .ioServiceGetMatchingService (normalizeBsdName bsdName.bytes), ancestry⟩

/-- The abstract creation ends when no ancestor is known. -/
theorem model_missing (hname : normalizeBsdName bsdName.bytes ≠ [])
    (hknown : ancestry.any M65.isKnownUfiCbiInterface = false) :
    Exec (M65.usbCbiTransportCreate bsdName) s [matchingEvent s bsdName ancestry]
      (.error ⟨.noDevice, errorText
        "selected media has no matching TEAC USB UFI/CBI interface in its ancestry"⟩) s := by
  unfold M65.usbCbiTransportCreate
  rw [if_neg hname]
  refine exec_call_bind.2 ⟨ancestry, [], ?_, rfl⟩
  rw [if_pos (by rw [hknown]; rfl)]
  exact exec_pure.2 ⟨rfl, rfl, rfl⟩

/-- The model from the memory on. -/
def modelBlocks : Prog S CreationReply (Except CreationFailure Unit) := do
  let io ← Prog.call CreationCall.calloc
  let context ← Prog.call CreationCall.calloc
  if !(io && context) then
    return .error ⟨.io, errorText "out of memory creating USB CBI transport"⟩
  let transport ← Prog.call CreationCall.calloc
  let engine ← Prog.call CreationCall.calloc
  if !(transport && engine) then
    return .error ⟨.io, errorText "unable to create USB CBI command engine"⟩
  return .ok ()

/-- The model from the plug-in on. -/
def modelTail : Prog S CreationReply (Except CreationFailure Unit) := do
  let created : PointerReply ← Prog.call CreationCall.ioCreatePlugInInterfaceForService
  if created.result ≠ kIOReturnSuccess ∨ created.stored = false then
    return .error (pluginFailure created.result)
  let queried : PointerReply ← Prog.call CreationCall.queryInterface
  if queried.result ≠ 0 ∨ queried.stored = false then
    return .error (queryFailure queried.result)
  modelBlocks

/-- The abstract creation goes on when an ancestor is known. -/
theorem model_found (hname : normalizeBsdName bsdName.bytes ≠ [])
    (hknown : ancestry.any M65.isKnownUfiCbiInterface = true) {l : List (Event S CreationReply)}
    {out : Except CreationFailure Unit} (h : Exec modelTail s l out s') :
    Exec (M65.usbCbiTransportCreate bsdName) s (matchingEvent s bsdName ancestry :: l) out s' := by
  unfold M65.usbCbiTransportCreate
  rw [if_neg hname]
  refine exec_call_bind.2 ⟨ancestry, l, ?_, rfl⟩
  rw [if_neg (by rw [hknown]; exact nofun)]
  obtain ⟨created, l₁, h₁, rfl⟩ := exec_call_bind.1 h
  refine exec_call_bind.2 ⟨created, l₁, ?_, rfl⟩
  rcases exec_ite.1 h₁ with ⟨hbad, h₁⟩ | ⟨hgood, h₁⟩
  · obtain ⟨rfl, rfl, rfl⟩ := exec_pure.1 h₁
    rw [if_pos hbad, pluginFailure]
    by_cases hresult : created.result = kIOReturnSuccess
    · rw [if_pos hresult, if_pos hresult]
      exact exec_pure.2 ⟨rfl, rfl, rfl⟩
    · rw [if_neg hresult, if_neg hresult]
      exact exec_pure.2 ⟨rfl, rfl, rfl⟩
  · rw [if_neg hgood]
    exact h₁

end Model

/-! ## The interface -/

/-- The calls for an interface, as the model has them. -/
inductive Opened (s : S) : List (Event S CreationReply) → Except CreationFailure Unit → Prop
  | unplugged {created : PointerReply}
      (hfailed : created.result ≠ kIOReturnSuccess ∨ created.stored = false) :
      Opened s [⟨s, .ioCreatePlugInInterfaceForService, created⟩]
        (.error (pluginFailure created.result))
  | unqueried {created queried : PointerReply}
      (hcreated : ¬(created.result ≠ kIOReturnSuccess ∨ created.stored = false))
      (hfailed : queried.result ≠ 0 ∨ queried.stored = false) :
      Opened s [⟨s, .ioCreatePlugInInterfaceForService, created⟩, ⟨s, .queryInterface, queried⟩]
        (.error (queryFailure queried.result))
  | opened {created queried : PointerReply}
      (hcreated : ¬(created.result ≠ kIOReturnSuccess ∨ created.stored = false))
      (hqueried : ¬(queried.result ≠ 0 ∨ queried.stored = false)) :
      Opened s [⟨s, .ioCreatePlugInInterfaceForService, created⟩, ⟨s, .queryInterface, queried⟩]
        (.ok ())

/-- An interface that could not be opened ends the abstract creation. -/
theorem Opened.tail_error {l : List (Event S CreationReply)} {failure : CreationFailure}
    (h : Opened s l (.error failure)) : Exec modelTail s l (.error failure) s := by
  cases h with
  | unplugged hfailed =>
    exact exec_call_bind.2 ⟨_, _, exec_ite.2 (.inl ⟨hfailed, exec_pure.2 ⟨rfl, rfl, rfl⟩⟩), rfl⟩
  | unqueried hcreated hfailed =>
    refine exec_call_bind.2 ⟨_, _, exec_ite.2 (.inr ⟨hcreated, ?_⟩), rfl⟩
    exact exec_call_bind.2 ⟨_, _, exec_ite.2 (.inl ⟨hfailed, exec_pure.2 ⟨rfl, rfl, rfl⟩⟩), rfl⟩

/-- An interface that was opened leads on to the allocations. -/
theorem Opened.tail_ok {l l' : List (Event S CreationReply)} {out : Except CreationFailure Unit}
    (h : Opened s l (.ok ())) (hblocks : Exec modelBlocks s l' out s') :
    Exec modelTail s (l ++ l') out s' := by
  cases h with
  | opened hcreated hqueried =>
    refine exec_call_bind.2 ⟨_, _, exec_ite.2 (.inr ⟨hcreated, ?_⟩), rfl⟩
    exact exec_call_bind.2 ⟨_, _, exec_ite.2 (.inr ⟨hqueried, hblocks⟩), rfl⟩

/-- Opening the interface is what the abstract creation sees of it. -/
theorem opened_of_exec {service : ℕ} {opened : Except CreationFailure ℕ}
    (h : Exec (openUsbInterface service) s t opened s') :
    Opened s (t.filterMap creationEventOf) (opened.map fun _ => ()) ∧ Unread t ∧ s' = s := by
  obtain ⟨⟨result, stored⟩, t₁, h₁, rfl⟩ := exec_call_bind.1 h
  obtain ⟨released, t₂, h₂, rfl⟩ := exec_call_bind.1 h₁
  cases stored with
  | none =>
    obtain ⟨rfl, rfl, rfl⟩ := exec_pure.1 h₂
    exact ⟨.unplugged (.inr rfl), by simp [Recorder.Silent, registryReadings], rfl⟩
  | some plugin =>
    rcases exec_ite.1 h₂ with ⟨hfailed, h₂⟩ | ⟨hcreated, h₂⟩
    · obtain ⟨destroyed, t₃, h₃, rfl⟩ := exec_call_bind.1 h₂
      obtain ⟨rfl, rfl, rfl⟩ := exec_pure.1 h₃
      exact ⟨.unplugged (.inl hfailed), by simp [Recorder.Silent, registryReadings], rfl⟩
    have hcreated : ¬(result ≠ kIOReturnSuccess ∨ true = false) := by
      rintro (hfailed | hnull)
      · exact hcreated hfailed
      · cases hnull
    obtain ⟨queried, t₃, h₃, rfl⟩ := exec_call_bind.1 h₂
    obtain ⟨destroyed, t₄, h₄, rfl⟩ := exec_call_bind.1 h₃
    -- the interface counts only with both a good result and a pointer
    cases hpointer : queried.pointer none with
    | none =>
      rw [hpointer] at h₄
      obtain ⟨rfl, rfl, rfl⟩ := exec_pure.1 h₄
      have hnull : (queried.pointer none).isSome = false := by rw [hpointer]; rfl
      exact ⟨.unqueried hcreated (.inr hnull), by simp [Recorder.Silent, registryReadings], rfl⟩
    | some interface =>
      rw [hpointer] at h₄
      rcases exec_ite.1 h₄ with ⟨hfailed, h₄⟩ | ⟨hqueried, h₄⟩
      · obtain ⟨count, t₅, h₅, rfl⟩ := exec_call_bind.1 h₄
        obtain ⟨rfl, rfl, rfl⟩ := exec_pure.1 h₅
        exact ⟨.unqueried hcreated (.inl hfailed), by simp [Recorder.Silent, registryReadings], rfl⟩
      · obtain ⟨rfl, rfl, rfl⟩ := exec_pure.1 h₄
        refine ⟨.opened hcreated ?_, by simp [Recorder.Silent, registryReadings], rfl⟩
        rintro (hfailed | hnull)
        · exact hqueried hfailed
        · rw [hpointer] at hnull
          cases hnull

/-! ## The blocks -/

/-- Creating the engine is two allocations for the abstract creation. -/
theorem engine_of_exec {made : Option (ℕ × ℕ)} (h : Exec cbiTransportCreate s t made s') :
    (∃ transport engine : Option ℕ, made.isSome = (transport.isSome && engine.isSome) ∧
      t.filterMap creationEventOf =
        [⟨s, .calloc, transport.isSome⟩, ⟨s, .calloc, engine.isSome⟩]) ∧ Unread t ∧ s' = s := by
  obtain ⟨transport, t₁, h₁, rfl⟩ := exec_call_bind.1 h
  obtain ⟨engine, t₂, h₂, rfl⟩ := exec_call_bind.1 h₁
  -- whichever block is missing, both are freed
  have hfreed (h₂ : Exec (do
      Prog.call (KitCall.free engine)
      Prog.call (KitCall.free transport)
      return none : Prog S KitReply (Option (ℕ × ℕ))) s t₂ made s') :
      made = none ∧ t₂.filterMap creationEventOf = [] ∧ Unread t₂ ∧ s' = s := by
    obtain ⟨_, t₃, h₃, rfl⟩ := exec_call_bind.1 h₂
    obtain ⟨_, t₄, h₄, rfl⟩ := exec_call_bind.1 h₃
    obtain ⟨rfl, rfl, rfl⟩ := exec_pure.1 h₄
    exact ⟨rfl, rfl, by simp [Recorder.Silent, registryReadings], rfl⟩
  have hunread (h₂ : Unread t₂) :
      Unread (⟨s, .calloc, transport⟩ :: ⟨s, .calloc, engine⟩ :: t₂) := by
    refine Recorder.Silent.append (t := [⟨s, .calloc, transport⟩, ⟨s, .calloc, engine⟩]) ?_ h₂
    simp [Recorder.Silent, registryReadings]
  cases transport with
  | none =>
    obtain ⟨rfl, hevents, hquiet, rfl⟩ := hfreed h₂
    exact ⟨⟨none, engine, rfl, by simp [creationEventOf, hevents]⟩, hunread hquiet, rfl⟩
  | some transport =>
    cases engine with
    | none =>
      obtain ⟨rfl, hevents, hquiet, rfl⟩ := hfreed h₂
      exact ⟨⟨some transport, none, rfl, by simp [creationEventOf, hevents]⟩, hunread hquiet, rfl⟩
    | some engine =>
      obtain ⟨rfl, rfl, rfl⟩ := exec_pure.1 h₂
      exact ⟨⟨some transport, some engine, rfl, rfl⟩, hunread .nil, rfl⟩

/-- The model of the blocks, from the replies of the allocator. -/
theorem exec_modelBlocks {io context : Bool} {l : List (Event S CreationReply)}
    {out : Except CreationFailure Unit}
    (h : (io && context) = false ∧ l = [] ∧
        out = .error ⟨.io, errorText "out of memory creating USB CBI transport"⟩ ∨
      (io && context) = true ∧ ∃ transport engine : Bool,
        l = [⟨s, .calloc, transport⟩, ⟨s, .calloc, engine⟩] ∧
        out = if transport && engine then .ok ()
          else .error ⟨.io, errorText "unable to create USB CBI command engine"⟩) :
    Exec modelBlocks s (⟨s, .calloc, io⟩ :: ⟨s, .calloc, context⟩ :: l) out s := by
  refine exec_call_bind.2 ⟨io, _, exec_call_bind.2 ⟨context, l, ?_, rfl⟩, rfl⟩
  rcases h with ⟨hfailed, rfl, rfl⟩ | ⟨hmade, transport, engine, rfl, rfl⟩
  · exact exec_ite.2 (.inl ⟨by rw [hfailed]; rfl, exec_pure.2 ⟨rfl, rfl, rfl⟩⟩)
  · refine exec_ite.2 (.inr ⟨by rw [hmade]; exact nofun, ?_⟩)
    refine exec_call_bind.2 ⟨transport, _, exec_call_bind.2 ⟨engine, [], ?_, rfl⟩, rfl⟩
    cases hboth : transport && engine with
    | false => exact exec_ite.2 (.inl ⟨rfl, exec_pure.2 ⟨rfl, rfl, rfl⟩⟩)
    | true => exact exec_ite.2 (.inr ⟨nofun, exec_pure.2 ⟨rfl, rfl, rfl⟩⟩)

/-- Creating the adapter is what the abstract creation sees of it. -/
theorem made_of_exec {interface : ℕ} {made : Except CreationFailure UsbTransport}
    (h : Exec (createOnInterface interface) s t made s') :
    Exec modelBlocks s (t.filterMap creationEventOf) (made.map fun _ => ()) s' ∧ Unread t ∧
      s' = s := by
  obtain ⟨io, t₁, h₁, rfl⟩ := exec_call_bind.1 h
  obtain ⟨context, t₂, h₂, rfl⟩ := exec_call_bind.1 h₁
  have hunread (h₂ : Unread t₂) :
      Unread (⟨s, .calloc, io⟩ :: ⟨s, .calloc, context⟩ :: t₂) := by
    refine Recorder.Silent.append (t := [⟨s, .calloc, io⟩, ⟨s, .calloc, context⟩]) ?_ h₂
    simp [Recorder.Silent, registryReadings]
  -- whichever block is missing, both are freed, and the model sees nothing of that
  have hfreed {failure : CreationFailure} (h₂ : Exec (do
      Prog.call (KitCall.free io)
      Prog.call (KitCall.free context)
      let _ ← Prog.call (KitCall.release interface)
      return .error failure : Prog S KitReply (Except CreationFailure UsbTransport)) s t₂ made s') :
      made = .error failure ∧ t₂.filterMap creationEventOf = [] ∧ Unread t₂ ∧ s' = s := by
    obtain ⟨_, t₃, h₃, rfl⟩ := exec_call_bind.1 h₂
    obtain ⟨_, t₄, h₄, rfl⟩ := exec_call_bind.1 h₃
    obtain ⟨count, t₅, h₅, rfl⟩ := exec_call_bind.1 h₄
    obtain ⟨rfl, rfl, rfl⟩ := exec_pure.1 h₅
    exact ⟨rfl, rfl, by simp [Recorder.Silent, registryReadings], rfl⟩
  cases io with
  | none =>
    obtain ⟨rfl, hevents, hquiet, rfl⟩ := hfreed h₂
    refine ⟨?_, hunread hquiet, rfl⟩
    simp only [List.filterMap_cons, creationEventOf, hevents]
    exact exec_modelBlocks (.inl ⟨rfl, rfl, rfl⟩)
  | some io =>
    cases context with
    | none =>
      obtain ⟨rfl, hevents, hquiet, rfl⟩ := hfreed h₂
      refine ⟨?_, hunread hquiet, rfl⟩
      simp only [List.filterMap_cons, creationEventOf, hevents]
      exact exec_modelBlocks (.inl ⟨rfl, rfl, rfl⟩)
    | some context =>
      obtain ⟨t₃, engine, s₁, t₄, hengine, h₃, rfl⟩ := exec_bind.1 h₂
      obtain ⟨⟨transport, context', hsome, hevents⟩, hquiet, rfl⟩ := engine_of_exec hengine
      cases engine with
      | none =>
        -- without an engine the context of the adapter is destroyed again
        obtain ⟨t₅, _, s₂, t₆, hdestroy, h₄, rfl⟩ := exec_bind.1 h₃
        obtain ⟨count, t₇, h₅, rfl⟩ := exec_call_bind.1 hdestroy
        obtain ⟨_, t₈, h₆, rfl⟩ := exec_call_bind.1 h₅
        obtain ⟨rfl, rfl⟩ := exec_call.1 h₆
        obtain ⟨rfl, rfl, rfl⟩ := exec_pure.1 h₄
        refine ⟨?_, hunread (hquiet.append (by simp [Recorder.Silent, registryReadings])), rfl⟩
        simp only [List.filterMap_cons, List.filterMap_append, creationEventOf, hevents]
        refine exec_modelBlocks (.inr ⟨rfl, _, _, rfl, ?_⟩)
        rw [← hsome]
        rfl
      | some blocks =>
        obtain ⟨rfl, rfl, rfl⟩ := exec_pure.1 h₃
        rw [List.append_nil] at hunread ⊢
        refine ⟨?_, hunread hquiet, rfl⟩
        simp only [List.filterMap_cons, creationEventOf, hevents]
        refine exec_modelBlocks (.inr ⟨rfl, _, _, rfl, ?_⟩)
        rw [← hsome]
        rfl

/-! ## Refinement -/

/-- The abstract creation sees nothing of a lookup. -/
theorem creationEventOf_lookup {α : Type} {p : Prog S KitReply α} {a : α} (hp : Only IsLookup p)
    (h : Exec p s t a s') : t.filterMap creationEventOf = [] := by
  rw [List.filterMap_eq_nil_iff]
  intro e he
  have hcall := hp h e he
  obtain ⟨s, call, reply⟩ := e
  cases call <;> first | rfl | exact hcall.elim

/-- The walk to the interface is a lookup. -/
theorem walkToUsbInterface_lookup (rounds : ℕ) (current : Option ℕ) :
    Only (S := S) IsLookup (walkToUsbInterface rounds current) := by
  induction rounds generalizing current with
  | zero => cases current <;> exact .pure _
  | succ rounds ih =>
    cases current with
    | none => exact .pure _
    | some current =>
      refine .bind (isKnownUfiCbiInterface_lookup current) fun _ => .ite (.pure _) ?_
      exact .bind (.call trivial) fun _ => .bind (.call trivial) fun _ => ih _

/-- The search for the interface is a lookup. -/
theorem copyUsbInterfaceForBsdName_lookup (rounds : ℕ) (bsdName : List UInt8) :
    Only (S := S) IsLookup (copyUsbInterfaceForBsdName rounds bsdName) := by
  refine .bind (.call trivial) fun matching => ?_
  cases matching with
  | none => exact .pure _
  | some matching => exact .bind (.call trivial) fun _ => walkToUsbInterface_lookup _ _

/-- A creation that ended is one of the abstract creation. -/
theorem refines_of_exec {rounds : ℕ} {bsdName : CString} {created : UsbCreated}
    (h : Exec (usbCbiTransportCreate rounds bsdName) s t created s') :
    (∃ service, created = .unfinished service) ∨
      ∃ outcome, created.outcome = some outcome ∧
        Exec (M65.usbCbiTransportCreate bsdName) s (creationEvents s bsdName t) outcome s' := by
  rcases exec_ite.1 h with ⟨hname, h₁⟩ | ⟨hname, h₁⟩
  · obtain ⟨rfl, rfl, rfl⟩ := exec_pure.1 h₁
    refine .inr ⟨_, rfl, ?_⟩
    rw [creationEvents, if_pos hname]
    unfold M65.usbCbiTransportCreate
    exact exec_ite.2 (.inl ⟨hname, exec_pure.2 ⟨rfl, rfl, rfl⟩⟩)
  obtain ⟨t₁, walk, s₁, t₂, hwalk, h₂, rfl⟩ := exec_bind.1 h₁
  obtain ⟨hfound, rfl⟩ := copied_of_exec hwalk
  have hlookup := creationEventOf_lookup (copyUsbInterfaceForBsdName_lookup rounds _) hwalk
  -- behind the walk nothing is read, so that the ancestry is that of the walk
  have hevents (hunread : Unread t₂) : creationEvents s₁ bsdName (t₁ ++ t₂) =
      matchingEvent s₁ bsdName (ancestryOf t₁) :: t₂.filterMap creationEventOf := by
    rw [creationEvents, if_neg hname, ancestryOf_append_unread hunread, List.filterMap_append,
      hlookup]
    rfl
  cases walk with
  | unfinished service =>
    obtain ⟨rfl, rfl, rfl⟩ := exec_pure.1 h₂
    exact .inl ⟨service, rfl⟩
  | missing =>
    obtain ⟨rfl, rfl, rfl⟩ := exec_pure.1 h₂
    refine .inr ⟨_, rfl, ?_⟩
    rw [hevents .nil]
    exact model_missing hname hfound
  | found service =>
    refine .inr ?_
    obtain ⟨t₃, opened, s₂, t₄, hopened, h₃, rfl⟩ := exec_bind.1 h₂
    obtain ⟨hmodel, hunread, rfl⟩ := opened_of_exec hopened
    cases opened with
    | error failure =>
      obtain ⟨rfl, rfl, rfl⟩ := exec_pure.1 h₃
      refine ⟨_, rfl, ?_⟩
      rw [hevents (hunread.append .nil), List.append_nil]
      exact model_found hname hfound hmodel.tail_error
    | ok interface =>
      obtain ⟨t₅, made, s₃, t₆, hmade, h₄, rfl⟩ := exec_bind.1 h₃
      obtain ⟨hblocks, hunread', rfl⟩ := made_of_exec hmade
      have hexec (hend : t₆ = []) : Exec (M65.usbCbiTransportCreate bsdName) s₃
          (creationEvents s₃ bsdName (t₁ ++ (t₃ ++ (t₅ ++ t₆)))) (made.map fun _ => ()) s₃ := by
        subst hend
        rw [hevents (hunread.append (hunread'.append .nil)), List.append_nil,
          List.filterMap_append]
        exact model_found hname hfound (hmodel.tail_ok hblocks)
      cases made <;>
        · obtain ⟨rfl, rfl, rfl⟩ := exec_pure.1 h₄
          exact ⟨_, rfl, hexec rfl⟩

/-- Whatever the creation returns, the model returns for the ancestry that the creation read. -/
theorem usbCreation_refines (rounds : ℕ) (bsdName : CString) (s : S)
    (r : Run (usbCbiTransportCreate rounds bsdName) s) :
    (∃ service, r.result = .unfinished service) ∨
      ∃ outcome, r.result.outcome = some outcome ∧
        Exec (M65.usbCbiTransportCreate bsdName) s (creationEvents s bsdName r.trace) outcome
          r.final :=
  refines_of_exec r.exec

end M65.Kit
