import FloppyProbe.Kit.Properties

/-!
# Creation of the USB transport, with its objects

`m65_usb_cbi_transport_create` of `src/usb_cbi_macos.c` once more, with every object of IOKit and
Core Foundation and every block of memory. The walk through the ancestors of a medium ends at the
root of the registry; here it goes through at most `rounds` of them.

* `usbCreation_balanced`: on every way through it, the creation uses only what it holds, gives back
  all it obtained once, and keeps only the parts of a transport that it returns; the destruction
  gives these back.
-/

namespace M65.Kit

open Interaction

variable {S : Type}

/-! ## The interface -/

/-- Where a walk through ancestors ends. -/
inductive Walk where
  | found (service : ℕ)
  | missing
  /-- There are more ancestors. -/
  | unfinished (service : ℕ)

/-- The loop of `copy_usb_interface_for_bsd_name`. -/
def walkToUsbInterface : ℕ → Option ℕ → Prog S KitReply Walk
  | _, none => return .missing
  | 0, some current => return .unfinished current
  | rounds + 1, some current => do
      if ← isKnownUfiCbiInterface current then
        return .found current
      let reply : StoredReply ← Prog.call (KitCall.ioRegistryEntryGetParentEntry current)
      let _ ← Prog.call (KitCall.ioObjectRelease current)
      walkToUsbInterface rounds reply.found

/-- `copy_usb_interface_for_bsd_name`. -/
def copyUsbInterfaceForBsdName (rounds : ℕ) (bsdName : List UInt8) : Prog S KitReply Walk := do
  let matching : Option ℕ ← Prog.call (KitCall.ioBsdNameMatching bsdName)
  match matching with
  | none => return .missing
  | some matching =>
      let service : Option ℕ ← Prog.call (KitCall.ioServiceGetMatchingService matching)
      walkToUsbInterface rounds service

/-- The failure when no plug-in could be created. -/
def pluginFailure (result : IOReturn) : CreationFailure :=
  if result = kIOReturnSuccess then
    ⟨.io, errorText "documented IOUSBLib plug-in creation returned NULL"⟩
  else
    ⟨transportStatusForCbi (mapIoReturn result),
      describeIoReturn "create documented IOUSBLib interface plug-in" result⟩

/-- The failure when the plug-in has no interface of the wanted kind. -/
def queryFailure (result : UInt32) : CreationFailure :=
  ⟨.io, Text.format [str "query documented IOUSBInterfaceInterface190 failed with HRESULT 0x",
    hexDigits 8 result.toNat]⟩

/-- The interface of a service, which is released. -/
def openUsbInterface (service : ℕ) : Prog S KitReply (Except CreationFailure ℕ) := do
  let created : StoredReply ← Prog.call
    (KitCall.ioCreatePlugInInterfaceForService service .kIoUsbInterfaceUserClientTypeId)
  -- the service is given back before the result is looked at
  let _ ← Prog.call (KitCall.ioObjectRelease service)
  match created.stored with
  | none => return .error (pluginFailure created.result)
  | some plugin =>
      if created.result ≠ kIOReturnSuccess then
        let _ ← Prog.call (KitCall.ioDestroyPlugInInterface plugin)
        return .error (pluginFailure created.result)
      let queried : QueryReply ← Prog.call (KitCall.queryInterface plugin)
      let _ ← Prog.call (KitCall.ioDestroyPlugInInterface plugin)
      match queried.pointer none with
      | none => return .error (queryFailure queried.result)
      | some interface =>
          -- an interface that a failed query stored is given back
          if queried.result ≠ 0 then
            let _ ← Prog.call (KitCall.release interface)
            return .error (queryFailure queried.result)
          return .ok interface

/-! ## The transport -/

/-- The parts of a transport. -/
structure UsbTransport where
  interface : ℕ
  io : ℕ
  context : ℕ
  transport : ℕ
  engine : ℕ

/-- `m65_cbi_transport_create`: the blocks of the transport and of its context. -/
def cbiTransportCreate : Prog S KitReply (Option (ℕ × ℕ)) := do
  let transport : Option ℕ ← Prog.call KitCall.calloc
  let context : Option ℕ ← Prog.call KitCall.calloc
  match transport, context with
  | some transport, some context => return some (transport, context)
  | transport, context =>
      Prog.call (KitCall.free context)
      Prog.call (KitCall.free transport)
      return none

/-- `mac_destroy_io` for an interface that is closed. -/
def macDestroyIo (interface context io : ℕ) : Prog S KitReply Unit := do
  let _ ← Prog.call (KitCall.release interface)
  Prog.call (KitCall.free (some context))
  Prog.call (KitCall.free (some io))

/-- The transport on an interface. -/
def createOnInterface (interface : ℕ) : Prog S KitReply (Except CreationFailure UsbTransport) := do
  let io : Option ℕ ← Prog.call KitCall.calloc
  let context : Option ℕ ← Prog.call KitCall.calloc
  match io, context with
  | some io, some context =>
      match ← cbiTransportCreate with
      | some (transport, engine) => return .ok ⟨interface, io, context, transport, engine⟩
      | none =>
          macDestroyIo interface context io
          return .error ⟨.io, errorText "unable to create USB CBI command engine"⟩
  | io, context =>
      Prog.call (KitCall.free io)
      Prog.call (KitCall.free context)
      let _ ← Prog.call (KitCall.release interface)
      return .error ⟨.io, errorText "out of memory creating USB CBI transport"⟩

/-- How a creation ends. -/
inductive UsbCreated where
  | created (transport : UsbTransport)
  | failed (failure : CreationFailure)
  /-- The walk was still at this service after its rounds. -/
  | unfinished (service : ℕ)

/-- `m65_usb_cbi_transport_create`. -/
def usbCbiTransportCreate (rounds : ℕ) (bsdName : CString) : Prog S KitReply UsbCreated := do
  let name := normalizeBsdName bsdName.bytes
  if name = [] then
    return .failed ⟨.io, errorText "missing BSD device name"⟩
  match ← copyUsbInterfaceForBsdName rounds name with
  | .unfinished service => return .unfinished service
  | .missing => return .failed ⟨.noDevice, errorText
      "selected media has no matching TEAC USB UFI/CBI interface in its ancestry"⟩
  | .found service =>
      match ← openUsbInterface service with
      | .error failure => return .failed failure
      | .ok interface =>
          match ← createOnInterface interface with
          | .error failure => return .failed failure
          | .ok transport => return .created transport

/-- `cbi_destroy` for a transport that is closed. -/
def cbiDestroy (transport : UsbTransport) : Prog S KitReply Unit := do
  macDestroyIo transport.interface transport.context transport.io
  Prog.call (KitCall.free (some transport.engine))
  Prog.call (KitCall.free (some transport.transport))

/-- A transport from its creation to its destruction. -/
def usbLifetime (rounds : ℕ) (bsdName : CString) : Prog S KitReply UsbCreated := do
  let created ← usbCbiTransportCreate rounds bsdName
  match created with
  | .created transport => cbiDestroy transport
  | _ => pure ()
  return created

/-! ## References -/

/-- The references of a transport. -/
def UsbTransport.held (t : UsbTransport) : Multiset KitObject :=
  {.interface t.interface} + ({.memory t.io} + ({.memory t.context} +
    ({.memory t.transport} + {.memory t.engine})))

/-- What a walk holds at its end. -/
def Walk.held : Walk → Multiset KitObject
  | .found service => {.io service}
  | .missing => 0
  | .unfinished service => {.io service}

/-- What a step that can fail leaves: all of what it was to make, or nothing. -/
def madeRefs {ε α : Type} (held : α → Multiset KitObject) : Except ε α → Multiset KitObject
  | .ok made => held made
  | .error _ => 0

/-- What a creation holds at its end. -/
def UsbCreated.held : UsbCreated → Multiset KitObject
  | .created transport => transport.held
  | .failed _ => 0
  | .unfinished service => {.io service}

section References

variable {F : Multiset KitObject}

/-- A walk trades the service it starts at for the one it ends at. -/
theorem trades_walkToUsbInterface (rounds : ℕ) (current : Option ℕ) :
    Trades (S := S) kitLedger (refTo .io current) (walkToUsbInterface rounds current)
      Walk.held := by
  induction rounds generalizing current with
  | zero => cases current <;> exact .pure rfl
  | succ rounds ih =>
    cases current with
    | none => exact .pure rfl
    | some current =>
      refine .bind trades_isKnownUfiCbiInterface fun known => .ite (fun _ => .pure rfl) fun _ => ?_
      exact trades_stepToParent ih

/-- The search for the interface ends with what it found. -/
theorem trades_copyUsbInterfaceForBsdName (rounds : ℕ) (bsdName : List UInt8) :
    Trades (S := S) kitLedger 0 (copyUsbInterfaceForBsdName rounds bsdName) Walk.held := by
  refine .bind trades_ioBsdNameMatching fun matching => ?_
  cases matching with
  | none => exact .pure rfl
  | some matching =>
    refine .bind (trades_ioServiceGetMatchingService matching) fun service => ?_
    exact (trades_walkToUsbInterface rounds service).congr (add_zero _) fun _ => rfl

/-- Opening the interface gives the service back. -/
theorem trades_openUsbInterface (service : ℕ) :
    Trades (S := S) kitLedger {.io service} (openUsbInterface service)
      (madeRefs fun interface => {.interface interface}) := by
  refine .bind (.use rfl (by simp [kitLedger])) fun created => ?_
  refine .bind ((trades_ioObjectRelease service).congr (add_comm _ _) fun _ => rfl) fun _ => ?_
  show Trades kitLedger (refTo .plugIn created.stored) _ _
  cases created.stored with
  | none => exact .pure rfl
  | some plugin =>
    refine .ite (fun _ => .bind ((trades_ioDestroyPlugInInterface plugin).congr (add_zero _).symm
      fun _ => rfl) fun _ => .pure rfl) fun _ => ?_
    refine .bind (.use rfl (by simp [kitLedger])) fun queried => ?_
    refine .bind ((trades_ioDestroyPlugInInterface plugin).congr (add_comm _ _) fun _ => rfl)
      fun _ => ?_
    show Trades kitLedger (refTo .interface (queried.pointer none)) _ _
    cases queried.pointer none with
    | none => exact .pure rfl
    | some interface =>
      refine .ite (fun _ => .bind ((trades_release interface).congr (add_zero _).symm
        fun _ => rfl) fun _ => .pure rfl) fun _ => .pure rfl

/-- The blocks of a transport, both or none. -/
def engineRefs (made : Option (ℕ × ℕ)) : Multiset KitObject :=
  (made.map fun blocks => {.memory blocks.1} + {.memory blocks.2}).getD 0

/-- The engine is two blocks of memory, or nothing. -/
theorem trades_cbiTransportCreate :
    Trades (S := S) kitLedger F cbiTransportCreate fun made => engineRefs made + F := by
  refine .bind trades_calloc fun transport => .bind trades_calloc fun context => ?_
  -- the blocks are given back in the reverse order
  have hfree : Trades (S := S) kitLedger
      (refTo .memory context + (refTo .memory transport + F)) (do
        Prog.call (KitCall.free context)
        Prog.call (KitCall.free transport)
        return none) fun made : Option (ℕ × ℕ) => engineRefs made + F :=
    .bind (trades_free context) fun _ => .bind (trades_free transport) fun _ =>
      .pure (zero_add F).symm
  cases transport with
  | none => exact hfree
  | some transport =>
    cases context with
    | none => exact hfree
    | some context =>
      refine .pure ?_
      show ({.memory context} : Multiset KitObject) + ({.memory transport} + F) =
        {.memory transport} + {.memory context} + F
      ac_rfl

/-- The destruction of the adapter gives its parts back. -/
theorem trades_macDestroyIo (interface context io : ℕ) :
    Trades (S := S) kitLedger
      ({.interface interface} + ({.memory context} + ({.memory io} + F)))
      (macDestroyIo interface context io) fun _ => F :=
  .bind (trades_release interface) fun _ => .bind (trades_free (some context)) fun _ =>
    trades_free (some io)

/-- A creation on an interface keeps it, or gives it back. -/
theorem trades_createOnInterface (interface : ℕ) :
    Trades (S := S) kitLedger {.interface interface} (createOnInterface interface)
      (madeRefs UsbTransport.held) := by
  refine .bind trades_calloc fun io => .bind trades_calloc fun context => ?_
  -- the blocks and the interface are given back in the order of the source
  have hfree (failure : CreationFailure) : Trades (S := S) kitLedger
      (refTo .memory context + (refTo .memory io + {.interface interface})) (do
        Prog.call (KitCall.free io)
        Prog.call (KitCall.free context)
        let _ ← Prog.call (KitCall.release interface)
        return .error failure) (madeRefs UsbTransport.held) := by
    refine .bind ((trades_free io).congr (add_left_comm _ _ _) fun _ => rfl) fun _ => ?_
    refine .bind (trades_free context) fun _ => ?_
    exact .bind ((trades_release interface).congr (add_zero _).symm fun _ => rfl) fun _ => .pure rfl
  cases io with
  | none => exact hfree _
  | some io =>
    cases context with
    | none => exact hfree _
    | some context =>
      refine .bind trades_cbiTransportCreate fun made => ?_
      cases made with
      | none =>
        refine .bind ((trades_macDestroyIo interface context io).congr ?_ fun _ => rfl) fun _ =>
          .pure rfl
        show (0 : Multiset KitObject) +
            ({.memory context} + ({.memory io} + {.interface interface})) =
          {.interface interface} + ({.memory context} + ({.memory io} + 0))
        ac_rfl
      | some blocks =>
        obtain ⟨transport, engine⟩ := blocks
        refine .pure ?_
        show ({.memory transport} : Multiset KitObject) + {.memory engine} +
            ({.memory context} + ({.memory io} + {.interface interface})) =
          {.interface interface} + ({.memory io} + ({.memory context} +
            ({.memory transport} + {.memory engine})))
        ac_rfl

/-- A creation ends with what it holds. -/
theorem trades_usbCbiTransportCreate (rounds : ℕ) (bsdName : CString) :
    Trades (S := S) kitLedger 0 (usbCbiTransportCreate rounds bsdName)
      UsbCreated.held := by
  refine .ite (fun _ => .pure rfl) fun _ => ?_
  refine .bind (trades_copyUsbInterfaceForBsdName rounds _) fun walk => ?_
  cases walk with
  | unfinished | missing => exact .pure rfl
  | found service =>
    refine .bind (trades_openUsbInterface service) fun opened => ?_
    cases opened with
    | error failure => exact .pure rfl
    | ok interface =>
      refine .bind (trades_createOnInterface interface) fun made => ?_
      cases made <;> exact .pure rfl

/-- The destruction gives all parts of a transport back. -/
theorem trades_cbiDestroy (transport : UsbTransport) :
    Trades (S := S) kitLedger transport.held (cbiDestroy transport) fun _ => 0 := by
  obtain ⟨interface, io, context, transport, engine⟩ := transport
  refine .bind ((trades_macDestroyIo interface context io).congr ?_ fun _ => rfl) fun _ =>
    .bind (trades_free (some engine)) fun _ => trades_free (some transport)
  show ({.interface interface} : Multiset KitObject) + ({.memory io} + ({.memory context} +
      ({.memory transport} + {.memory engine}))) =
    {.interface interface} + ({.memory context} + ({.memory io} +
      ({.memory engine} + ({.memory transport} + 0))))
  rw [add_zero]
  ac_rfl

/-- What is left of a transport that was destroyed. -/
def UsbCreated.leftover : UsbCreated → Multiset KitObject
  | .unfinished service => {.io service}
  | _ => 0

/-- Creation and destruction leave what an unfinished creation holds. -/
theorem trades_usbLifetime (rounds : ℕ) (bsdName : CString) :
    Trades (S := S) kitLedger 0 (usbLifetime rounds bsdName) UsbCreated.leftover := by
  refine .bind (trades_usbCbiTransportCreate rounds bsdName) fun created => ?_
  cases created with
  | created transport => exact .bind (trades_cbiDestroy transport) fun _ => .pure rfl
  | failed | unfinished => exact .pure rfl

end References

/-! ## Rounds -/

/-- The services whose parents were asked for. -/
def parentSteps (t : List (KitEvent S)) : ℕ :=
  t.countP fun e =>
    match e.call with
    | .ioRegistryEntryGetParentEntry _ => true
    | _ => false

/-- The steps of two traces are counted together. -/
theorem parentSteps_append (t t' : List (KitEvent S)) :
    parentSteps (t ++ t') = parentSteps t + parentSteps t' := List.countP_append

/-- A walk that did not end has gone up to a parent in each of its rounds. -/
theorem rounds_le_of_walk {rounds : ℕ} {current : Option ℕ} {s s' : S} {t : List (KitEvent S)}
    {service : ℕ} (h : Exec (walkToUsbInterface rounds current) s t (.unfinished service) s') :
    rounds ≤ parentSteps t := by
  induction rounds generalizing current t s with
  | zero => exact Nat.zero_le _
  | succ rounds ih =>
    cases current with
    | none =>
      obtain ⟨-, hwalk, -⟩ := exec_pure.1 h
      cases hwalk
    | some current =>
      obtain ⟨t₁, known, s₁, t₂, -, h₁, rfl⟩ := exec_bind.1 h
      rcases exec_ite.1 h₁ with ⟨-, h₁⟩ | ⟨-, h₁⟩
      · obtain ⟨-, hwalk, -⟩ := exec_pure.1 h₁
        cases hwalk
      · obtain ⟨reply, t₃, h₂, rfl⟩ := exec_call_bind.1 h₁
        obtain ⟨result, t₄, h₃, rfl⟩ := exec_call_bind.1 h₂
        have hrest := ih h₃
        simp only [parentSteps, List.countP_append, List.countP_cons] at hrest ⊢
        simp only [if_true]
        omega

/-- A creation that did not end has gone up to a parent in each of its rounds. -/
theorem rounds_le_of_creation {rounds : ℕ} {bsdName : CString} {s s' : S} {t : List (KitEvent S)}
    {service : ℕ} (h : Exec (usbCbiTransportCreate rounds bsdName) s t (.unfinished service) s') :
    rounds ≤ parentSteps t := by
  rcases exec_ite.1 h with ⟨-, h₁⟩ | ⟨-, h₁⟩
  · obtain ⟨-, hcreated, -⟩ := exec_pure.1 h₁
    cases hcreated
  obtain ⟨t₁, walk, s₁, t₂, hwalk, h₂, rfl⟩ := exec_bind.1 h₁
  cases walk with
  | missing =>
    obtain ⟨-, hcreated, -⟩ := exec_pure.1 h₂
    cases hcreated
  | unfinished service =>
    obtain ⟨matching, t₃, h₃, rfl⟩ := exec_call_bind.1 hwalk
    cases matching with
    | none =>
      obtain ⟨-, hmissing, -⟩ := exec_pure.1 h₃
      cases hmissing
    | some matching =>
      obtain ⟨current, t₄, h₄, rfl⟩ := exec_call_bind.1 h₃
      have hwalked := rounds_le_of_walk h₄
      simp only [parentSteps, List.cons_append, List.countP_cons, List.countP_append] at hwalked ⊢
      omega
  -- after a service was found, the creation succeeds or fails
  | found service =>
    obtain ⟨t₃, opened, s₂, t₄, -, h₃, rfl⟩ := exec_bind.1 h₂
    cases opened with
    | error failure =>
      obtain ⟨-, hcreated, -⟩ := exec_pure.1 h₃
      cases hcreated
    | ok interface =>
      obtain ⟨t₅, made, s₃, t₆, -, h₄, rfl⟩ := exec_bind.1 h₃
      cases made <;>
        · obtain ⟨-, hcreated, -⟩ := exec_pure.1 h₄
          cases hcreated

/-- The creation keeps only the parts of the transport that it returns, and its destruction gives
them back. Only a registry with more than `rounds` ancestors stops it in between. -/
theorem usbCreation_balanced (rounds : ℕ) (bsdName : CString) (s : S) :
    (∀ r : Run (usbCbiTransportCreate rounds bsdName) s,
      kitLedger.monitor.run 0 r.trace = some r.result.held ∧
        ∀ service, r.result = .unfinished service → rounds ≤ parentSteps r.trace) ∧
    ∀ r : Run (usbLifetime rounds bsdName) s,
      kitLedger.monitor.run 0 r.trace = some r.result.leftover := by
  refine ⟨fun r => ⟨(trades_usbCbiTransportCreate rounds bsdName).run r.exec, ?_⟩,
    fun r => (trades_usbLifetime rounds bsdName).run r.exec⟩
  obtain ⟨trace, result, s', hexec⟩ := r
  rintro service rfl
  exact rounds_le_of_creation hexec

end M65.Kit
