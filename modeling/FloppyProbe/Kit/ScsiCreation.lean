import FloppyProbe.Kit.UsbCreation
import FloppyProbe.Scsi.Adapter

/-!
# Creation of the SCSI transport, with its objects

`m65_scsi_transport_create` of `src/scsi_macos.c`. Unlike the USB transport it goes on to the
parent when a service has the plug-in but no interface comes of it. The variable for the interface
is declared outside the loop, so that what a failed `QueryInterface` stored is still there in the
next round: a later one that succeeds and stores nothing returns it.

* `lostInterfaces`: the interfaces that were stored and that the search does not return;
* `scsiCreation_balanced`: the creation gives back all it obtained but the parts of the transport
  and the lost interfaces, which are never released. None is lost when only queries that succeed
  store one.
-/

namespace M65.Kit

open Interaction

variable {S : Type}

/-! ## The interface -/

/-- What the search has seen. -/
structure ScsiSearch where
  /-- The result of the last plug-in that was asked for. -/
  lastResult : IOReturn := kIOReturnUnsupported
  sawDirectAccess : Bool := false
  sawTaskPlugin : Bool := false

/-- Where the search for an interface ends. -/
inductive ScsiWalk where
  | found (interface : ℕ)
  | missing (search : ScsiSearch)
  /-- There are more ancestors. -/
  | unfinished (service : ℕ)

/-- The result of the plug-in of a service, and the answer to the query for its interface if the
query was made. -/
def openTaskInterface (service : ℕ) : Prog S KitReply (IOReturn × Option QueryReply) := do
  let created : StoredReply ← Prog.call
    (KitCall.ioCreatePlugInInterfaceForService service .kIoScsiTaskDeviceUserClientTypeId)
  match created.stored with
  | none => return (created.result, none)
  | some plugin =>
      if created.result = kIOReturnSuccess then
        let queried : QueryReply ← Prog.call (KitCall.queryInterface plugin)
        let _ ← Prog.call (KitCall.ioDestroyPlugInInterface plugin)
        return (created.result, some queried)
      else
        let _ ← Prog.call (KitCall.ioDestroyPlugInInterface plugin)
        return (created.result, none)

/-- A service that exposes the plug-in: the result and the answer, nothing without the plug-in. -/
def tryTaskPlugin (service : ℕ) : Prog S KitReply (Option (IOReturn × Option QueryReply)) := do
  if ← exposesScsiTaskPlugin service then
    return some (← openTaskInterface service)
  else
    return none

/-- The search after a service, given whether it is a direct-access device and what its plug-in
returned. -/
def ScsiSearch.after (search : ScsiSearch) (direct : Bool)
    (tried : Option (IOReturn × Option QueryReply)) : ScsiSearch where
  lastResult := (tried.map Prod.fst).getD search.lastResult
  sawDirectAccess := search.sawDirectAccess || direct
  sawTaskPlugin := search.sawTaskPlugin || tried.isSome

/-- `copy_task_interface`, with the value of its variable `device_interface`. -/
def copyTaskInterface : ℕ → Option ℕ → Option ℕ → ScsiSearch → Prog S KitReply ScsiWalk
  | _, none, _, search => return .missing search
  | 0, some current, _, _ => return .unfinished current
  | rounds + 1, some current, device, search => do
      let direct ← isDirectAccessScsiService current
      let tried ← tryTaskPlugin current
      let queried := tried.bind Prod.snd
      match queried.bind fun reply => reply.delivered device with
      | some interface =>
          let _ ← Prog.call (KitCall.ioObjectRelease current)
          return .found interface
      | none =>
          let reply : StoredReply ← Prog.call (KitCall.ioRegistryEntryGetParentEntry current)
          let _ ← Prog.call (KitCall.ioObjectRelease current)
          -- the next round starts from whatever this one left in the variable
          let device := queried.elim device fun reply => reply.pointer device
          copyTaskInterface rounds reply.found device (search.after direct tried)

/-! ## The transport -/

/-- The parts of a transport on the SCSI architecture. -/
structure ScsiTransport where
  device : ℕ
  transport : ℕ
  context : ℕ

/-- A failure: the status, and the detail where one is written. -/
structure ScsiFailure where
  status : TransportStatus
  detail : Option ErrorText

/-- How a creation ends. -/
inductive ScsiCreated where
  | created (transport : ScsiTransport)
  | failed (failure : ScsiFailure)
  | unfinished (service : ℕ)

/-- The failure of a search for the medium with the name. -/
def searchFailure (name : List UInt8) (search : ScsiSearch) : ScsiFailure where
  status := if Scsi.mapIoReturn search.lastResult = .ok then .io
    else Scsi.mapIoReturn search.lastResult
  detail := some <|
    if search.sawDirectAccess && !search.sawTaskPlugin then
      Text.format [
        str "macOS does not publish an SCSITaskDeviceInterface for direct-access ",
        str "device ", name, str " while its in-kernel block-storage driver is attached"]
    else
      Text.format [str "no documented SCSITaskDeviceInterface is available for ", name,
        str " (IOReturn 0x", hexDigits 8 search.lastResult.toNat, str ")"]

/-- The transport on a device interface. -/
def createOnDevice (device : ℕ) : Prog S KitReply (Except ScsiFailure ScsiTransport) := do
  let transport : Option ℕ ← Prog.call KitCall.calloc
  let context : Option ℕ ← Prog.call KitCall.calloc
  match transport, context with
  | some transport, some context => return .ok ⟨device, transport, context⟩
  | transport, context =>
      Prog.call (KitCall.free transport)
      Prog.call (KitCall.free context)
      let _ ← Prog.call (KitCall.release device)
      return .error ⟨.io, none⟩

/-- `m65_scsi_transport_create`. -/
def scsiTransportCreate (rounds : ℕ) (bsdName : CString) : Prog S KitReply ScsiCreated := do
  let name := normalizeBsdName bsdName.bytes
  if name = [] then
    return .failed ⟨.io, some (errorText "missing BSD device name")⟩
  let matching : Option ℕ ← Prog.call (KitCall.ioBsdNameMatching name)
  match matching with
  | none => return .failed ⟨.io, none⟩
  | some matching =>
      let media : Option ℕ ← Prog.call (KitCall.ioServiceGetMatchingService matching)
      match media with
      | none => return .failed ⟨.noDevice, some (Text.format [str "BSD device ", name,
          str " disappeared before SCSI transport setup"])⟩
      | some media =>
          match ← copyTaskInterface rounds (some media) none {} with
          | .unfinished service => return .unfinished service
          | .missing search => return .failed (searchFailure name search)
          | .found device =>
              match ← createOnDevice device with
              | .error failure => return .failed failure
              | .ok transport => return .created transport

/-- `mac_destroy` for a transport without exclusive access. -/
def scsiDestroy (transport : ScsiTransport) : Prog S KitReply Unit := do
  let _ ← Prog.call (KitCall.release transport.device)
  Prog.call (KitCall.free (some transport.context))
  Prog.call (KitCall.free (some transport.transport))

/-- A transport from its creation to its destruction. -/
def scsiLifetime (rounds : ℕ) (bsdName : CString) : Prog S KitReply ScsiCreated := do
  let created ← scsiTransportCreate rounds bsdName
  match created with
  | .created transport => scsiDestroy transport
  | _ => pure ()
  return created

/-! ## References -/

/-- What a transport holds: its interface and its two blocks of memory. -/
def ScsiTransport.held (t : ScsiTransport) : Multiset KitObject :=
  {.interface t.device} + ({.memory t.transport} + {.memory t.context})

/-- What a search holds at its end. -/
def ScsiWalk.held : ScsiWalk → Multiset KitObject
  | .found interface => {.interface interface}
  | .missing _ => 0
  | .unfinished service => {.io service}

/-- What a creation holds at its end. -/
def ScsiCreated.held : ScsiCreated → Multiset KitObject
  | .created transport => transport.held
  | .failed _ => 0
  | .unfinished service => {.io service}

/-- What is left of a transport that was destroyed. -/
def ScsiCreated.leftover : ScsiCreated → Multiset KitObject
  | .unfinished service => {.io service}
  | _ => 0

/-- The answer to a query for an interface. -/
def queryOf : KitEvent S → Option QueryReply
  | ⟨_, .queryInterface _, reply⟩ => some reply
  | _ => none

/-- The answers to the queries of a trace, in order. -/
def queries (t : List (KitEvent S)) : List QueryReply := t.filterMap queryOf

/-- What a query overwrites in a variable that holds `device`. -/
def overwritten (reply : QueryReply) (device : Option ℕ) : Multiset KitObject :=
  if reply.written.isSome then refTo .interface device else 0

/-- The interfaces that the queries of a search store and that it does not return, where
`device_interface` holds `device` before them: every one that a later query overwrites, and the
last one when no query delivers it. -/
def lostInterfaces : Option ℕ → List QueryReply → Multiset KitObject
  | device, [] => refTo .interface device
  | device, reply :: replies =>
      overwritten reply device +
        if (reply.delivered device).isSome then 0
        else lostInterfaces (reply.pointer device) replies

/-- Nothing is lost when a failed query stores nothing. -/
theorem lostInterfaces_eq_zero {replies : List QueryReply}
    (h : ∀ reply ∈ replies, reply.result ≠ 0 → reply.pointer none = none) :
    lostInterfaces none replies = 0 := by
  induction replies with
  | nil => simp [lostInterfaces]
  | cons reply replies ih =>
    have hrest := ih fun reply hreply => h reply (List.mem_cons_of_mem _ hreply)
    have hoverwritten : overwritten reply none = 0 := by simp [overwritten]
    rw [lostInterfaces, hoverwritten, zero_add]
    by_cases hresult : reply.result = 0
    · rw [QueryReply.delivered, if_pos hresult]
      cases hpointer : reply.pointer none with
      | none => exact hrest
      | some interface => rfl
    · rw [QueryReply.delivered, if_neg hresult, h reply List.mem_cons_self hresult]
      exact hrest

section References

variable {F : Multiset KitObject}

/-- Opening a plug-in gives it back, and obtains what the query stores. -/
theorem trades_openTaskInterface (service : ℕ) :
    Trades (S := S) kitLedger {.io service} (openTaskInterface service)
      fun out => refTo .interface (out.2.bind fun reply => reply.pointer none) + {.io service} := by
  refine .bind (.use rfl (by simp [kitLedger])) fun created => ?_
  show Trades _ (refTo .plugIn created.stored + {.io service}) _ _
  cases created.stored with
  | none => exact .pure rfl
  | some plugin =>
    refine .ite (fun _ => ?_) fun _ => ?_
    · refine .bind (.use rfl (by simp [kitLedger])) fun queried => ?_
      exact .bind ((trades_ioDestroyPlugInInterface plugin).congr (add_left_comm _ _ _)
        fun _ => rfl) fun _ => .pure rfl
    · exact .bind (trades_ioDestroyPlugInInterface plugin) fun _ => .pure (zero_add _).symm

/-- A service hands out what the query for its interface stores. -/
theorem trades_tryTaskPlugin (service : ℕ) :
    Trades (S := S) kitLedger {.io service} (tryTaskPlugin service) fun tried =>
      refTo .interface ((tried.bind Prod.snd).bind fun reply => reply.pointer none) +
        {.io service} := by
  refine .bind (trades_exposesPlugin _ _) fun exposed => .ite (fun _ => ?_) fun _ => ?_
  · exact .bind (trades_openTaskInterface service) fun out => .pure rfl
  · exact .pure (zero_add _).symm

/-- A creation on an interface keeps it, or gives it back. -/
theorem trades_createOnDevice (device : ℕ) :
    Trades (S := S) kitLedger {.interface device} (createOnDevice device)
      (madeRefs ScsiTransport.held) := by
  refine .bind trades_calloc fun transport => .bind trades_calloc fun context => ?_
  -- the blocks and the device are given back in the order of the source
  have hfree (failure : ScsiFailure) : Trades (S := S) kitLedger
      (refTo .memory context + (refTo .memory transport + {.interface device})) (do
        Prog.call (KitCall.free transport)
        Prog.call (KitCall.free context)
        let _ ← Prog.call (KitCall.release device)
        return .error failure) (madeRefs ScsiTransport.held) := by
    refine .bind ((trades_free transport).congr (add_left_comm _ _ _) fun _ => rfl) fun _ => ?_
    refine .bind (trades_free context) fun _ => ?_
    exact .bind ((trades_release device).congr (add_zero _).symm fun _ => rfl) fun _ => .pure rfl
  cases transport with
  | none => exact hfree _
  | some transport =>
    cases context with
    | none => exact hfree _
    | some context =>
      refine .pure ?_
      show ({.memory context} : Multiset KitObject) + ({.memory transport} + {.interface device}) =
        {.interface device} + ({.memory transport} + {.memory context})
      ac_rfl

/-- The destruction gives all parts of a transport back. -/
theorem trades_scsiDestroy (transport : ScsiTransport) :
    Trades (S := S) kitLedger transport.held (scsiDestroy transport) fun _ => 0 := by
  obtain ⟨device, transport, context⟩ := transport
  refine .bind ((trades_release device).congr rfl fun _ => rfl) fun _ => ?_
  refine .bind ((trades_free (some context)).congr (add_comm _ _) fun _ => rfl) fun _ => ?_
  exact (trades_free (some transport)).congr (add_zero _).symm fun _ => rfl

end References

/-! ## Queries -/

/-- The call is no query for an interface. -/
def NotQuery : KitCall → Prop
  | .queryInterface _ => False
  | _ => True

/-- The queries of two traces follow each other. -/
theorem queries_append (t t' : List (KitEvent S)) : queries (t ++ t') = queries t ++ queries t' :=
  List.filterMap_append

/-- A program without a query leaves what is lost alone. -/
theorem queries_eq_nil {α : Type} {p : Prog S KitReply α} (hp : Only NotQuery p) {s s' : S}
    {t : List (KitEvent S)} {a : α} (h : Exec p s t a s') : queries t = [] := by
  rw [queries, List.filterMap_eq_nil_iff]
  intro e he
  have hcall := hp h e he
  obtain ⟨s, call, reply⟩ := e
  cases call <;> first | rfl | exact hcall.elim

/-- A lookup makes no query. -/
theorem notQuery_of_lookup {α : Type} {p : Prog S KitReply α} (hp : Only IsLookup p) :
    Only NotQuery p :=
  hp.mono fun call hcall => by cases call <;> trivial

/-- The queries of a service are the one whose answer it returns, if there is one. -/
theorem queries_of_openTaskInterface {service : ℕ} {s s' : S} {t : List (KitEvent S)}
    {out : IOReturn × Option QueryReply} (h : Exec (openTaskInterface service) s t out s') :
    queries t = out.2.toList := by
  obtain ⟨⟨result, stored⟩, t₁, h₁, rfl⟩ := exec_call_bind.1 h
  cases stored with
  | none =>
    obtain ⟨rfl, rfl, -⟩ := exec_pure.1 h₁
    rfl
  | some plugin =>
    rcases exec_ite.1 h₁ with ⟨-, h₁⟩ | ⟨-, h₁⟩
    · obtain ⟨queried, t₂, h₂, rfl⟩ := exec_call_bind.1 h₁
      obtain ⟨destroyed, t₃, h₃, rfl⟩ := exec_call_bind.1 h₂
      obtain ⟨rfl, rfl, -⟩ := exec_pure.1 h₃
      rfl
    · obtain ⟨destroyed, t₂, h₂, rfl⟩ := exec_call_bind.1 h₁
      obtain ⟨rfl, rfl, -⟩ := exec_pure.1 h₂
      rfl

/-- A service is queried once at most. -/
theorem queries_of_tryTaskPlugin {service : ℕ} {s s' : S} {t : List (KitEvent S)}
    {tried : Option (IOReturn × Option QueryReply)}
    (h : Exec (tryTaskPlugin service) s t tried s') :
    queries t = (tried.bind Prod.snd).toList := by
  obtain ⟨t₁, exposed, s₁, t₂, hexposes, h₁, rfl⟩ := exec_bind.1 h
  have hlookup : Only (S := S) NotQuery (exposesScsiTaskPlugin service) :=
    notQuery_of_lookup (exposesPlugin_lookup _ _ _)
  rw [queries_append, queries_eq_nil hlookup hexposes, List.nil_append]
  rcases exec_ite.1 h₁ with ⟨-, h₁⟩ | ⟨-, h₁⟩
  · obtain ⟨t₃, out, s₂, t₄, hopen, h₂, rfl⟩ := exec_bind.1 h₁
    obtain ⟨rfl, rfl, -⟩ := exec_pure.1 h₂
    rw [List.append_nil, queries_of_openTaskInterface hopen]
    rfl
  · obtain ⟨rfl, rfl, -⟩ := exec_pure.1 h₁
    rfl

/-- What the query of one service loses. -/
def lostAt (queried : Option QueryReply) (device : Option ℕ) : Multiset KitObject :=
  queried.elim 0 fun reply => overwritten reply device

/-- What the variable held and what the query hands out is then in the variable, or lost. -/
theorem handedOut_add_device (queried : Option QueryReply) (device : Option ℕ) :
    refTo .interface (queried.bind fun reply => reply.pointer none) + refTo .interface device =
      refTo .interface (queried.elim device fun reply => reply.pointer device) +
        lostAt queried device := by
  cases queried with
  | none => exact add_comm _ _
  | some reply =>
    obtain ⟨result, written⟩ := reply
    cases written with
    | none => exact add_comm _ _
    | some stored => rfl

/-- The interfaces that are lost at a service, and then those that are lost after it. -/
theorem lostInterfaces_append (queried : Option QueryReply) (device : Option ℕ)
    (replies : List QueryReply) :
    lostInterfaces device (queried.toList ++ replies) = lostAt queried device +
      if (queried.bind fun reply => reply.delivered device).isSome then 0
      else lostInterfaces (queried.elim device fun reply => reply.pointer device) replies := by
  cases queried with
  | none => exact (zero_add _).symm
  | some reply => rfl

/-- The variable holds what a query has just delivered. -/
theorem pointer_of_delivered {queried : Option QueryReply} {device : Option ℕ} {interface : ℕ}
    (h : (queried.bind fun reply => reply.delivered device) = some interface) :
    (queried.elim device fun reply => reply.pointer device) = some interface := by
  obtain ⟨reply, rfl, hdelivered⟩ := Option.bind_eq_some_iff.1 h
  rw [QueryReply.delivered] at hdelivered
  split at hdelivered
  · exact hdelivered
  · cases hdelivered

/-- A step to the parent. -/
theorem run_stepToParent {current : ℕ} {reply : StoredReply} {result : KernReturn} {s : S}
    {t : List (KitEvent S)} {F : Multiset KitObject} :
    kitLedger.monitor.run ({.io current} + F) (⟨s, .ioRegistryEntryGetParentEntry current, reply⟩ ::
      ⟨s, .ioObjectRelease current, result⟩ :: t) =
        kitLedger.monitor.run (refTo .io reply.found + F) t := by
  have hparent : Trades (S := S) kitLedger {.io current}
      (Prog.call (KitCall.ioRegistryEntryGetParentEntry current))
      fun reply => refTo .io reply.found + {.io current} := .use rfl (by simp [kitLedger])
  rw [hparent.run_cons, add_comm (refTo _ _), add_assoc, ← add_zero {KitObject.io current},
    (trades_ioObjectRelease (F := 0) current).run_cons, zero_add]

/-- The search moves every interface that is handed out to its variable, from there to its result
or among the lost ones. -/
theorem run_copyTaskInterface {rounds : ℕ} {current device : Option ℕ} {search : ScsiSearch}
    {s s' : S} {t : List (KitEvent S)} {walk : ScsiWalk}
    (h : Exec (copyTaskInterface rounds current device search) s t walk s')
    (F : Multiset KitObject) :
    kitLedger.monitor.run (refTo .io current + (refTo .interface device + F)) t =
      some (walk.held + (lostInterfaces device (queries t) + F)) := by
  induction rounds generalizing current device search s t F with
  | zero =>
    cases current with
    | none | some =>
      obtain ⟨rfl, rfl, -⟩ := exec_pure.1 h
      rfl
  | succ rounds ih =>
    cases current with
    | none =>
      obtain ⟨rfl, rfl, -⟩ := exec_pure.1 h
      rfl
    | some current =>
      obtain ⟨t₁, direct, s₁, t₂, hdirect, h₁, rfl⟩ := exec_bind.1 h
      obtain ⟨t₃, tried, s₂, t₄, htried, h₂, rfl⟩ := exec_bind.1 h₁
      have hrun₁ := trades_isDirectAccessScsiService.run_frame hdirect
        (refTo .interface device + F)
      have hrun₂ := (trades_tryTaskPlugin current).run_frame htried (refTo .interface device + F)
      have hlookup : Only (S := S) NotQuery (isDirectAccessScsiService current) :=
        notQuery_of_lookup (isDirectAccessScsiService_lookup current)
      rw [queries_append, queries_append, queries_eq_nil hlookup hdirect, List.nil_append,
        queries_of_tryTaskPlugin htried, lostInterfaces_append]
      generalize hqueried : tried.bind Prod.snd = queried at hrun₂ h₂ ⊢
      -- the pointer that was handed out is in the variable now
      have hmoved : refTo .interface (queried.bind fun reply => reply.pointer none) +
            {.io current} + (refTo .interface device + F) =
          {.io current} + (refTo .interface (queried.elim device fun reply =>
            reply.pointer device) + (lostAt queried device + F)) := by
        rw [add_assoc, add_left_comm, ← add_assoc (refTo _ _) (refTo _ _) F,
          handedOut_add_device, add_assoc]
      rw [hmoved] at hrun₂
      refine Monitor.run_append_of_some hrun₁ (Monitor.run_append_of_some hrun₂ ?_)
      cases hdelivered : queried.bind fun reply => reply.delivered device with
      | some interface =>
        simp only [hdelivered] at h₂
        obtain ⟨result, t₅, h₃, rfl⟩ := exec_call_bind.1 h₂
        obtain ⟨rfl, rfl, -⟩ := exec_pure.1 h₃
        have hrelease := (trades_ioObjectRelease (F := 0) current).run_cons (s := s₂) (r := result)
          (t := []) (refTo .interface (some interface) + (lostAt queried device + F))
        rw [pointer_of_delivered hdelivered]
        simpa [ScsiWalk.held] using hrelease
      | none =>
        simp only [hdelivered] at h₂
        obtain ⟨reply, t₅, h₃, rfl⟩ := exec_call_bind.1 h₂
        obtain ⟨result, t₆, h₄, rfl⟩ := exec_call_bind.1 h₃
        -- the rest of the walk starts at the parent, with what is in the variable
        have hrest := ih h₄ (lostAt queried device + F)
        refine run_stepToParent.trans (hrest.trans ?_)
        have hsteps : queries (⟨s₂, .ioRegistryEntryGetParentEntry current, reply⟩ ::
            ⟨s₂, .ioObjectRelease current, result⟩ :: t₆) = queries t₆ := rfl
        rw [hsteps, if_neg (by simp)]
        congr 2
        ac_rfl

/-- The creation on an interface makes no query. -/
theorem createOnDevice_notQuery (device : ℕ) :
    Only (S := S) NotQuery (createOnDevice device) := by
  refine .bind (.call trivial) fun transport => .bind (.call trivial) fun context => ?_
  have hfree (failure : ScsiFailure) : Only NotQuery (do
      Prog.call (KitCall.free transport)
      Prog.call (KitCall.free context)
      let _ ← Prog.call (KitCall.release device)
      return .error failure : Prog S KitReply (Except ScsiFailure ScsiTransport)) :=
    .bind (.call trivial) fun _ => .bind (.call trivial) fun _ =>
      .bind (.call trivial) fun _ => .pure _
  cases transport with
  | none => exact hfree _
  | some transport =>
    cases context with
    | none => exact hfree _
    | some context => exact .pure _

/-- The destruction makes no query. -/
theorem scsiDestroy_notQuery (transport : ScsiTransport) :
    Only (S := S) NotQuery (scsiDestroy transport) :=
  .bind (.call trivial) fun _ => .bind (.call trivial) fun _ => .call trivial

/-- Without a query nothing is lost. -/
theorem lostInterfaces_nil : lostInterfaces none [] = 0 := by simp [lostInterfaces]

/-- What follows the search for the interface of a service. -/
theorem run_search {rounds : ℕ} {bsdName : List UInt8} {media : ℕ} {s s' : S}
    {t : List (KitEvent S)} {created : ScsiCreated}
    (h : Exec (do
      match ← copyTaskInterface rounds (some media) none {} with
      | .unfinished service => return .unfinished service
      | .missing search => return .failed (searchFailure bsdName search)
      | .found device =>
          match ← createOnDevice device with
          | .error failure => return .failed failure
          | .ok transport => return .created transport) s t created s') :
    kitLedger.monitor.run {.io media} t =
      some (created.held + lostInterfaces none (queries t)) := by
  obtain ⟨t₁, walk, s₁, t₂, hwalk, h₁, rfl⟩ := exec_bind.1 h
  have hrun := run_copyTaskInterface hwalk 0
  rw [refTo_some, refTo_none, add_zero, add_zero, add_zero] at hrun
  cases walk with
  | missing | unfinished =>
    obtain ⟨rfl, rfl, -⟩ := exec_pure.1 h₁
    rw [List.append_nil]
    exact hrun
  | found device =>
    obtain ⟨t₃, made, s₂, t₄, hmade, h₂, rfl⟩ := exec_bind.1 h₁
    have hrun₂ := (trades_createOnDevice device).run_frame hmade (lostInterfaces none (queries t₁))
    -- the creation on a device makes no query, and after it there is no call
    have hmade' := queries_eq_nil (createOnDevice_notQuery device) hmade
    cases made with
    | error failure | ok transport =>
      obtain ⟨rfl, rfl, -⟩ := exec_pure.1 h₂
      rw [List.append_nil, queries_append, hmade', List.append_nil]
      exact Monitor.run_append_of_some hrun hrun₂

/-- The creation moves every object that is handed out to the parts of the transport, back, or
among the lost interfaces. -/
theorem run_scsiTransportCreate {rounds : ℕ} {bsdName : CString} {s s' : S}
    {t : List (KitEvent S)} {created : ScsiCreated}
    (h : Exec (scsiTransportCreate rounds bsdName) s t created s') :
    kitLedger.monitor.run 0 t = some (created.held + lostInterfaces none (queries t)) := by
  rcases exec_ite.1 h with ⟨-, h₁⟩ | ⟨-, h₁⟩
  · obtain ⟨rfl, rfl, -⟩ := exec_pure.1 h₁
    rw [queries, List.filterMap_nil, lostInterfaces_nil]
    rfl
  obtain ⟨matching, t₁, h₂, rfl⟩ := exec_call_bind.1 h₁
  -- the matching dictionary is consumed by the search for the medium
  have htrades : Trades (S := S) kitLedger 0
      (Prog.call (KitCall.ioBsdNameMatching (normalizeBsdName bsdName.bytes)))
      fun matching => refTo .cf matching + 0 := trades_ioBsdNameMatching
  have hmatching := htrades.run_cons (s := s) (r := matching) (t := t₁) 0
  simp only [add_zero] at hmatching
  rw [hmatching]
  cases matching with
  | none =>
    obtain ⟨rfl, rfl, -⟩ := exec_pure.1 h₂
    exact congrArg some (by rw [queries]; exact lostInterfaces_nil.symm)
  | some matching =>
    obtain ⟨media, t₂, h₃, rfl⟩ := exec_call_bind.1 h₂
    have hmedia := (trades_ioServiceGetMatchingService (F := 0) matching).run_cons (s := s)
      (r := media) (t := t₂) 0
    simp only [add_zero] at hmedia
    rw [refTo_some, hmedia]
    cases media with
    | none =>
      obtain ⟨rfl, rfl, -⟩ := exec_pure.1 h₃
      exact congrArg some (by rw [queries]; exact lostInterfaces_nil.symm)
    -- only the search along the ancestors can leave an interface behind
    | some media => exact run_search h₃

/-- Creation and destruction leave what was lost, and what an unfinished creation holds. -/
theorem run_scsiLifetime {rounds : ℕ} {bsdName : CString} {s s' : S} {t : List (KitEvent S)}
    {created : ScsiCreated} (h : Exec (scsiLifetime rounds bsdName) s t created s') :
    kitLedger.monitor.run 0 t = some (created.leftover + lostInterfaces none (queries t)) := by
  obtain ⟨t₁, created', s₁, t₂, hcreate, h₁, rfl⟩ := exec_bind.1 h
  have hrun := run_scsiTransportCreate hcreate
  cases created' with
  | created transport =>
    obtain ⟨t₃, _, s₂, t₄, hdestroy, h₂, rfl⟩ := exec_bind.1 h₁
    obtain ⟨rfl, rfl, -⟩ := exec_pure.1 h₂
    have hdestroyed := (trades_scsiDestroy transport).run_frame hdestroy
      (lostInterfaces none (queries t₁))
    rw [List.append_nil, queries_append, queries_eq_nil (scsiDestroy_notQuery transport) hdestroy,
      List.append_nil]
    exact Monitor.run_append_of_some hrun hdestroyed
  | failed | unfinished =>
    obtain ⟨rfl, rfl, -⟩ := exec_pure.1 h₁
    rw [List.append_nil]
    exact hrun

/-! ## Rounds -/

/-- A search that did not end has gone up to a parent in each of its rounds. -/
theorem rounds_le_of_copyTaskInterface {rounds : ℕ} {current device : Option ℕ}
    {search : ScsiSearch} {s s' : S} {t : List (KitEvent S)} {service : ℕ}
    (h : Exec (copyTaskInterface rounds current device search) s t (.unfinished service) s') :
    rounds ≤ parentSteps t := by
  induction rounds generalizing current device search t s with
  | zero => exact Nat.zero_le _
  | succ rounds ih =>
    cases current with
    | none =>
      obtain ⟨-, hwalk, -⟩ := exec_pure.1 h
      cases hwalk
    | some current =>
      obtain ⟨t₁, direct, s₁, t₂, -, h₁, rfl⟩ := exec_bind.1 h
      obtain ⟨t₃, tried, s₂, t₄, -, h₂, rfl⟩ := exec_bind.1 h₁
      cases hfound : (tried.bind Prod.snd).bind fun reply => reply.delivered device with
      | some interface =>
        simp only [hfound] at h₂
        obtain ⟨_, t₅, h₃, rfl⟩ := exec_call_bind.1 h₂
        obtain ⟨-, hwalk, -⟩ := exec_pure.1 h₃
        cases hwalk
      | none =>
        simp only [hfound] at h₂
        obtain ⟨reply, t₅, h₃, rfl⟩ := exec_call_bind.1 h₂
        obtain ⟨_, t₆, h₄, rfl⟩ := exec_call_bind.1 h₃
        -- each round that goes on takes one parent
        have hrest := ih h₄
        simp only [parentSteps, List.countP_append, List.countP_cons] at hrest ⊢
        simp only [if_true]
        omega

/-- A creation that did not end has gone up to a parent in each of its rounds. -/
theorem rounds_le_of_scsiCreation {rounds : ℕ} {bsdName : CString} {s s' : S}
    {t : List (KitEvent S)} {service : ℕ}
    (h : Exec (scsiTransportCreate rounds bsdName) s t (.unfinished service) s') :
    rounds ≤ parentSteps t := by
  rcases exec_ite.1 h with ⟨-, h₁⟩ | ⟨-, h₁⟩
  · obtain ⟨-, hcreated, -⟩ := exec_pure.1 h₁
    cases hcreated
  obtain ⟨matching, t₁, h₂, rfl⟩ := exec_call_bind.1 h₁
  cases matching with
  | none =>
    obtain ⟨-, hcreated, -⟩ := exec_pure.1 h₂
    cases hcreated
  | some matching =>
    obtain ⟨media, t₂, h₃, rfl⟩ := exec_call_bind.1 h₂
    cases media with
    | none =>
      obtain ⟨-, hcreated, -⟩ := exec_pure.1 h₃
      cases hcreated
    | some media =>
      obtain ⟨t₃, walk, s₁, t₄, hwalk, h₄, rfl⟩ := exec_bind.1 h₃
      cases walk with
      | missing =>
        obtain ⟨-, hcreated, -⟩ := exec_pure.1 h₄
        cases hcreated
      | unfinished service' =>
        -- only the walk to the interface has a loop
        have hwalked := rounds_le_of_copyTaskInterface hwalk
        simp only [parentSteps, List.countP_cons, List.countP_append] at hwalked ⊢
        omega
      | found device =>
        obtain ⟨t₅, made, s₂, t₆, -, h₅, rfl⟩ := exec_bind.1 h₄
        cases made <;>
          · obtain ⟨-, hcreated, -⟩ := exec_pure.1 h₅
            cases hcreated

/-- The creation keeps the parts of the transport that it returns, which the destruction gives
back, and the interfaces that were stored and are not returned, which nothing gives back. There are
none of these when a failed query stores nothing. Only a registry with more than `rounds` ancestors
stops it in between. -/
theorem scsiCreation_balanced (rounds : ℕ) (bsdName : CString) (s : S) :
    (∀ r : Run (scsiTransportCreate rounds bsdName) s,
      kitLedger.monitor.run 0 r.trace =
        some (r.result.held + lostInterfaces none (queries r.trace)) ∧
      ∀ service, r.result = .unfinished service → rounds ≤ parentSteps r.trace) ∧
    (∀ r : Run (scsiLifetime rounds bsdName) s,
      kitLedger.monitor.run 0 r.trace =
        some (r.result.leftover + lostInterfaces none (queries r.trace))) ∧
    ∀ t : List (KitEvent S), (∀ reply ∈ queries t, reply.result ≠ 0 → reply.pointer none = none) →
      lostInterfaces none (queries t) = 0 := by
  refine ⟨fun r => ⟨run_scsiTransportCreate r.exec, ?_⟩, fun r => run_scsiLifetime r.exec,
    fun t => lostInterfaces_eq_zero⟩
  obtain ⟨trace, result, s', hexec⟩ := r
  rintro service rfl
  exact rounds_le_of_scsiCreation hexec

end M65.Kit
