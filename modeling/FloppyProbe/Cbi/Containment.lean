import FloppyProbe.Cbi.Trace
import FloppyProbe.Ufi.Allowlist

/-!
# Wire containment

Whatever clients ask for, only three kinds of command blocks reach the adapter: the reset block,
the engine's own REQUEST SENSE, and commands that the allowlist accepted. Data go out only for a
MODE SELECT of one Flexible Disk page, right after its command block, and a command that is
refused does not reach the adapter at all.
-/

namespace M65

open Interaction

variable {c c' : CbiContext} {t : List EngineEvent} {n : ℕ}

/-! ## The statement -/

/-- The block holds the command, with zeros after its last byte. -/
structure CarriesCommand (command : Command) (block : Vector UInt8 cbiCdbLength) : Prop where
  valid : command.Valid
  byte_eq : ∀ i : Fin cbiCdbLength,
    block[i] = if (i : ℕ) < command.cdbLength then command.cdbByte i else 0

/-- The blocks that may be passed to `adsc` during a call of the transport: the reset block, a
REQUEST SENSE of 18 bytes, and the command of the call. -/
inductive PermittedBlock : TransportCall → Vector UInt8 cbiCdbLength → Prop
  | reset (call : TransportCall) :
      PermittedBlock call #v[0x1d, 0x04, 0xff, 0xff, 0xff, 0xff, 0xff, 0xff, 0xff, 0xff, 0xff, 0xff]
  | sense (call : TransportCall) : PermittedBlock call #v[0x03, 0, 0, 0, 18, 0, 0, 0, 0, 0, 0, 0]
  | command {command : Command} {block : Vector UInt8 cbiCdbLength}
      (hcarries : CarriesCommand command block) : PermittedBlock (.execute command) block

/-- The event passes the block of a MODE SELECT (10), with PF and without SP, to `adsc`. -/
def IsSelectBlock : EngineEvent → Prop
  | ⟨_, .adsc block _ _, _⟩ =>
      block[0] = 0x55 ∧ block[1] &&& 0x10 ≠ 0 ∧ block[1] &&& 0x01 = 0
  | _ => False

/-- The parameter list of a MODE SELECT: an empty header and one Flexible Disk page. -/
structure IsParameterList (data : List UInt8) : Prop where
  length_eq : data.length = 40
  header_eq : ∀ i < 8, byteAt data i = 0
  page_eq : byteAt data 8 = 0x05 ∧ byteAt data 9 = 0x1e

/-- The data that an event sends out. -/
def sentData : EngineEvent → Option (List UInt8)
  | ⟨_, .bulkOut buffer _ _, _⟩ => some buffer.toList
  | _ => none

/-- Every bulk-out transfer of the trace is a parameter list that directly follows its command
block. -/
def SendsPagesOnly (t : List EngineEvent) : Prop :=
  ∀ u e v data, t = u ++ e :: v → sentData e = some data →
    IsParameterList data ∧ ∃ u' block, u = u' ++ [block] ∧ IsSelectBlock block

/-- The engine refuses the call before it looks at anything but the flag `opened`. -/
def IsRejected (c : CbiContext) : TransportCall → Prop
  | .execute command => c.opened = false ∨ ¬ command.Valid
  | _ => False

/-- A call of the transport whose traffic is contained. -/
structure Contained (call : Handled cbiTransport) : Prop where
  blocks : ∀ e ∈ call.trace, ∀ block timeoutMs detail, e.call = .adsc block timeoutMs detail →
    PermittedBlock call.call block
  pages : SendsPagesOnly call.trace
  rejected : IsRejected call.before call.call → call.trace = [] ∧ call.after = call.before

/-! ## Commands -/

/-- A command that the engine takes up is validated, on an open interface, and sends data only with
MODE SELECT. -/
theorem refuseCommand_eq_none {command : Command} (h : refuseCommand c command = none) :
    c.opened = true ∧ command.Valid ∧
      (command.direction = .dataOut → command.cdbByte 0 = opcodeModeSelect10) := by
  unfold refuseCommand at h
  split at h
  · cases h
  next hopened =>
  split at h
  · split at h <;> cases h
  next hvalid =>
  split at h
  · cases h
  next hlength =>
  split at h
  · cases h
  next hout =>
  refine ⟨by simpa using hopened, hvalid, fun hdirection => ?_⟩
  by_contra hopcode
  exact hout ⟨hdirection, hopcode⟩

/-- The padded block has the bytes of the command and then zeros. -/
theorem getElem_padCdb (cdb : Vector UInt8 16) (length : ℕ) (i : Fin cbiCdbLength) :
    (padCdb (cdb, length))[i] = if (i : ℕ) < length then cdb[(i : ℕ)]?.getD 0 else 0 := by
  simp [padCdb, copyBytes]

/-- The padded block carries the command. -/
theorem carriesCommand_padded {command : Command} (h : command.Valid) :
    CarriesCommand command command.padded :=
  ⟨h, fun i => getElem_padCdb command.cdb command.cdbLength i⟩

/-- The block of the engine's own REQUEST SENSE. -/
theorem senseCdb_eq : senseCdb = #v[0x03, 0, 0, 0, 18, 0, 0, 0, 0, 0, 0, 0] := by decide

/-- The block of a MODE SELECT that was accepted. -/
theorem isSelectBlock_of_selectsPage {command : Command} (h : command.SelectsPage)
    (hopcode : command.cdbByte 0 = opcodeModeSelect10) (timeoutMs : ℕ) (detail : ErrorText)
    (accepted : CbiReply) : IsSelectBlock ⟨c, .adsc command.padded timeoutMs detail, accepted⟩ := by
  have h0 : command.padded[(0 : Fin cbiCdbLength)] = 0x55 := by
    rw [getElem_padCdb, h.cdbLength_eq]
    exact hopcode
  have h1 : command.padded[(1 : Fin cbiCdbLength)] = 0x10 := by
    rw [getElem_padCdb, h.cdbLength_eq]
    exact h.flags_eq
  refine ⟨h0, ?_, ?_⟩
  · show command.padded[(1 : Fin cbiCdbLength)] &&& 0x10 ≠ 0
    rw [h1]
    decide
  · show command.padded[(1 : Fin cbiCdbLength)] &&& 0x01 = 0
    rw [h1]
    decide

/-- The data of a MODE SELECT that was let through are a parameter list. -/
theorem isParameterList_of_selectsPage {command : Command} (h : command.SelectsPage) :
    IsParameterList command.buffer.toList := by
  have hbytes : command.bytes = command.buffer.toList := by
    obtain ⟨data, hdata⟩ := Option.isSome_iff_exists.1 h.data_isSome
    simp [Command.bytes, Command.buffer, hdata]
  rw [← hbytes]
  refine ⟨?_, h.header_eq, h.code_eq, h.length_eq⟩
  rw [hbytes, Vector.length_toList, h.dataLength_eq]

/-! ## Traces -/

/-- An element of an appended list is in the first or in the second part. -/
theorem SendsPagesOnly.append {t t' : List EngineEvent} (h : SendsPagesOnly t)
    (h' : SendsPagesOnly t') : SendsPagesOnly (t ++ t') := by
  intro u e v data heq hdata
  rcases List.append_eq_append_iff.1 heq with ⟨w, rfl, hw⟩ | ⟨w, rfl, hw⟩
  · obtain ⟨hlist, u', block, rfl, hblock⟩ := h' w e v data hw hdata
    exact ⟨hlist, t ++ u', block, by rw [List.append_assoc], hblock⟩
  · cases w with
    | nil =>
        obtain ⟨hlist, u', block, hnil, -⟩ := h' [] e v data hw.symm hdata
        simp at hnil
    | cons e' w =>
        obtain ⟨rfl, -⟩ := List.cons.inj hw
        exact h u _ w data rfl hdata

/-- A trace that sends no data. -/
theorem sendsPagesOnly_of_none (h : ∀ e ∈ t, sentData e = none) : SendsPagesOnly t := by
  intro u e v data heq hdata
  rw [h e (by simp [heq])] at hdata
  cases hdata

/-- Only a bulk-out transfer sends data. -/
theorem sentData_eq_none {e : EngineEvent} (h : e.call.op ≠ .bulkOut) : sentData e = none := by
  obtain ⟨s, call, reply⟩ := e
  cases call <;> first | rfl | exact absurd rfl h

/-- What `adsc` may be passed, and that the only data sent are pages. -/
structure TraceContained (call : TransportCall) (t : List EngineEvent) : Prop where
  blocks : ∀ e ∈ t, ∀ block timeoutMs detail, e.call = .adsc block timeoutMs detail →
    PermittedBlock call block
  pages : SendsPagesOnly t

/-- Two contained traces make a contained one. -/
theorem TraceContained.append {call : TransportCall} {t t' : List EngineEvent}
    (h : TraceContained call t) (h' : TraceContained call t') :
    TraceContained call (t ++ t') := by
  refine ⟨fun e he => ?_, h.pages.append h'.pages⟩
  rcases List.mem_append.1 he with he | he
  · exact h.blocks e he
  · exact h'.blocks e he

/-- Events that are neither command blocks nor bulk transfers. -/
theorem traceContained_of_op {call : TransportCall}
    (h : ∀ e ∈ t, e.call.op ≠ .adsc ∧ e.call.op ≠ .bulkOut) : TraceContained call t := by
  refine ⟨fun e he block timeoutMs detail hcall => ?_,
    sendsPagesOnly_of_none fun e he => sentData_eq_none (h e he).2⟩
  have hop := (h e he).1
  rw [hcall] at hop
  exact absurd rfl hop

/-- An exchange is contained when its block is permitted, and its data are those of a
MODE SELECT. -/
theorem Exchanged.contained {call : TransportCall} {cdb : Vector UInt8 cbiCdbLength}
    {direction : DataDirection} {buffer : Vector UInt8 n} {out : ExchangeReply n}
    (h : Exchanged cdb direction buffer c t out c') (hblock : PermittedBlock call cdb)
    (hselect : direction = .dataOut → IsParameterList buffer.toList ∧
      ∀ timeoutMs detail accepted, IsSelectBlock ⟨c, .adsc cdb timeoutMs detail, accepted⟩) :
    TraceContained call t := by
  obtain ⟨timeoutMs, detail, accepted, moved, tail, rfl, hmoved, htail⟩ := h.shape
  -- after the data phase there is neither a block nor a transfer out
  have htail : TraceContained call tail := by
    refine traceContained_of_op fun e he => ?_
    rcases htail e he with hop | hop <;> simp [hop]
  rw [← List.cons_append]
  refine TraceContained.append ?_ htail
  have hadsc : ∀ e ∈ [(⟨c, .adsc cdb timeoutMs detail, accepted⟩ : EngineEvent)],
      ∀ block timeoutMs detail, e.call = .adsc block timeoutMs detail →
        PermittedBlock call block := by
    intro e he block timeoutMs' detail' hcall
    rw [List.mem_singleton.1 he] at hcall
    cases hcall
    exact hblock
  have hnodata : TraceContained call [⟨c, .adsc cdb timeoutMs detail, accepted⟩] :=
    ⟨hadsc, sendsPagesOnly_of_none (by simp [sentData])⟩
  rcases hmoved with rfl | ⟨data, hmoved⟩
  · exact hnodata
  cases hmoved with
  | none => exact hnodata
  | dataIn => exact hnodata.append (traceContained_of_op (by simp [CbiIoCall.op]))
  | dataOut hdirection =>
      obtain ⟨hlist, hselect⟩ := hselect hdirection
      refine ⟨?_, ?_⟩
      · intro e he block timeoutMs' detail' hcall
        rcases List.mem_cons.1 he with rfl | he
        · exact hadsc _ (List.mem_singleton_self _) _ _ _ hcall
        · rw [List.mem_singleton.1 he] at hcall
          cases hcall
      · intro u e v sent heq hdata
        -- the first event sends nothing, so the transfer is the second one
        rcases u with _ | ⟨e₀, _ | ⟨e₁, u⟩⟩
        · obtain ⟨rfl, -⟩ := List.cons.inj heq
          cases hdata
        · simp only [List.cons_append, List.nil_append, List.cons.injEq] at heq
          obtain ⟨rfl, rfl, -⟩ := heq
          obtain rfl : buffer.toList = sent := by simpa [sentData] using hdata
          exact ⟨hlist, [], _, rfl, hselect _ _ _⟩
        · simp at heq

/-- A recovery sends nothing but the reset block. -/
theorem Recovered.contained {call : TransportCall} {out : CbiReply} (h : Recovered c t out c') :
    TraceContained call t := by
  have hreset {t : List EngineEvent} {reset : ExchangeReply 0}
      (hexchanged : Exchanged resetCdb .none #v[] c t reset c) : TraceContained call t :=
    hexchanged.contained (.reset call) nofun
  have hprepare {detail : ErrorText} {prepared : CbiReply} :
      TraceContained call [⟨c, .prepareCommandBlockReset detail, prepared⟩] :=
    traceContained_of_op (by simp [CbiIoCall.op])
  cases h with
  | idle => exact traceContained_of_op (by simp)
  | unprepared => exact hprepare
  | unreset _ _ hexchanged | unfinished _ _ hexchanged | reset _ _ hexchanged =>
      exact hprepare.append ((hreset hexchanged).append (traceContained_of_op (by
        simp [CbiIoCall.op])))

/-- The engine's REQUEST SENSE sends nothing but its own block. -/
theorem Fetched.contained {call : TransportCall} {out : SenseReply} (h : Fetched c t out c') :
    TraceContained call t := by
  have hsense : PermittedBlock call senseCdb := senseCdb_eq ▸ .sense call
  cases h with
  | failed hexchanged | rejected hexchanged | fetched hexchanged =>
      exact hexchanged.contained hsense nofun

/-- The execution of a command sends its block and its data, and nothing else of its own. -/
theorem Executed.contained {command : Command} {out : ExecuteReply command.dataLength}
    (h : Executed command c t out c') : TraceContained (.execute command) t := by
  -- the exchange of the command itself, whose block `refuse_command` let through
  have hexchange {c₁ c₂ : CbiContext} {t : List EngineEvent} {direction : DataDirection}
      {reply : ExchangeReply command.dataLength} (haccepted : refuseCommand c command = none)
      (hdirection : direction = .dataOut → command.direction = .dataOut)
      (hexchanged : Exchanged command.padded direction command.buffer c₁ t reply c₂) :
      TraceContained (.execute command) t := by
    obtain ⟨-, hvalid, hopcode⟩ := refuseCommand_eq_none haccepted
    refine hexchanged.contained (.command (carriesCommand_padded hvalid)) fun hout => ?_
    have hopcode := hopcode (hdirection hout)
    have hpage := hvalid.selectsPage hopcode
    exact ⟨isParameterList_of_selectsPage hpage, isSelectBlock_of_selectsPage hpage hopcode⟩
  cases h with
  | refused => exact traceContained_of_op (by simp)
  | unrecovered _ hrecovered => exact hrecovered.contained
  | sense haccepted hrecovered _ _ hexecuted =>
      apply hrecovered.contained.append
      cases hexecuted with
      | failed hexchanged | rejected hexchanged | answered hexchanged =>
          exact hexchange haccepted (by nofun) hexchanged
  -- the REQUEST SENSE that follows is contained on its own
  | command haccepted hrecovered _ _ hexecuted =>
      apply hrecovered.contained.append
      cases hexecuted with
      | failed hexchanged => exact hexchange haccepted id hexchanged
      | unsensed hexchanged _ hfetched | rejected hexchanged _ hfetched
      | answered hexchanged _ hfetched =>
          exact (hexchange haccepted id hexchanged).append hfetched.contained

/-! ## Sessions -/

/-- A command that is refused leaves no trace. -/
theorem Executed.of_rejected {command : Command} {out : ExecuteReply command.dataLength}
    (h : Executed command c t out c') (hrejected : c.opened = false ∨ ¬ command.Valid) :
    t = [] ∧ c' = c := by
  have hrefused : refuseCommand c command ≠ none := by
    intro haccepted
    obtain ⟨hopened, hvalid, -⟩ := refuseCommand_eq_none haccepted
    rcases hrejected with hclosed | hinvalid
    · simp [hclosed] at hopened
    · exact hinvalid hvalid
  cases h with
  | refused => exact ⟨rfl, rfl⟩
  | unrecovered haccepted => exact absurd haccepted hrefused
  | sense haccepted => exact absurd haccepted hrefused
  | command haccepted => exact absurd haccepted hrefused

/-- In every session, the traffic of every call is contained. -/
theorem cbiTransport_contained {c : CbiContext} (r : Session cbiTransport c) :
    ∀ call ∈ r.calls, Contained call := by
  rintro ⟨call, reply, before, trace, after, hexec⟩ -
  cases call with
  | acquireExclusive detail =>
      have hcontained : TraceContained (.acquireExclusive detail) trace := by
        cases acquired_of_exec hexec <;> exact traceContained_of_op (by simp [CbiIoCall.op])
      exact ⟨hcontained.blocks, hcontained.pages, False.elim⟩
  | execute command =>
      have hexecuted := executed_of_exec hexec
      exact ⟨hexecuted.contained.blocks, hexecuted.contained.pages, hexecuted.of_rejected⟩
  | releaseExclusive detail =>
      have hcontained : TraceContained (.releaseExclusive detail) trace := by
        cases closed_of_exec hexec <;> exact traceContained_of_op (by simp [CbiIoCall.op])
      exact ⟨hcontained.blocks, hcontained.pages, False.elim⟩

/-- An adapter on which every operation succeeds. -/
def obligingAdapter (_ : ℕ) : (call : CbiIoCall) → CbiIoReply call
  | .openSeize detail => ⟨.ok, detail⟩
  | .close detail => ⟨.ok, detail⟩
  | .adsc _ _ detail => ⟨.ok, detail⟩
  | .bulkIn (n := n) buffer _ detail => ⟨⟨.ok, detail⟩, buffer, n⟩
  | .bulkOut (n := n) _ _ detail => ⟨⟨.ok, detail⟩, n⟩
  | .interruptInWithDeadline completion _ detail => ⟨⟨.ok, detail⟩, completion, cbiStatusLength⟩
  | .clearStall _ detail => ⟨.ok, detail⟩
  | .prepareCommandBlockReset detail => ⟨.ok, detail⟩
  | .finishCommandBlockReset _ detail => ⟨.ok, detail⟩

/-- The interface is opened, and a READ CAPACITY (10) is executed. -/
def openedSession : Session cbiTransport {} :=
  .replay [(TransportCall.acquireExclusive Text.empty, obligingAdapter),
    (TransportCall.execute
      { cdb := cdbReadCapacity10.1, cdbLength := cdbReadCapacity10.2, direction := .dataIn,
        dataLength := 8, data := some (Vector.replicate 8 0), timeoutMs := 15000 },
      obligingAdapter)] _

/-- A session in which the interface is opened and TEST UNIT READY is sent. -/
theorem openedSession_contained :
    ∃ call ∈ openedSession.calls, call.trace ≠ [] ∧ Contained call := by
  have hcall : openedSession.calls.get ⟨1, by decide⟩ ∈ openedSession.calls := List.get_mem _ _
  exact ⟨_, hcall, List.cons_ne_nil _ _, cbiTransport_contained openedSession _ hcall⟩

end M65
