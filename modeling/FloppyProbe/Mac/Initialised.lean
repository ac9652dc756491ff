import FloppyProbe.Mac.Buffers
import FloppyProbe.Mac.System

/-!
# Initialised error text buffers

The transport of `src/cbi.c` over the adapter of `src/usb_cbi_macos.c`, both on their error text
buffers, with the destruction among the calls of a client. Acquisitions, commands and releases hand
terminated texts to the adapter, whatever the caller's buffer holds; the destruction of an engine
that is still open hands over an array that nobody wrote.

* `TracksEngine.exec_atop`: a call on buffers is one on texts, and reads written bytes only;
* `OpenKnown`: the adapter is open only while the engine knows of it, so that it has nothing to
  close when a closed engine is destroyed;
* `bufferedTransport_readsInitialised_iff`: whole sessions.
-/

namespace M65

open CheckedMemory Interaction

variable {m m' : MacState} {c c' : CbiContext} {thread : RunLoopRef}

/-! ## The statement -/

/-- The calls of a client. The caller's arrays may hold anything, and so may the stack under the
arrays that `cbi_destroy` and `mac_destroy_io` declare. -/
inductive BufferedTransportCall where
  | acquireExclusive (detail : DetailBuffer)
  | execute (command : Command)
  | releaseExclusive (detail : DetailBuffer)
  | destroy (detail ignored : Vector UInt8 maxErrorText)

/-- What each call of the transport returns. -/
abbrev BufferedTransportReply : BufferedTransportCall → Type
  | .acquireExclusive _ => StatusReply
  | .execute command => ExecuteReply command.dataLength
  | .releaseExclusive _ => StatusReply
  | .destroy _ _ => Unit

/-- A call of the transport, on the thread of a run loop. -/
structure BufferedMacCall where
  thread : RunLoopRef
  call : BufferedTransportCall

/-- The programs of both layers behind a call, on the thread of `thread`. -/
def bufferedOperation (thread : RunLoopRef) : (call : BufferedTransportCall) →
    Prog SystemState DetailReply (BufferedTransportReply call)
  | .acquireExclusive detail => (Buffered.cbiAcquire detail).atop (Buffered.macIo thread)
  | .execute command => (Buffered.cbiExecute command).atop (Buffered.macIo thread)
  | .releaseExclusive detail => (Buffered.cbiRelease detail).atop (Buffered.macIo thread)
  | .destroy detail ignored => do
      (Buffered.cbiDestroy detail).atop (Buffered.macIo thread)
      (Buffered.macDestroyIo thread ignored).under

/-- One call of the transport, with its detail buffers as memory. -/
def bufferedTransport (call : BufferedMacCall) :
    Prog SystemState DetailReply (BufferedTransportReply call.call) :=
  bufferedOperation call.thread call.call

/-- The calls on a transport that was just created. A destruction can only be the last of them in
the source, but nothing here depends on that. -/
abbrev BufferedSession : Type := Session bufferedTransport ({}, {})

/-- Every operation of the adapter is entered with a terminated text, and all that it reads of the
buffer was written. -/
def ReadsInitialised (call : Handled bufferedTransport) : Prop :=
  ∀ e ∈ call.trace, InitialisedCall e.call

/-- The call does not destroy an engine that is open. -/
def DestroysClosed (call : Handled bufferedTransport) : Prop :=
  ∀ detail ignored, call.call.call = .destroy detail ignored → call.before.1.opened = false

/-! ## Calls on texts -/

/-- A part of the engine on its buffers, over the adapter, does what it does on texts, and all that
the adapter reads was written. -/
theorem TracksEngine.exec_atop {α : Type} {p : Buffered.Engine α} {q : Engine α}
    (hsim : TracksEngine p q Eq) {s s' : SystemState} {t : List (Event SystemState DetailReply)}
    {a : α} (h : Exec (p.atop (Buffered.macIo thread)) s t a s') :
    (∀ e ∈ t, InitialisedCall e.call) ∧ ∃ t', Exec (q.atop (macIo thread)) s t' a s' := by
  obtain ⟨l, hengine, hserved⟩ := Interaction.exec_atop.1 h
  obtain ⟨hinitialised, _, hengine', rfl⟩ := hsim hengine
  have hreads (d : BufferCall) (m : MacState) (inner : List (Event MacState DetailReply))
      (reply : CbiIoReply d.call) (m' : MacState) (hd : Initialised d)
      (hexec : Exec (Buffered.macIo thread d) m inner reply m') :
      ∀ e ∈ inner, InitialisedCall e.call :=
    (readsWritten_macIo hd trivial hexec).1
  have htexts (d : BufferCall) (m : MacState) (inner : List (Event MacState DetailReply))
      (reply : CbiIoReply d.call) (m' : MacState)
      (hexec : Exec (Buffered.macIo thread d) m inner reply m') :
      ∃ inner', Exec (macIo thread d.call) m inner' reply m' :=
    ⟨_, exec_macIo hexec⟩
  obtain ⟨t', hserved'⟩ := hserved.simulates (f := BufferCall.call) htexts
  have hatop := Interaction.exec_atop.2 ⟨_, hengine', hserved'⟩
  exact ⟨hserved.forall_call hreads hinitialised, t', hatop⟩

/-! ## The engine knows of an open adapter -/

/-- The adapter is open only if the engine is. -/
def OpenKnown (s : SystemState) : Prop := s.2.context.isOpen = true → s.1.opened = true

/-- A closed adapter needs no knowledge. -/
theorem openKnown_of_closed {s : SystemState} (h : s.2.context.isOpen = false) : OpenKnown s :=
  fun hopen => absurd (h.symm.trans hopen) Bool.false_ne_true

/-- Where the engine holds nothing, the adapter is closed. -/
theorem OpenKnown.closed {s : SystemState} (h : OpenKnown s) (hclosed : s.1.opened = false) :
    s.2.context.isOpen = false := by
  by_contra hopen
  have hopened := h (by simpa using hopen)
  rw [hclosed] at hopened
  cases hopened

/-- No call on texts opens the adapter behind the engine's back. -/
theorem openKnown_of_exec (call : MacCall) {s s' : SystemState} {t : List SystemEvent}
    {reply : TransportReply call.call} (h : Exec (macTransport call) s t reply s')
    (hknown : OpenKnown s) : OpenKnown s' := by
  obtain ⟨c, m⟩ := s
  obtain ⟨c', m'⟩ := s'
  obtain ⟨thread, call⟩ := call
  obtain ⟨l, hengine, hserved⟩ := exec_atop.1 h
  cases call with
  | acquireExclusive detail =>
    cases acquired_of_exec hengine with
    | held =>
      obtain ⟨-, rfl⟩ := hserved.of_nil
      exact hknown
    | opened => exact fun _ => rfl
    | failed hclosed hfailed =>
      obtain ⟨inner, hexec, -⟩ := hserved.singleton
      have hseized := seized_of_exec hexec (hknown.closed hclosed)
      exact openKnown_of_closed (hseized.of_failed hfailed).1
  | execute command =>
    have hexecuted := executed_of_exec hengine
    have hcarried := carried_of_served hserved hexecuted.not_isSeizure
    intro hopen
    show c'.opened = true
    rw [hexecuted.opened_eq]
    exact hknown (hcarried.isOpen.symm.trans hopen)
  | releaseExclusive detail =>
    -- whether or not the engine takes note of it, the adapter is closed
    cases closed_of_exec hengine with
    | idle =>
      obtain ⟨-, rfl⟩ := hserved.of_nil
      exact hknown
    | closed | failed =>
      obtain ⟨inner, hexec, -⟩ := hserved.singleton
      exact openKnown_of_closed (shut_of_exec hexec).closed.1

/-! ## Destructions -/

/-- The destruction of the adapter leaves it closed, and a closed one calls nothing. -/
theorem closed_of_macDestroyIo {stack : Vector UInt8 maxErrorText}
    {t : List (Event MacState DetailReply)} {out : Unit}
    (h : Exec (Buffered.macDestroyIo thread stack) m t out m') :
    m'.context.isOpen = false ∧ (m.context.isOpen = false → t = []) := by
  unfold Buffered.macDestroyIo at h
  rw [exec_get_bind, exec_ite, exec_bind, exec_modify_bind, exec_modify] at h
  rcases h with ⟨hopen, t₁, reply, m₁, t₂, hclose, hrest, rfl⟩ | ⟨hclosed, rfl, rfl⟩
  · refine ⟨?_, fun hclosed => absurd (hclosed.symm.trans hopen) Bool.false_ne_true⟩
    obtain ⟨-, rfl⟩ := exec_modify.1 (exec_modify_bind.1 hrest)
    rw [MacState.releaseInterruptRequest_context]
    exact (shut_of_exec (exec_macIo hclose)).closed.1
  · refine ⟨?_, fun _ => rfl⟩
    rw [MacState.releaseInterruptRequest_context]
    simpa [removeEventSource] using hclosed

/-- After a destruction the adapter is closed. A closed engine that knows of an open adapter is
destroyed without a call, and an open one hands over its array. -/
theorem destroyed_of_exec {detail ignored : Vector UInt8 maxErrorText} {s s' : SystemState}
    {t : List (Event SystemState DetailReply)} {out : Unit}
    (h : Exec (bufferedOperation thread (.destroy detail ignored)) s t out s')
    (hknown : OpenKnown s) :
    OpenKnown s' ∧ ((∀ e ∈ t, InitialisedCall e.call) ↔ s.1.opened = false) := by
  obtain ⟨c, m⟩ := s
  obtain ⟨c', m'⟩ := s'
  obtain ⟨t₁, _, ⟨c₁, m₁⟩, t₂, hdestroy, hbelow, rfl⟩ := exec_bind.1 h
  obtain ⟨l, hengine, hserved⟩ := exec_atop.1 hdestroy
  obtain ⟨-, inner, hinner, rfl⟩ := exec_under.1 hbelow
  obtain ⟨hclosed, hnothing⟩ := closed_of_macDestroyIo hinner
  refine ⟨openKnown_of_closed hclosed, ?_⟩
  -- an open link is closed through the buffer that the caller never filled
  rcases exec_cbiDestroy.1 hengine with ⟨hopened, ⟨reply, rfl⟩, rfl⟩ | ⟨hshut, rfl, rfl⟩
  · refine iff_of_false (fun hinitialised => ?_) (by simp [hopened])
    obtain ⟨inner', hexec, rfl⟩ := hserved.singleton
    obtain ⟨e, he, hentered⟩ := entered_of_exec hexec
    have hread := hinitialised (e.below c) (List.mem_append_left _ (List.mem_map_of_mem he))
    -- that call is in the trace, and it reads bytes that are still unwritten
    rw [show (e.below c).call = e.call from rfl, hentered] at hread
    exact Cells.not_holdsText_fresh detail hread
  · obtain ⟨rfl, rfl⟩ := hserved.of_nil
    -- a link that was never opened, or was closed before, makes no call at all
    obtain rfl := hnothing (hknown.closed hshut)
    exact iff_of_true (by simp) hshut

/-! ## Sessions -/

/-- A call keeps the engine's knowledge, and reads written bytes exactly if it does not destroy an
open engine. -/
theorem readsInitialised_iff (call : Handled bufferedTransport) (hknown : OpenKnown call.before) :
    OpenKnown call.after ∧ (ReadsInitialised call ↔ DestroysClosed call) := by
  obtain ⟨⟨thread, call⟩, reply, s, t, s', h⟩ := call
  cases call with
  | acquireExclusive detail =>
    obtain ⟨hreads, t', htexts⟩ := (simulates_cbiAcquire detail).exec_atop h
    have hafter := openKnown_of_exec ⟨thread, .acquireExclusive detail.text⟩ htexts hknown
    exact ⟨hafter, iff_of_true hreads fun _ _ hdestroy => by cases hdestroy⟩
  | execute command =>
    obtain ⟨hreads, t', htexts⟩ := (simulates_cbiExecute command).exec_atop h
    have hafter := openKnown_of_exec ⟨thread, .execute command⟩ htexts hknown
    exact ⟨hafter, iff_of_true hreads fun _ _ hdestroy => by cases hdestroy⟩
  | releaseExclusive detail =>
    obtain ⟨hreads, t', htexts⟩ := (simulates_cbiRelease detail).exec_atop h
    have hafter := openKnown_of_exec ⟨thread, .releaseExclusive detail.text⟩ htexts hknown
    exact ⟨hafter, iff_of_true hreads fun _ _ hdestroy => by cases hdestroy⟩
  | destroy detail ignored =>
    obtain ⟨hafter, hreads⟩ := destroyed_of_exec h hknown
    refine ⟨hafter, hreads.trans ⟨fun hclosed _ _ _ => hclosed, fun hclosed => ?_⟩⟩
    exact hclosed detail ignored rfl

/-- In every session, for every result of IOUSBLib and whatever the caller's arrays and the stack
hold, the adapter is handed terminated texts and reads written bytes exactly if no engine is
destroyed while it is open. -/
theorem bufferedTransport_readsInitialised_iff (session : BufferedSession) :
    (∀ call ∈ session.calls, ReadsInitialised call) ↔
      ∀ call ∈ session.calls, DestroysClosed call := by
  have hinitial : OpenKnown ({}, {}) := openKnown_of_closed rfl
  have hknown : ∀ call ∈ session.calls, OpenKnown call.before :=
    (session.invariant (fun call hbefore => (readsInitialised_iff call hbefore).1) hinitial).1
  exact forall₂_congr fun call hcall => (readsInitialised_iff call (hknown call hcall)).2

/-! ## A destruction after a lost interrupt -/

/-- The interface of `workingInterface`, on which no callback ever fires. -/
def silentInterface (closed : IOReturn) :
    ℕ → (call : IoUsbCall ⊕ DetailWatch) → DetailReply call
  | n, .inl call => workingInterface closed none n call
  | _, .inr watch => readReply watch

/-- A command whose completion interrupt never comes, and a destruction during which neither the
abort nor USBInterfaceClose succeeds. There is no zero on the stack. -/
def abandonedSession : BufferedSession :=
  .replay
    [(⟨⟨0⟩, .acquireExclusive .cleared⟩, silentInterface kIOReturnSuccess),
      (⟨⟨0⟩, .execute
        { cdb := cdbTestUnitReady.1, cdbLength := cdbTestUnitReady.2, direction := .none,
          dataLength := 0, data := none, timeoutMs := 5000 }⟩,
        silentInterface kIOReturnSuccess),
      (⟨⟨0⟩, .destroy (Vector.replicate maxErrorText 0xff) (Vector.replicate maxErrorText 0xff)⟩,
        silentInterface kIOReturnNotReady)] _

/-- `strlen` of an array none of whose bytes was written. -/
def isStrlenOfUnwritten : IoUsbCall ⊕ DetailWatch → Bool
  | .inr (.strlen buffer) => buffer.all fun cell => !cell.written
  | _ => false

/-- A `strlen` of bytes that nobody wrote is such a read. -/
theorem not_initialised_of_strlen {call : IoUsbCall ⊕ DetailWatch}
    (h : isStrlenOfUnwritten call = true) : ¬ InitialisedCall call := by
  rcases call with call | (buffer | buffer | buffer)
  · cases h
  · cases h
  · cases h
  intro hholds
  have hwritten := first_written hholds
  have hunwritten := Vector.all_eq_true.1 h 0 (by decide)
  rw [show buffer[0].written = true from hwritten] at hunwritten
  cases hunwritten

/-- `append_io_return` searches the whole array of `cbi_destroy` for a terminator. -/
theorem abandonedSession_not_readsInitialised :
    ¬ ∀ call ∈ abandonedSession.calls, ReadsInitialised call := by
  intro hreads
  have hstrlen : ∃ call ∈ abandonedSession.calls, ∃ e ∈ call.trace,
      isStrlenOfUnwritten e.call = true := by decide +kernel
  obtain ⟨call, hcall, e, he, hstrlen⟩ := hstrlen
  exact not_initialised_of_strlen hstrlen (hreads call hcall e he)

end M65
