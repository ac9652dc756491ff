import FloppyProbe.Cbi.Buffers
import FloppyProbe.Interaction.Simulation

/-!
# The engine hands over texts

Every run of the engine on its buffers is a run of the engine on texts, and each buffer that it
hands to the adapter holds a terminated text (`Initialised`). A buffer and a text go together while
the buffer holds that text (`Tracks`).

* `simulates_runExchange`, `simulates_recoverIfRequired`, `simulates_fetchSense`: the parts of a
  command;
* `simulates_cbiAcquire`, `simulates_cbiExecute`, `simulates_cbiRelease`: the operations of the
  transport, whatever the caller's array holds;
* `exec_cbiDestroy`: the destruction hands over an array without a text if the engine is open.
-/

namespace M65

open CheckedMemory Interaction

/-! ## Texts in buffers -/

namespace DetailBuffer

variable {buffer : DetailBuffer}

/-- The text of a buffer is its string, cut off to fit. -/
theorem text_bytes (buffer : DetailBuffer) :
    buffer.text.bytes = buffer.string.take (maxErrorText - 1) := by
  simp [text, Text.format, Cells.string]

/-- A string that fits is the text of its buffer. -/
theorem text_bytes_of_lt (h : buffer.string.length < maxErrorText) :
    buffer.text.bytes = buffer.string := by
  rw [text_bytes]
  exact List.take_of_length_le (Nat.le_sub_one_of_lt h)

/-- A text is determined by its bytes. -/
theorem ext_text {text text' : ErrorText} (h : text.bytes = text'.bytes) : text = text' := by
  obtain ⟨⟨bytes, _⟩, _⟩ := text
  obtain ⟨⟨bytes', _⟩, _⟩ := text'
  obtain rfl : bytes = bytes' := h
  rfl

/-- The first byte tells whether there is a text. -/
theorem text_eq_nil_iff : buffer.text.bytes = [] ↔ buffer.first.byte = 0 := by
  have hlength : 0 < buffer.bytes.length := by simp
  obtain ⟨first, rest, hbytes⟩ := List.exists_cons_of_length_pos hlength
  have hfirst : buffer.first.byte = first := by
    rw [DetailBuffer.first, ← Cells.getElem_bytes buffer (by decide) hlength]
    simp [hbytes]
  rw [text_bytes, hfirst, Cells.string, hbytes]
  by_cases hzero : first = 0
  · simp [hzero]
  · simp [hzero]

/-- The string of a buffer after a text was written is that text. -/
theorem string_write (buffer : DetailBuffer) (text : ErrorText) :
    (buffer.write text).string = text.bytes := by
  have hfits : 0 + text.bytes.length < maxErrorText := by
    rw [Nat.zero_add]
    exact text.fits
  rw [write, Cells.string_putString (Nat.zero_le _) hfits text.noNul]
  rfl

/-- The text of a buffer after it was written is the one that was written. -/
@[simp]
theorem text_write (buffer : DetailBuffer) (text : ErrorText) :
    (buffer.write text).text = text := by
  apply ext_text
  rw [text_bytes_of_lt (by rw [string_write]; exact text.fits), string_write]

/-- A buffer that was written holds a text. -/
theorem holdsText_write (buffer : DetailBuffer) (text : ErrorText) :
    (buffer.write text).HoldsText :=
  Cells.holdsText_putString (by simp) (by rw [Nat.zero_add]; exact text.fits)

end DetailBuffer

/-- The buffer holds the text. -/
structure Tracks (buffer : DetailBuffer) (text : ErrorText) : Prop where
  holdsText : buffer.HoldsText
  text_eq : buffer.text = text

namespace Tracks

variable {buffer : DetailBuffer} {text : ErrorText}

/-- A buffer tracks the text that was written into it. -/
theorem write (buffer : DetailBuffer) (text : ErrorText) : Tracks (buffer.write text) text :=
  ⟨buffer.holdsText_write text, buffer.text_write text⟩

/-- A cleared buffer tracks the empty text. -/
theorem cleared : Tracks .cleared Text.empty := by
  refine ⟨Cells.holdsText_filled (by decide), DetailBuffer.ext_text ?_⟩
  rw [DetailBuffer.text_bytes, DetailBuffer.cleared, Cells.string_filled]
  rfl

/-- A buffer tracks what the adapter left in it. -/
theorem after (h : Tracks buffer text) (left : ErrorText) : Tracks (buffer.after left) left := by
  unfold DetailBuffer.after
  by_cases hsame : left = buffer.text
  · rw [if_pos hsame]
    exact ⟨h.holdsText, hsame.symm⟩
  · rw [if_neg hsame]
    exact .write buffer left

/-- The default text is written into the buffer when it is taken as the text. -/
theorem setDefaultIoDetail (h : Tracks buffer text) (operation : String) (status : CbiIoStatus) :
    Tracks (Buffered.setDefaultIoDetail buffer operation status)
      (M65.setDefaultIoDetail text operation status) := by
  obtain ⟨hholds, rfl⟩ := h
  unfold Buffered.setDefaultIoDetail M65.setDefaultIoDetail
  simp only [DetailBuffer.text_eq_nil_iff]
  by_cases hempty : buffer.first.byte = 0
  · rw [if_pos hempty, if_pos hempty]
    exact .write buffer _
  · rw [if_neg hempty, if_neg hempty]
    exact ⟨hholds, rfl⟩

end Tracks

/-! ## Simulations -/

/-- The buffer of the call holds a terminated text. -/
def Initialised (d : BufferCall) : Prop := d.detail.HoldsText

/-- The replies are the same, and the buffer holds the text `detail` of the reply. -/
structure Corresponds {α : Type} (detail : α → ErrorText) (left : Left α) (reply : α) : Prop where
  reply_eq : left.reply = reply
  tracks : Tracks left.detail (detail reply)

/-- The engine on its buffers does what the engine on texts does. -/
abbrev TracksEngine {α β : Type} (p : Buffered.Engine α) (q : Engine β) (R : α → β → Prop) :
    Prop :=
  Simulates BufferCall.call Initialised p q R

section Simulations

variable {n : ℕ} {buffer : Vector UInt8 n} {detail phaseDetail : DetailBuffer}
  {text phaseText : ErrorText}

/-- A call with a buffer is the call with its text. -/
theorem simulates_call {d : BufferCall} {call : CbiIoCall} (hcall : d.call = call)
    (h : Initialised d) : TracksEngine (Prog.call d) (Prog.call call) fun r r' => r ≍ r' :=
  .call hcall h

/-- Requiring the recovery is the same on buffers. -/
theorem simulates_requireRecovery {text' : ErrorText} (h : text' = text) (fallback : String) :
    TracksEngine (Buffered.requireRecovery text' fallback) (requireRecovery text fallback)
      fun _ _ => True := by
  subst h
  exact .modify _

/-- The failure of an operation is the same on buffers. -/
theorem simulates_phaseIoFailure (h : Tracks detail text) (status : CbiIoStatus)
    (operation : String) :
    TracksEngine (Buffered.phaseIoFailure status operation detail)
      (phaseIoFailure status operation text) (Corresponds CbiReply.detail) := by
  have hdefault := h.setDefaultIoDetail operation status
  have hreply : Corresponds CbiReply.detail
      ⟨⟨status, (Buffered.setDefaultIoDetail detail operation status).text⟩,
        Buffered.setDefaultIoDetail detail operation status⟩
      ⟨status, setDefaultIoDetail text operation status⟩ :=
    ⟨congrArg (CbiReply.mk status) hdefault.text_eq, hdefault⟩
  unfold Buffered.phaseIoFailure phaseIoFailure
  refine .ite (fun _ => ?_) fun _ => .pure hreply
  exact .bind (simulates_requireRecovery hdefault.text_eq operation) fun _ _ _ => .pure hreply

/-- The data phase is the same on buffers. -/
theorem simulates_bulkTransfer (h : Tracks detail text) (direction : DataDirection)
    (timeoutMs : ℕ) :
    TracksEngine (Buffered.bulkTransfer direction buffer timeoutMs detail)
      (bulkTransfer direction buffer timeoutMs text) (Corresponds fun reply => reply.detail) := by
  obtain ⟨hholds, rfl⟩ := h
  have htracks : Tracks detail detail.text := ⟨hholds, rfl⟩
  cases direction with
  | none => exact .pure ⟨rfl, htracks⟩
  | dataIn =>
    rw [← bind_pure (bulkTransfer .dataIn buffer timeoutMs detail.text)]
    refine .bind (simulates_call rfl hholds) fun reply reply' hreply => ?_
    obtain rfl : reply = reply' := eq_of_heq hreply
    exact .pure ⟨rfl, htracks.after _⟩
  | dataOut =>
    refine .bind (simulates_call rfl hholds) fun reply reply' hreply => ?_
    obtain rfl : reply = reply' := eq_of_heq hreply
    exact .pure ⟨rfl, htracks.after _⟩

/-- The interrupt completion is the same on buffers. -/
theorem simulates_awaitCompletion (h : Tracks detail text) (exchange : CbiExchange)
    (timeoutMs : ℕ) :
    TracksEngine (Buffered.awaitCompletion exchange buffer timeoutMs detail)
      (awaitCompletion exchange buffer timeoutMs text) (Corresponds fun reply => reply.detail) := by
  obtain ⟨hholds, rfl⟩ := h
  have htracks : Tracks detail detail.text := ⟨hholds, rfl⟩
  refine .bind (simulates_call rfl hholds) fun reply reply' hreply => ?_
  obtain rfl : reply = reply' := eq_of_heq hreply
  have htracks := htracks.after reply.detail
  refine .ite (fun _ => ?_) fun _ => .ite (fun _ => ?_) fun _ => ?_
  · refine .bind (simulates_phaseIoFailure htracks _ _) fun left failure hfailure => ?_
    obtain ⟨rfl, hdetail⟩ := hfailure
    exact .pure ⟨rfl, hdetail⟩
  · have hwritten := Tracks.write (detail.after reply.detail)
      (errorText "CBI command-completion interrupt was not exactly two bytes")
    refine .bind (simulates_requireRecovery hwritten.text_eq _) fun _ _ _ => .pure ⟨?_, hwritten⟩
    rw [hwritten.text_eq]
  · refine .pure ⟨?_, htracks⟩
    rw [htracks.text_eq]

/-- An exchange is the same on buffers. -/
theorem simulates_runExchange (h : Tracks detail text) (cdb : Vector UInt8 cbiCdbLength)
    (direction : DataDirection) (timeoutMs : ℕ) :
    TracksEngine (Buffered.runExchange cdb direction buffer timeoutMs detail)
      (runExchange cdb direction buffer timeoutMs text)
      (Corresponds fun reply => reply.detail) := by
  obtain ⟨hholds, rfl⟩ := h
  have htracks : Tracks detail detail.text := ⟨hholds, rfl⟩
  refine .bind (simulates_call rfl hholds) fun accepted accepted' haccepted => ?_
  obtain rfl : accepted = accepted' := eq_of_heq haccepted
  have htracks := htracks.after accepted.detail
  refine .ite (fun _ => ?_) fun _ => .ite (fun _ => ?_) fun _ => ?_
  · refine .pure ⟨?_, htracks⟩
    rw [htracks.text_eq]
  · refine .bind (simulates_phaseIoFailure htracks _ _) fun left failure hfailure => ?_
    obtain ⟨rfl, hdetail⟩ := hfailure
    exact .pure ⟨rfl, hdetail⟩
  refine .bind (simulates_bulkTransfer htracks direction timeoutMs) fun left data hdata => ?_
  obtain ⟨rfl, htracks⟩ := hdata
  obtain ⟨data, detail⟩ := left
  -- the three ends of the data phase
  refine .ite (fun _ => ?_) fun _ => .ite (fun _ => ?_) fun _ => .ite (fun _ => ?_) fun _ => ?_
  · obtain ⟨hholds, htext⟩ := htracks
    refine .bind (.call (congrArg (CbiIoCall.clearStall direction) htext) hholds)
      fun cleared cleared' hcleared => ?_
    obtain rfl : cleared = cleared' := eq_of_heq hcleared
    have htracks := Tracks.after ⟨hholds, htext⟩ cleared.detail
    refine .ite (fun _ => ?_) fun _ => simulates_awaitCompletion htracks _ timeoutMs
    refine .bind (simulates_phaseIoFailure htracks _ _) fun left failure hfailure => ?_
    obtain ⟨rfl, hdetail⟩ := hfailure
    exact .pure ⟨rfl, hdetail⟩
  · refine .bind (simulates_phaseIoFailure htracks _ _) fun left failure hfailure => ?_
    obtain ⟨rfl, hdetail⟩ := hfailure
    exact .pure ⟨rfl, hdetail⟩
  · have hwritten := Tracks.write detail
      (errorText "CBI bulk phase reported more bytes than its buffer")
    refine .bind (simulates_requireRecovery hwritten.text_eq _) fun _ _ _ => .pure ⟨?_, hwritten⟩
    rw [hwritten.text_eq]
  · exact simulates_awaitCompletion htracks _ timeoutMs

/-! ### Command-block reset -/

/-- A call with a buffer of its own. -/
theorem simulates_call_cleared {d : BufferCall} {call : ErrorText → CbiIoCall}
    (hcall : d.call = call DetailBuffer.cleared.text) (hdetail : d.detail = .cleared) :
    TracksEngine (Prog.call d) (Prog.call (call Text.empty)) fun r r' => r ≍ r' := by
  refine .call ?_ ?_
  · rw [hcall, Tracks.cleared.text_eq]
  · rw [Initialised, hdetail]
    exact Tracks.cleared.holdsText

/-- Clearing the pipes is the same on buffers. -/
theorem simulates_clearBulkPipes (failure : RecoveryFailure) :
    TracksEngine (Buffered.clearBulkPipes failure) (clearBulkPipes failure) Eq := by
  refine .ite (fun _ => .pure rfl) fun _ => ?_
  refine .bind (simulates_call_cleared rfl rfl) fun inReply inReply' hin => ?_
  obtain rfl : inReply = inReply' := eq_of_heq hin
  refine .bind (simulates_call_cleared rfl rfl) fun outReply outReply' hout => ?_
  obtain rfl : outReply = outReply' := eq_of_heq hout
  exact .pure rfl

/-- The reset is the same on buffers. -/
theorem simulates_resetCommandBlock (hphase : Tracks phaseDetail phaseText)
    (h : Tracks detail text) (timeoutMs : ℕ) :
    TracksEngine (Buffered.resetCommandBlock timeoutMs phaseDetail detail)
      (resetCommandBlock timeoutMs phaseText text) (Corresponds CbiReply.detail) := by
  refine .bind (simulates_runExchange hphase resetCdb .none timeoutMs) fun left reset hreset => ?_
  obtain ⟨rfl, -⟩ := hreset
  refine .bind (simulates_clearBulkPipes _) fun failure failure' hfailure => ?_
  subst hfailure
  refine .bind (simulates_call_cleared rfl rfl) fun finished finished' hfinished => ?_
  obtain rfl : finished = finished' := eq_of_heq hfinished
  refine .ite (fun _ => ?_) fun _ => ?_
  · refine .bind (.modify _) fun _ _ _ => .pure ⟨?_, h⟩
    rw [h.text_eq]
  · refine .get fun context => .pure ⟨?_, .write _ _⟩
    rw [DetailBuffer.text_write]

/-- The recovery is the same on buffers. -/
theorem simulates_recoverIfRequired (h : Tracks detail text) (timeoutMs : ℕ) :
    TracksEngine (Buffered.recoverIfRequired timeoutMs detail) (recoverIfRequired timeoutMs text)
      (Corresponds CbiReply.detail) := by
  refine .get fun context => .ite (fun _ => .pure ⟨?_, h⟩) fun _ => ?_
  · rw [h.text_eq]
  refine .bind (simulates_call_cleared rfl rfl) fun prepared prepared' hprepared => ?_
  obtain rfl : prepared = prepared' := eq_of_heq hprepared
  have hphase := Tracks.cleared.after prepared.detail
  refine .ite (fun _ => ?_) fun _ => simulates_resetCommandBlock hphase h timeoutMs
  have hdefault :=
    hphase.setDefaultIoDetail "prepare CBI command-block reset" prepared.status
  dsimp only
  rw [hdefault.text_eq, DetailBuffer.text_write]
  have hwritten := Tracks.write detail (describeRecoveryFailure context
    (setDefaultIoDetail prepared.detail "prepare CBI command-block reset" prepared.status))
  exact .pure ⟨rfl, hwritten⟩

/-! ### Sense data -/

/-- The failure of sense data is the same on buffers. -/
theorem simulates_senseFailure (sense : Sense) (message fallback : String) :
    TracksEngine (Buffered.senseFailure sense message fallback)
      (senseFailure sense message fallback) Eq :=
  .bind (simulates_requireRecovery rfl fallback) fun _ _ _ => .pure rfl

/-- The engine's REQUEST SENSE is the same on buffers. -/
theorem simulates_fetchSense (h : Tracks detail text) (timeoutMs : ℕ) :
    TracksEngine (Buffered.fetchSense timeoutMs detail) (fetchSense timeoutMs text) Eq := by
  refine .bind (simulates_runExchange h senseCdb .dataIn timeoutMs) fun left reply hreply => ?_
  obtain ⟨rfl, htracks⟩ := hreply
  obtain ⟨reply, detail⟩ := left
  refine .ite (fun _ => .pure ?_) fun _ => ?_
  · rw [← htracks.text_eq]
  refine .ite (fun _ => simulates_senseFailure _ _ _) fun _ => ?_
  refine .ite (fun _ => simulates_senseFailure _ _ _) fun _ => ?_
  refine .ite (fun _ => simulates_senseFailure _ _ _) fun _ => ?_
  refine .ite (fun _ => simulates_senseFailure _ _ _) fun _ => .pure ?_
  rw [← htracks.text_eq]

/-! ### The transport -/

/-- Whatever the caller's array holds. -/
theorem simulates_cbiAcquire (detail : DetailBuffer) :
    TracksEngine (Buffered.cbiAcquire detail) (cbiAcquire detail.text) Eq := by
  refine .get fun context => .ite (fun _ => .pure rfl) fun _ => ?_
  obtain ⟨hholds, hempty⟩ := Tracks.write detail Text.empty
  refine .bind (.call (congrArg CbiIoCall.openSeize hempty) hholds) fun reply reply' hreply => ?_
  obtain rfl : reply = reply' := eq_of_heq hreply
  have htracks := Tracks.after ⟨hholds, hempty⟩ reply.detail
  refine .ite (fun _ => ?_) fun _ => .pure ?_
  · refine .bind (.set _) fun _ _ _ => .pure ?_
    rw [htracks.text_eq]
  · rw [(htracks.setDefaultIoDetail _ _).text_eq]

/-- Closing the interface is the same on buffers, also on one that holds no text. -/
theorem simulates_cbiRelease (detail : DetailBuffer) :
    TracksEngine (Buffered.cbiRelease detail) (cbiRelease detail.text) Eq := by
  refine .get fun context => .ite (fun _ => .pure rfl) fun _ => ?_
  obtain ⟨hholds, hempty⟩ := Tracks.write detail Text.empty
  refine .bind (.call (congrArg CbiIoCall.close hempty) hholds) fun reply reply' hreply => ?_
  obtain rfl : reply = reply' := eq_of_heq hreply
  have htracks := Tracks.after ⟨hholds, hempty⟩ reply.detail
  -- the end of the function, with or without the flag cleared
  have hend : TracksEngine
      (if reply.status ≠ .ok then pure ⟨mapIoStatus reply.status, (Buffered.setDefaultIoDetail
          ((detail.write Text.empty).after reply.detail) "close USB interface" reply.status).text⟩
        else pure ⟨.ok, ((detail.write Text.empty).after reply.detail).text⟩ :
        Buffered.Engine StatusReply)
      (if reply.status ≠ .ok then pure ⟨mapIoStatus reply.status,
          setDefaultIoDetail reply.detail "close USB interface" reply.status⟩
        else pure ⟨.ok, reply.detail⟩ : Engine StatusReply) Eq := by
    refine .ite (fun _ => .pure ?_) fun _ => .pure ?_
    · rw [(htracks.setDefaultIoDetail _ _).text_eq]
    · rw [htracks.text_eq]
  exact .ite (fun _ => .bind (.set _) fun _ _ _ => hend) fun _ => hend

/-- The failure of a result is the same on buffers. -/
theorem simulates_protocolFailure (result : CommandResult) (message fallback : String) :
    TracksEngine (Buffered.protocolFailure result buffer message fallback)
      (protocolFailure result buffer message fallback) Eq :=
  .bind (simulates_requireRecovery rfl fallback) fun _ _ _ => .pure rfl

/-- A REQUEST SENSE of the caller is the same on buffers. -/
theorem simulates_executeRequestSense (padded : Vector UInt8 cbiCdbLength) (timeoutMs : ℕ) :
    TracksEngine (Buffered.executeRequestSense padded buffer timeoutMs)
      (executeRequestSense padded buffer timeoutMs) Eq := by
  refine .bind (simulates_runExchange .cleared padded .dataIn timeoutMs) fun left reply hreply => ?_
  obtain ⟨rfl, htracks⟩ := hreply
  obtain ⟨reply, detail⟩ := left
  dsimp only at htracks ⊢
  rw [htracks.text_eq]
  refine .ite (fun _ => .pure rfl) fun _ => ?_
  refine .ite (fun _ => simulates_protocolFailure _ _ _) fun _ => ?_
  exact .ite (fun _ => simulates_protocolFailure _ _ _) fun _ => .pure rfl

/-- Any other command is the same on buffers. -/
theorem simulates_executeCommand (h : Tracks detail text) (opcode : UInt8)
    (padded : Vector UInt8 cbiCdbLength) (direction : DataDirection) (timeoutMs : ℕ) :
    TracksEngine (Buffered.executeCommand opcode padded direction buffer timeoutMs detail)
      (executeCommand opcode padded direction buffer timeoutMs text) Eq := by
  refine .bind (simulates_runExchange h padded direction timeoutMs) fun left reply hreply => ?_
  obtain ⟨rfl, htracks⟩ := hreply
  obtain ⟨reply, detail⟩ := left
  refine .ite (fun _ => .pure ?_) fun _ => ?_
  · rw [htracks.text_eq]
  refine .bind (simulates_fetchSense htracks timeoutMs) fun fetched fetched' hfetched => ?_
  subst hfetched
  -- the buffer is not handed over any more, and the results agree
  refine .ite (fun _ => .pure rfl) fun _ => ?_
  refine .ite (fun _ => simulates_protocolFailure _ _ _) fun _ => ?_
  refine .ite (fun _ => simulates_protocolFailure _ _ _) fun _ => ?_
  exact .ite (fun _ => .pure rfl) fun _ => .pure rfl

/-- A command is the same on buffers. -/
theorem simulates_cbiExecute (command : Command) :
    TracksEngine (Buffered.cbiExecute command) (cbiExecute command) Eq := by
  refine .get fun context => ?_
  cases refuseCommand context command with
  | some detail => exact .pure rfl
  | none =>
    refine .bind (simulates_recoverIfRequired .cleared command.timeoutMs)
      fun left recovery hrecovery => ?_
    obtain ⟨rfl, htracks⟩ := hrecovery
    refine .ite (fun _ => .pure rfl) fun _ => ?_
    refine .ite (fun _ => simulates_executeRequestSense _ _) fun _ => ?_
    exact simulates_executeCommand htracks _ _ _ _

end Simulations

/-- An open engine hands its array without an initialiser to the adapter, whatever was on the
stack; a closed one calls nothing. -/
theorem exec_cbiDestroy {stack : Vector UInt8 maxErrorText} {c c' : CbiContext}
    {l : List (Event CbiContext fun d : BufferCall => CbiIoReply d.call)} {out : Unit} :
    Exec (Buffered.cbiDestroy stack) c l out c' ↔
      c.opened = true ∧ (∃ reply, l = [⟨c, .close (Cells.fresh stack), reply⟩]) ∧
          c' = { c with opened := false } ∨
        c.opened = false ∧ l = [] ∧ c' = c := by
  unfold Buffered.cbiDestroy
  simp only [exec_get_bind, exec_ite, exec_call_bind, exec_modify, exec_pure]
  constructor
  · rintro (⟨hopened, reply, t, ⟨rfl, rfl⟩, rfl⟩ | ⟨hclosed, rfl, -, rfl⟩)
    · exact .inl ⟨hopened, ⟨reply, rfl⟩, rfl⟩
    · exact .inr ⟨by simpa using hclosed, rfl, rfl⟩
  · rintro (⟨hopened, ⟨reply, rfl⟩, rfl⟩ | ⟨hclosed, rfl, rfl⟩)
    · exact .inl ⟨hopened, reply, [], ⟨rfl, rfl⟩, rfl⟩
    · exact .inr ⟨by simp [hclosed], rfl, trivial, rfl⟩

end M65
