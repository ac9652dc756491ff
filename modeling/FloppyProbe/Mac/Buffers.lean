import FloppyProbe.Cbi.Tracking
import FloppyProbe.Interaction.Triple
import FloppyProbe.Mac.Adapter

/-!
# The macOS adapter on its error text buffers

The operations of `src/usb_cbi_macos.c` that read the error text buffer before they return, on the
array that they are handed; the others write it only. Every operation tells which buffer it is
entered with, and every decision that rests on what a buffer held before is a call of its own as
well (`DetailWatch`).

Without these calls, the programs are those of the adapter on the texts that a reader finds
(`hideReads_macIo`, `exec_macIo`). On a buffer that holds a terminated text, all of them rest on
bytes that were written (`readsWritten_macIo`).
-/

namespace M65

open CheckedMemory Interaction

/-! ## Watching buffers -/

/-- The moments at which an operation reads its detail buffer. -/
inductive DetailWatch where
  /-- An operation of the adapter is entered. -/
  | entered (buffer : DetailBuffer)
  /-- `detail[0]` is compared with the terminator. -/
  | firstByte (buffer : DetailBuffer)
  /-- `strlen(detail)`. -/
  | strlen (buffer : DetailBuffer)

/-- A read needs no answer. -/
abbrev DetailWatchReply (_ : DetailWatch) : Type := Unit

/-- The only reply. -/
def readReply (watch : DetailWatch) : DetailWatchReply watch := ()

/-- What is read was written, and `strlen` ends inside the buffer. -/
def DetailWatch.Initialised : DetailWatch → Prop
  | .entered buffer => buffer.HoldsText
  | .firstByte buffer => buffer.first.written = true
  | .strlen buffer => buffer.HoldsText

/-- The replies of IOUSBLib, and those to the reads. -/
abbrev DetailReply : IoUsbCall ⊕ DetailWatch → Type := WatchedReply IoUsbReply DetailWatchReply

/-- A program of the adapter with the reads of its detail buffer among its calls. -/
abbrev DetailIo : Type → Type := Prog MacState DetailReply

/-- A call of the environment rests on no buffer. -/
def InitialisedCall : IoUsbCall ⊕ DetailWatch → Prop
  | .inl _ => True
  | .inr watch => watch.Initialised

/-- `snprintf(&detail[used], n - used, ...)` of the given pieces. -/
def DetailBuffer.append (detail : DetailBuffer) (used : ℕ) (pieces : List (List UInt8)) :
    DetailBuffer :=
  detail.putString used ((pieces.flatten.takeWhile (· ≠ 0)).take (maxErrorText - used - 1))

/-- The end of `append_io_return`: `used` is what `strlen` returned. -/
def DetailBuffer.appendIoReturn (detail : DetailBuffer) (operation : String) (result : IOReturn) :
    DetailBuffer :=
  let used := detail.string.length
  if used < maxErrorText then
    detail.append used [if used = 0 then [] else str "; ", str operation,
      str " failed with IOReturn 0x", hexDigits 8 result.toNat]
  else
    detail

namespace Buffered

/-- A part of the adapter that only writes the buffer. -/
abbrev unread {α : Type} (p : MacIo α) : DetailIo α := p.lift (σ := DetailReply) Sum.inl

/-- `append_io_return`. -/
def appendIoReturn (detail : DetailBuffer) (operation : String) (result : IOReturn) :
    DetailIo DetailBuffer := do
  Prog.call (Sum.inr (.strlen detail))
  return detail.appendIoReturn operation result

/-! ## Closing -/

/-- The first part of `mac_close`. -/
def abortBeforeClose (current : RunLoopRef) (detail : DetailBuffer) :
    DetailIo (IOReturn × DetailBuffer) := do
  let m ← get
  if !onTransportRunLoop current m.context then
    return (kIOReturnBadArgument, detail.write wrongThread)
  let abortResult ← unread abortAndDrainInterrupt
  return (abortResult, detail)

/-- The text of `mac_close` after an abort that failed. -/
def describeAbort (detail : DetailBuffer) (abortResult : IOReturn) : DetailIo DetailBuffer := do
  Prog.call (Sum.inr (.firstByte detail))
  if detail.first.byte = 0 then
    return detail.write (describeIoReturn "abort pending CBI interrupt before close" abortResult)
  return detail

/-- `mac_close`. -/
def macClose (current : RunLoopRef) (detail : DetailBuffer) : DetailIo CbiReply := do
  let m ← get
  if !m.context.isOpen then
    return ⟨.ok, detail.text⟩
  let (abortResult, detail) ← abortBeforeClose current detail
  let result : IOReturn ← unread (Prog.call IoUsbCall.usbInterfaceClose)
  modify MacState.closed
  if abortResult ≠ kIOReturnSuccess then
    let detail ← describeAbort detail abortResult
    if result ≠ kIOReturnSuccess then
      let detail ← appendIoReturn detail "USBInterfaceClose" result
      return ⟨mapIoReturn abortResult, detail.text⟩
    return ⟨mapIoReturn abortResult, detail.text⟩
  if result ≠ kIOReturnSuccess then
    return ⟨mapIoReturn result, (detail.write (describeIoReturn "USBInterfaceClose" result)).text⟩
  return ⟨mapIoReturn result, detail.text⟩

/-! ## Transfers -/

/-- The end of a bulk transfer: an error is described, and after a timeout the pipe is
resynchronised. -/
def bulkResult (pipe : UInt8) (name resynchronize : String) (result : IOReturn)
    (detail : DetailBuffer) : DetailIo DetailBuffer := do
  if result = kIOReturnSuccess then
    return detail
  let detail := detail.write (describeIoReturn name result)
  if !isTimeout result then
    return detail
  unread (updateContext MacCbiContext.desynchronize)
  let clearResult : IOReturn ← unread (Prog.call (IoUsbCall.clearPipeStallBothEnds pipe))
  if clearResult ≠ kIOReturnSuccess then
    appendIoReturn detail resynchronize clearResult
  else
    return detail

/-- `mac_bulk_in`. -/
def macBulkIn {n : ℕ} (current : RunLoopRef) (buffer : Vector UInt8 n) (timeoutMs : ℕ)
    (detail : DetailBuffer) : DetailIo (BulkInReply n) := do
  let m ← get
  if !onTransportRunLoop current m.context then
    return ⟨⟨.protocol, wrongThread⟩, buffer, 0⟩
  if UInt32.size ≤ n then
    return ⟨⟨.protocol, errorText "CBI bulk-IN length exceeds UInt32"⟩, buffer, 0⟩
  let reply : ReadPipeReply n ←
    unread (Prog.call (IoUsbCall.readPipeTO m.context.bulkInPipe buffer timeoutMs timeoutMs))
  let detail ← bulkResult m.context.bulkInPipe "CBI bulk-IN" "resynchronize bulk-IN after timeout"
    reply.result detail
  return ⟨⟨mapIoReturn reply.result, detail.text⟩, reply.buffer,
    if reply.result = kIOReturnSuccess then reply.length.toNat else 0⟩

/-- `mac_bulk_out`. -/
def macBulkOut {n : ℕ} (current : RunLoopRef) (buffer : Vector UInt8 n) (timeoutMs : ℕ)
    (detail : DetailBuffer) : DetailIo BulkOutReply := do
  let m ← get
  if !onTransportRunLoop current m.context then
    return ⟨⟨.protocol, wrongThread⟩, 0⟩
  if UInt32.size ≤ n then
    return ⟨⟨.protocol, errorText "CBI bulk-OUT length exceeds UInt32"⟩, 0⟩
  let result : IOReturn ←
    unread (Prog.call (IoUsbCall.writePipeTO m.context.bulkOutPipe buffer timeoutMs timeoutMs))
  let detail ← bulkResult m.context.bulkOutPipe "CBI bulk-OUT"
    "resynchronize bulk-OUT after timeout" result detail
  return ⟨⟨mapIoReturn result, detail.text⟩, if result = kIOReturnSuccess then n else 0⟩

/-! ## The completion interrupt -/

/-- The end of a read of the interrupt that was not completed in time. -/
def abandonInterrupt (completion : Vector UInt8 cbiStatusLength) (detail : DetailBuffer) :
    DetailIo InterruptReply := do
  unread (updateContext MacCbiContext.desynchronize)
  let abortResult ← unread abortAndDrainInterrupt
  let detail := detail.write (errorText "CBI interrupt-IN timed out and was aborted")
  if abortResult ≠ kIOReturnSuccess then
    let detail ← appendIoReturn detail "abort timed-out interrupt-IN" abortResult
    modify fun m => if m.interruptRequestComplete then m.releaseInterruptRequest else m
    return ⟨⟨mapIoReturn abortResult, detail.text⟩, completion, 0⟩
  let m ← get
  let clearResult : IOReturn ←
    unread (Prog.call (IoUsbCall.clearPipeStallBothEnds m.context.interruptInPipe))
  if clearResult ≠ kIOReturnSuccess then
    let detail ← appendIoReturn detail "resynchronize interrupt-IN after timeout" clearResult
    modify MacState.releaseInterruptRequest
    return ⟨⟨.timeout, detail.text⟩, completion, 0⟩
  modify MacState.releaseInterruptRequest
  return ⟨⟨.timeout, detail.text⟩, completion, 0⟩

/-- `mac_interrupt_in_with_deadline`. -/
def macInterruptInWithDeadline (current : RunLoopRef)
    (completion : Vector UInt8 cbiStatusLength) (timeoutMs : ℕ) (detail : DetailBuffer) :
    DetailIo InterruptReply := do
  let m ← get
  if !onTransportRunLoop current m.context then
    return ⟨⟨.protocol, wrongThread⟩, completion, 0⟩
  if m.context.interruptRequest.isSome then
    return ⟨⟨.protocol, errorText "previous CBI interrupt request has not drained"⟩,
      completion, 0⟩
  let allocated : Bool ← unread (Prog.call IoUsbCall.calloc)
  if !allocated then
    return ⟨⟨.error, errorText "out of memory submitting CBI interrupt-IN"⟩, completion, 0⟩
  let ref : RequestRef := m.requests.length
  modify MacState.allocateRequest
  let result : IOReturn ←
    unread (Prog.call (IoUsbCall.readPipeAsync m.context.interruptInPipe ref))
  if result ≠ kIOReturnSuccess then
    modify fun m => (m.interruptRequestRelease ref).releaseInterruptRequest
    return ⟨⟨mapIoReturn result, describeIoReturn "submit CBI interrupt-IN" result⟩,
      completion, 0⟩
  modify fun m => { m with outstanding := ref :: m.outstanding }
  let completed ← unread (runUntilInterrupt timeoutMs)
  if completed then
    unread (takeCompletion ref completion detail.text)
  else
    abandonInterrupt completion detail

/-! ## The operations -/

/-- What an operation does after it is entered. -/
def macOperation (current : RunLoopRef) (detail : DetailBuffer) :
    (call : CbiIoCall) → DetailIo (CbiIoReply call)
  | .openSeize _ => unread (macOpenSeize current detail.text)
  | .close _ => macClose current detail
  | .adsc cdb timeoutMs _ => unread (macAdsc current cdb timeoutMs detail.text)
  | .bulkIn buffer timeoutMs _ => macBulkIn current buffer timeoutMs detail
  | .bulkOut buffer timeoutMs _ => macBulkOut current buffer timeoutMs detail
  | .interruptInWithDeadline completion timeoutMs _ =>
      macInterruptInWithDeadline current completion timeoutMs detail
  | .clearStall direction _ => unread (macClearStall current direction detail.text)
  | .prepareCommandBlockReset _ => unread (macPrepareCommandBlockReset current detail.text)
  | .finishCommandBlockReset recovered _ =>
      unread (macFinishCommandBlockReset current recovered detail.text)

/-- The operation of the adapter behind each call, on the thread of `current`. -/
def macIo (current : RunLoopRef) (d : BufferCall) : DetailIo (CbiIoReply d.call) := do
  Prog.call (Sum.inr (.entered d.detail))
  macOperation current d.detail d.call

/-- `mac_destroy_io` up to the end of the context. The array of its own has no initialiser, and
holds what was on the stack before. -/
def macDestroyIo (current : RunLoopRef) (stack : Vector UInt8 maxErrorText) : DetailIo Unit := do
  let m ← get
  if m.context.isOpen then
    let _ ← macIo current (.close (Cells.fresh stack))
  modify fun m => { m with context := removeEventSource m.context }
  modify MacState.releaseInterruptRequest

end Buffered

/-! ## Texts -/

namespace DetailBuffer

variable {buffer : DetailBuffer} {used : ℕ}

/-- The bytes that `snprintf` stores fit behind the first `used` ones. -/
theorem append_fits (h : used < maxErrorText) (pieces : List (List UInt8)) :
    used + ((pieces.flatten.takeWhile (· ≠ 0)).take (maxErrorText - used - 1)).length <
      maxErrorText := by
  have hlength := List.length_take_le (maxErrorText - used - 1) (pieces.flatten.takeWhile (· ≠ 0))
  omega

/-- Behind a text goes as much of the pieces as has room. -/
theorem string_append (h : buffer.string.length < maxErrorText) (pieces : List (List UInt8)) :
    (buffer.append buffer.string.length pieces).string =
      buffer.string ++ (pieces.flatten.takeWhile (· ≠ 0)).take
        (maxErrorText - buffer.string.length - 1) := by
  have hnoNul : 0 ∉ (pieces.flatten.takeWhile (· ≠ 0)).take
      (maxErrorText - buffer.string.length - 1) := fun hmem => by
    simpa using List.mem_takeWhile_imp (List.mem_of_mem_take hmem)
  rw [append, Cells.string_putString le_rfl (append_fits h pieces) hnoNul, List.take_length]

/-- A buffer with a text still holds one after an append. -/
theorem holdsText_append (h : buffer.HoldsText) (pieces : List (List UInt8)) :
    (buffer.append buffer.string.length pieces).HoldsText :=
  Cells.holdsText_putString (fun _ hj => h.written hj.le) (append_fits h.length_lt pieces)

/-- `append_io_return` leaves a text. -/
theorem holdsText_appendIoReturn (h : buffer.HoldsText) (operation : String) (result : IOReturn) :
    (buffer.appendIoReturn operation result).HoldsText := by
  unfold appendIoReturn
  dsimp only
  rw [if_pos h.length_lt]
  exact holdsText_append h _

/-- A text that fills the buffer stays as it is, on both sides. -/
theorem text_appendIoReturn (buffer : DetailBuffer) (operation : String) (result : IOReturn) :
    (buffer.appendIoReturn operation result).text =
      M65.appendIoReturn buffer.text operation result := by
  have hbytes : ∀ byte ∈ buffer.string, decide (byte ≠ 0) = true := fun byte hbyte =>
    decide_eq_true fun hzero => buffer.zero_notMem_string (hzero ▸ hbyte)
  apply ext_text
  unfold appendIoReturn M65.appendIoReturn Text.format
  dsimp only
  rw [List.flatten_cons]
  -- snprintf at the end of a full buffer has only the terminator to write
  by_cases hroom : buffer.string.length < maxErrorText
  · have htext := text_bytes_of_lt hroom
    have hlength : buffer.string.length ≤ maxErrorText - 1 := Nat.le_sub_one_of_lt hroom
    -- with room, what is written ends at the capacity, as the text that is kept does
    rw [if_pos hroom, text_bytes_of_lt, string_append hroom, htext,
      List.takeWhile_append_of_pos hbytes, List.take_append, List.take_of_length_le hlength,
      Nat.sub_right_comm]
    · simp only [List.length_eq_zero_iff]
    · rw [string_append hroom, List.length_append]
      exact append_fits hroom _
  · have htext := text_bytes buffer
    have hall : ∀ byte ∈ buffer.text.bytes, decide (byte ≠ 0) = true := fun byte hbyte =>
      hbytes byte (List.mem_of_mem_take (htext ▸ hbyte))
    have hfull : buffer.text.bytes.length = maxErrorText - 1 := by
      rw [htext, List.length_take_of_le (by omega)]
    rw [if_neg hroom, List.takeWhile_append_of_pos hall, ← hfull, List.take_left]

end DetailBuffer

/-! ## Hiding the reads -/

section Hiding

variable {current : RunLoopRef} {detail : DetailBuffer}

/-- Without the reads, `append_io_return` is a function of the buffer. -/
theorem hideReads_appendIoReturn (operation : String) (result : IOReturn) :
    (Buffered.appendIoReturn detail operation result).hide readReply =
      pure (detail.appendIoReturn operation result) := rfl

/-- What follows knows the buffer by its text. -/
theorem hideReads_abortBeforeClose {β : Type} {k : IOReturn × DetailBuffer → MacIo β}
    {k' : IOReturn × ErrorText → MacIo β}
    (hk : ∀ aborted detail, k (aborted, detail) = k' (aborted, detail.text)) :
    (Buffered.abortBeforeClose current detail).hide readReply >>= k =
      abortBeforeClose current detail.text >>= k' := by
  unfold Buffered.abortBeforeClose abortBeforeClose
  simp only [hide_bind, hide_get, hide_ite, hide_pure, hide_lift, bind_assoc]
  refine bind_congr fun m => ?_
  by_cases hforeign : (!onTransportRunLoop current m.context) = true
  · rw [if_pos hforeign, if_pos hforeign, pure_bind, pure_bind, hk, DetailBuffer.text_write]
  · rw [if_neg hforeign, if_neg hforeign, bind_assoc, bind_assoc]
    refine bind_congr fun aborted => ?_
    rw [pure_bind, pure_bind, hk]

/-- Without the reads, a failed abort is described if nothing else is. -/
theorem hideReads_describeAbort (detail : DetailBuffer) (aborted : IOReturn) :
    ∃ described : DetailBuffer, (Buffered.describeAbort detail aborted).hide readReply =
        pure described ∧ described.text = if detail.text.bytes = [] then
          describeIoReturn "abort pending CBI interrupt before close" aborted else detail.text := by
  unfold Buffered.describeAbort
  rw [hide_bind, hide_watch, pure_bind, hide_ite, hide_pure, hide_pure]
  simp only [DetailBuffer.text_eq_nil_iff]
  by_cases hempty : detail.first.byte = 0
  · rw [if_pos hempty, if_pos hempty]
    exact ⟨_, rfl, DetailBuffer.text_write _ _⟩
  · rw [if_neg hempty, if_neg hempty]
    exact ⟨_, rfl, rfl⟩

/-- Without the reads, `mac_close` is that on texts. -/
theorem hideReads_macClose :
    (Buffered.macClose current detail).hide readReply = macClose current detail.text := by
  unfold Buffered.macClose macClose
  simp only [hide_bind, hide_get, hide_ite, hide_pure]
  refine bind_congr fun m => if_congr Iff.rfl rfl ?_
  refine hideReads_abortBeforeClose fun aborted detail => ?_
  rw [hide_lift]
  refine bind_congr fun result => bind_congr fun _ => if_congr Iff.rfl ?_ ?_
  · obtain ⟨described, hdescribed, htext⟩ := hideReads_describeAbort detail aborted
    dsimp only
    rw [hdescribed, pure_bind, ← htext]
    by_cases hclosed : result ≠ kIOReturnSuccess
    · rw [if_pos hclosed, if_pos hclosed, hideReads_appendIoReturn, pure_bind,
        DetailBuffer.text_appendIoReturn]
    · rw [if_neg hclosed, if_neg hclosed]
  · by_cases hclosed : result ≠ kIOReturnSuccess
    · rw [if_pos hclosed, if_pos hclosed, DetailBuffer.text_write]
    · rw [if_neg hclosed, if_neg hclosed]

/-- The end of a bulk transfer, when what follows knows the buffer by its text. -/
theorem hideReads_bulkResult {β : Type} {k : DetailBuffer → MacIo β} {k' : ErrorText → MacIo β}
    (hk : ∀ detail, k detail = k' detail.text) (pipe : UInt8) (name resynchronize : String)
    (result : IOReturn) :
    (Buffered.bulkResult pipe name resynchronize result detail).hide readReply >>= k =
      bulkResult pipe name resynchronize result detail.text >>= k' := by
  unfold Buffered.bulkResult bulkResult
  simp only [hide_bind, hide_ite, hide_pure, hide_lift, hideReads_appendIoReturn]
  by_cases hok : result = kIOReturnSuccess
  · rw [if_pos hok, if_pos hok, pure_bind, pure_bind, hk]
  rw [if_neg hok, if_neg hok]
  by_cases htimeout : (!isTimeout result) = true
  · rw [if_pos htimeout, if_pos htimeout, pure_bind, pure_bind, hk, DetailBuffer.text_write]
  rw [if_neg htimeout, if_neg htimeout]
  simp only [bind_assoc]
  refine bind_congr fun _ => bind_congr fun cleared => ?_
  by_cases hcleared : cleared ≠ kIOReturnSuccess
  · rw [if_pos hcleared, if_pos hcleared, pure_bind, pure_bind, hk,
      DetailBuffer.text_appendIoReturn, DetailBuffer.text_write]
  · rw [if_neg hcleared, if_neg hcleared, pure_bind, pure_bind, hk, DetailBuffer.text_write]

/-- Without the reads, `mac_bulk_in` is that on texts. -/
theorem hideReads_macBulkIn {n : ℕ} {buffer : Vector UInt8 n} {timeoutMs : ℕ} :
    (Buffered.macBulkIn current buffer timeoutMs detail).hide readReply =
      macBulkIn current buffer timeoutMs detail.text := by
  unfold Buffered.macBulkIn macBulkIn
  simp only [hide_bind, hide_get, hide_ite, hide_pure, hide_lift]
  refine bind_congr fun m => if_congr Iff.rfl rfl (if_congr Iff.rfl rfl ?_)
  refine bind_congr fun reply => hideReads_bulkResult ?_ _ _ _ _
  exact fun detail => rfl

/-- Without the reads, `mac_bulk_out` is that on texts. -/
theorem hideReads_macBulkOut {n : ℕ} {buffer : Vector UInt8 n} {timeoutMs : ℕ} :
    (Buffered.macBulkOut current buffer timeoutMs detail).hide readReply =
      macBulkOut current buffer timeoutMs detail.text := by
  unfold Buffered.macBulkOut macBulkOut
  simp only [hide_bind, hide_get, hide_ite, hide_pure, hide_lift]
  refine bind_congr fun m => if_congr Iff.rfl rfl (if_congr Iff.rfl rfl ?_)
  refine bind_congr fun result => hideReads_bulkResult ?_ _ _ _ _
  exact fun detail => rfl

/-- Without the reads, a read of the interrupt is given up as on texts. -/
theorem hideReads_abandonInterrupt {completion : Vector UInt8 cbiStatusLength} :
    (Buffered.abandonInterrupt completion detail).hide readReply =
      abandonInterrupt completion := by
  unfold Buffered.abandonInterrupt abandonInterrupt
  simp only [hide_bind, hide_get, hide_ite, hide_pure, hide_lift, hide_modify,
    hideReads_appendIoReturn, pure_bind]
  refine bind_congr fun _ => bind_congr fun aborted => if_congr Iff.rfl ?_ ?_
  · rw [DetailBuffer.text_appendIoReturn, DetailBuffer.text_write]
  refine bind_congr fun m => bind_congr fun cleared => ?_
  by_cases hcleared : cleared ≠ kIOReturnSuccess
  · rw [if_pos hcleared, if_pos hcleared, DetailBuffer.text_appendIoReturn,
      DetailBuffer.text_write]
  · rw [if_neg hcleared, if_neg hcleared, DetailBuffer.text_write]

/-- Without the reads, `mac_interrupt_in_with_deadline` is that on texts. -/
theorem hideReads_macInterruptInWithDeadline {completion : Vector UInt8 cbiStatusLength}
    {timeoutMs : ℕ} :
    (Buffered.macInterruptInWithDeadline current completion timeoutMs detail).hide readReply =
      macInterruptInWithDeadline current completion timeoutMs detail.text := by
  unfold Buffered.macInterruptInWithDeadline macInterruptInWithDeadline
  simp only [hide_bind, hide_get, hide_ite, hide_pure, hide_lift, hide_modify,
    hideReads_abandonInterrupt]

/-- Without the reads, every operation is that on texts. -/
theorem hideReads_macOperation (call : CbiIoCall) (htext : call.detail = detail.text) :
    (Buffered.macOperation current detail call).hide readReply = macIo current call := by
  cases call with
  | close =>
    obtain rfl : _ = detail.text := htext
    exact hideReads_macClose
  | bulkIn =>
    obtain rfl : _ = detail.text := htext
    exact hideReads_macBulkIn
  | bulkOut =>
    obtain rfl : _ = detail.text := htext
    exact hideReads_macBulkOut
  | interruptInWithDeadline =>
    obtain rfl : _ = detail.text := htext
    exact hideReads_macInterruptInWithDeadline
  | _ =>
    obtain rfl : _ = detail.text := htext
    exact hide_lift _

/-- Without its reads, an operation is the one on texts. -/
theorem hideReads_macIo (d : BufferCall) :
    (Buffered.macIo current d).hide readReply = macIo current d.call := by
  unfold Buffered.macIo
  rw [hide_bind, hide_watch, pure_bind, hideReads_macOperation d.call d.text_eq]

/-- A run on buffers is a run on texts with the same calls of IOUSBLib. -/
theorem exec_macIo {d : BufferCall} {m m' : MacState} {t : List (Event MacState DetailReply)}
    {reply : CbiIoReply d.call} (h : Exec (Buffered.macIo current d) m t reply m') :
    Exec (macIo current d.call) m (t.filterMap Event.visible) reply m' := by
  rw [← hideReads_macIo d]
  exact exec_of_hide h

end Hiding

/-! ## Reads of buffers that hold a text -/

section Reads

variable {current : RunLoopRef} {detail : DetailBuffer} {α : Type}

/-- Every read of the program is one of written bytes, and its results satisfy `Q`. -/
abbrev ReadsWritten (p : DetailIo α) (Q : α → Prop) : Prop :=
  Triple (fun e => InitialisedCall e.call) (fun _ => True) p fun a _ => Q a

/-- Programs that read written bytes one after the other. -/
theorem ReadsWritten.bind {β : Type} {p : DetailIo α} {f : α → DetailIo β} {Q : α → Prop}
    {R : β → Prop} (hp : ReadsWritten p Q) (hf : ∀ a, Q a → ReadsWritten (f a) R) :
    ReadsWritten (p >>= f) R :=
  Triple.bind hp fun a _ _ _ _ ha hexec => hf a ha trivial hexec

/-- A program that does not look at the buffer reads nothing unwritten. -/
theorem readsWritten_unread (p : MacIo α) : ReadsWritten (Buffered.unread p) fun _ => True :=
  .lift fun _ _ _ _ _ _ => ⟨fun _ _ => trivial, trivial⟩

/-- A change of the state reads nothing unwritten. -/
theorem readsWritten_modify (f : MacState → MacState) :
    ReadsWritten (modify f) fun _ => True :=
  .modify fun _ => id

/-- A read of written bytes. -/
theorem readsWritten_watch (watch : DetailWatch) (h : watch.Initialised) :
    ReadsWritten (Prog.call (Sum.inr watch)) fun _ => True :=
  .call fun _ _ _ => ⟨h, trivial⟩

/-- On a text, `append_io_return` reads written bytes and leaves a text. -/
theorem readsWritten_appendIoReturn (h : detail.HoldsText) (operation : String)
    (result : IOReturn) :
    ReadsWritten (Buffered.appendIoReturn detail operation result) fun appended =>
      appended.HoldsText :=
  (readsWritten_watch (.strlen detail) h).bind fun _ _ =>
    .pure fun _ _ => DetailBuffer.holdsText_appendIoReturn h operation result

/-- On a text, the first part of `mac_close` leaves a text. -/
theorem readsWritten_abortBeforeClose (h : detail.HoldsText) :
    ReadsWritten (Buffered.abortBeforeClose current detail) fun aborted =>
      aborted.2.HoldsText := by
  refine .read fun m _ => .ite (fun _ => ?_) fun _ => ?_
  · exact .pure fun _ _ => detail.holdsText_write wrongThread
  · exact (readsWritten_unread _).bind fun _ _ => .pure fun _ _ => h

/-- The first byte of a text was written. -/
theorem first_written (h : detail.HoldsText) : detail.first.written = true :=
  h.written (j := ⟨0, by decide⟩) (Nat.zero_le _)

/-- On a text, the description of an abort reads written bytes and leaves a text. -/
theorem readsWritten_describeAbort (h : detail.HoldsText) (aborted : IOReturn) :
    ReadsWritten (Buffered.describeAbort detail aborted) fun described =>
      described.HoldsText := by
  refine (readsWritten_watch (.firstByte detail) (first_written h)).bind fun _ _ =>
    .ite (fun _ => ?_) fun _ => ?_
  · exact .pure fun _ _ => detail.holdsText_write _
  · exact .pure fun _ _ => h

/-- On a text, `mac_close` reads written bytes. -/
theorem readsWritten_macClose (h : detail.HoldsText) :
    ReadsWritten (Buffered.macClose current detail) fun _ => True := by
  refine .read fun m _ => .ite (fun _ => .pure fun _ _ => trivial) fun _ => ?_
  refine (readsWritten_abortBeforeClose h).bind fun aborted haborted => ?_
  refine (readsWritten_unread _).bind fun result _ => ?_
  refine (readsWritten_modify _).bind fun _ _ => .ite (fun _ => ?_) fun _ => ?_
  · refine (readsWritten_describeAbort haborted _).bind fun described hdescribed => ?_
    refine .ite (fun _ => ?_) fun _ => .pure fun _ => id
    exact (readsWritten_appendIoReturn hdescribed _ _).bind fun _ _ => .pure fun _ => id
  · exact .ite (fun _ => .pure fun _ => id) fun _ => .pure fun _ => id

/-- What is appended to was written just before. -/
theorem readsWritten_bulkResult (pipe : UInt8) (name resynchronize : String) (result : IOReturn) :
    ReadsWritten (Buffered.bulkResult pipe name resynchronize result detail) fun _ => True := by
  refine .ite (fun _ => .pure fun _ => id) fun _ => .ite (fun _ => .pure fun _ => id) fun _ => ?_
  refine (readsWritten_unread _).bind fun _ _ => (readsWritten_unread _).bind fun cleared _ => ?_
  refine .ite (fun _ => ?_) fun _ => .pure fun _ => id
  have hwritten := detail.holdsText_write (describeIoReturn name result)
  exact (readsWritten_appendIoReturn hwritten _ _).mono (fun _ => id) fun _ _ _ => trivial

/-- `mac_bulk_in` reads only what it wrote. -/
theorem readsWritten_macBulkIn {n : ℕ} {buffer : Vector UInt8 n} {timeoutMs : ℕ} :
    ReadsWritten (Buffered.macBulkIn current buffer timeoutMs detail) fun _ => True := by
  refine .read fun m _ => .ite (fun _ => .pure fun _ => id) fun _ => ?_
  refine .ite (fun _ => .pure fun _ => id) fun _ => ?_
  refine (readsWritten_unread _).bind fun reply _ => ?_
  exact (readsWritten_bulkResult _ _ _ _).bind fun _ _ => .pure fun _ => id

/-- `mac_bulk_out` reads only what it wrote. -/
theorem readsWritten_macBulkOut {n : ℕ} {buffer : Vector UInt8 n} {timeoutMs : ℕ} :
    ReadsWritten (Buffered.macBulkOut current buffer timeoutMs detail) fun _ => True := by
  refine .read fun m _ => .ite (fun _ => .pure fun _ => id) fun _ => ?_
  refine .ite (fun _ => .pure fun _ => id) fun _ => ?_
  refine (readsWritten_unread _).bind fun result _ => ?_
  exact (readsWritten_bulkResult _ _ _ _).bind fun _ _ => .pure fun _ => id

/-- Giving up on the interrupt reads only what it wrote. -/
theorem readsWritten_abandonInterrupt (completion : Vector UInt8 cbiStatusLength) :
    ReadsWritten (Buffered.abandonInterrupt completion detail) fun _ => True := by
  have hwritten := detail.holdsText_write (errorText "CBI interrupt-IN timed out and was aborted")
  refine (readsWritten_unread _).bind fun _ _ => (readsWritten_unread _).bind fun aborted _ => ?_
  refine .ite (fun _ => ?_) fun _ => .read fun m _ => ?_
  · refine (readsWritten_appendIoReturn hwritten _ _).bind fun _ _ => ?_
    exact (readsWritten_modify _).bind fun _ _ => .pure fun _ => id
  refine (readsWritten_unread _).bind fun cleared _ => .ite (fun _ => ?_) fun _ => ?_
  · refine (readsWritten_appendIoReturn hwritten _ _).bind fun _ _ => ?_
    exact (readsWritten_modify _).bind fun _ _ => .pure fun _ => id
  · exact (readsWritten_modify _).bind fun _ _ => .pure fun _ => id

/-- `mac_interrupt_in_with_deadline` reads only what it wrote. -/
theorem readsWritten_macInterruptInWithDeadline (completion : Vector UInt8 cbiStatusLength)
    (timeoutMs : ℕ) :
    ReadsWritten (Buffered.macInterruptInWithDeadline current completion timeoutMs detail)
      fun _ => True := by
  refine .read fun m _ => .ite (fun _ => .pure fun _ => id) fun _ => ?_
  refine .ite (fun _ => .pure fun _ => id) fun _ => ?_
  refine (readsWritten_unread _).bind fun allocated _ => ?_
  refine .ite (fun _ => .pure fun _ => id) fun _ => (readsWritten_modify _).bind fun _ _ => ?_
  refine (readsWritten_unread _).bind fun result _ => .ite (fun _ => ?_) fun _ => ?_
  · exact (readsWritten_modify _).bind fun _ _ => .pure fun _ => id
  refine (readsWritten_modify _).bind fun _ _ => (readsWritten_unread _).bind fun completed _ => ?_
  exact .ite (fun _ => readsWritten_unread _) fun _ => readsWritten_abandonInterrupt completion

/-- An operation that is entered with a terminated text reads written bytes only. -/
theorem readsWritten_macIo {d : BufferCall} (h : Initialised d) :
    ReadsWritten (Buffered.macIo current d) fun _ => True := by
  refine (readsWritten_watch (.entered d.detail) h).bind fun _ _ => ?_
  obtain ⟨call, detail, htext⟩ := d
  cases call with
  | close => exact readsWritten_macClose h
  | bulkIn => exact readsWritten_macBulkIn
  | bulkOut => exact readsWritten_macBulkOut
  | interruptInWithDeadline => exact readsWritten_macInterruptInWithDeadline _ _
  | _ => exact readsWritten_unread _

/-- An operation tells first which buffer it is entered with. -/
theorem entered_of_exec {d : BufferCall} {m m' : MacState}
    {t : List (Event MacState DetailReply)} {reply : CbiIoReply d.call}
    (h : Exec (Buffered.macIo current d) m t reply m') :
    ∃ e ∈ t, e.call = .inr (.entered d.detail) := by
  obtain ⟨u, t', -, rfl⟩ := exec_call_bind.1 h
  exact ⟨_, List.mem_cons_self, rfl⟩

end Reads

end M65
