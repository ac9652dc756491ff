import FloppyProbe.Probe.Attempt

/-!
# The read loop

`readImageFrom` sends the READ (10) commands of its chunks in order and stops at the first one
that fails; when it completes, the image is what these commands returned, one after the other.
-/

namespace M65

open Interaction

/-- The bytes that a command returned. -/
def Execution.returned (e : Execution) : List UInt8 := e.reply.buffer.toList

/-- The number of chunks of a complete read. -/
abbrev readChunks : ℕ := 160

/-- The bytes of a chunk. -/
abbrev chunkSize : ℕ := readChunkBlocks * blockSize

/-- The READ (10) of chunk `i`. -/
def chunkRequest (i : ℕ) : Request := .read (UInt32.ofNat (readChunkBlocks * i)) 10

/-- The chunks from `i` on. -/
def chunkPlan (i count : ℕ) : List WorkflowStep :=
  (List.range' i count).map fun i => (chunkRequest i).step

/-- The chunks of a complete read are all of ten blocks. -/
theorem chunkAt_chunk {i : ℕ} (h : i < readChunks) :
    chunkAt (readChunkBlocks * i) = readChunkBlocks := by
  simp only [chunkAt, readChunkBlocks, blocks1581, readChunks] at *
  split <;> omega

/-! ## Buffers -/

section Splice

variable {image bytes : List UInt8} {offset : ℕ}

/-- Bytes that are put inside an image keep its length. -/
theorem length_splice (h : offset + bytes.length ≤ image.length) :
    (splice image offset bytes).length = image.length := by
  simp only [splice, List.length_append, List.length_take, List.length_drop]
  omega

/-- What was stored so far is extended by the spliced bytes. -/
theorem take_splice {n : ℕ} (hn : offset + bytes.length = n) (h : offset ≤ image.length) :
    (splice image offset bytes).take n = image.take offset ++ bytes := by
  have hlen : (image.take offset ++ bytes).length = n := by
    simp only [List.length_append, List.length_take]
    omega
  rw [splice, ← hlen, List.take_left]

end Splice

/-! ## The loop -/

/-- A report that differs in the description of a failure only. -/
def Report1581.Describes (report report' : Report1581) : Prop :=
  ∃ code reason sense,
    report' = { report with code := code, reason := reason, sense := sense }

/-- A failed command changes the description of the failure only. -/
theorem Report1581.describes_commandFailure (report : Report1581) (operation : String)
    (result : CommandResult) : report.Describes (report.commandFailure operation result) :=
  ⟨_, _, _, rfl⟩

/-- The size of the buffer of the READ (10) at `lba`. -/
abbrev chunkBytes (lba : ℕ) : ℕ := (UInt16.ofNat (chunkAt lba)).toNat * blockSize

/-- The READ (10) that the loop sends at `lba`. -/
abbrev chunkCommand (lba : ℕ) (buffer : Vector UInt8 (chunkBytes lba)) : Command :=
  readCommand (UInt32.ofNat lba) (UInt16.ofNat (chunkAt lba)) buffer

/-- One round of the loop from the flag `s`: the flag is read, the chunk at `lba` is sent, and
the rest is read if neither of them ends the loop. -/
inductive ReadRound (lba : ℕ) (image : List UInt8) (report : Report1581) (s : Bool) :
    List WorkflowEvent → Bool × List UInt8 × Report1581 → Bool → Prop
  | interrupted {n : ℕ} {report' : Report1581} (hobserved : requestInterrupt^[n] s = true)
      (hdescribes : report.Describes report') :
      ReadRound lba image report s [⟨s, .testInterrupt, n⟩] (false, image, report') true
  | failed {n : ℕ} {t : List WorkflowEvent} {buffer} {reply : ExecuteReply (chunkBytes lba)}
      {report' : Report1581} {s' : Bool}
      (hquiet : requestInterrupt^[n] s = false)
      (hattempt : Attempt (chunkCommand lba buffer) false t reply s')
      (hfailed : succeeded (chunkCommand lba buffer) reply = false)
      (hdescribes : report.Describes report') :
      ReadRound lba image report s (⟨s, .testInterrupt, n⟩ :: t)
        (false, splice image (lba * blockSize) reply.buffer.toList, report') s'
  | continued {n : ℕ} {t₁ t₂ : List WorkflowEvent} {buffer}
      {reply : ExecuteReply (chunkBytes lba)} {out} {s₁ s' : Bool}
      (hquiet : requestInterrupt^[n] s = false)
      (hattempt : Attempt (chunkCommand lba buffer) false t₁ reply s₁)
      (hsucceeded : succeeded (chunkCommand lba buffer) reply = true)
      (hrest : Exec (readImageFrom (lba + chunkAt lba)
        (splice image (lba * blockSize) reply.buffer.toList) report) s₁ t₂ out s') :
      ReadRound lba image report s (⟨s, .testInterrupt, n⟩ :: (t₁ ++ t₂)) out s'

variable {s s' : Bool} {t : List WorkflowEvent}

/-- Every execution of the loop is one round, and the rest. -/
theorem readRound_of_exec {lba : ℕ} {image : List UInt8} {report : Report1581}
    {out : Bool × List UInt8 × Report1581} (hlba : lba < blocks1581)
    (h : Exec (readImageFrom lba image report) s t out s') :
    ReadRound lba image report s t out s' := by
  rw [readImageFrom, dif_pos hlba] at h
  simp only [exec_bind, exec_testInterrupted, exec_ite, exec_pure] at h
  obtain ⟨_, _, _, t₁, ⟨n, rfl, rfl, rfl⟩, h, rfl⟩ := h
  rcases h with ⟨hobserved, rfl, rfl, rfl⟩ | ⟨hquiet, ⟨u, answer, s₁, v, hread, h, rfl⟩⟩
  · rw [hobserved]
    exact .interrupted hobserved ⟨_, _, _, rfl⟩
  · have hquiet : requestInterrupt^[n] s = false := by simpa using hquiet
    rw [hquiet] at hread
    obtain ⟨reply, hattempt, hgood, hbuffer⟩ := readBlocks_attempt hread
    rw [hbuffer, hgood] at h
    rcases h with ⟨hbad, rfl, rfl, rfl⟩ | ⟨hok, h⟩
    · rw [List.append_nil]
      exact .failed hquiet hattempt (by simpa using hbad) (report.describes_commandFailure _ _)
    · show ReadRound lba image report s (⟨s, .testInterrupt, n⟩ :: (u ++ v)) out s'
      exact .continued hquiet hattempt (by simpa using hok) h

/-- What the loop has done when it ends: it followed `plan`, and if it completed, then the report
is unchanged and what its commands returned stands behind the bytes before `offset`. -/
structure ReadOutcome (plan : List WorkflowStep) (offset : ℕ) (image : List UInt8)
    (report : Report1581) (t : List WorkflowEvent) (out : Bool × List UInt8 × Report1581) :
    Prop where
  follows : Follows stepOf Passed plan t out.1
  describes : report.Describes out.2.2
  length_eq : out.2.1.length = image.length
  unchanged : out.1 = true → out.2.2 = report
  image_eq : out.1 = true → out.2.1 = image.take offset ++ (executions t).flatMap (·.returned)

/-- The command of a round is that of its chunk. -/
theorem chunkCommand_wire {i : ℕ} (h : i < readChunks) (buffer) :
    (chunkCommand (readChunkBlocks * i) buffer).wire = (chunkRequest i).wire := by
  show (Request.read (UInt32.ofNat (readChunkBlocks * i))
    (UInt16.ofNat (chunkAt (readChunkBlocks * i)))).wire = (chunkRequest i).wire
  rw [chunkAt_chunk h]
  rfl

/-- From chunk `i` on, by induction on the number of chunks that are left. -/
theorem readImageFrom_outcome {k i : ℕ} (hk : i + k = readChunks) {image : List UInt8}
    (himage : image.length = imageSize1581) {report : Report1581}
    {out : Bool × List UInt8 × Report1581}
    (h : Exec (readImageFrom (readChunkBlocks * i) image report) s t out s') :
    ReadOutcome (chunkPlan i k) (chunkSize * i) image report t out := by
  induction k generalizing i image s t with
  | zero =>
      have hend : ¬ readChunkBlocks * i < blocks1581 := by
        simp only [readChunks, readChunkBlocks, blocks1581] at *
        omega
      have hlength : image.length ≤ chunkSize * i := by
        simp only [readChunks, chunkSize, readChunkBlocks, imageSize1581, blocks1581,
          blockSize] at *
        omega
      rw [readImageFrom, dif_neg hend, exec_pure] at h
      obtain ⟨rfl, rfl, rfl⟩ := h
      refine ⟨.done, ⟨_, _, _, rfl⟩, rfl, fun _ => rfl, fun _ => ?_⟩
      simp [List.take_of_length_le hlength]
  | succ k ih =>
      have hi : i < readChunks := by omega
      have hlba : readChunkBlocks * i < blocks1581 := by
        simp only [readChunks, readChunkBlocks, blocks1581] at *
        omega
      have hplan : chunkPlan i (k + 1) = (chunkRequest i).step :: chunkPlan (i + 1) k := rfl
      have hoffset : readChunkBlocks * i * blockSize = chunkSize * i := by
        simp only [chunkSize, readChunkBlocks, blockSize]
        omega
      have hfits : chunkSize * i + chunkSize ≤ image.length := by
        simp only [readChunks, chunkSize, readChunkBlocks, imageSize1581, blocks1581,
          blockSize] at *
        omega
      have hreturned (buffer : Vector UInt8 (chunkBytes (readChunkBlocks * i))) :
          buffer.toList.length = chunkSize := by
        rw [Vector.length_toList, chunkBytes, chunkAt_chunk hi]
        rfl
      rw [hplan]
      -- a round is interrupted, its READ fails, or the chunk is put in its place
      cases readRound_of_exec hlba h with
      | interrupted hobserved hdescribes =>
          refine ⟨.haltSilent _ rfl (Observed.not_passed hobserved), hdescribes, rfl, ?_, ?_⟩ <;>
            simp
      | @failed _ _ _ reply _ _ hquiet hattempt hfailed hdescribes =>
          have hfollows := hattempt.follows
          rw [hfailed, chunkCommand_wire hi] at hfollows
          rw [hoffset]
          refine ⟨.silent rfl hquiet (hfollows.extend _), hdescribes, ?_, by simp, by simp⟩
          exact length_splice (by rwa [hreturned])
      | @continued _ t₁ t₂ buffer reply _ s₁ _ hquiet hattempt hsucceeded hrest =>
          have hfollows := hattempt.follows
          rw [hsucceeded, chunkCommand_wire hi] at hfollows
          rw [hoffset, chunkAt_chunk hi] at hrest
          have hsplice : (splice image (chunkSize * i) reply.buffer.toList).length =
            image.length := length_splice (by rwa [hreturned])
          rw [← Nat.mul_succ] at hrest
          have hrest := ih (by omega) (hsplice.trans himage) hrest
          refine ⟨.silent rfl hquiet (hfollows.append hrest.follows), hrest.describes,
            hrest.length_eq.trans hsplice, hrest.unchanged, fun hdone => ?_⟩
          have hexecutions := (hattempt.executions_of_succeeded hsucceeded).2.1
          have htake : (splice image (chunkSize * i) reply.buffer.toList).take
              (chunkSize * (i + 1)) = image.take (chunkSize * i) ++ reply.buffer.toList :=
            take_splice (by rw [hreturned, Nat.mul_succ]) (by omega)
          rw [hrest.image_eq hdone, htake]
          show _ = _ ++ (executions (t₁ ++ t₂)).flatMap _
          rw [executions_append, hexecutions, List.flatMap_append, List.flatMap_singleton,
            List.append_assoc]
          rfl

/-- A complete read follows its plan. -/
theorem readCompleteImage_outcome {image : List UInt8} (himage : image.length = imageSize1581)
    {report : Report1581} {out : Bool × List UInt8 × Report1581}
    (h : Exec (readCompleteImage image report) s t out s') :
    ReadOutcome (chunkPlan 0 readChunks) 0 image report t out :=
  readImageFrom_outcome rfl himage h

end M65
