import FloppyProbe.JsonText.Bounds
import FloppyProbe.Output.JsonMachine
import FloppyProbe.Output.JsonRefinement

/-!
# The writer in `size_t` arithmetic has a result

Every function of the writer in `size_t` arithmetic has a result, and it is that of the function in
unbounded arithmetic (`Mimics`): a text stays shorter than its block, whose size is at most
`2 ^ 63`, a count never exceeds the length of the text, and at most 16 containers are open
(`Mirrors`).
-/

namespace M65

open BoundedLoop

variable {allocator : Allocator} {writer : JsonMachine} {json : Json}

/-! ## The relation -/

/-- The entry of an open container. -/
def machineLevel (level : JsonLevel) : MachineLevel :=
  ⟨some level.container, UInt64.ofNat level.count, level.expectingValue⟩

/-- A bracket has a byte, and so has every entry that is counted or awaited. -/
structure Counted (length : ℕ) (level : JsonLevel) : Prop where
  nonempty : 0 < length
  count_le : level.count + level.expectingValue.toNat ≤ length
  waits : level.expectingValue = true → level.container = .object

/-- A level that is counted stays so while the text grows. -/
theorem Counted.mono {length length' : ℕ} {level : JsonLevel} (h : Counted length level)
    (hle : length ≤ length') : Counted length' level :=
  ⟨Nat.lt_of_lt_of_le h.nonempty hle, h.count_le.trans hle, h.waits⟩

/-- The machine stands where the writer of unbounded arithmetic stands. -/
structure Mirrors (writer : JsonMachine) (json : Json) : Prop where
  data : writer.data = json.data
  length : writer.length.toNat = json.length
  capacity : writer.capacity.toNat = json.capacity
  depth : writer.depth.toNat = json.levels.length
  depth_le : json.levels.length ≤ jsonMaxDepth
  levels : ∀ level outer, level :: outer <:+ json.levels →
    writer.levels[outer.length]? = some (machineLevel level)
  counted : ∀ level ∈ json.levels, Counted json.length level
  rootWritten : writer.rootWritten = json.rootWritten
  failed : writer.failed = json.failed
  requests : writer.requests = json.requests
  usable : json.failed = true ∨ ∃ text, Holds json text

/-- The call of the machine has the result of the call of the writer. -/
def Mimics (step : MachineOp) (op : JsonOp) : Prop :=
  ∀ writer json, Mirrors writer json →
    ∃ writer', step writer = some ((op json).1, writer') ∧ Mirrors writer' (op json).2

/-- Two steps that follow the writer follow it one after the other. -/
theorem Mimics.andThen {first second : MachineOp} {op op' : JsonOp} (h : Mimics first op)
    (h' : Mimics second op') : Mimics (first.andThen second) (op.andThen op') := by
  intro writer json hmirrors
  obtain ⟨writer₁, heq, hmirrors₁⟩ := h writer json hmirrors
  cases hok : (op json).1 with
  | false =>
    rw [JsonOp.andThen_of_false op' hok]
    refine ⟨writer₁, ?_, hmirrors₁⟩
    simp [MachineOp.andThen, heq, hok]
  | true =>
    obtain ⟨writer₂, heq', hmirrors₂⟩ := h' writer₁ _ hmirrors₁
    have hthen : op.andThen op' json = op' (op json).2 := by simp [JsonOp.andThen, hok]
    rw [hthen]
    refine ⟨writer₂, ?_, hmirrors₂⟩
    simp [MachineOp.andThen, heq, hok, heq']

/-- Only the flag changes. -/
theorem Mirrors.fail (h : Mirrors writer json) :
    Mirrors { writer with failed := true } { json with failed := true } :=
  { h with failed := rfl, usable := .inl rfl }

/-! ## The loop of `reserve` -/

/-- Half of `SIZE_MAX` is the same number in both arithmetics. -/
theorem sizeTMax_half : (sizeTMax / 2).toNat = sizeMax / 2 := by decide

/-- The loop of `reserve` ends with the capacity of unbounded arithmetic. -/
theorem run_doubling {capacity : SizeT} (h : Doubled capacity.toNat) (required : SizeT) :
    ∃ result, run (doublingBody required) doublingRounds capacity = some result ∧
      result.map UInt64.toNat = newCapacity capacity.toNat required.toNat := by
  -- a capacity `2 ^ k` is doubled less than `64 - k` times
  refine exists_run (fun c => 63 - Nat.log2 c.toNat)
    (I := fun c => Doubled c.toNat ∧
      newCapacity c.toNat required.toNat = newCapacity capacity.toNat required.toNat)
    ?_ ⟨h, rfl⟩ (show _ < 64 by omega)
  rintro c ⟨hdoubled, hsame⟩
  have hpos := hdoubled.pos
  have hhalf : sizeMax / 2 = 2 ^ 63 - 1 := rfl
  by_cases hless : c < required
  · have hless' := UInt64.lt_iff_toNat_lt.1 hless
    by_cases hguard : sizeTMax / 2 < c
    · right
      refine ⟨none, ?_, ?_⟩
      · rw [doublingBody, if_pos hless, if_pos hguard]
      · rw [UInt64.lt_iff_toNat_lt, sizeTMax_half] at hguard
        rw [← hsame, newCapacity.eq_def c.toNat, if_pos hless', if_pos (.inl hguard)]
        rfl
    · left
      have hguard' : ¬ sizeMax / 2 < c.toNat := by
        rwa [UInt64.lt_iff_toNat_lt, sizeTMax_half] at hguard
      obtain ⟨next, hnext, hexact⟩ := exists_exactDouble (show c.toNat * 2 < 2 ^ 64 by omega)
      have hdouble := hdoubled.double (by omega)
      refine ⟨next, ?_, ⟨hexact ▸ hdouble, ?_⟩, ?_⟩
      · rw [doublingBody, if_pos hless, if_neg hguard, hnext]
        rfl
      · rw [← hsame, newCapacity.eq_def c.toNat, if_pos hless', if_neg (by omega), hexact]
      · obtain ⟨k, -, -, hk⟩ := hdoubled
        obtain ⟨k', -, hle, hk'⟩ := hdouble
        have hstep : k' = k + 1 := by
          apply Nat.pow_right_injective (le_refl 2)
          show 2 ^ k' = 2 ^ (k + 1)
          rw [← hk', hk, Nat.pow_succ]
        rw [hexact, hk', hk, Nat.log2_two_pow, Nat.log2_two_pow]
        omega
  · right
    refine ⟨some c, ?_, ?_⟩
    · rw [doublingBody, if_neg hless]
    · rw [UInt64.lt_iff_toNat_lt] at hless
      rw [← hsame, newCapacity.eq_def c.toNat, if_neg hless]
      rfl

/-! ## Appending -/

/-- What `reserve` compares with `extra`. -/
theorem exists_room {length : SizeT} (h : length.toNat < sizeMax) :
    ∃ rest room, exactSub sizeTMax length = some rest ∧ exactSub rest 1 = some room ∧
      room.toNat = sizeMax - length.toNat - 1 := by
  have hmax : sizeTMax.toNat = sizeMax := rfl
  have hone : (1 : SizeT).toNat = 1 := rfl
  obtain ⟨rest, hrest, heq⟩ := exists_exactSub (show length.toNat ≤ sizeTMax.toNat by omega)
  obtain ⟨room, hroom, heq'⟩ := exists_exactSub (show (1 : SizeT).toNat ≤ rest.toNat by omega)
  exact ⟨rest, room, hrest, hroom, by omega⟩

/-- What `reserve` compares with the capacity. -/
theorem exists_required {length extra : SizeT} (h : length.toNat + extra.toNat + 1 < 2 ^ 64) :
    ∃ sum required, exactAdd length extra = some sum ∧ exactAdd sum 1 = some required ∧
      required.toNat = length.toNat + extra.toNat + 1 := by
  have hone : (1 : SizeT).toNat = 1 := rfl
  obtain ⟨sum, hsum, heq⟩ := exists_exactAdd (show length.toNat + extra.toNat < 2 ^ 64 by omega)
  obtain ⟨required, hrequired, heq'⟩ :=
    exists_exactAdd (show sum.toNat + (1 : SizeT).toNat < 2 ^ 64 by omega)
  exact ⟨sum, required, hsum, hrequired, by omega⟩

/-- `reserve` never leaves the range of `size_t`. -/
theorem follows_reserve (extra : SizeT) :
    Mimics (reserveMachine allocator extra) (reserve allocator extra.toNat) := by
  intro writer json h
  have hfailed := h.failed
  have hlength := h.length
  have hcapacity := h.capacity
  have hrequests := h.requests
  -- a failed writer is refused at once
  rcases h.usable with hstopped | ⟨text, hholds⟩
  · rw [reserve, if_pos (.inl hstopped)]
    refine ⟨_, ?_, h.fail⟩
    simp [reserveMachine, hfailed, hstopped, JsonMachine.fail, Json.fail]
  have hworking := hholds.working
  have hbounded := hholds.length_lt
  have hdoubled := hholds.doubled.le
  have htext := hholds.length_eq
  have hmax : sizeMax = 2 ^ 64 - 1 := rfl
  rw [hworking] at hfailed
  -- no subtraction of the guard wraps, so that both writers decide it alike
  obtain ⟨rest, room, hrest, hroom, hroomEq⟩ :=
    exists_room (show writer.length.toNat < sizeMax by omega)
  rw [hlength] at hroomEq
  have hguard : room < extra ↔ sizeMax - json.length - 1 < extra.toNat := by
    rw [UInt64.lt_iff_toNat_lt, hroomEq]
  by_cases hlarge : sizeMax - json.length - 1 < extra.toNat
  · rw [reserve, if_pos (.inr hlarge)]
    refine ⟨_, ?_, h.fail⟩
    simp [reserveMachine, hfailed, hrest, hroom, hguard.2 hlarge, JsonMachine.fail, Json.fail]
  obtain ⟨sum, required, hsum, hrequired, hrequiredEq⟩ :=
    exists_required (show writer.length.toNat + extra.toNat + 1 < 2 ^ 64 by omega)
  rw [hlength] at hrequiredEq
  have hfits : required ≤ writer.capacity ↔ json.length + extra.toNat + 1 ≤ json.capacity := by
    rw [UInt64.le_iff_toNat_le, hrequiredEq, hcapacity]
  -- what the writer holds afterwards is known from the model; only the arithmetic is new
  have husable : (reserve allocator extra.toNat json).2.failed = true ∨
      ∃ text, Holds (reserve allocator extra.toNat json).2 text := by
    have hcases : (∃ json', reserve allocator extra.toNat json = (true, json') ∧ _) ∨ _ :=
      reserve_cases hholds extra.toNat
    rcases hcases with ⟨json', heq, hholds', -⟩ | hrefused
    · exact .inr ⟨text, heq ▸ hholds'⟩
    · exact .inl hrefused.failed
  rw [reserve, if_neg (by simp [hworking, hlarge])] at husable ⊢
  by_cases hroomy : json.length + extra.toNat + 1 ≤ json.capacity
  · rw [if_pos hroomy]
    refine ⟨writer, ?_, h⟩
    simp [reserveMachine, hfailed, hrest, hroom, hguard.not.2 hlarge, hsum, hrequired,
      hfits.2 hroomy]
  simp only [if_neg hroomy] at husable ⊢
  obtain ⟨result, hrun, hresult⟩ := run_doubling (hcapacity.symm ▸ hholds.doubled) required
  -- the doubling is all that is left, and `run_doubling` says what it computes
  have hmachine : reserveMachine allocator extra writer =
      result.elim writer.fail fun capacity =>
        if allocator.grants json.requests then
          some (true, { writer with
            data := some (allocator.block json.requests capacity.toNat (json.data.getD []))
            capacity
            requests := writer.requests + 1 })
        else
          JsonMachine.fail { writer with requests := writer.requests + 1 } := by
    simp only [reserveMachine, hfailed, hrest, hroom, hguard.not.2 hlarge, hsum, hrequired,
      hfits.not.2 hroomy, hrun, hrequests, h.data, Option.bind_eq_bind, Option.bind_some,
      Bool.false_eq_true, if_false]
    cases result <;> rfl
  rw [hcapacity, hrequiredEq] at hresult
  rw [← hresult] at husable ⊢
  rw [hmachine]
  cases result with
  | none => exact ⟨_, rfl, h.fail⟩
  | some capacity =>
    simp only [Option.map_some] at husable ⊢
    have hasked : Mirrors { writer with requests := writer.requests + 1 }
        { json with requests := json.requests + 1 } :=
      { h with
        requests := congrArg (· + 1) hrequests
        usable := .inr ⟨text, hworking, htext, hholds.doubled, hholds.block⟩ }
    by_cases hgrant : allocator.grants json.requests = true
    · simp only [Option.elim_some, if_pos hgrant] at husable ⊢
      exact ⟨_, rfl, { hasked with data := rfl, capacity := rfl, usable := husable }⟩
    · simp only [Option.elim_some, if_neg hgrant]
      exact ⟨_, rfl, hasked.fail⟩

/-- The writer after `memcpy` and the new terminator. -/
theorem follows_appendBytes {bytes : List UInt8} (hbytes : bytes.length < 2 ^ 64) :
    Mimics (appendBytesMachine allocator bytes) (appendBytes allocator bytes) := by
  intro writer json h
  have hsize : (UInt64.ofNat bytes.length).toNat = bytes.length := UInt64.toNat_ofNat_of_lt' hbytes
  obtain ⟨writer₁, hreserve, h₁⟩ := follows_reserve (UInt64.ofNat bytes.length) writer json h
  rw [hsize] at hreserve h₁
  have husable : (appendBytes allocator bytes json).2.failed = true ∨
      ∃ text, Holds (appendBytes allocator bytes json).2 text := by
    have happends : Appends allocator (appendBytes allocator bytes) bytes :=
      appends_appendBytes bytes
    rcases h.usable with hstopped | ⟨text, hholds⟩
    · exact .inl ((freezes_appendBytes bytes).stops json hstopped).2
    · rcases happends.outcome hholds with ⟨json', heq, hholds', -⟩ | hfailed
      · rw [heq]
        exact .inr ⟨_, hholds'⟩
      · exact .inl hfailed.failed
  cases hok : (reserve allocator bytes.length json).1 with
  | false =>
    rw [appendBytes, JsonOp.andThen_of_false _ hok]
    refine ⟨writer₁, ?_, h₁⟩
    simp [appendBytesMachine, MachineOp.andThen, hreserve, hok]
  | true =>
    rcases h.usable with hstopped | ⟨text, hholds⟩
    · simp [reserve, hstopped, Json.fail] at hok
    have hcases : (∃ json', reserve allocator bytes.length json = (true, json') ∧ _) ∨ _ :=
      reserve_cases hholds bytes.length
    obtain ⟨json₁, heq, hholds₁, hroom, -⟩ := hcases.resolve_right fun hfailed => by
      have hrefused := hfailed.refused
      rw [hok] at hrefused
      cases hrefused
    simp only [heq] at hreserve h₁
    obtain ⟨block, hdata, hblock, -⟩ := hholds₁.block
    have hlength := h₁.length
    have htext := hholds₁.length_eq
    have hcapacity := hholds₁.doubled.le
    obtain ⟨next, hadd, hnext⟩ := exists_exactAdd
      (show writer₁.length.toNat + (UInt64.ofNat bytes.length).toNat < 2 ^ 64 by omega)
    rw [hlength, hsize] at hnext
    -- both stores stay inside of the block
    have hstore : storeInside block json₁.length bytes = some (store block json₁.length bytes) :=
      if_pos (by omega)
    have hterminate : storeInside (store block json₁.length bytes) (json₁.length + bytes.length)
        [0] = some (store (store block json₁.length bytes) (json₁.length + bytes.length) [0]) := by
      refine if_pos ?_
      rw [length_store (by omega), List.length_singleton]
      omega
    have happend : appendBytes allocator bytes json = (true, { json₁ with
        length := json₁.length + bytes.length
        data := json₁.data.map fun block =>
          store (store block json₁.length bytes) (json₁.length + bytes.length) [0] }) :=
      JsonOp.andThen_of_true _ heq
    rw [happend] at husable ⊢
    refine ⟨{ writer₁ with
      data := some (store (store block json₁.length bytes) (json₁.length + bytes.length) [0])
      length := next }, ?_, ?_⟩
    · simp [appendBytesMachine, MachineOp.andThen, hreserve, h₁.data, hdata, hlength, hadd, hnext,
        hstore, hterminate]
    · refine { h₁ with data := ?_, length := hnext, usable := husable, counted := ?_ }
      · rw [hdata]
        rfl
      · intro level hlevel
        exact (h₁.counted level hlevel).mono (Nat.le_add_right ..)

/-- `append_char` never leaves the range of `size_t`. -/
theorem follows_appendChar (byte : UInt8) :
    Mimics (appendCharMachine allocator byte) (appendChar allocator byte) := by
  have hsize : [byte].length < 2 ^ 64 := Nat.one_lt_two_pow (by decide)
  exact follows_appendBytes hsize

/-- `append_text` never leaves the range of `size_t`. -/
theorem follows_appendText (text : String) (h : (str text).length < 2 ^ 64) :
    Mimics (appendTextMachine allocator text) (appendText allocator text) :=
  follows_appendBytes h

/-! ## Strings -/

/-- One escaped byte never leaves the range of `size_t`. -/
theorem follows_appendEscapedByte (byte : UInt8) :
    Mimics (appendEscapedByteMachine allocator byte) (appendEscapedByte allocator byte) := by
  have hunicode : ∀ n < 32, (str "\\u" ++ hexDigits 4 n).length < 2 ^ 64 := by decide
  unfold appendEscapedByteMachine appendEscapedByte
  split_ifs with hquote hbackslash hb hf hn hr ht hlow
  · exact follows_appendText _ (by decide)
  · exact follows_appendText _ (by decide)
  · exact follows_appendText _ (by decide)
  · exact follows_appendText _ (by decide)
  · exact follows_appendText _ (by decide)
  · exact follows_appendText _ (by decide)
  · exact follows_appendText _ (by decide)
  · exact follows_appendBytes (hunicode _ (UInt8.lt_iff_toNat_lt.1 hlow))
  · exact follows_appendChar byte

/-- The loop of `append_escaped` never leaves the range of `size_t`. -/
theorem follows_appendEscapedBytes (bytes : List UInt8) :
    Mimics (appendEscapedBytesMachine allocator bytes) (appendEscapedBytes allocator bytes) := by
  induction bytes with
  | nil => exact follows_appendChar 0x22
  | cons byte bytes ih => exact (follows_appendEscapedByte byte).andThen ih

/-- `append_escaped` never leaves the range of `size_t`. -/
theorem follows_appendEscaped (value : CString) :
    Mimics (appendEscapedMachine allocator value) (appendEscaped allocator value) :=
  (follows_appendChar 0x22).andThen (follows_appendEscapedBytes value.bytes)

/-! ## Levels -/

/-- The comma before a key never leaves the range of `size_t`. -/
theorem follows_comma {count : ℕ} (h : count < 2 ^ 64) :
    Mimics (commaMachine allocator (UInt64.ofNat count)) (keyComma allocator count) := by
  intro writer json hmirrors
  have hpos : 0 < UInt64.ofNat count ↔ 0 < count := by
    rw [UInt64.lt_iff_toNat_lt, UInt64.toNat_ofNat_of_lt' h]
    rfl
  rw [commaMachine, keyComma]
  by_cases hcount : 0 < count
  · rw [if_pos (hpos.2 hcount), if_pos hcount]
    exact follows_appendChar 0x2c writer json hmirrors
  · rw [if_neg (hpos.not.2 hcount), if_neg hcount]
    exact ⟨writer, rfl, hmirrors⟩

/-- The open containers are left alone, and a call that succeeds appends at least `n` bytes. -/
structure Grows (n : ℕ) (op : JsonOp) : Prop where
  levels_eq (json : Json) : (op json).2.levels = json.levels
  le_length (json : Json) : (op json).1 = true → json.length + n ≤ (op json).2.length

/-- The bytes of two functions are appended together. -/
theorem Grows.andThen {n m : ℕ} {first second : JsonOp} (h : Grows n first) (h' : Grows m second) :
    Grows (n + m) (first.andThen second) := by
  have hthen {json : Json} (hok : (first json).1 = true) :
      first.andThen second json = second (first json).2 := by
    simp [JsonOp.andThen, hok]
  constructor
  · intro json
    by_cases hok : (first json).1 = true
    · rw [hthen hok, h'.levels_eq, h.levels_eq]
    · rw [JsonOp.andThen_of_false second (by simpa using hok)]
      exact h.levels_eq json
  · intro json hboth
    by_cases hok : (first json).1 = true
    · rw [hthen hok] at hboth ⊢
      have hfirst := h.le_length json hok
      have hsecond := h'.le_length _ hboth
      omega
    · rw [JsonOp.andThen_of_false second (by simpa using hok)] at hboth
      cases hboth

/-- What appends many bytes appends fewer. -/
theorem Grows.mono {n m : ℕ} {op : JsonOp} (h : Grows n op) (hle : m ≤ n) : Grows m op :=
  ⟨h.levels_eq, fun json hok => (Nat.add_le_add_left hle _).trans (h.le_length json hok)⟩

/-- Room in the block changes neither the containers nor the text. -/
theorem reserve_kept (extra : ℕ) (json : Json) :
    (reserve allocator extra json).2.levels = json.levels ∧
      (reserve allocator extra json).2.length = json.length := by
  unfold reserve
  by_cases hguard : json.failed = true ∨ sizeMax - json.length - 1 < extra
  · rw [if_pos hguard]
    exact ⟨rfl, rfl⟩
  rw [if_neg hguard]
  by_cases hroom : json.length + extra + 1 ≤ json.capacity
  · simp only [if_pos hroom, and_self]
  simp only [if_neg hroom]
  cases newCapacity json.capacity (json.length + extra + 1) with
  | none => exact ⟨rfl, rfl⟩
  | some capacity => by_cases hgrant : allocator.grants json.requests <;> simp [hgrant, Json.fail]

/-- `append_bytes` appends as many bytes as it is given. -/
theorem grows_appendBytes (bytes : List UInt8) :
    Grows bytes.length (appendBytes allocator bytes) := by
  have hkept (json : Json) : (reserve allocator bytes.length json).2.levels = json.levels ∧
      (reserve allocator bytes.length json).2.length = json.length :=
    reserve_kept bytes.length json
  constructor
  · intro json
    cases hok : (reserve allocator bytes.length json).1 <;>
      simp [appendBytes, JsonOp.andThen, hok, hkept]
  · intro json hdone
    cases hok : (reserve allocator bytes.length json).1 <;>
      simp [appendBytes, JsonOp.andThen, hok, hkept] at hdone ⊢

/-- The comma before a key is one byte, unless the key is the first. -/
theorem grows_keyComma (count : ℕ) :
    Grows (if 0 < count then 1 else 0) (keyComma allocator count) := by
  unfold keyComma
  by_cases hcount : 0 < count
  · simp only [if_pos hcount]
    exact grows_appendBytes [0x2c]
  · simp only [if_neg hcount]
    exact ⟨fun _ => rfl, fun _ _ => Nat.le_refl _⟩

/-- `append_escaped` leaves the open containers alone. -/
theorem grows_appendEscaped (value : CString) : Grows 0 (appendEscaped allocator value) := by
  have hzero (bytes : List UInt8) : Grows 0 (appendBytes allocator bytes) :=
    (grows_appendBytes bytes).mono (Nat.zero_le _)
  have hbyte (byte : UInt8) : Grows 0 (appendEscapedByte allocator byte) := by
    unfold appendEscapedByte
    split_ifs <;> exact hzero _
  have hbytes (bytes : List UInt8) : Grows 0 (appendEscapedBytes allocator bytes) := by
    induction bytes with
    | nil => exact hzero [0x22]
    | cons byte bytes ih => exact (hbyte byte).andThen ih
  exact (hzero [0x22]).andThen (hbytes value.bytes)

/-! ## Values -/

/-- In an array `before_value` writes the comma and counts the element. -/
theorem beforeValue_array {count : ℕ} {expecting : Bool} {outer : List JsonLevel}
    (hworking : json.failed = false) (hlevels : json.levels = ⟨.array, count, expecting⟩ :: outer) :
    beforeValue allocator json =
      let reply := keyComma allocator count json
      if reply.1 then (true, { reply.2 with levels := ⟨.array, count + 1, expecting⟩ :: outer })
      else (false, reply.2) := by
  simp only [beforeValue, hworking, hlevels, keyComma, Bool.false_eq_true, if_false]
  rfl

/-- A value is counted before it is written, in the same containers. -/
theorem length_levels_beforeValue (json : Json) :
    (beforeValue allocator json).2.levels.length = json.levels.length := by
  by_cases hstopped : json.failed = true
  · simp [beforeValue, hstopped]
  have hworking : json.failed = false := by simpa using hstopped
  rcases hlevels : json.levels with _ | ⟨⟨container, count, expecting⟩, outer⟩
  · by_cases hwritten : json.rootWritten = true <;>
      simp [beforeValue, hworking, hlevels, hwritten, Json.fail]
  cases container with
  | object =>
    by_cases hexpecting : expecting = true <;>
      simp [beforeValue, hworking, hlevels, hexpecting, Json.fail]
  | array =>
    rw [beforeValue_array hworking hlevels]
    cases hok : (keyComma allocator count json).1 with
    | false => simp [hok, (grows_keyComma count).levels_eq, hlevels]
    | true => simp [hok]

namespace Mirrors

variable {level : JsonLevel} {outer : List JsonLevel}

/-- The innermost container is the last entry of the array. -/
theorem exists_index (h : Mirrors writer json) (hlevels : json.levels = level :: outer) :
    writer.depth ≠ 0 ∧ ∃ index, exactSub writer.depth 1 = some index ∧
      index.toNat = outer.length ∧ writer.level index = some (machineLevel level) := by
  have hdepth := h.depth
  rw [hlevels, List.length_cons] at hdepth
  have hone : (1 : SizeT).toNat = 1 := rfl
  obtain ⟨index, hsub, hindex⟩ :=
    exists_exactSub (show (1 : SizeT).toNat ≤ writer.depth.toNat by omega)
  refine ⟨?_, index, hsub, by omega, ?_⟩
  · rintro hzero
    rw [hzero] at hdepth
    cases hdepth
  · have hlast : index.toNat = outer.length := by omega
    rw [JsonMachine.level, hlast]
    exact h.levels level outer (hlevels ▸ List.suffix_refl _)

/-- The machine is outside of all containers when the writer is. -/
theorem depth_eq_zero (h : Mirrors writer json) (hlevels : json.levels = []) :
    writer.depth = 0 := by
  have hdepth := h.depth
  rw [hlevels] at hdepth
  exact UInt64.toNat_inj.1 hdepth

/-- The count of a container has room for its next entry. -/
theorem count_lt (h : Mirrors writer json) (hlevels : json.levels = level :: outer) :
    level.count + level.expectingValue.toNat < 2 ^ 64 := by
  have hcount := (h.counted level (hlevels ▸ List.mem_cons_self)).count_le
  rw [← h.length] at hcount
  exact Nat.lt_of_le_of_lt hcount writer.length.toNat_lt

/-- The entry of a container inside of the containers `outer`, which are open, is stored. -/
theorem setLevel (h : Mirrors writer json) (houter : outer <:+ json.levels) {index : SizeT}
    (hindex : index.toNat = outer.length) (hroom : outer.length < jsonMaxDepth)
    (level : JsonLevel) : ∃ levels, writer.setLevel index (machineLevel level) =
      some { writer with levels } ∧ ∀ level' outer', level' :: outer' <:+ level :: outer →
        levels[outer'.length]? = some (machineLevel level') := by
  have hindex' : index.toNat < jsonMaxDepth := hindex.trans_lt hroom
  refine ⟨_, dif_pos hindex', fun level' outer' hsuffix => ?_⟩
  rcases List.suffix_cons_iff.1 hsuffix with heq | hsuffix
  · obtain ⟨rfl, rfl⟩ := List.cons.inj heq
    rw [← hindex, Vector.getElem?_set_self]
  · have hless : outer'.length < outer.length := hsuffix.length_le
    rw [Vector.getElem?_set_ne _ (by omega)]
    exact h.levels level' outer' (hsuffix.trans houter)

/-- The entry of the innermost container is changed. -/
theorem setTop (h : Mirrors writer json) (hlevels : json.levels = level :: outer) {index : SizeT}
    (hindex : index.toNat = outer.length) (level' : JsonLevel)
    (hcounted : Counted json.length level') :
    ∃ writer', writer.setLevel index (machineLevel level') = some writer' ∧
      Mirrors writer' { json with levels := level' :: outer } := by
  have houter : outer <:+ json.levels := hlevels ▸ List.suffix_cons level outer
  have hle := h.depth_le
  rw [hlevels, List.length_cons] at hle
  obtain ⟨levels, hset, hall⟩ := h.setLevel houter hindex hle level'
  refine ⟨_, hset, { h with depth := ?_, depth_le := hle, levels := hall, counted := ?_,
                            usable := ?_ }⟩
  · rw [h.depth, hlevels]
    rfl
  · rw [List.forall_mem_cons]
    refine ⟨hcounted, fun level₁ hlevel => h.counted level₁ ?_⟩
    rw [hlevels]
    exact List.mem_cons_of_mem level hlevel
  · exact h.usable.imp_right (Exists.imp fun text hholds => hholds.withLevels _)

/-- A container is opened. -/
theorem push (h : Mirrors writer json) (hroom : json.levels.length < jsonMaxDepth)
    (hnonempty : 0 < json.length) (container : JsonContainer) :
    ∃ levels depth, writer.setLevel writer.depth ⟨some container, 0, false⟩ =
      some { writer with levels } ∧ exactAdd writer.depth 1 = some depth ∧
        Mirrors { writer with levels, depth }
          { json with levels := ⟨container, 0, false⟩ :: json.levels } := by
  have hdepth := h.depth
  have hmax : jsonMaxDepth = 16 := rfl
  have hone : (1 : SizeT).toNat = 1 := rfl
  obtain ⟨levels, hset, hall⟩ :=
    h.setLevel (List.suffix_refl _) hdepth hroom ⟨container, 0, false⟩
  obtain ⟨depth, hadd, hnext⟩ :=
    exists_exactAdd (show writer.depth.toNat + (1 : SizeT).toNat < 2 ^ 64 by omega)
  refine ⟨levels, depth, hset, hadd, { h with depth := ?_, depth_le := hroom, levels := hall,
                                              counted := ?_, usable := ?_ }⟩
  · rw [hnext, hdepth]
    rfl
  · rw [List.forall_mem_cons]
    exact ⟨⟨hnonempty, Nat.zero_le _, fun h => by cases h⟩, h.counted⟩
  · exact h.usable.imp_right (Exists.imp fun text hholds => hholds.withLevels _)

/-- The innermost container is closed. -/
theorem pop (h : Mirrors writer json) (hlevels : json.levels = level :: outer) {index : SizeT}
    (hindex : index.toNat = outer.length) :
    Mirrors { writer with depth := index } { json with levels := outer } := by
  have houter : outer <:+ json.levels := hlevels ▸ List.suffix_cons level outer
  refine { h with depth := hindex, depth_le := houter.length_le.trans h.depth_le,
                  levels := fun level' outer' hsuffix => ?_, counted := fun level' hlevel => ?_,
                  usable := ?_ }
  · exact h.levels level' outer' (hsuffix.trans houter)
  · exact h.counted level' (houter.subset hlevel)
  · exact h.usable.imp_right (Exists.imp fun text hholds => hholds.withLevels _)

end Mirrors

/-- A count with room is increased without overflow. -/
theorem exists_nextCount {count : ℕ} (h : count + 1 < 2 ^ 64) :
    ∃ next, exactAdd (UInt64.ofNat count) 1 = some next ∧ UInt64.ofNat (count + 1) = next := by
  have hone : (1 : SizeT).toNat = 1 := rfl
  have hcount : (UInt64.ofNat count).toNat = count :=
    UInt64.toNat_ofNat_of_lt' (show count < 2 ^ 64 by omega)
  exact ⟨_, if_pos (by rwa [hcount, hone]), UInt64.ofNat_add count 1⟩

section BeforeValue

variable {count : ℕ} {expecting : Bool} {outer : List JsonLevel}

/-- At the root, where one value may be written. -/
theorem Mirrors.beforeValue_root (h : Mirrors writer json) (hworking : json.failed = false)
    (hlevels : json.levels = []) :
    ∃ writer', beforeValueMachine allocator writer =
      some ((beforeValue allocator json).1, writer') ∧
        Mirrors writer' (beforeValue allocator json).2 := by
  have hfailed := h.failed
  have hroot := h.rootWritten
  have hdepth := h.depth_eq_zero hlevels
  rw [hworking] at hfailed
  -- a document holds one value, so a second one at the root is refused
  by_cases hwritten : json.rootWritten = true
  · have heq : beforeValue allocator json = json.fail := by
      simp [beforeValue, hworking, hlevels, hwritten]
    rw [heq]
    refine ⟨_, ?_, h.fail⟩
    simp [beforeValueMachine, hfailed, hdepth, hroot, hwritten, JsonMachine.fail, Json.fail]
  · have heq : beforeValue allocator json = (true, { json with rootWritten := true }) := by
      simp [beforeValue, hworking, hlevels, hwritten]
    rw [heq]
    refine ⟨{ writer with rootWritten := true }, ?_, ?_⟩
    · simp [beforeValueMachine, hfailed, hdepth, hroot, hwritten]
    · refine { h with rootWritten := rfl, usable := ?_ }
      exact h.usable.imp_right (Exists.imp fun text hholds =>
        ⟨hholds.working, hholds.length_eq, hholds.doubled, hholds.block⟩)

/-- In an object, where a value has to follow a key. -/
theorem Mirrors.beforeValue_object (h : Mirrors writer json) (hworking : json.failed = false)
    (hlevels : json.levels = ⟨.object, count, expecting⟩ :: outer) :
    ∃ writer', beforeValueMachine allocator writer =
      some ((beforeValue allocator json).1, writer') ∧
        Mirrors writer' (beforeValue allocator json).2 := by
  have hfailed := h.failed
  rw [hworking] at hfailed
  obtain ⟨hdepth, index, hsub, hindex, hlevel⟩ := h.exists_index hlevels
  by_cases hexpecting : expecting = true
  · subst hexpecting
    have hcounted := h.counted _ (hlevels ▸ List.mem_cons_self)
    have heq : beforeValue allocator json =
        (true, { json with levels := ⟨.object, count + 1, false⟩ :: outer }) := by
      simp [beforeValue, hworking, hlevels]
    obtain ⟨writer', hset, hmirrors⟩ :=
      h.setTop hlevels hindex ⟨.object, count + 1, false⟩
        ⟨hcounted.nonempty, hcounted.count_le, fun h => by cases h⟩
    rw [heq]
    refine ⟨writer', ?_, hmirrors⟩
    -- the text has more bytes than the object has members, so that adding one does not wrap
    obtain ⟨next, hnext, hnextEq⟩ :=
      exists_nextCount (show count + 1 < 2 ^ 64 from h.count_lt hlevels)
    simp only [machineLevel, hnextEq] at hset
    simp [beforeValueMachine, hfailed, hdepth, hsub, hlevel, machineLevel, hnext, hset]
  · have heq : beforeValue allocator json = json.fail := by
      simp [beforeValue, hworking, hlevels, hexpecting]
    rw [heq]
    refine ⟨_, ?_, h.fail⟩
    simp [beforeValueMachine, hfailed, hdepth, hsub, hlevel, machineLevel, hexpecting,
      JsonMachine.fail, Json.fail]

/-- In an array, where a comma is written before every value but the first. -/
theorem Mirrors.beforeValue_array (h : Mirrors writer json) (hworking : json.failed = false)
    (hlevels : json.levels = ⟨.array, count, false⟩ :: outer) :
    ∃ writer', beforeValueMachine allocator writer =
      some ((beforeValue allocator json).1, writer') ∧
        Mirrors writer' (beforeValue allocator json).2 := by
  have hfailed := h.failed
  rw [hworking] at hfailed
  obtain ⟨hdepth, index, hsub, hindex, hlevel⟩ := h.exists_index hlevels
  have hcounted := h.counted _ (hlevels ▸ List.mem_cons_self)
  have hbound : count < 2 ^ 64 :=
    Nat.lt_of_le_of_lt (Nat.le_add_right ..) (h.count_lt hlevels)
  obtain ⟨writer₁, hcomma, h₁⟩ := follows_comma hbound writer json h
  rw [M65.beforeValue_array hworking hlevels]
  cases hok : (keyComma allocator count json).1 with
  | false =>
    refine ⟨writer₁, ?_, by simpa [hok] using h₁⟩
    simp [beforeValueMachine, hfailed, hdepth, hsub, hlevel, machineLevel, hcomma, hok]
  | true =>
    have hgrows : Grows _ (keyComma allocator count) := grows_keyComma count
    have hlonger := hgrows.le_length json hok
    -- after the first value, the text has grown by the comma
    have hone : count + 1 ≤ (keyComma allocator count json).2.length := by
      have hnonempty := hcounted.nonempty
      have hle := hcounted.count_le
      simp only [Bool.toNat_false] at hle
      split at hlonger <;> omega
    obtain ⟨writer', hset, hmirrors⟩ :=
      h₁.setTop ((hgrows.levels_eq json).trans hlevels) hindex ⟨.array, count + 1, false⟩
        ⟨Nat.lt_of_lt_of_le (Nat.succ_pos count) hone, hone, fun h => by cases h⟩
    refine ⟨writer', ?_, by simpa [hok] using hmirrors⟩
    have hlength := h₁.length
    have hlt := writer₁.length.toNat_lt
    obtain ⟨next, hnext, hnextEq⟩ := exists_nextCount (show count + 1 < 2 ^ 64 by omega)
    simp only [machineLevel, hnextEq] at hset
    simp [beforeValueMachine, hfailed, hdepth, hsub, hlevel, machineLevel, hcomma, hok, hnext,
      hset]

end BeforeValue

/-- `before_value` follows the writer of unbounded arithmetic. -/
theorem follows_beforeValue : Mimics (beforeValueMachine allocator) (beforeValue allocator) := by
  intro writer json h
  by_cases hstopped : json.failed = true
  · have heq : beforeValue allocator json = (false, json) := by simp [beforeValue, hstopped]
    rw [heq]
    refine ⟨writer, ?_, h⟩
    simp [beforeValueMachine, h.failed, hstopped]
  have hworking : json.failed = false := by simpa using hstopped
  rcases hlevels : json.levels with _ | ⟨⟨container, count, expecting⟩, outer⟩
  · exact h.beforeValue_root hworking hlevels
  cases container with
  | object => exact h.beforeValue_object hworking hlevels
  | array =>
    -- only objects wait for a value
    have hcounted := h.counted _ (hlevels ▸ List.mem_cons_self)
    obtain rfl : expecting = false := by
      by_contra hexpecting
      cases hcounted.waits (by simpa using hexpecting)
    exact h.beforeValue_array hworking hlevels

/-! ## Containers and keys -/

/-- `begin_container` follows the writer of unbounded arithmetic. -/
theorem follows_beginContainer (container : JsonContainer) (token : UInt8) :
    Mimics (beginContainerMachine allocator container token)
      (beginContainer allocator container token) := by
  intro writer json h
  have hdeep : UInt64.ofNat jsonMaxDepth ≤ writer.depth ↔ jsonMaxDepth ≤ json.levels.length := by
    rw [UInt64.le_iff_toNat_le, h.depth]
    rfl
  by_cases hfull : jsonMaxDepth ≤ json.levels.length
  · rw [beginContainer, if_pos hfull]
    refine ⟨_, ?_, h.fail⟩
    simp [beginContainerMachine, hdeep.2 hfull, JsonMachine.fail, Json.fail]
  have hbegin : Mimics ((beforeValueMachine allocator).andThen (appendCharMachine allocator token))
      ((beforeValue allocator).andThen (appendChar allocator token)) :=
    follows_beforeValue.andThen (follows_appendChar token)
  obtain ⟨writer₁, heq, h₁⟩ := hbegin writer json h
  have hmachine : ¬ UInt64.ofNat jsonMaxDepth ≤ writer.depth := hdeep.not.2 hfull
  rw [beginContainer, if_neg hfull]
  cases hok : ((beforeValue allocator).andThen (appendChar allocator token) json).1 with
  | false =>
    refine ⟨_, ?_, by simpa [hok, Json.fail] using h₁.fail⟩
    simp [beginContainerMachine, hmachine, heq, hok, JsonMachine.fail, Json.fail]
  | true =>
    have hbefore : (beforeValue allocator json).1 = true := by
      by_contra hfalse
      rw [JsonOp.andThen_of_false _ (by simpa using hfalse)] at hok
      cases hok
    have hthen : (beforeValue allocator).andThen (appendChar allocator token) json =
        appendChar allocator token (beforeValue allocator json).2 := by
      simp [JsonOp.andThen, hbefore]
    have hgrows : Grows 1 (appendChar allocator token) := grows_appendBytes [token]
    rw [hthen] at hok heq h₁ ⊢
    have hlevels := hgrows.levels_eq (beforeValue allocator json).2
    have hlonger := hgrows.le_length _ hok
    -- neither the comma nor the token opens a level, so that there is still room for one
    have hroom : (appendChar allocator token (beforeValue allocator json).2).2.levels.length <
        jsonMaxDepth := by
      rw [hlevels, length_levels_beforeValue]
      exact Nat.lt_of_not_le hfull
    obtain ⟨levels, depth, hset, hadd, hmirrors⟩ :=
      h₁.push hroom (Nat.lt_of_lt_of_le (Nat.succ_pos _) hlonger) container
    refine ⟨_, ?_, by simpa [hok] using hmirrors⟩
    simp [beginContainerMachine, hmachine, heq, hok, hset, hadd]

/-- `end_container` follows the writer of unbounded arithmetic. -/
theorem follows_endContainer (container : JsonContainer) (token : UInt8) :
    Mimics (endContainerMachine allocator container token)
      (endContainer allocator container token) := by
  intro writer json h
  rcases hlevels : json.levels with _ | ⟨level, outer⟩
  · have heq : endContainer allocator container token json = (false, json) := by
      simp [endContainer, hlevels]
    rw [heq]
    refine ⟨writer, ?_, h⟩
    simp [endContainerMachine, h.depth_eq_zero hlevels]
  obtain ⟨hdepth, index, hsub, hindex, hlevel⟩ := h.exists_index hlevels
  -- the innermost container is another one, or its last key still waits for a value
  by_cases hmismatch : level.container ≠ container ∨ level.expectingValue = true
  · have heq : endContainer allocator container token json = json.fail := by
      simp [endContainer, hlevels, hmismatch]
    rw [heq]
    refine ⟨_, ?_, h.fail⟩
    simp [endContainerMachine, hdepth, hsub, hlevel, machineLevel, hmismatch, JsonMachine.fail,
      Json.fail]
  · have heq : endContainer allocator container token json =
        appendChar allocator token { json with levels := outer } := by
      simp [endContainer, hlevels, hmismatch]
    rw [heq]
    obtain ⟨writer', happend, hmirrors⟩ := follows_appendChar token _ _ (h.pop hlevels hindex)
    refine ⟨writer', ?_, hmirrors⟩
    simp [endContainerMachine, hdepth, hsub, hlevel, machineLevel, hmismatch, happend]

/-- A key of an object that waits for one: the comma, the escaped name and the colon. -/
theorem Mirrors.jsonKey_object (h : Mirrors writer json) (name : CString) {count : ℕ}
    {outer : List JsonLevel} (hlevels : json.levels = ⟨.object, count, false⟩ :: outer) :
    ∃ writer', jsonKeyMachine allocator (some name) writer =
      some ((jsonKey allocator (some name) json).1, writer') ∧
        Mirrors writer' (jsonKey allocator (some name) json).2 := by
  obtain ⟨hdepth, index, hsub, hindex, hlevel⟩ := h.exists_index hlevels
  have hcounted := h.counted _ (hlevels ▸ List.mem_cons_self)
  have hcount := h.count_lt hlevels
  have hjson : jsonKey allocator (some name) json = _ := M65.jsonKey_object name hlevels
  rw [hjson]
  obtain ⟨writer₁, hcomma, h₁⟩ := follows_comma (show count < 2 ^ 64 from hcount) writer json h
  cases hok : (keyComma allocator count json).1 with
  | false =>
    rw [JsonOp.andThen_of_false _ hok]
    refine ⟨writer₁, ?_, h₁⟩
    simp [jsonKeyMachine, hdepth, hsub, hlevel, machineLevel, hcomma, hok]
  | true =>
    -- the name and its colon do not look at the levels
    have hname : Mimics
        ((appendEscapedMachine allocator name).andThen (appendCharMachine allocator 0x3a))
        ((appendEscaped allocator name).andThen (appendChar allocator 0x3a)) :=
      (follows_appendEscaped name).andThen (follows_appendChar 0x3a)
    obtain ⟨writer₂, happend, h₂⟩ := hname writer₁ _ h₁
    have hthen : (keyComma allocator count).andThen
        ((appendEscaped allocator name).andThen (appendChar allocator 0x3a)) json =
        (appendEscaped allocator name).andThen (appendChar allocator 0x3a)
          (keyComma allocator count json).2 := by
      simp [JsonOp.andThen, hok]
    have hcommaGrows : Grows _ (keyComma allocator count) := grows_keyComma count
    have hnameGrows : Grows (0 + 1)
        ((appendEscaped allocator name).andThen (appendChar allocator 0x3a)) :=
      (grows_appendEscaped name).andThen (grows_appendBytes [0x3a])
    rw [hthen]
    generalize hnext : keyComma allocator count json = next at *
    cases hdone : ((appendEscaped allocator name).andThen (appendChar allocator 0x3a) next.2).1 with
    | false =>
      refine ⟨writer₂, ?_, by simpa [hdone] using h₂⟩
      simp [jsonKeyMachine, hdepth, hsub, hlevel, machineLevel, hcomma, hok, happend, hdone]
    | true =>
      have hlevels₂ := (hnameGrows.levels_eq next.2).trans
        ((hnext ▸ hcommaGrows.levels_eq json).trans hlevels)
      have hlonger := hcommaGrows.le_length json (hnext ▸ hok)
      have hlonger' := hnameGrows.le_length next.2 hdone
      rw [hnext] at hlonger
      -- the colon alone makes the text longer than the count of members
      have hone : count + 1 ≤
          ((appendEscaped allocator name).andThen (appendChar allocator 0x3a) next.2).2.length := by
        have hle : count + 0 ≤ json.length := hcounted.count_le
        omega
      obtain ⟨writer', hset, hmirrors⟩ := h₂.setTop hlevels₂ hindex ⟨.object, count, true⟩
        ⟨Nat.lt_of_lt_of_le (Nat.succ_pos count) hone, hone, fun _ => rfl⟩
      refine ⟨writer', ?_, by simpa [hdone] using hmirrors⟩
      have hmachine : machineLevel ⟨.object, count, true⟩ =
          ⟨some .object, UInt64.ofNat count, true⟩ := rfl
      rw [hmachine] at hset
      simp [jsonKeyMachine, hdepth, hsub, hlevel, machineLevel, hcomma, hok, happend, hdone, hset]

/-- `m65_json_key` follows the writer of unbounded arithmetic. -/
theorem follows_jsonKey (key : Option CString) :
    Mimics (jsonKeyMachine allocator key) (jsonKey allocator key) := by
  intro writer json h
  -- a NULL key, no container, the wrong container, and then the key itself
  rcases key with _ | name
  · have heq : jsonKey allocator none json = (false, json) := by
      rcases json.levels with _ | ⟨level, outer⟩ <;> rfl
    rw [heq]
    exact ⟨writer, rfl, h⟩
  rcases hlevels : json.levels with _ | ⟨level, outer⟩
  · have heq : jsonKey allocator (some name) json = (false, json) := by
      simp [jsonKey, hlevels]
    rw [heq]
    refine ⟨writer, ?_, h⟩
    simp [jsonKeyMachine, h.depth_eq_zero hlevels]
  by_cases hmismatch : level.container ≠ .object ∨ level.expectingValue = true
  · obtain ⟨hdepth, index, hsub, -, hlevel⟩ := h.exists_index hlevels
    have heq : jsonKey allocator (some name) json = json.fail := by
      simp [jsonKey, hlevels, hmismatch]
    rw [heq]
    refine ⟨_, ?_, h.fail⟩
    simp [jsonKeyMachine, hdepth, hsub, hlevel, machineLevel, hmismatch, JsonMachine.fail,
      Json.fail]
  · obtain ⟨container, count, expecting⟩ := level
    obtain ⟨rfl, rfl⟩ : container = .object ∧ expecting = false := by simpa using hmismatch
    exact h.jsonKey_object name hlevels

/-! ## Every call -/

/-- A number of twenty digits has a text that `size_t` can count. -/
theorem length_signedDigits_lt {value : ℤ} (h : value.natAbs < 10 ^ 20) :
    (signedDigits value).length < 2 ^ 64 := by
  have hdigits {n : ℕ} (hn : n < 10 ^ 20) : (digits 10 n).length ≤ 20 :=
    JsonText.length_decimal_le (by decide) hn
  cases value with
  | ofNat n => exact Nat.lt_of_le_of_lt (hdigits h) (by decide)
  | negSucc n =>
    have hle : (digits 10 (n + 1)).length ≤ 20 := hdigits h
    show (digits 10 (n + 1)).length + 1 < 2 ^ 64
    omega

/-- A value without parts follows the writer of unbounded arithmetic. -/
theorem follows_scalar {text : List UInt8} (h : text.length < 2 ^ 64) :
    Mimics (jsonScalarMachine allocator text)
      ((beforeValue allocator).andThen (appendBytes allocator text)) :=
  follows_beforeValue.andThen (follows_appendBytes h)

/-- Every call follows the writer of unbounded arithmetic. -/
theorem follows_exec (call : JsonCall) :
    Mimics (call.execMachine allocator) (call.exec allocator) := by
  cases call with
  | beginObject => exact follows_beginContainer _ _
  | endObject => exact follows_endContainer _ _
  | beginArray => exact follows_beginContainer _ _
  | endArray => exact follows_endContainer _ _
  | key name => exact follows_jsonKey name
  | string value =>
    cases value with
    | none => exact fun writer json h => ⟨writer, rfl, h⟩
    | some value => exact follows_beforeValue.andThen (follows_appendEscaped value)
  | uint value =>
    have hlt := value.toNat_lt
    exact follows_scalar (length_signedDigits_lt (show (value.toNat : ℤ).natAbs < 10 ^ 20 by omega))
  | int value =>
    have hlow := value.le_toInt
    have hhigh := value.toInt_lt
    exact follows_scalar (length_signedDigits_lt (by omega))
  | bool value => cases value <;> exact follows_scalar (by decide)
  | null => exact follows_scalar (by decide)

end M65
