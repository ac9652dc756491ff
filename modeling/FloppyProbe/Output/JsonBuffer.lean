import FloppyProbe.JsonText.Tree
import FloppyProbe.Output.Json

/-!
# The text buffer of the JSON writer

`Holds json text`: the writer has not failed, and its block holds `text` and a terminator.
Whatever the allocator does, a function that appends either appends all of its bytes or fails
the writer for good (`Appends`); and if the allocator never refuses, it appends as long as the
text stays below `2 ^ 63` bytes, where the doubling of the capacity ends.
-/

namespace M65

/-! ## Capacities -/

/-- A capacity that the writer can reach from 256 by doubling. -/
def Doubled (capacity : ℕ) : Prop := ∃ k, 8 ≤ k ∧ k ≤ 63 ∧ capacity = 2 ^ k

/-- A capacity that was doubled without overflow is one that can be reached. -/
theorem Doubled.double {capacity : ℕ} (h : Doubled capacity) (hle : capacity ≤ sizeMax / 2) :
    Doubled (capacity * 2) := by
  obtain ⟨k, hk, -, rfl⟩ := h
  have hlt : k < 63 := by
    apply (Nat.pow_lt_pow_iff_right (a := 2) (by decide)).1
    exact Nat.lt_of_le_of_lt hle (by decide)
  exact ⟨k + 1, by omega, by omega, (Nat.pow_succ ..).symm⟩

/-- A capacity is not zero. -/
theorem Doubled.pos {capacity : ℕ} (h : Doubled capacity) : 0 < capacity := by
  obtain ⟨k, -, -, rfl⟩ := h
  exact Nat.two_pow_pos k

/-- A capacity is at most `2 ^ 63`. -/
theorem Doubled.le {capacity : ℕ} (h : Doubled capacity) : capacity ≤ 2 ^ 63 := by
  obtain ⟨k, -, hk, rfl⟩ := h
  exact Nat.pow_le_pow_right (by decide) hk

/-- The loop of `reserve` ends with a capacity that is large enough, unless it would have to
double one of `2 ^ 63`. -/
theorem newCapacity_cases (capacity required : ℕ) (h : Doubled capacity) :
    (∃ capacity', newCapacity capacity required = some capacity' ∧ Doubled capacity' ∧
      capacity ≤ capacity' ∧ required ≤ capacity') ∨
    (newCapacity capacity required = none ∧ 2 ^ 63 < required) := by
  induction capacity using newCapacity.induct required with
  | case1 capacity hlt hguard =>
    right
    have hpos := h.pos
    refine ⟨by rw [newCapacity, if_pos hlt, if_pos hguard], ?_⟩
    have hle := h.le
    have hhalf : sizeMax / 2 = 2 ^ 63 - 1 := rfl
    omega
  | case2 capacity hlt hguard ih =>
    have hdouble := ih (h.double (by omega))
    rw [newCapacity, if_pos hlt, if_neg hguard]
    rcases hdouble with ⟨capacity', heq, hdoubled, hge, hrequired⟩ | hnone
    · exact .inl ⟨capacity', heq, hdoubled, by omega, hrequired⟩
    · exact .inr hnone
  | case3 capacity hlt =>
    left
    exact ⟨capacity, by rw [newCapacity, if_neg hlt], h, Nat.le_refl _, by omega⟩

/-! ## Buffers -/

/-- The writer has not failed and its block holds `text` with a terminator behind it. -/
structure Holds (json : Json) (text : List UInt8) : Prop where
  working : json.failed = false
  length_eq : json.length = text.length
  doubled : Doubled json.capacity
  block : ∃ block, json.data = some block ∧ block.length = json.capacity ∧ text ++ [0] <+: block

/-- The text leaves room for its terminator. -/
theorem Holds.length_lt {json : Json} {text : List UInt8} (h : Holds json text) :
    text.length < json.capacity := by
  obtain ⟨block, -, hlength, hstart⟩ := h.block
  have hle := hstart.length_le
  rw [List.length_append, List.length_singleton] at hle
  omega

/-- The string in the block is the text. -/
theorem Holds.data_eq {json : Json} {text : List UInt8} (h : Holds json text) (hnul : 0 ∉ text) :
    (jsonData json).bytes = text := by
  obtain ⟨block, hdata, -, rest, rfl⟩ := h.block
  have htext : ∀ byte ∈ text, decide (byte ≠ 0) = true := by
    intro byte hbyte
    exact decide_eq_true fun hzero => hnul (hzero ▸ hbyte)
  rw [jsonData, hdata, Option.getD_some]
  show ((text ++ [0]) ++ rest).takeWhile _ = text
  rw [List.append_assoc, List.takeWhile_append_of_pos htext]
  simp

/-- The other fields are those of `json`. -/
structure SameLevels (json json' : Json) : Prop where
  levels : json'.levels = json.levels
  rootWritten : json'.rootWritten = json.rootWritten

/-- Two calls that keep the other fields keep them together. -/
theorem SameLevels.trans {json json' json'' : Json} (h : SameLevels json json')
    (h' : SameLevels json' json'') : SameLevels json json'' :=
  ⟨h'.levels.trans h.levels, h'.rootWritten.trans h.rootWritten⟩

/-- An allocator that never refuses. -/
def Allocator.Generous (allocator : Allocator) : Prop := ∀ n, allocator.grants n = true

variable {allocator : Allocator} {json : Json} {text : List UInt8}

/-- A longer block keeps the bytes of the old one. -/
theorem Allocator.isPrefix_block (allocator : Allocator) (request : ℕ) {size : ℕ}
    {old : List UInt8} (h : old.length ≤ size) : old <+: allocator.block request size old := by
  rw [List.prefix_iff_eq_take]
  apply List.ext_getElem
  · simp [block, h]
  · intro i hold hnew
    simp [block, List.getElem?_eq_getElem hold]

/-- A block has the size that was asked for. -/
@[simp]
theorem Allocator.length_block (allocator : Allocator) (request size : ℕ) (old : List UInt8) :
    (allocator.block request size old).length = size := by
  simp [block]

/-- A store behind the text extends it. -/
theorem store_isPrefix {block : List UInt8} {offset : ℕ} {bytes : List UInt8}
    (h : text <+: block) (hoffset : offset = text.length) :
    text ++ bytes <+: store block offset bytes := by
  obtain ⟨rest, rfl⟩ := h
  subst hoffset
  simp [store]

/-- A store inside a block keeps its length. -/
theorem length_store {block bytes : List UInt8} {offset : ℕ}
    (h : offset + bytes.length ≤ block.length) :
    (store block offset bytes).length = block.length := by
  simp [store]
  omega

/-- The writer has failed. Only an allocator that refuses, or a text of `2 ^ 63` bytes, makes it
fail while it appends. -/
structure FailedAt (allocator : Allocator) (length : ℕ) (reply : Bool × Json) : Prop where
  refused : reply.1 = false
  failed : reply.2.failed = true
  large : allocator.Generous → 2 ^ 63 ≤ length

/-- A failure at a length is one at every greater length. -/
theorem FailedAt.mono {length length' : ℕ} {reply : Bool × Json}
    (h : FailedAt allocator length reply) (hle : length ≤ length') :
    FailedAt allocator length' reply :=
  ⟨h.refused, h.failed, fun hgenerous => (h.large hgenerous).trans hle⟩

/-- `reserve` makes room, or fails the writer. -/
theorem reserve_cases (h : Holds json text) (extra : ℕ) :
    (∃ json', reserve allocator extra json = (true, json') ∧ Holds json' text ∧
      text.length + extra < json'.capacity ∧ SameLevels json json') ∨
    FailedAt allocator (text.length + extra) (reserve allocator extra json) := by
  have hlength := h.length_eq
  have hbounded := h.length_lt
  have hdoubled := h.doubled.le
  have hmax : sizeMax = 2 ^ 64 - 1 := rfl
  -- the sum would overflow: the first of the two refusals
  by_cases hlarge : sizeMax - json.length - 1 < extra
  · right
    rw [reserve, if_pos (.inr hlarge)]
    exact ⟨rfl, rfl, fun _ => by omega⟩
  rw [reserve, if_neg (by simp [h.working, hlarge])]
  by_cases hroom : json.length + extra + 1 ≤ json.capacity
  · left
    exact ⟨json, if_pos hroom, h, by omega, rfl, rfl⟩
  simp only [if_neg hroom]
  -- the doubling ends with a capacity that fits, unless it would pass `SIZE_MAX`
  rcases newCapacity_cases json.capacity (json.length + extra + 1) h.doubled with
    ⟨capacity, heq, hnew, hge, hrequired⟩ | ⟨heq, hrequired⟩
  · simp only [heq]
    by_cases hgrant : allocator.grants json.requests = true
    · left
      obtain ⟨block, hdata, hblock, hstart⟩ := h.block
      rw [if_pos hgrant, hdata, Option.getD_some]
      refine ⟨_, rfl, ⟨h.working, hlength, hnew, _, rfl, allocator.length_block .., ?_⟩, ?_, rfl,
        rfl⟩
      · exact hstart.trans (allocator.isPrefix_block _ (by omega))
      · show text.length + extra < capacity
        omega
    · right
      rw [if_neg hgrant]
      exact ⟨rfl, rfl, fun hgenerous => absurd (hgenerous _) hgrant⟩
  · right
    simp only [heq]
    exact ⟨rfl, rfl, fun _ => by omega⟩

/-- What a function does that appends `bytes`. -/
structure Appends (allocator : Allocator) (op : JsonOp) (bytes : List UInt8) : Prop where
  outcome {json : Json} {text : List UInt8} (h : Holds json text) :
    (∃ json', op json = (true, json') ∧ Holds json' (text ++ bytes) ∧ SameLevels json json') ∨
      FailedAt allocator (text ++ bytes).length (op json)

/-- Two functions that append do so one after the other. -/
theorem Appends.andThen {first second : JsonOp} {bytes bytes' : List UInt8}
    (h : Appends allocator first bytes) (h' : Appends allocator second bytes') :
    Appends allocator (first.andThen second) (bytes ++ bytes') where
  outcome {json text} hholds := by
    rcases h.outcome hholds with ⟨json₁, heq, hholds₁, hsame⟩ | hfailed
    · have hsecond : first.andThen second json = second json₁ := by simp [JsonOp.andThen, heq]
      rw [hsecond, ← List.append_assoc]
      rcases h'.outcome hholds₁ with ⟨json₂, heq₂, hholds₂, hsame₂⟩ | hfailed
      · exact .inl ⟨json₂, heq₂, hholds₂, hsame.trans hsame₂⟩
      · exact .inr hfailed
    · right
      have hfirst : first.andThen second json = (false, (first json).2) := by
        simp [JsonOp.andThen, hfailed.refused]
      rw [hfirst]
      exact ⟨rfl, hfailed.failed, fun hgenerous =>
        (hfailed.large hgenerous).trans (by simp only [List.length_append]; omega)⟩

/-- A function that appends nothing to a writer that has failed. -/
def Stops (op : JsonOp) : Prop :=
  ∀ json, json.failed = true → (op json).1 = false ∧ (op json).2.failed = true

/-- The writer has failed, with the text that `json` has. -/
structure Frozen (json json' : Json) : Prop where
  failed : json'.failed = true
  length_eq : json'.length = json.length
  data_eq : json'.data = json.data

/-- A failed writer stays as it is when nothing is done. -/
theorem Frozen.refl {json : Json} (h : json.failed = true) : Frozen json json := ⟨h, rfl, rfl⟩

/-- Two steps that leave a failed writer alone leave it alone together. -/
theorem Frozen.trans {json json' json'' : Json} (h : Frozen json json') (h' : Frozen json' json'') :
    Frozen json json'' :=
  ⟨h'.failed, h'.length_eq.trans h.length_eq, h'.data_eq.trans h.data_eq⟩

/-- A function that returns false from a writer that has failed, and leaves its text alone. -/
def Freezes (op : JsonOp) : Prop :=
  ∀ json, json.failed = true → (op json).1 = false ∧ Frozen json (op json).2

/-- A function that leaves the text of a failed writer alone appends nothing. -/
theorem Freezes.stops {op : JsonOp} (h : Freezes op) : Stops op :=
  fun json hjson => ⟨(h json hjson).1, (h json hjson).2.failed⟩

/-- On a failed writer the second of two functions is not reached. -/
theorem Freezes.andThen {first : JsonOp} (h : Freezes first) (second : JsonOp) :
    Freezes (first.andThen second) := by
  intro json hjson
  obtain ⟨hrefused, hfrozen⟩ := h json hjson
  have hthen : first.andThen second json = (false, (first json).2) := by
    simp [JsonOp.andThen, hrefused]
  rw [hthen]
  exact ⟨rfl, hfrozen⟩

/-- `append_bytes` leaves a failed writer alone. -/
theorem freezes_appendBytes (bytes : List UInt8) : Freezes (appendBytes allocator bytes) := by
  intro json hjson
  have hrefused : appendBytes allocator bytes json = json.fail := by
    simp [appendBytes, reserve, JsonOp.andThen, hjson, Json.fail]
  rw [hrefused]
  exact ⟨rfl, rfl, rfl, rfl⟩

/-- `append_bytes` appends its bytes. -/
theorem appends_appendBytes (bytes : List UInt8) :
    Appends allocator (appendBytes allocator bytes) bytes where
  outcome {json text} hholds := by
    have hreserve : (∃ json', reserve allocator bytes.length json = (true, json') ∧ _) ∨ _ :=
      reserve_cases hholds bytes.length
    rcases hreserve with ⟨json₁, heq, hholds₁, hroom, hsame⟩ | hfailed
    · left
      have happend : appendBytes allocator bytes json = (true, { json₁ with
          length := json₁.length + bytes.length
          data := json₁.data.map fun block =>
            store (store block json₁.length bytes) (json₁.length + bytes.length) [0] }) := by
        simp [appendBytes, JsonOp.andThen, heq]
      obtain ⟨block, hdata, hblock, hstart⟩ := hholds₁.block
      have hlength := hholds₁.length_eq
      -- The bytes go over the terminator, and the new terminator behind them.
      have hstored : text ++ bytes <+: store block json₁.length bytes :=
        store_isPrefix ((List.prefix_append _ _).trans hstart) hlength
      have hterminated : text ++ bytes ++ [0] <+:
          store (store block json₁.length bytes) (json₁.length + bytes.length) [0] :=
        store_isPrefix hstored (by simp [hlength])
      have hsize : (store block json₁.length bytes).length = block.length :=
        length_store (by omega)
      have hsize' : (store (store block json₁.length bytes) (json₁.length + bytes.length)
          [0]).length = block.length := by
        rw [length_store (by simp [hsize]; omega), hsize]
      refine ⟨_, happend, ⟨hholds₁.working, ?_, hholds₁.doubled, _, by rw [hdata]; rfl,
        hsize'.trans hblock, hterminated⟩, hsame.levels, hsame.rootWritten⟩
      simp [hlength]
    · right
      rw [List.length_append]
      have hfirst : appendBytes allocator bytes json =
          (false, (reserve allocator bytes.length json).2) := by
        simp [appendBytes, JsonOp.andThen, hfailed.refused]
      rw [hfirst]
      exact ⟨rfl, hfailed.failed, hfailed.large⟩

/-- `append_text` appends its text. -/
theorem appends_appendText (value : String) :
    Appends allocator (appendText allocator value) (str value) :=
  appends_appendBytes (str value)

/-- `append_char` appends its byte. -/
theorem appends_appendChar (byte : UInt8) : Appends allocator (appendChar allocator byte) [byte] :=
  appends_appendBytes [byte]

/-! ## Strings -/

/-- One byte is appended as it is escaped. -/
theorem appends_appendEscapedByte (byte : UInt8) :
    Appends allocator (appendEscapedByte allocator byte) (JsonText.escape byte) := by
  have hcontrol : ∀ n < 32, str "\\u" ++ hexDigits 4 n = [0x5c, 0x75, 0x30, 0x30,
      JsonText.hexDigit (UInt8.ofNat n / 16), JsonText.hexDigit (UInt8.ofNat n % 16)] := by decide
  unfold appendEscapedByte JsonText.escape
  split_ifs with hquote hbackslash hb hf hn hr ht hlow
  · exact appends_appendText "\\\""
  · exact appends_appendText "\\\\"
  · exact appends_appendText "\\b"
  · exact appends_appendText "\\f"
  · exact appends_appendText "\\n"
  · exact appends_appendText "\\r"
  · exact appends_appendText "\\t"
  · have heq := hcontrol byte.toNat (UInt8.lt_iff_toNat_lt.1 hlow)
    rw [UInt8.ofNat_toNat] at heq
    exact heq ▸ appends_appendBytes _
  · exact appends_appendChar byte

/-- The loop of `append_escaped` appends the escaped bytes and a quote. -/
theorem appends_appendEscapedBytes (bytes : List UInt8) :
    Appends allocator (appendEscapedBytes allocator bytes)
      (bytes.flatMap JsonText.escape ++ [0x22]) := by
  induction bytes with
  | nil => exact appends_appendChar 0x22
  | cons byte bytes ih =>
    rw [List.flatMap_cons, List.append_assoc]
    exact (appends_appendEscapedByte byte).andThen ih

/-- `append_escaped` appends the quoted string. -/
theorem appends_appendEscaped (value : CString) :
    Appends allocator (appendEscaped allocator value) (JsonText.quote value.bytes) :=
  (appends_appendChar 0x22).andThen (appends_appendEscapedBytes value.bytes)

end M65
