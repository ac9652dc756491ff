import Mathlib.Tactic.IntervalCases
import FloppyProbe.Types

/-!
# Big-endian fields

The bounds-checked readers and the writers of `src/bytes.c`.
-/

namespace M65

/-- `needed` bytes from `offset` on lie within a buffer of `length` bytes; no addition of the test
can wrap. -/
def available (length offset needed : ℕ) : Bool :=
  offset ≤ length && needed ≤ length - offset

/-- `m65_read_be16`: the big-endian value of the two bytes at `offset`, when the buffer has them. -/
def readBe16 (data : List UInt8) (length offset : ℕ) : Option UInt16 :=
  if available length offset 2 then
    some ((byteAt data offset).toUInt16 <<< 8 ||| (byteAt data (offset + 1)).toUInt16)
  else
    none

/-- `m65_read_be24`: the big-endian value of the three bytes at `offset`, when the buffer has
them. -/
def readBe24 (data : List UInt8) (length offset : ℕ) : Option UInt32 :=
  if available length offset 3 then
    some ((byteAt data offset).toUInt32 <<< 16 ||| (byteAt data (offset + 1)).toUInt32 <<< 8 |||
      (byteAt data (offset + 2)).toUInt32)
  else
    none

/-- `m65_read_be32`: the big-endian value of the four bytes at `offset`, when the buffer has
them. -/
def readBe32 (data : List UInt8) (length offset : ℕ) : Option UInt32 :=
  if available length offset 4 then
    some ((byteAt data offset).toUInt32 <<< 24 ||| (byteAt data (offset + 1)).toUInt32 <<< 16 |||
      (byteAt data (offset + 2)).toUInt32 <<< 8 ||| (byteAt data (offset + 3)).toUInt32)
  else
    none

variable {n : ℕ}

/-- `m65_write_be16(&data[offset], value)`. -/
def writeBe16 (data : Vector UInt8 n) (offset : ℕ) (value : UInt16) : Vector UInt8 n :=
  (data.setIfInBounds offset (value >>> 8).toUInt8).setIfInBounds (offset + 1)
    (value &&& 0xff).toUInt8

/-- `m65_write_be32(&data[offset], value)`. -/
def writeBe32 (data : Vector UInt8 n) (offset : ℕ) (value : UInt32) : Vector UInt8 n :=
  (((data.setIfInBounds offset (value >>> 24).toUInt8).setIfInBounds (offset + 1)
    ((value >>> 16) &&& 0xff).toUInt8).setIfInBounds (offset + 2)
    ((value >>> 8) &&& 0xff).toUInt8).setIfInBounds (offset + 3) (value &&& 0xff).toUInt8

/-! ## Values -/

/-- The value of two bytes, most significant first. -/
def be16Value (high low : UInt8) : ℕ := 256 * high.toNat + low.toNat

/-- Two bytes are determined by their big-endian value. -/
theorem be16Value_inj {a b c d : UInt8} : be16Value a b = be16Value c d ↔ a = c ∧ b = d := by
  have hb := b.toNat_lt
  have hd := d.toNat_lt
  rw [← UInt8.toNat_inj, ← UInt8.toNat_inj (a := b)]
  unfold be16Value
  omega

/-- The shift and the disjunction of the source compute the big-endian value. -/
theorem toNat_be16 (high low : UInt8) :
    (high.toUInt16 <<< 8 ||| low.toUInt16).toNat = be16Value high low := by
  have hhigh := high.toNat_lt
  have hlow := low.toNat_lt
  have hshift : (high.toUInt16 <<< 8).toNat = 2 ^ 8 * high.toNat := by
    rw [UInt16.toNat_shiftLeft, Nat.shiftLeft_eq]
    simp
    omega
  rw [UInt16.toNat_or, hshift, UInt8.toNat_toUInt16, ← Nat.two_pow_add_eq_or_of_lt hlow]
  rfl

/-- A two-byte field inside the data has the value of its bytes. -/
theorem readBe16_eq_some {data : List UInt8} {length offset : ℕ} (h : offset + 2 ≤ length) :
    ∃ value, readBe16 data length offset = some value ∧
      value.toNat = be16Value (byteAt data offset) (byteAt data (offset + 1)) := by
  refine ⟨_, if_pos ?_, toNat_be16 _ _⟩
  simp only [available, Bool.and_eq_true, decide_eq_true_eq]
  omega

/-! ## Bytes that count -/

/-- The buffers have the same first `length` bytes. -/
def AgreeOn (length : ℕ) (data data' : List UInt8) : Prop :=
  ∀ i < length, byteAt data i = byteAt data' i

namespace AgreeOn

variable {length length' offset : ℕ} {data data' : List UInt8}

/-- Buffers that are cut off after `length` bytes agree on these with the whole buffer. -/
theorem take (data : List UInt8) (length : ℕ) : AgreeOn length (data.take length) data := by
  intro i hi
  simp [byteAt, List.getD_eq_getElem?_getD, List.getElem?_take_of_lt hi]

/-- Buffers that agree on their first bytes still do after a common part is dropped. -/
theorem drop (h : AgreeOn length data data') (hlength : offset + length' ≤ length) :
    AgreeOn length' (data.drop offset) (data'.drop offset) := by
  intro i hi
  have hbyte := h (offset + i) (by omega)
  simpa [byteAt, List.getD_eq_getElem?_getD] using hbyte

/-- Reading two bytes depends only on the bytes inside the length. -/
theorem readBe16_eq (h : AgreeOn length data data') :
    readBe16 data length offset = readBe16 data' length offset := by
  unfold readBe16
  split
  · next havailable =>
    simp only [available, Bool.and_eq_true, decide_eq_true_eq] at havailable
    rw [h offset (by omega), h (offset + 1) (by omega)]
  · rfl

/-- Reading three bytes depends only on the bytes inside the length. -/
theorem readBe24_eq (h : AgreeOn length data data') :
    readBe24 data length offset = readBe24 data' length offset := by
  unfold readBe24
  split
  · next havailable =>
    simp only [available, Bool.and_eq_true, decide_eq_true_eq] at havailable
    rw [h offset (by omega), h (offset + 1) (by omega), h (offset + 2) (by omega)]
  · rfl

/-- Reading four bytes depends only on the bytes inside the length. -/
theorem readBe32_eq (h : AgreeOn length data data') :
    readBe32 data length offset = readBe32 data' length offset := by
  unfold readBe32
  split
  · next havailable =>
    simp only [available, Bool.and_eq_true, decide_eq_true_eq] at havailable
    rw [h offset (by omega), h (offset + 1) (by omega), h (offset + 2) (by omega),
      h (offset + 3) (by omega)]
  · rfl

end AgreeOn

/-! ## Reading back -/

/-- The bytes that `writeBe16` stores make up the value again. -/
theorem be16_join (value : UInt16) :
    (value >>> 8).toUInt8.toUInt16 <<< 8 ||| (value &&& 0xff).toUInt8.toUInt16 = value := by
  apply UInt16.toBitVec_inj.1
  apply BitVec.eq_of_getElem_eq
  intro j hj
  interval_cases j <;> simp [-UInt16.toUInt16_toUInt8]

/-- The bytes that `writeBe32` stores make up the value again. -/
theorem be32_join (value : UInt32) :
    (value >>> 24).toUInt8.toUInt32 <<< 24 ||| ((value >>> 16) &&& 0xff).toUInt8.toUInt32 <<< 16 |||
      ((value >>> 8) &&& 0xff).toUInt8.toUInt32 <<< 8 ||| (value &&& 0xff).toUInt8.toUInt32 =
      value := by
  apply UInt32.toBitVec_inj.1
  apply BitVec.eq_of_getElem_eq
  intro j hj
  interval_cases j <;> simp [-UInt32.toUInt32_toUInt8]

end M65
