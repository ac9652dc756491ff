import Mathlib.Data.Fintype.Basic
import Mathlib.Data.List.TakeWhile
import Mathlib.Data.Vector.Basic

/-!
# Text in memory that may not have been written

An array of bytes, together with which of them the program has written since the array came into
being; what the others hold is left over from before.

* `fresh`, `filled` and `putString` are an array without an initialiser, the result of a `memset`,
  and the store of a string with its terminator from some byte on;
* `string` is what a reader finds before the first zero byte (`string_putString`);
* `HoldsText`: there is such a byte, and all bytes up to it are written. A store of a string gives
  it (`holdsText_putString`), a fresh array never has it (`not_holdsText_fresh`).
-/

namespace CheckedMemory

/-- A byte of memory, and whether it was ever written. -/
structure Cell where
  byte : UInt8
  written : Bool
deriving DecidableEq

/-- An array of `n` bytes of memory. -/
abbrev Cells (n : ℕ) : Type := Vector Cell n

namespace Cells

variable {n : ℕ}

/-- An array without an initialiser, over what the memory held before. -/
def fresh (prior : Vector UInt8 n) : Cells n := prior.map fun byte => ⟨byte, false⟩

/-- An array after `memset`. -/
def filled (n : ℕ) (byte : UInt8) : Cells n := Vector.replicate n ⟨byte, true⟩

/-- The array after the bytes of a string, and a terminator, were stored from `start` on. -/
def putString (cells : Cells n) (start : ℕ) (bytes : List UInt8) : Cells n :=
  Vector.ofFn fun i =>
    -- past the last byte of the string stands the terminator
    if start ≤ i ∧ i ≤ start + bytes.length then ⟨bytes.getD (i - start) 0, true⟩ else cells[i]

/-- The content of the array, written or not. -/
def bytes (cells : Cells n) : List UInt8 := cells.toList.map Cell.byte

/-- The bytes before the first terminator. -/
def string (cells : Cells n) : List UInt8 := cells.bytes.takeWhile (· ≠ 0)

/-- The array holds a terminated string all of whose bytes are written. -/
def HoldsText (cells : Cells n) : Prop :=
  ∃ i : Fin n, cells[i].byte = 0 ∧ ∀ j ≤ i, cells[j].written = true

instance (cells : Cells n) : Decidable cells.HoldsText :=
  inferInstanceAs (Decidable (∃ i : Fin n, cells[i].byte = 0 ∧ ∀ j ≤ i, cells[j].written = true))

/-! ## Bytes -/

@[simp]
theorem length_bytes (cells : Cells n) : cells.bytes.length = n := by
  simp [bytes]

/-- The byte of a cell is at its place in the content. -/
theorem getElem_bytes (cells : Cells n) {i : ℕ} (hi : i < n) (h : i < cells.bytes.length) :
    cells.bytes[i] = cells[i].byte := by
  simp [bytes]

/-! ## What a reader finds -/

/-- The string of an array ends at the first zero byte. -/
theorem string_append_cons {cells : Cells n} {text rest : List UInt8}
    (h : cells.bytes = text ++ 0 :: rest) (htext : 0 ∉ text) : cells.string = text := by
  have hall : ∀ byte ∈ text, decide (byte ≠ 0) = true := fun byte hbyte =>
    decide_eq_true fun hzero => htext (hzero ▸ hbyte)
  rw [string, h, List.takeWhile_append_of_pos hall, List.takeWhile_cons_of_neg (by simp),
    List.append_nil]

/-- The string of an array has no zero byte. -/
theorem zero_notMem_string (cells : Cells n) : 0 ∉ cells.string := fun h => by
  simpa using List.mem_takeWhile_imp h

/-- The string ends at the first zero byte, if not before. -/
theorem length_string_le {cells : Cells n} {i : Fin n} (h : cells[i].byte = 0) :
    cells.string.length ≤ i := by
  by_contra hlt
  have hi : (i : ℕ) < cells.string.length := by omega
  have hbyte : cells.string[(i : ℕ)] = 0 := by
    rw [← h]
    have hinit : cells.string <+: cells.bytes := List.takeWhile_prefix _
    exact (hinit.getElem hi).trans (getElem_bytes cells (by omega) _)
  exact zero_notMem_string cells (hbyte ▸ List.getElem_mem hi)

/-! ## Stores of strings -/

/-- Storing a string changes its own bytes and the terminator behind them. -/
theorem bytes_putString (cells : Cells n) {start : ℕ} {bytes : List UInt8}
    (hfits : start + bytes.length < n) :
    (cells.putString start bytes).bytes =
      cells.bytes.take start ++ (bytes ++ 0 :: cells.bytes.drop (start + bytes.length + 1)) := by
  have hlength : (cells.bytes.take start).length = start := by
    rw [List.length_take, length_bytes]
    omega
  apply List.ext_getElem
  · simp
    omega
  intro i hi _
  have hin : i < n := by simpa using hi
  rw [getElem_bytes _ hin]
  simp only [putString, Vector.getElem_ofFn]
  -- before the string, inside of it, at its terminator, and after it
  by_cases hbefore : i < start
  · rw [if_neg (by omega), List.getElem_append_left (by omega), List.getElem_take,
      getElem_bytes _ hin]
    rfl
  rw [List.getElem_append_right (by omega)]
  simp only [hlength]
  by_cases hinside : i < start + bytes.length
  · rw [if_pos (by omega), List.getElem_append_left (by omega)]
    simp [List.getD_eq_getElem?_getD, show i - start < bytes.length by omega]
  rw [List.getElem_append_right (by omega)]
  by_cases hlast : i = start + bytes.length
  · rw [if_pos (by omega)]
    simp [hlast]
  · obtain ⟨k, rfl⟩ : ∃ k, i = start + bytes.length + 1 + k :=
      ⟨i - (start + bytes.length + 1), by omega⟩
    rw [if_neg (by omega)]
    have hk : start + bytes.length + 1 + k - start - bytes.length = k + 1 := by omega
    simp [hk, getElem_bytes _ hin]

/-- A string that is stored at the end of another one, or instead of its end. -/
theorem string_putString {cells : Cells n} {start : ℕ} {bytes : List UInt8}
    (hstart : start ≤ cells.string.length) (hfits : start + bytes.length < n) (hbytes : 0 ∉ bytes) :
    (cells.putString start bytes).string = cells.string.take start ++ bytes := by
  have htake : cells.bytes.take start = cells.string.take start := by
    obtain ⟨rest, hrest⟩ := List.takeWhile_prefix (· ≠ 0) (l := cells.bytes)
    rw [← hrest]
    exact List.take_append_of_le_length hstart
  have heq := bytes_putString cells hfits
  rw [htake, ← List.append_assoc] at heq
  refine string_append_cons heq ?_
  rw [List.mem_append, not_or]
  exact ⟨fun h => zero_notMem_string cells (List.mem_of_mem_take h), hbytes⟩

/-! ## Arrays that hold text -/

/-- Every byte of a text and its terminator was written. -/
theorem HoldsText.written {cells : Cells n} (h : cells.HoldsText) {j : Fin n}
    (hj : j ≤ cells.string.length) : cells[j].written = true := by
  obtain ⟨i, hzero, hwritten⟩ := h
  refine hwritten j ?_
  have hle := length_string_le hzero
  exact Fin.le_def.2 (by omega)

/-- A text leaves room for its terminator. -/
theorem HoldsText.length_lt {cells : Cells n} (h : cells.HoldsText) : cells.string.length < n := by
  obtain ⟨i, hzero, -⟩ := h
  exact (length_string_le hzero).trans_lt i.isLt

/-- An array whose first bytes were written holds a text after a string was stored behind them. -/
theorem holdsText_putString {cells : Cells n} {start : ℕ} {bytes : List UInt8}
    (hwritten : ∀ j : Fin n, j < start → cells[j].written = true)
    (hfits : start + bytes.length < n) : (cells.putString start bytes).HoldsText := by
  refine ⟨⟨start + bytes.length, hfits⟩, ?_, fun j hj => ?_⟩
  · simp [putString]
  · have hj : (j : ℕ) ≤ start + bytes.length := Fin.le_def.1 hj
    show ((cells.putString start bytes)[(j : ℕ)]).written = true
    simp only [putString, Vector.getElem_ofFn]
    by_cases hbefore : (j : ℕ) < start
    · rw [if_neg (by omega)]
      exact hwritten j hbefore
    · rw [if_pos (by omega)]

/-- An array of zeros holds a text. -/
theorem holdsText_filled (hn : 0 < n) : (filled n 0).HoldsText :=
  ⟨⟨0, hn⟩, by simp [filled], by simp [filled]⟩

/-- The text of an array of zeros is empty. -/
theorem string_filled : (filled n 0).string = [] := by
  cases n <;> simp [string, bytes, filled, List.replicate_succ]

/-- An array that was never written holds no text. -/
theorem not_holdsText_fresh (prior : Vector UInt8 n) : ¬ (fresh prior).HoldsText := by
  rintro ⟨i, -, hwritten⟩
  simpa [fresh] using hwritten i le_rfl

end Cells

end CheckedMemory
