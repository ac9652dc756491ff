import Mathlib.Algebra.GroupWithZero.Nat
import Mathlib.Data.List.TakeWhile

/-!
# C strings

A C string is the list of the bytes before its terminator, so it holds no zero byte
(`CString`). A `char` array of `n` bytes that is only written by `snprintf` holds such a string
of fewer than `n` bytes (`Text n`): what does not fit is cut off.
-/

namespace M65

/-- The bytes of an ASCII literal of the source. -/
def str (s : String) : List UInt8 := s.toList.map fun c => UInt8.ofNat c.toNat

/-- A NUL-terminated string, without the terminator. -/
structure CString where
  bytes : List UInt8
  noNul : 0 ∉ bytes
deriving DecidableEq

/-- The string in an array of `n` bytes. -/
structure Text (n : ℕ) extends CString where
  fits : bytes.length < n
deriving DecidableEq

namespace CString

/-- The string that starts at the first of `bytes`: it ends before the first zero byte. -/
def ofBytes (bytes : List UInt8) : CString where
  bytes := bytes.takeWhile (· ≠ 0)
  noNul h := by simpa using List.mem_takeWhile_imp h

/-- A literal of the source. -/
def lit (s : String) : CString := ofBytes (str s)

end CString

namespace Text

variable {n : ℕ} [NeZero n]

/-- `snprintf(destination, n, ...)` of the given pieces: at most `n - 1` bytes are kept. -/
def format (pieces : List (List UInt8)) : Text n where
  bytes := (pieces.flatten.takeWhile (· ≠ 0)).take (n - 1)
  noNul h := by simpa using List.mem_takeWhile_imp (List.mem_of_mem_take h)
  fits := by
    have hn := Nat.pos_of_neZero n
    have hlen := List.length_take_le (n - 1) (pieces.flatten.takeWhile (· ≠ 0))
    omega

/-- The empty string. -/
def empty : Text n where
  bytes := []
  noNul := by simp
  fits := Nat.pos_of_neZero n

instance : Inhabited (Text n) := ⟨empty⟩

/-- `snprintf(destination, n, "%s", text)` of a literal. -/
def lit (s : String) : Text n := format [str s]

end Text

/-- The digits of `value` in `base`, most significant first (`%u`, `%x`). -/
def digits (base value : ℕ) : List UInt8 :=
  (Nat.toDigits base value).map fun c => UInt8.ofNat c.toNat

/-- The hexadecimal digits of `value`, zero-padded to `width` (`%02x`, `%04x`, `%08x`). -/
def hexDigits (width value : ℕ) : List UInt8 :=
  List.replicate (width - (digits 16 value).length) 0x30 ++ digits 16 value

/-! ## Empty texts -/

/-- The string at the start of some bytes is empty when there are none, or when the first of them is
the terminator. -/
theorem CString.ofBytes_eq_nil_iff {bytes : List UInt8} :
    (CString.ofBytes bytes).bytes = [] ↔ bytes = [] ∨ bytes.head? = some 0 := by
  cases bytes with
  | nil => simp [CString.ofBytes]
  | cons byte bytes => by_cases hbyte : byte = 0 <;> simp [CString.ofBytes, hbyte]

/-- A formatted text is empty only if it begins with a terminator. -/
theorem Text.format_ne_nil {n : ℕ} [NeZero n] (hn : 2 ≤ n) {first : List UInt8}
    {rest : List (List UInt8)} (h : (CString.ofBytes first).bytes ≠ []) :
    (Text.format (first :: rest) : Text n).bytes ≠ [] := by
  rw [Ne, CString.ofBytes_eq_nil_iff, not_or] at h
  obtain ⟨byte, bytes, rfl⟩ := List.exists_cons_of_ne_nil h.1
  have hbyte : byte ≠ 0 := fun hzero => h.2 (congrArg some hzero)
  obtain ⟨k, rfl⟩ : ∃ k, n = k + 2 := ⟨n - 2, by omega⟩
  simp [Text.format, hbyte]

/-- A string that is not empty stays so when it is read again from its own bytes. -/
theorem CString.ofBytes_bytes_ne_nil {text : CString} (h : text.bytes ≠ []) :
    (CString.ofBytes text.bytes).bytes ≠ [] := by
  rw [Ne, CString.ofBytes_eq_nil_iff, not_or]
  exact ⟨h, fun hhead => text.noNul (List.mem_of_mem_head? hhead)⟩

/-! ## Phrases -/

/-- A phrase that does not contain the separator stands on one side of it. -/
theorem infix_of_separated {phrase left right : List UInt8} {separator : UInt8}
    (hnot : separator ∉ phrase) (h : phrase <:+: left ++ separator :: right) :
    phrase <:+: left ∨ phrase <:+: right := by
  obtain ⟨before, after, heq⟩ := h
  rcases List.append_eq_append_iff.1 heq with ⟨gap, rfl, -⟩ | ⟨gap, hphrase, hright⟩
  · exact .inl (List.infix_append before phrase gap)
  -- the phrase ends after `left`; it begins at or after the separator
  cases gap with
  | nil =>
    rw [List.append_nil] at hphrase
    exact .inl ⟨before, [], by rw [hphrase, List.append_nil]⟩
  | cons head gap =>
    obtain ⟨rfl, rfl⟩ := List.cons.inj hright
    rcases List.append_eq_append_iff.1 hphrase with ⟨rest, -, rfl⟩ | ⟨rest, -, hgap⟩
    · exact absurd (List.mem_append_right rest List.mem_cons_self) hnot
    · cases rest with
      | nil =>
        rw [List.nil_append] at hgap
        exact absurd (hgap ▸ List.mem_cons_self) hnot
      | cons head' rest =>
        obtain ⟨-, rfl⟩ := List.cons.inj hgap
        exact .inr (List.infix_append rest phrase after)

/-- What a formatted text contains was in its pieces. -/
theorem Text.infix_flatten_of_format {n : ℕ} [NeZero n] {phrase : List UInt8}
    {pieces : List (List UInt8)} (h : phrase <:+: (Text.format pieces : Text n).bytes) :
    phrase <:+: pieces.flatten :=
  (h.trans (List.take_prefix _ _).isInfix).trans (List.takeWhile_prefix _).isInfix

end M65
