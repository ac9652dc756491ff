import FloppyProbe.JsonText.Tree

/-!
# Reading JSON text

A recursive-descent reader for JSON texts whose numbers are integers, and the round trip with
`Tree.render`. White space is skipped between tokens and escapes are decoded: `\u` gives the
UTF-8 encoding of the character, and a surrogate is rejected. The bytes of a string from `0x80`
on are opaque.
-/

namespace JsonText

/-! ## Reader -/

/-- Insignificant white space. -/
def isSpace (byte : UInt8) : Bool := byte = 0x20 || byte = 0x09 || byte = 0x0a || byte = 0x0d

/-- The text from the first byte on that is no white space. -/
def skipSpace (text : List UInt8) : List UInt8 := text.dropWhile isSpace

/-- The text behind the next token, which has to be the character `byte`. -/
def expect (byte : UInt8) (text : List UInt8) : Option (List UInt8) :=
  match skipSpace text with
  | first :: rest => if first = byte then some rest else none
  | [] => none

/-- The byte that an escape of two characters stands for. -/
def unescape (byte : UInt8) : Option UInt8 :=
  if byte = 0x22 ∨ byte = 0x5c ∨ byte = 0x2f then some byte
  else if byte = 0x62 then some 0x08
  else if byte = 0x66 then some 0x0c
  else if byte = 0x6e then some 0x0a
  else if byte = 0x72 then some 0x0d
  else if byte = 0x74 then some 0x09
  else none

/-- The value of a hexadecimal digit. -/
def hexValue (byte : UInt8) : Option ℕ :=
  if 0x30 ≤ byte ∧ byte ≤ 0x39 then some (byte.toNat - 0x30)
  else if 0x41 ≤ byte ∧ byte ≤ 0x46 then some (byte.toNat - 0x37)
  else if 0x61 ≤ byte ∧ byte ≤ 0x66 then some (byte.toNat - 0x57)
  else none

/-- The encoding of the character with the given four hexadecimal digits. -/
def unescapeHex (a b c d : UInt8) : Option (List UInt8) := do
  let code := 4096 * (← hexValue a) + 256 * (← hexValue b) + 16 * (← hexValue c) + (← hexValue d)
  if code.isValidChar then some (String.utf8EncodeChar (Char.ofNat code)) else none

/-- The string up to its closing quote, and the text behind that. -/
def readString : List UInt8 → Option (List UInt8 × List UInt8)
  | [] => none
  | first :: rest =>
      if first = 0x22 then some ([], rest)
      else if first < 0x20 then none
      else if first = 0x5c then
        match rest with
        | [] => none
        | kind :: rest =>
            if kind = 0x75 then
              match rest with
              | a :: b :: c :: d :: rest => do
                  let bytes ← unescapeHex a b c d
                  let (value, rest) ← readString rest
                  some (bytes ++ value, rest)
              | _ => none
            else do
              let byte ← unescape kind
              let (value, rest) ← readString rest
              some (byte :: value, rest)
      else do
        let (value, rest) ← readString rest
        some (first :: value, rest)

/-- A decimal digit. -/
def isDigit (byte : UInt8) : Bool := 0x30 ≤ byte && byte ≤ 0x39

/-- The number that decimal digits stand for. -/
def digitsValue (digits : List UInt8) : ℕ :=
  digits.foldl (fun value digit => 10 * value + (digit.toNat - 0x30)) 0

/-- A natural number, without superfluous zeros. -/
def readNat (text : List UInt8) : Option (ℕ × List UInt8) :=
  let digits := text.takeWhile isDigit
  if digits = [] ∨ digits.head? = some 0x30 ∧ 1 < digits.length then none
  else some (digitsValue digits, text.dropWhile isDigit)

/-- The rest of a literal name. -/
def readWord (word : List UInt8) (value : Scalar) (text : List UInt8) :
    Option (Tree × List UInt8) :=
  if text.take word.length = word then some (.scalar value, text.drop word.length) else none

mutual

/-- A value and the text behind it. The fuel bounds the number of nested calls. -/
def readValue : ℕ → List UInt8 → Option (Tree × List UInt8)
  | 0, _ => none
  | fuel + 1, text =>
      match skipSpace text with
      | [] => none
      | first :: rest =>
          if first = 0x7b then
            match expect 0x7d rest with
            | some rest => some (.object [], rest)
            | none => (readMembers fuel rest).map fun (members, rest) => (.object members, rest)
          else if first = 0x5b then
            match expect 0x5d rest with
            | some rest => some (.array [], rest)
            | none => (readElements fuel rest).map fun (elements, rest) => (.array elements, rest)
          else if first = 0x22 then
            (readString rest).map fun (value, rest) => (.scalar (.string value), rest)
          else if first = 0x2d then
            (readNat rest).map fun (value, rest) => (.scalar (.number (-value)), rest)
          else if first = 0x74 then readWord [0x72, 0x75, 0x65] (.bool true) rest
          else if first = 0x66 then readWord [0x61, 0x6c, 0x73, 0x65] (.bool false) rest
          else if first = 0x6e then readWord [0x75, 0x6c, 0x6c] .null rest
          else (readNat (first :: rest)).map fun (value, rest) => (.scalar (.number value), rest)

/-- One or more elements, up to the end of the array. -/
def readElements : ℕ → List UInt8 → Option (List Tree × List UInt8)
  | 0, _ => none
  | fuel + 1, text => do
      let (element, rest) ← readValue fuel text
      match expect 0x2c rest with
      | some rest => do
          let (elements, rest) ← readElements fuel rest
          some (element :: elements, rest)
      | none => do
          let rest ← expect 0x5d rest
          some ([element], rest)

/-- One or more members, up to the end of the object. -/
def readMembers : ℕ → List UInt8 → Option (List (List UInt8 × Tree) × List UInt8)
  | 0, _ => none
  | fuel + 1, text => do
      let rest ← expect 0x22 text
      let (name, rest) ← readString rest
      let rest ← expect 0x3a rest
      let (value, rest) ← readValue fuel rest
      match expect 0x2c rest with
      | some rest => do
          let (members, rest) ← readMembers fuel rest
          some ((name, value) :: members, rest)
      | none => do
          let rest ← expect 0x7d rest
          some ([(name, value)], rest)

end

/-- The value of a text that holds exactly one, with white space around it at most. -/
def parse (text : List UInt8) : Option Tree := do
  let (value, rest) ← readValue text.length text
  if skipSpace rest = [] then some value else none

/-! ## Strings -/

/-- A short escape is read as the byte that it stands for. -/
theorem readString_unescape {kind byte : UInt8} (h : unescape kind = some byte)
    (text : List UInt8) :
    readString (0x5c :: kind :: text) =
      (readString text).map fun (value, rest) => (byte :: value, rest) := by
  have hkind : kind ≠ 0x75 := by
    rintro rfl
    simp [unescape] at h
  rw [readString.eq_def]
  cases hrest : readString text <;> simp [hkind, h, hrest]

/-- A hexadecimal escape is read as the bytes that it stands for. -/
theorem readString_unescapeHex {a b c d : UInt8} {bytes : List UInt8}
    (h : unescapeHex a b c d = some bytes) (text : List UInt8) :
    readString (0x5c :: 0x75 :: a :: b :: c :: d :: text) =
      (readString text).map fun (value, rest) => (bytes ++ value, rest) := by
  rw [readString.eq_def]
  cases hrest : readString text <;> simp [h, hrest]

/-- A byte that stands for itself. -/
theorem readString_raw {byte : UInt8} (hquote : byte ≠ 0x22) (hbackslash : byte ≠ 0x5c)
    (hcontrol : ¬byte < 0x20) (text : List UInt8) :
    readString (byte :: text) =
      (readString text).map fun (value, rest) => (byte :: value, rest) := by
  rw [readString.eq_def]
  cases hrest : readString text <;> simp [hquote, hbackslash, hcontrol, hrest]

/-- The escape of a control character stands for that character. -/
theorem unescapeHex_control {byte : UInt8} (h : byte < 0x20) :
    unescapeHex 0x30 0x30 (hexDigit (byte / 16)) (hexDigit (byte % 16)) = some [byte] := by
  have hall : ∀ n < 32, unescapeHex 0x30 0x30 (hexDigit (UInt8.ofNat n / 16))
      (hexDigit (UInt8.ofNat n % 16)) = some [UInt8.ofNat n] := by decide
  have hbyte := hall byte.toNat (UInt8.lt_iff_toNat_lt.1 h)
  rwa [UInt8.ofNat_toNat] at hbyte

/-- The reader undoes the escaping of one byte. -/
theorem readString_escape (byte : UInt8) (text : List UInt8) :
    readString (escape byte ++ text) =
      (readString text).map fun (value, rest) => (byte :: value, rest) := by
  unfold escape
  split_ifs with hquote hbackslash hb hf hn hr ht hcontrol
  · subst hquote
    exact readString_unescape (by decide) text
  · subst hbackslash
    exact readString_unescape (by decide) text
  · subst hb
    exact readString_unescape (by decide) text
  · subst hf
    exact readString_unescape (by decide) text
  · subst hn
    exact readString_unescape (by decide) text
  · subst hr
    exact readString_unescape (by decide) text
  · subst ht
    exact readString_unescape (by decide) text
  · exact readString_unescapeHex (unescapeHex_control hcontrol) text
  · exact readString_raw hquote hbackslash hcontrol text

/-- A quoted string is read back. -/
theorem readString_quote (value rest : List UInt8) :
    readString (value.flatMap escape ++ 0x22 :: rest) = some (value, rest) := by
  induction value with
  | nil =>
    rw [readString.eq_def]
    simp
  | cons byte value ih => simp [readString_escape, ih]

/-! ## Numbers -/

/-- A number has at least one digit. -/
theorem decimal_ne_nil (value : ℕ) : decimal value ≠ [] := by
  intro h
  exact Nat.toDigits_ne_nil (List.map_eq_nil_iff.1 h)

/-- The text does not go on with a digit. -/
def NoDigit (text : List UInt8) : Prop := ∀ byte ∈ text.head?, isDigit byte = false

/-- The character of a digit fits into a byte, which is a digit. -/
theorem isDigit_ofNat {digit : Char} (h : digit.isDigit = true) :
    (UInt8.ofNat digit.toNat).toNat = digit.toNat ∧ isDigit (UInt8.ofNat digit.toNat) = true := by
  simp only [Char.isDigit, Bool.and_eq_true, decide_eq_true_eq, UInt32.le_iff_toNat_le] at h
  have hlow : 48 ≤ digit.toNat := h.1
  have hhigh : digit.toNat ≤ 57 := h.2
  have hvalue : (UInt8.ofNat digit.toNat).toNat = digit.toNat :=
    UInt8.toNat_ofNat_of_lt (show digit.toNat < 256 by omega)
  refine ⟨hvalue, ?_⟩
  simp only [isDigit, Bool.and_eq_true, decide_eq_true_eq, UInt8.le_iff_toNat_le, hvalue]
  exact ⟨hlow, hhigh⟩

/-- The characters of a number are digits. -/
theorem isDigit_toDigits {value : ℕ} {digit : Char} (h : digit ∈ Nat.toDigits 10 value) :
    digit.isDigit = true :=
  Nat.isDigit_of_mem_toDigits (by decide) (by decide) h

/-- The bytes of a number are digits. -/
theorem isDigit_decimal (value : ℕ) : ∀ byte ∈ decimal value, isDigit byte = true := by
  intro byte hbyte
  obtain ⟨digit, hdigit, rfl⟩ := List.mem_map.1 hbyte
  exact (isDigit_ofNat (isDigit_toDigits hdigit)).2

/-- The digits of a number stand for it. -/
theorem digitsValue_decimal (value : ℕ) : digitsValue (decimal value) = value := by
  have hfold : ∀ (digits : List Char) (init : ℕ), (∀ digit ∈ digits, digit.isDigit = true) →
      (digits.map fun digit => UInt8.ofNat digit.toNat).foldl
        (fun value digit => 10 * value + (digit.toNat - 0x30)) init =
        Nat.ofDigitChars 10 digits init := by
    intro digits
    induction digits with
    | nil => simp
    | cons digit digits ih =>
      intro init hdigits
      have hvalue := (isDigit_ofNat (hdigits digit (by simp))).1
      rw [List.map_cons, List.foldl_cons, Nat.ofDigitChars_cons, hvalue]
      exact ih _ fun digit hdigit => hdigits digit (by simp [hdigit])
  rw [digitsValue, decimal, hfold _ _ fun digit => isDigit_toDigits, Nat.ofDigitChars_ten_toDigits]

/-- A positive number does not begin with a zero. -/
theorem toDigits_head {value : ℕ} (h : 0 < value) : (Nat.toDigits 10 value).head? ≠ some '0' := by
  induction value using Nat.strongRecOn with
  | ind value ih =>
    by_cases hlt : value < 10
    · rw [Nat.toDigits_of_lt_base hlt]
      simp
      omega
    · rw [Nat.toDigits_of_base_le (by decide) (by omega),
        List.head?_append_of_ne_nil _ Nat.toDigits_ne_nil]
      exact ih _ (by omega) (by omega)

/-- A number of more than one digit does not start with a zero. -/
theorem decimal_head (value : ℕ) :
    ¬((decimal value).head? = some 0x30 ∧ 1 < (decimal value).length) := by
  rintro ⟨hhead, hlength⟩
  have hpos : 0 < value := by
    apply Nat.pos_of_ne_zero
    rintro rfl
    simp [decimal] at hlength
  obtain ⟨digit, hdigit, hzero⟩ := Option.map_eq_some_iff.1 ((List.head?_map ..).symm.trans hhead)
  have hvalue := (isDigit_ofNat (isDigit_toDigits (List.mem_of_mem_head? hdigit))).1
  have hchar : digit = '0' := by
    apply Char.ext
    apply UInt32.toNat_inj.1
    rw [hzero] at hvalue
    exact hvalue.symm
  exact toDigits_head hpos (hchar ▸ hdigit)

/-- A number is read back when no digit follows it. -/
theorem readNat_decimal (value : ℕ) {rest : List UInt8} (h : NoDigit rest) :
    readNat (decimal value ++ rest) = some (value, rest) := by
  have hrest : rest.takeWhile isDigit = [] ∧ rest.dropWhile isDigit = rest := by
    cases rest with
    | nil => exact ⟨rfl, rfl⟩
    | cons byte rest => simp [h byte rfl]
  have htake : (decimal value ++ rest).takeWhile isDigit = decimal value := by
    rw [List.takeWhile_append_of_pos (isDigit_decimal value), hrest.1, List.append_nil]
  have hdrop : (decimal value ++ rest).dropWhile isDigit = rest := by
    rw [List.dropWhile_append_of_pos (isDigit_decimal value), hrest.2]
  rw [readNat, htake, hdrop, if_neg, digitsValue_decimal]
  rintro (hnil | hzero)
  · exact decimal_ne_nil value hnil
  · exact decimal_head value hzero

/-! ## Values -/

/-- A byte that is not the expected one is not accepted. -/
theorem expect_of_ne {byte first : UInt8} (h : isSpace first = false) (hne : first ≠ byte)
    (rest : List UInt8) : expect byte (first :: rest) = none := by
  simp [expect, skipSpace, h, hne]

/-- A byte that a value can start with. -/
def StartsValue (byte : UInt8) : Prop := isSpace byte = false ∧ byte ≠ 0x5d

/-- A digit can begin a value. -/
theorem StartsValue.of_isDigit {byte : UInt8} (h : isDigit byte = true) : StartsValue byte := by
  refine ⟨?_, ?_⟩
  · apply Bool.eq_false_iff.2
    intro hspace
    simp only [isSpace, Bool.or_eq_true, decide_eq_true_eq] at hspace
    rcases hspace with ((rfl | rfl) | rfl) | rfl <;> simp [isDigit] at h
  · rintro rfl
    simp [isDigit] at h

/-- A number begins with a digit. -/
theorem decimal_cons (value : ℕ) :
    ∃ first rest, decimal value = first :: rest ∧ isDigit first = true := by
  obtain ⟨first, rest, heq⟩ := List.exists_cons_of_ne_nil (decimal_ne_nil value)
  exact ⟨first, rest, heq, isDigit_decimal value first (by simp [heq])⟩

/-- The text of a value begins with a byte that can begin a value. -/
theorem Tree.render_cons (tree : Tree) :
    ∃ first rest, tree.render = first :: rest ∧ StartsValue first := by
  cases tree with
  | scalar value =>
    cases value with
    | null => exact ⟨_, _, rfl, by decide, by decide⟩
    | bool value => cases value <;> exact ⟨_, _, rfl, by decide, by decide⟩
    | number value =>
      cases value with
      | ofNat value =>
        obtain ⟨first, rest, heq, hdigit⟩ := decimal_cons value
        exact ⟨first, rest, heq, .of_isDigit hdigit⟩
      | negSucc value => exact ⟨_, _, rfl, by decide, by decide⟩
    | string value => exact ⟨_, _, rfl, by decide, by decide⟩
  | array elements => exact ⟨_, _, rfl, by decide, by decide⟩
  | object members => exact ⟨_, _, rfl, by decide, by decide⟩

/-- A value that begins with a digit is a number. -/
theorem readValue_digit {first : UInt8} (h : isDigit first = true) (fuel : ℕ)
    (rest : List UInt8) :
    readValue (fuel + 1) (first :: rest) =
      (readNat (first :: rest)).map fun (value, rest) => (.scalar (.number value), rest) := by
  have hspace := (StartsValue.of_isDigit h).1
  have hne : ∀ byte, isDigit byte = false → first ≠ byte := by
    rintro byte hbyte rfl
    simp [h] at hbyte
  rw [readValue]
  simp [skipSpace, hspace, hne 0x7b (by decide), hne 0x5b (by decide), hne 0x22 (by decide),
    hne 0x2d (by decide), hne 0x74 (by decide), hne 0x66 (by decide), hne 0x6e (by decide)]

/-- A scalar is read back when no digit follows it. -/
theorem readValue_scalar (value : Scalar) (fuel : ℕ) {rest : List UInt8} (h : NoDigit rest) :
    readValue (fuel + 1) (value.render ++ rest) = some (.scalar value, rest) := by
  cases value with
  | null => simp [Scalar.render, readValue, skipSpace, isSpace, readWord]
  | bool value => cases value <;> simp [Scalar.render, readValue, skipSpace, isSpace, readWord]
  | number value =>
    cases value with
    | ofNat value =>
      obtain ⟨first, digits, heq, hdigit⟩ := decimal_cons value
      have hread := readNat_decimal value h
      rw [heq] at hread
      rw [Scalar.render, heq, List.cons_append, readValue_digit hdigit, ← List.cons_append, hread]
      rfl
    | negSucc value =>
      simp [Scalar.render, readValue, skipSpace, isSpace, readNat_decimal _ h, Int.negSucc_eq]
  | string value =>
    simp [Scalar.render, quote, readValue, skipSpace, isSpace, readString_quote]

/-- A text that begins with another byte continues no number. -/
theorem noDigit_cons {byte : UInt8} (h : isDigit byte = false) (rest : List UInt8) :
    NoDigit (byte :: rest) := by
  intro first hfirst
  obtain rfl : byte = first := by simpa using hfirst
  exact h

/-- What follows a value inside an array does not go on with a digit. -/
theorem noDigit_elementsText (elements : List Tree) (rest : List UInt8) :
    NoDigit (elementsText elements ++ 0x5d :: rest) := by
  cases elements with
  | nil => exact noDigit_cons (by decide) _
  | cons element elements => exact noDigit_cons (by decide) _

/-- What follows a member continues no number. -/
theorem noDigit_membersText (members : List (List UInt8 × Tree)) (rest : List UInt8) :
    NoDigit (membersText members ++ 0x7d :: rest) := by
  cases members with
  | nil => exact noDigit_cons (by decide) _
  | cons member members => exact noDigit_cons (by decide) _

/-- An array that does not end at once has elements. -/
theorem readValue_array {text : List UInt8} (h : expect 0x5d text = none) (fuel : ℕ) :
    readValue (fuel + 1) (0x5b :: text) =
      (readElements fuel text).map fun (elements, rest) => (.array elements, rest) := by
  rw [readValue]
  simp [skipSpace, isSpace, h]

/-- An object that does not end at once has members. -/
theorem readValue_object {text : List UInt8} (h : expect 0x7d text = none) (fuel : ℕ) :
    readValue (fuel + 1) (0x7b :: text) =
      (readMembers fuel text).map fun (members, rest) => (.object members, rest) := by
  rw [readValue]
  simp [skipSpace, isSpace, h]

section Steps

variable {fuel : ℕ} {text rest : List UInt8}

/-- The last element is followed by the bracket. -/
theorem readElements_last {element : Tree}
    (h : readValue fuel text = some (element, 0x5d :: rest)) :
    readElements (fuel + 1) text = some ([element], rest) := by
  rw [readElements]
  simp [h, expect, skipSpace, isSpace]

/-- Any other element is followed by a comma and more elements. -/
theorem readElements_more {element : Tree} {elements : List Tree} {text' : List UInt8}
    (h : readValue fuel text = some (element, 0x2c :: text'))
    (hmore : readElements fuel text' = some (elements, rest)) :
    readElements (fuel + 1) text = some (element :: elements, rest) := by
  rw [readElements]
  simp [h, hmore, expect, skipSpace, isSpace]

/-- The last member is followed by the brace. -/
theorem readMembers_last (name : List UInt8) {value : Tree}
    (h : readValue fuel text = some (value, 0x7d :: rest)) :
    readMembers (fuel + 1) (quote name ++ 0x3a :: text) = some ([(name, value)], rest) := by
  rw [readMembers]
  simp [quote, readString_quote, h, expect, skipSpace, isSpace]

/-- Any other member is followed by a comma and more members. -/
theorem readMembers_more (name text' : List UInt8) {value : Tree}
    {members : List (List UInt8 × Tree)}
    (h : readValue fuel text = some (value, 0x2c :: text'))
    (hmore : readMembers fuel text' = some (members, rest)) :
    readMembers (fuel + 1) (quote name ++ 0x3a :: text) =
      some ((name, value) :: members, rest) := by
  rw [readMembers]
  simp [quote, readString_quote, h, hmore, expect, skipSpace, isSpace]

end Steps

mutual

/-- The reader gives back the value, and the text behind it. -/
theorem readValue_render : ∀ (tree : Tree) (fuel : ℕ) (rest : List UInt8),
    tree.render.length ≤ fuel → NoDigit rest →
    readValue fuel (tree.render ++ rest) = some (tree, rest)
  | tree, 0, rest, hfuel, _ => by
    obtain ⟨first, text, heq, -⟩ := tree.render_cons
    simp [heq] at hfuel
  | .scalar value, fuel + 1, rest, _, hrest => readValue_scalar value fuel hrest
  | .array [], fuel + 1, rest, _, _ => by
    simp [Tree.render, elementsText, readValue, skipSpace, isSpace, expect]
  | .array (element :: elements), fuel + 1, rest, hfuel, _ => by
    obtain ⟨first, text, heq, hspace, hne⟩ := element.render_cons
    have helements := readElements_render (element :: elements) fuel rest (by simp)
      (by simp [Tree.render] at hfuel ⊢; omega)
    -- the text of an element starts with no bracket, so the reader takes the array for non-empty
    have hclose :
        expect 0x5d ((elementsText (element :: elements)).tail ++ 0x5d :: rest) = none := by
      rw [elementsText, List.tail_cons, heq]
      exact expect_of_ne hspace hne _
    rw [Tree.render, List.cons_append, List.append_assoc]
    exact (readValue_array hclose fuel).trans (by rw [helements]; rfl)
  | .object [], fuel + 1, rest, _, _ => by
    simp [Tree.render, membersText, readValue, skipSpace, isSpace, expect]
  | .object ((name, value) :: members), fuel + 1, rest, hfuel, _ => by
    have hmembers := readMembers_render ((name, value) :: members) fuel rest (by simp)
      (by simp [Tree.render] at hfuel ⊢; omega)
    have hclose :
        expect 0x7d ((membersText ((name, value) :: members)).tail ++ 0x7d :: rest) = none :=
      expect_of_ne (by decide) (by decide) _
    rw [Tree.render, List.cons_append, List.append_assoc]
    exact (readValue_object hclose fuel).trans (by rw [hmembers]; rfl)

/-- The elements of an array are read back, with as much fuel as they have characters. -/
theorem readElements_render : ∀ (elements : List Tree) (fuel : ℕ) (rest : List UInt8),
    elements ≠ [] → (elementsText elements).length ≤ fuel →
    readElements fuel ((elementsText elements).tail ++ 0x5d :: rest) = some (elements, rest)
  | [], _, _, hne, _ => absurd rfl hne
  | element :: elements, 0, _, _, hfuel => by simp [elementsText] at hfuel
  | [element], fuel + 1, rest, _, hfuel => by
    apply readElements_last
    have hvalue := readValue_render element fuel (0x5d :: rest)
      (by simpa [elementsText] using hfuel) (noDigit_cons (by decide) _)
    simpa [elementsText] using hvalue
  | element :: next :: elements, fuel + 1, rest, _, hfuel => by
    -- the fuel is split between the first element and the rest of the array
    have hlength : element.render.length + (elementsText (next :: elements)).length ≤ fuel := by
      simpa [elementsText] using hfuel
    have hvalue := readValue_render element fuel _ (by omega)
      (noDigit_elementsText (next :: elements) rest)
    have hmore := readElements_render (next :: elements) fuel rest (by simp) (by omega)
    refine readElements_more ?_ hmore
    simpa [elementsText] using hvalue

/-- The members of an object are read back, with as much fuel as they have characters. -/
theorem readMembers_render : ∀ (members : List (List UInt8 × Tree)) (fuel : ℕ)
    (rest : List UInt8), members ≠ [] → (membersText members).length ≤ fuel →
    readMembers fuel ((membersText members).tail ++ 0x7d :: rest) = some (members, rest)
  | [], _, _, hne, _ => absurd rfl hne
  | member :: members, 0, _, _, hfuel => by simp [membersText] at hfuel
  | [(name, value)], fuel + 1, rest, _, hfuel => by
    have hlength : value.render.length ≤ fuel := by
      simp [membersText, quote] at hfuel
      omega
    have hvalue := readValue_render value fuel (0x7d :: rest) hlength
      (noDigit_cons (by decide) _)
    have hlast := readMembers_last name hvalue
    simpa [membersText] using hlast
  | (name, value) :: next :: members, fuel + 1, rest, _, hfuel => by
    have hlength : value.render.length + (membersText (next :: members)).length ≤ fuel := by
      simp [membersText, quote] at hfuel ⊢
      omega
    have hvalue := readValue_render value fuel _ (by omega)
      (noDigit_membersText (next :: members) rest)
    -- the rest of the members needs less fuel by the value in front
    have hmore := readMembers_render (next :: members) fuel rest (by simp) (by omega)
    have hnext :=
      readMembers_more name ((membersText (next :: members)).tail ++ 0x7d :: rest) hvalue hmore
    simpa [membersText] using hnext

end

/-- The text of a value is read back as that value. -/
theorem parse_render (tree : Tree) : parse tree.render = some tree := by
  have hread := readValue_render tree _ [] (Nat.le_refl _) (by simp [NoDigit])
  rw [List.append_nil] at hread
  simp [parse, hread, skipSpace]

end JsonText
