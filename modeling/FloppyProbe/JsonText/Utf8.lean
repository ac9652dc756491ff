import FloppyProbe.JsonText.Document
import FloppyProbe.JsonText.Reader

/-!
# JSON texts in UTF-8

A text has to be encoded in UTF-8, while the reader takes the bytes of a string from `0x80` on as
they come. The text of a value is valid UTF-8 exactly when its strings are, since everything that
the text adds to them is ASCII, and an ASCII byte is never part of a longer encoding.
-/

namespace JsonText

/-- The bytes are the encoding of some characters. -/
def ValidUtf8 (bytes : List UInt8) : Prop :=
  ∃ characters : List Char, bytes = characters.flatMap String.utf8EncodeChar

/-! ## ASCII -/

/-- The byte is an ASCII character. -/
def IsAscii (byte : UInt8) : Prop := byte < 0x80

instance (byte : UInt8) : Decidable (IsAscii byte) := inferInstanceAs (Decidable (byte < 0x80))

/-- All of the bytes are ASCII characters. -/
def IsAsciiText (bytes : List UInt8) : Prop := ∀ byte ∈ bytes, IsAscii byte

-- Goes through the text, where the instance for a `∀` over a finite type goes through all bytes.
instance (bytes : List UInt8) : Decidable (IsAsciiText bytes) := List.decidableBAll IsAscii bytes

/-- The bytes of a character beyond ASCII are no ASCII characters. -/
theorem not_isAscii {value base : ℕ} (hbase : 128 ≤ base) (hvalue : value + base < 256) :
    ¬IsAscii (UInt8.ofNat (value + base)) := by
  intro hlt
  have htoNat := UInt8.lt_iff_toNat_lt.1 hlt
  rw [UInt8.toNat_ofNat_of_lt' hvalue] at htoNat
  have h128 : (0x80 : UInt8).toNat = 128 := rfl
  omega

/-- The encoding of a character outside ASCII has no ASCII byte. -/
theorem utf8EncodeChar_of_isAscii {character : Char} {byte : UInt8}
    (h : byte ∈ String.utf8EncodeChar character) (hascii : IsAscii byte) :
    String.utf8EncodeChar character = [byte] := by
  have hfar : ∀ value base : ℕ, 128 ≤ base → value + base < 256 →
      byte ≠ UInt8.ofNat (value + base) := by
    rintro value base hbase hvalue rfl
    exact not_isAscii hbase hvalue hascii
  unfold String.utf8EncodeChar at h ⊢
  dsimp only at h ⊢
  split_ifs at h ⊢
  · obtain rfl := List.mem_singleton.1 h
    rfl
  · simp only [List.mem_cons, List.not_mem_nil, or_false] at h
    rcases h with h | h <;> exact absurd h (hfar _ _ (by decide) (by omega))
  · simp only [List.mem_cons, List.not_mem_nil, or_false] at h
    rcases h with h | h | h <;> exact absurd h (hfar _ _ (by decide) (by omega))
  · simp only [List.mem_cons, List.not_mem_nil, or_false] at h
    rcases h with h | h | h | h <;> exact absurd h (hfar _ _ (by decide) (by omega))

/-- An ASCII byte is the encoding of a character. -/
theorem exists_utf8EncodeChar {byte : UInt8} (h : IsAscii byte) :
    ∃ character, String.utf8EncodeChar character = [byte] := by
  have hall : ∀ n < 128, String.utf8EncodeChar (Char.ofNat n) = [UInt8.ofNat n] := by decide
  refine ⟨Char.ofNat byte.toNat, ?_⟩
  have hbyte := hall byte.toNat (UInt8.lt_iff_toNat_lt.1 h)
  rwa [UInt8.ofNat_toNat] at hbyte

namespace ValidUtf8

variable {first second : List UInt8} {byte : UInt8}

/-- The empty text is valid. -/
theorem nil : ValidUtf8 [] := ⟨[], rfl⟩

/-- A valid text after a valid text is valid. -/
theorem append (h : ValidUtf8 first) (h' : ValidUtf8 second) : ValidUtf8 (first ++ second) := by
  obtain ⟨characters, rfl⟩ := h
  obtain ⟨characters', rfl⟩ := h'
  exact ⟨characters ++ characters', List.flatMap_append.symm⟩

/-- The encoding of a character is valid. -/
theorem of_character (character : Char) : ValidUtf8 (String.utf8EncodeChar character) :=
  ⟨[character], by simp⟩

/-- An ASCII byte separates two encodings. -/
theorem append_cons_iff (h : IsAscii byte) :
    ValidUtf8 (first ++ byte :: second) ↔ ValidUtf8 first ∧ ValidUtf8 second := by
  constructor
  · rintro ⟨characters, heq⟩
    induction characters generalizing first with
    | nil => simp at heq
    | cons character characters ih =>
      rw [List.flatMap_cons, List.append_eq_append_iff] at heq
      rcases heq with ⟨middle, hcharacter, hrest⟩ | ⟨middle, rfl, hrest⟩
      · cases middle with
        | nil =>
          -- The byte begins what follows the first character.
          rw [List.append_nil] at hcharacter
          obtain ⟨-, hsecond⟩ := @ih [] hrest
          exact ⟨hcharacter ▸ of_character character, hsecond⟩
        | cons byte' middle =>
          obtain ⟨rfl, rfl⟩ := List.cons.inj hrest
          have hencoding : String.utf8EncodeChar character = [byte] :=
            utf8EncodeChar_of_isAscii (by simp [hcharacter]) h
          rw [hencoding] at hcharacter
          obtain ⟨rfl, rfl⟩ : first = [] ∧ middle = [] := by
            cases first <;> simp_all
          exact ⟨nil, characters, rfl⟩
      · obtain ⟨hmiddle, hsecond⟩ := ih hrest.symm
        exact ⟨(of_character character).append hmiddle, hsecond⟩
  · rintro ⟨hfirst, hsecond⟩
    obtain ⟨character, hcharacter⟩ := exists_utf8EncodeChar h
    have hbyte : ValidUtf8 [byte] := hcharacter ▸ of_character character
    exact hfirst.append (hbyte.append hsecond)

/-- An ASCII byte in front does not matter. -/
theorem cons_iff (h : IsAscii byte) : ValidUtf8 (byte :: second) ↔ ValidUtf8 second := by
  have hseparated : ValidUtf8 ([] ++ byte :: second) ↔ _ := append_cons_iff h
  rw [List.nil_append] at hseparated
  rw [hseparated]
  exact and_iff_right nil

/-- An ASCII text in front does not matter. -/
theorem append_iff_of_isAscii (h : IsAsciiText first) :
    ValidUtf8 (first ++ second) ↔ ValidUtf8 second := by
  induction first with
  | nil => exact Iff.rfl
  | cons byte first ih =>
    rw [List.cons_append, cons_iff (h byte (by simp))]
    exact ih fun byte hbyte => h byte (by simp [hbyte])

/-- An ASCII text behind does not matter. -/
theorem append_isAscii_iff (h : IsAsciiText second) :
    ValidUtf8 (first ++ second) ↔ ValidUtf8 first := by
  induction second generalizing first with
  | nil => rw [List.append_nil]
  | cons byte second ih =>
    have hsecond : ValidUtf8 ([] ++ second) ↔ ValidUtf8 [] :=
      ih fun byte hbyte => h byte (by simp [hbyte])
    rw [append_cons_iff (h byte (by simp)), ← List.nil_append second, hsecond]
    exact and_iff_left nil

/-- No encoding starts with a byte that only goes on, or with one from `0xf8` on. -/
theorem not_cons {byte : UInt8} (h : ¬byte.IsUTF8FirstByte) (rest : List UInt8) :
    ¬ValidUtf8 (byte :: rest) := by
  rintro ⟨characters, heq⟩
  cases characters with
  | nil => cases heq
  | cons character characters =>
    have hfirst := UInt8.isUTF8FirstByte_getElem_zero_utf8EncodeChar (c := character)
    cases hencoding : String.utf8EncodeChar character with
    | nil => exact String.utf8EncodeChar_ne_nil hencoding
    | cons byte' rest' =>
      rw [List.flatMap_cons, hencoding] at heq
      obtain ⟨rfl, -⟩ := List.cons.inj heq
      simp only [hencoding, List.getElem_cons_zero] at hfirst
      exact h hfirst

end ValidUtf8

/-! ## Strings -/

/-- An ASCII byte is escaped by ASCII characters. -/
theorem escape_of_isAscii {byte : UInt8} (h : IsAscii byte) :
    escape byte ≠ [] ∧ IsAsciiText (escape byte) := by
  have hall : ∀ n < 128, escape (UInt8.ofNat n) ≠ [] ∧
      IsAsciiText (escape (UInt8.ofNat n)) := by decide +kernel
  have hbyte := hall byte.toNat (UInt8.lt_iff_toNat_lt.1 h)
  rwa [UInt8.ofNat_toNat] at hbyte

/-- A byte beyond ASCII stands for itself. -/
theorem escape_of_not_isAscii {byte : UInt8} (h : ¬IsAscii byte) : escape byte = [byte] := by
  have hall : ∀ n < 256, ¬IsAscii (UInt8.ofNat n) → escape (UInt8.ofNat n) = [UInt8.ofNat n] := by
    decide +kernel
  have hbyte := hall byte.toNat byte.toNat_lt
  rw [UInt8.ofNat_toNat] at hbyte
  exact hbyte h

/-- Escaping does not change whether a text is valid. -/
theorem validUtf8_append_escape_iff (first second : List UInt8) :
    ValidUtf8 (first ++ second.flatMap escape) ↔ ValidUtf8 (first ++ second) := by
  induction second generalizing first with
  | nil => rfl
  | cons byte second ih =>
    by_cases hascii : IsAscii byte
    · obtain ⟨hne, hescape⟩ := escape_of_isAscii hascii
      obtain ⟨start, rest, heq⟩ := List.exists_cons_of_ne_nil hne
      rw [heq] at hescape
      have hsecond := ih []
      rw [List.nil_append, List.nil_append] at hsecond
      rw [List.flatMap_cons, heq, List.cons_append,
        ValidUtf8.append_cons_iff (hescape start (by simp)),
        ValidUtf8.append_iff_of_isAscii fun byte hbyte => hescape byte (by simp [hbyte]), hsecond,
        ValidUtf8.append_cons_iff hascii]
    · rw [List.flatMap_cons, escape_of_not_isAscii hascii, ← List.append_assoc, ih,
        List.append_assoc, List.singleton_append]

/-- A quoted string is valid when the string is. -/
theorem validUtf8_quote_iff (value : List UInt8) : ValidUtf8 (quote value) ↔ ValidUtf8 value := by
  have hquote : IsAscii 0x22 := by decide
  have hvalue := validUtf8_append_escape_iff [] value
  rw [List.nil_append, List.nil_append] at hvalue
  rw [quote, ValidUtf8.cons_iff hquote, ValidUtf8.append_cons_iff hquote, hvalue]
  exact and_iff_left ValidUtf8.nil

/-! ## Values -/

/-- The strings of the event are valid UTF-8. -/
def Token.Utf8 : Token → Prop
  | .key name => ValidUtf8 name
  | .scalar (.string value) => ValidUtf8 value
  | _ => True

/-- A digit is an ASCII character. -/
theorem isAscii_of_isDigit {byte : UInt8} (h : isDigit byte = true) : IsAscii byte := by
  simp only [isDigit, Bool.and_eq_true, decide_eq_true_eq] at h
  exact UInt8.lt_of_le_of_lt h.2 (by decide)

/-- An ASCII text is valid. -/
theorem validUtf8_of_isAscii {bytes : List UInt8} (h : IsAsciiText bytes) :
    ValidUtf8 bytes := by
  have hbytes : ValidUtf8 (bytes ++ []) ↔ _ := ValidUtf8.append_iff_of_isAscii h
  rw [List.append_nil] at hbytes
  exact hbytes.2 ValidUtf8.nil

/-- A number is an ASCII text. -/
theorem isAscii_decimal (value : ℕ) : IsAsciiText (decimal value) :=
  fun byte hbyte => isAscii_of_isDigit (isDigit_decimal value byte hbyte)

/-- The text of a scalar begins with an ASCII byte, and it is valid if the scalar is. -/
theorem Scalar.render_utf8 (value : Scalar) : ∃ first rest, value.render = first :: rest ∧
    IsAscii first ∧ (ValidUtf8 rest ↔ (Token.scalar value).Utf8) := by
  -- all scalars but the strings are rendered in ASCII
  have hall : ∀ text : List UInt8, text ≠ [] → IsAsciiText text →
      ∃ first rest, text = first :: rest ∧ IsAscii first ∧ (ValidUtf8 rest ↔ True) := by
    intro text hne h
    obtain ⟨first, rest, rfl⟩ := List.exists_cons_of_ne_nil hne
    exact ⟨first, rest, rfl, h first (by simp),
      iff_true_intro (validUtf8_of_isAscii fun byte hbyte => h byte (by simp [hbyte]))⟩
  cases value with
  | null => exact hall _ (by decide) (by decide)
  | bool value => cases value <;> exact hall _ (by decide) (by decide)
  | number value =>
    cases value with
    | ofNat value => exact hall _ (decimal_ne_nil value) (isAscii_decimal value)
    | negSucc value =>
      refine hall _ (by simp [render]) fun byte hbyte => ?_
      rcases List.mem_cons.1 hbyte with rfl | hbyte
      · decide
      · exact isAscii_decimal _ byte hbyte
  | string value =>
    have hquote : IsAscii 0x22 := by decide
    exact ⟨_, _, rfl, hquote, (ValidUtf8.cons_iff hquote).symm.trans (validUtf8_quote_iff value)⟩

namespace Document

variable {document next : Document} {token : Token}

/-- The comma before a value is an ASCII text. -/
theorem isAscii_comma (document : Document) : IsAsciiText document.comma := by
  have hcomma : ∀ byte ∈ document.comma, byte = 0x2c := by
    cases document with
    | building frame outer =>
      cases frame with
      | array elements => by_cases h : elements = [] <;> simp [comma, Frame.comma, h]
      | object members => by_cases h : members = [] <;> simp [comma, Frame.comma, h]
      | member members name => simp [comma, Frame.comma]
    | _ => simp [comma]
  intro byte hbyte
  rw [hcomma byte hbyte]
  decide

/-- A comma and an ASCII byte separate what is before them from the rest. -/
theorem append_comma_iff (text : List UInt8) (document : Document) {byte : UInt8}
    (h : IsAscii byte) (rest : List UInt8) :
    ValidUtf8 (text ++ (document.comma ++ byte :: rest)) ↔ ValidUtf8 text ∧ ValidUtf8 rest := by
  cases hcomma : document.comma with
  | nil => exact ValidUtf8.append_cons_iff h
  | cons first others =>
    have hascii := document.isAscii_comma
    rw [hcomma] at hascii
    rw [List.cons_append, ValidUtf8.append_cons_iff (hascii first (by simp)),
      ValidUtf8.append_iff_of_isAscii fun byte hbyte => hascii byte (by simp [hbyte]),
      ValidUtf8.cons_iff h]

/-- The text stays valid when a valid event is added, and only then. -/
theorem push_utf8 (h : document.push token = some next) :
    ValidUtf8 next.text ↔ ValidUtf8 document.text ∧ token.Utf8 := by
  -- a punctuation character neither breaks nor mends a sequence
  have hplain : ∀ byte, IsAscii byte → (ValidUtf8 (document.text ++ (document.comma ++ [byte])) ↔
      ValidUtf8 document.text ∧ True) := by
    intro byte hbyte
    rw [append_comma_iff _ _ hbyte]
    exact and_congr_right fun _ => iff_true_intro ValidUtf8.nil
  rw [push_text h]
  cases token with
  | beginObject => exact hplain 0x7b (by decide)
  | beginArray => exact hplain 0x5b (by decide)
  | endObject | endArray =>
    rw [addition, ValidUtf8.append_cons_iff (by decide)]
    exact and_congr_right fun _ => iff_true_intro ValidUtf8.nil
  | key name =>
    have hcolon : IsAscii 0x3a := by decide
    have hquote : IsAscii 0x22 := by decide
    -- the quotes and the colon separate the key from what stands around it
    have hname : ValidUtf8 (name.flatMap escape ++ [0x22] ++ [0x3a]) ↔ ValidUtf8 name := by
      rw [ValidUtf8.append_cons_iff hcolon, ← validUtf8_quote_iff name, quote,
        ValidUtf8.cons_iff hquote]
      exact and_iff_left ValidUtf8.nil
    rw [addition, quote, List.cons_append, append_comma_iff _ _ hquote, hname]
    rfl
  | scalar value =>
    obtain ⟨first, rest, heq, hascii, hutf8⟩ := value.render_utf8
    rw [addition, heq, append_comma_iff _ _ hascii, hutf8]

/-- The text of a document is valid exactly when every string pushed onto it is. -/
theorem pushesWithin_utf8 {limit : ℕ} {tokens : List Token} {last : Document}
    (h : document.pushesWithin limit tokens = some last) :
    ValidUtf8 last.text ↔ ValidUtf8 document.text ∧ ∀ token ∈ tokens, token.Utf8 := by
  induction tokens generalizing document with
  | nil =>
    obtain rfl := Option.some.inj h
    simp
  | cons token tokens ih =>
    obtain ⟨next, hpush, -, hrest⟩ := pushesWithin_cons_eq_some h
    rw [ih hrest, push_utf8 hpush, List.forall_mem_cons, and_assoc]

end Document

namespace Tree

/-- The strings of the value are valid UTF-8. -/
def Utf8 (value : Tree) : Prop := ∀ token ∈ value.tokens, token.Utf8

/-- A string is valid when its bytes are. -/
theorem utf8_string_iff (value : List UInt8) : (scalar (.string value)).Utf8 ↔ ValidUtf8 value := by
  simp [Utf8, tokens, Token.Utf8]

/-- A number is valid. -/
theorem utf8_number (value : ℤ) : (scalar (.number value)).Utf8 := by
  simp [Utf8, tokens, Token.Utf8]

/-- A truth value is valid. -/
theorem utf8_bool (value : Bool) : (scalar (.bool value)).Utf8 := by
  simp [Utf8, tokens, Token.Utf8]

/-- `null` is valid. -/
theorem utf8_null : (scalar .null).Utf8 := by
  simp [Utf8, tokens, Token.Utf8]

/-- An array is valid when its elements are. -/
theorem utf8_array_iff (elements : List Tree) :
    (array elements).Utf8 ↔ ∀ element ∈ elements, element.Utf8 := by
  have hall : (∀ token ∈ elementsTokens elements, token.Utf8) ↔
      ∀ element ∈ elements, element.Utf8 := by
    induction elements with
    | nil => simp [elementsTokens]
    | cons element elements ih =>
      rw [elementsTokens, List.forall_mem_append, ih, List.forall_mem_cons, Utf8]
  rw [← hall, Utf8, tokens, List.forall_mem_cons, List.forall_mem_append]
  exact ⟨fun h => h.2.1, fun h => ⟨trivial, h, by simp [Token.Utf8]⟩⟩

/-- An object is valid when its keys and values are. -/
theorem utf8_object_iff (members : List (List UInt8 × Tree)) :
    (object members).Utf8 ↔ ∀ member ∈ members, ValidUtf8 member.1 ∧ member.2.Utf8 := by
  have hall : (∀ token ∈ membersTokens members, token.Utf8) ↔
      ∀ member ∈ members, ValidUtf8 member.1 ∧ member.2.Utf8 := by
    induction members with
    | nil => simp [membersTokens]
    | cons member members ih =>
      rw [membersTokens, List.forall_mem_cons, List.forall_mem_append, ih, List.forall_mem_cons,
        and_assoc]
      rfl
  rw [← hall, Utf8, tokens, List.forall_mem_cons, List.forall_mem_append]
  exact ⟨fun h => h.2.1, fun h => ⟨trivial, h, by simp [Token.Utf8]⟩⟩

end Tree

/-- A text is valid UTF-8 exactly when the strings of its value are. -/
theorem validUtf8_render_iff (value : Tree) : ValidUtf8 value.render ↔ value.Utf8 := by
  have hplaces : Document.empty.places = some [] := rfl
  have hbuilds := Document.pushesWithin_tokens value hplaces
    (show ([] : List Outer).length + value.nesting ≤ value.nesting by simp)
  have hutf8 := Document.pushesWithin_utf8 hbuilds
  exact hutf8.trans (and_iff_right ValidUtf8.nil)

end JsonText
