import Mathlib.Data.Int.Notation
import Mathlib.Data.List.Basic

/-!
# JSON values

A JSON value with its text and with the events of a left-to-right traversal.

* `Tree` is a value. Strings are bytes, numbers are integers, and an object is the list of its
  members, in order and with repetitions.
* `Tree.tokens` is the traversal: a value is described by it completely (`Document.lean`).
* `Tree.render` is the text without insignificant white space. A string is escaped byte by byte,
  and bytes from `0x80` on stand for themselves.
-/

namespace JsonText

/-- A value that holds no other value. -/
inductive Scalar where
  | null
  | bool (value : Bool)
  | number (value : ℤ)
  | string (value : List UInt8)
deriving DecidableEq

/-- A JSON value. -/
inductive Tree where
  | scalar (value : Scalar)
  | array (elements : List Tree)
  | object (members : List (List UInt8 × Tree))

/-- An event of a traversal. -/
inductive Token where
  | beginObject
  | endObject
  | beginArray
  | endArray
  | key (name : List UInt8)
  | scalar (value : Scalar)
deriving DecidableEq

/-! ## Traversal -/

mutual

/-- The events of the value, from left to right. -/
def Tree.tokens : Tree → List Token
  | .scalar value => [.scalar value]
  | .array elements => .beginArray :: (elementsTokens elements ++ [.endArray])
  | .object members => .beginObject :: (membersTokens members ++ [.endObject])

/-- The events of the elements of an array. -/
def elementsTokens : List Tree → List Token
  | [] => []
  | element :: rest => element.tokens ++ elementsTokens rest

/-- The events of the members of an object, each with its key. -/
def membersTokens : List (List UInt8 × Tree) → List Token
  | [] => []
  | (name, value) :: rest => .key name :: (value.tokens ++ membersTokens rest)

end

/-- The events of two lists of elements follow each other. -/
@[simp]
theorem elementsTokens_append (xs ys : List Tree) :
    elementsTokens (xs ++ ys) = elementsTokens xs ++ elementsTokens ys := by
  induction xs with
  | nil => rfl
  | cons x xs ih => simp [elementsTokens, ih]

/-- The events of two lists of members follow each other. -/
@[simp]
theorem membersTokens_append (xs ys : List (List UInt8 × Tree)) :
    membersTokens (xs ++ ys) = membersTokens xs ++ membersTokens ys := by
  induction xs with
  | nil => rfl
  | cons x xs ih => simp [membersTokens, ih]

mutual

/-- The number of containers around the innermost value. -/
def Tree.nesting : Tree → ℕ
  | .scalar _ => 0
  | .array elements => elementsNesting elements + 1
  | .object members => membersNesting members + 1

/-- The nesting of the deepest element. -/
def elementsNesting : List Tree → ℕ
  | [] => 0
  | element :: rest => max element.nesting (elementsNesting rest)

/-- The nesting of the deepest value of a member. -/
def membersNesting : List (List UInt8 × Tree) → ℕ
  | [] => 0
  | (_, value) :: rest => max value.nesting (membersNesting rest)

end

/-! ## Text -/

/-- The lower-case hexadecimal digit of a value below 16. -/
def hexDigit (value : UInt8) : UInt8 := if value < 10 then value + 0x30 else value + 0x57

/-- The characters that stand for a byte inside a string. -/
def escape (byte : UInt8) : List UInt8 :=
  if byte = 0x22 then [0x5c, 0x22]
  else if byte = 0x5c then [0x5c, 0x5c]
  else if byte = 0x08 then [0x5c, 0x62]
  else if byte = 0x0c then [0x5c, 0x66]
  else if byte = 0x0a then [0x5c, 0x6e]
  else if byte = 0x0d then [0x5c, 0x72]
  else if byte = 0x09 then [0x5c, 0x74]
  else if byte < 0x20 then [0x5c, 0x75, 0x30, 0x30, hexDigit (byte / 16), hexDigit (byte % 16)]
  else [byte]

/-- The escaped string with its quotes. -/
def quote (value : List UInt8) : List UInt8 := 0x22 :: (value.flatMap escape ++ [0x22])

/-- The decimal digits of a number. -/
def decimal (value : ℕ) : List UInt8 :=
  (Nat.toDigits 10 value).map fun digit => UInt8.ofNat digit.toNat

/-- The text of a scalar. -/
def Scalar.render : Scalar → List UInt8
  | .null => [0x6e, 0x75, 0x6c, 0x6c]
  | .bool true => [0x74, 0x72, 0x75, 0x65]
  | .bool false => [0x66, 0x61, 0x6c, 0x73, 0x65]
  | .number (.ofNat value) => decimal value
  | .number (.negSucc value) => 0x2d :: decimal (value + 1)
  | .string value => quote value

mutual

/-- The text of a value. -/
def Tree.render : Tree → List UInt8
  | .scalar value => value.render
  | .array elements => 0x5b :: ((elementsText elements).tail ++ [0x5d])
  | .object members => 0x7b :: ((membersText members).tail ++ [0x7d])

/-- The elements, with a comma before each of them. -/
def elementsText : List Tree → List UInt8
  | [] => []
  | element :: rest => 0x2c :: (element.render ++ elementsText rest)

/-- The members, with a comma before each of them. -/
def membersText : List (List UInt8 × Tree) → List UInt8
  | [] => []
  | (name, value) :: rest => 0x2c :: (quote name ++ 0x3a :: (value.render ++ membersText rest))

end

/-- The texts of two lists of elements follow each other. -/
@[simp]
theorem elementsText_append (xs ys : List Tree) :
    elementsText (xs ++ ys) = elementsText xs ++ elementsText ys := by
  induction xs with
  | nil => rfl
  | cons x xs ih => simp [elementsText, ih]

/-- The texts of two lists of members follow each other. -/
@[simp]
theorem membersText_append (xs ys : List (List UInt8 × Tree)) :
    membersText (xs ++ ys) = membersText xs ++ membersText ys := by
  induction xs with
  | nil => rfl
  | cons x xs ih => simp [membersText, ih]

@[simp]
theorem elementsText_eq_nil {elements : List Tree} :
    elementsText elements = [] ↔ elements = [] := by
  cases elements <;> simp [elementsText]

@[simp]
theorem membersText_eq_nil {members : List (List UInt8 × Tree)} :
    membersText members = [] ↔ members = [] := by
  cases members <;> simp [membersText]

end JsonText
