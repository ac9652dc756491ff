import FloppyProbe.Text

/-!
# The JSON writer

The writer of `src/json.c`. `Json` is `M65Json` with its heap block; the arrays of the open
containers are a list, innermost first, whose length is `depth`. A call takes the writer to the
value it returns and the writer it leaves. The pointer to the writer is never NULL.

The allocator is a parameter: it answers each request with success or failure, and the bytes of
a block that nobody has written are its choice.
-/

namespace M65

/-- `SIZE_MAX`. -/
abbrev sizeMax : ℕ := 2 ^ 64 - 1

/-- `M65_JSON_MAX_DEPTH`. -/
abbrev jsonMaxDepth : ℕ := 16

/-- `realloc`, as the environment answers it. -/
structure Allocator where
  /-- The `n`-th request succeeds. -/
  grants : ℕ → Bool
  /-- What byte `i` of the block that answers request `n` holds. -/
  garbage : ℕ → ℕ → UInt8

/-- The block of `size` bytes that answers a request and keeps the bytes of `old`. -/
def Allocator.block (allocator : Allocator) (request size : ℕ) (old : List UInt8) : List UInt8 :=
  (List.range size).map fun i => old.getD i (allocator.garbage request i)

/-- The kind of an open container. -/
inductive JsonContainer where
  | object
  | array
deriving DecidableEq

/-- An open container. -/
structure JsonLevel where
  container : JsonContainer
  count : ℕ
  expectingValue : Bool
deriving DecidableEq

/-- `M65Json`. -/
structure Json where
  /-- The heap block, or NULL. -/
  data : Option (List UInt8)
  length : ℕ
  capacity : ℕ
  levels : List JsonLevel
  rootWritten : Bool
  failed : Bool
  /-- The number of requests made to the allocator. -/
  requests : ℕ
deriving DecidableEq

/-- A call of the writer. -/
abbrev JsonOp : Type := Json → Bool × Json

/-- `first && second`. -/
def JsonOp.andThen (first second : JsonOp) : JsonOp := fun json =>
  let (ok, json) := first json
  if ok then second json else (false, json)

/-- The writer fails, and the call returns false. -/
def Json.fail (json : Json) : Bool × Json := (false, { json with failed := true })

/-- The loop of `reserve`. It would not end at a capacity of zero, which no writer has. -/
def newCapacity (capacity required : ℕ) : Option ℕ :=
  if capacity < required then
    if sizeMax / 2 < capacity ∨ capacity = 0 then none
    else newCapacity (capacity * 2) required
  else some capacity
termination_by required - capacity

/-- `memcpy(&block[offset], bytes, ...)`. -/
def store (block : List UInt8) (offset : ℕ) (bytes : List UInt8) : List UInt8 :=
  block.take offset ++ bytes ++ block.drop (offset + bytes.length)

section Calls

variable (allocator : Allocator)

/-- `reserve`: room for `extra` bytes and the terminator. -/
def reserve (extra : ℕ) : JsonOp := fun json =>
  -- the subtraction does not wrap: a length stays below its capacity
  if json.failed ∨ sizeMax - json.length - 1 < extra then json.fail
  else
    let required := json.length + extra + 1
    if required ≤ json.capacity then (true, json)
    else
      match newCapacity json.capacity required with
      | none => json.fail
      | some capacity =>
          -- the request counts whether or not it is granted
          let asked := { json with requests := json.requests + 1 }
          if allocator.grants json.requests then
            let block := allocator.block json.requests capacity (json.data.getD [])
            (true, { asked with data := some block, capacity })
          else asked.fail

/-- `append_bytes`. -/
def appendBytes (bytes : List UInt8) : JsonOp :=
  (reserve allocator bytes.length).andThen fun json =>
    let length := json.length + bytes.length
    let data := json.data.map fun block => store (store block json.length bytes) length [0]
    (true, { json with data, length })

/-- `append_text`. -/
def appendText (text : String) : JsonOp := appendBytes allocator (str text)

/-- `append_char`. -/
def appendChar (value : UInt8) : JsonOp := appendBytes allocator [value]

/-- The body of the loop of `append_escaped`. -/
def appendEscapedByte (byte : UInt8) : JsonOp :=
  if byte = 0x22 then appendText allocator "\\\""
  else if byte = 0x5c then appendText allocator "\\\\"
  else if byte = 0x08 then appendText allocator "\\b"
  else if byte = 0x0c then appendText allocator "\\f"
  else if byte = 0x0a then appendText allocator "\\n"
  else if byte = 0x0d then appendText allocator "\\r"
  else if byte = 0x09 then appendText allocator "\\t"
  else if byte < 0x20 then appendBytes allocator (str "\\u" ++ hexDigits 4 byte.toNat)
  else appendChar allocator byte

/-- The loop of `append_escaped`, and the quote behind it. -/
def appendEscapedBytes : List UInt8 → JsonOp
  | [] => appendChar allocator 0x22
  | byte :: rest => (appendEscapedByte allocator byte).andThen (appendEscapedBytes rest)

/-- `append_escaped`. -/
def appendEscaped (value : CString) : JsonOp :=
  (appendChar allocator 0x22).andThen (appendEscapedBytes allocator value.bytes)

/-- `before_value`: where a value may stand, and the comma before it. -/
def beforeValue : JsonOp := fun json =>
  if json.failed then (false, json)
  else
    match json.levels with
    -- outside every container there is room for one value
    | [] => if json.rootWritten then json.fail else (true, { json with rootWritten := true })
    | level :: outer =>
        match level.container with
        | .object =>
            -- in an object a value stands only behind its key, which has written the comma
            if level.expectingValue then
              let next := { level with expectingValue := false, count := level.count + 1 }
              (true, { json with levels := next :: outer })
            else json.fail
        | .array =>
            let (ok, json) :=
              if 0 < level.count then appendChar allocator 0x2c json else (true, json)
            if ok then
              (true, { json with levels := { level with count := level.count + 1 } :: outer })
            else (false, json)

/-- `m65_json_init`. -/
def jsonInit : Bool × Json :=
  if allocator.grants 0 then
    (true, {
      data := some (store (allocator.block 0 256 []) 0 [0])
      length := 0
      capacity := 256
      levels := []
      rootWritten := false
      failed := false
      requests := 1 })
  else
    (false, {
      data := none
      length := 0
      capacity := 256
      levels := []
      rootWritten := false
      failed := true
      requests := 1 })

/-- `begin_container`. -/
def beginContainer (container : JsonContainer) (token : UInt8) : JsonOp := fun json =>
  if jsonMaxDepth ≤ json.levels.length then json.fail
  else
    let (ok, json) := (beforeValue allocator).andThen (appendChar allocator token) json
    if ok then (true, { json with levels := ⟨container, 0, false⟩ :: json.levels })
    else json.fail

/-- `m65_json_begin_object`. -/
def jsonBeginObject : JsonOp := beginContainer allocator .object 0x7b

/-- `m65_json_begin_array`. -/
def jsonBeginArray : JsonOp := beginContainer allocator .array 0x5b

/-- `end_container`. -/
def endContainer (container : JsonContainer) (token : UInt8) : JsonOp := fun json =>
  match json.levels with
  | [] => (false, json)
  | level :: outer =>
      if level.container ≠ container ∨ level.expectingValue then json.fail
      else appendChar allocator token { json with levels := outer }

/-- `m65_json_end_object`. -/
def jsonEndObject : JsonOp := endContainer allocator .object 0x7d

/-- `m65_json_end_array`. -/
def jsonEndArray : JsonOp := endContainer allocator .array 0x5d

/-- `m65_json_key`; a NULL key is nothing. -/
def jsonKey (key : Option CString) : JsonOp := fun json =>
  match key, json.levels with
  | some key, level :: outer =>
      if level.container ≠ .object ∨ level.expectingValue then json.fail
      else
        let (ok, json) := if 0 < level.count then appendChar allocator 0x2c json else (true, json)
        if ok then
          let (ok, json) := (appendEscaped allocator key).andThen (appendChar allocator 0x3a) json
          if ok then (true, { json with levels := { level with expectingValue := true } :: outer })
          else (false, json)
        else (false, json)
  | _, _ => (false, json)

/-- `m65_json_string`; a NULL string is nothing. -/
def jsonString (value : Option CString) : JsonOp := fun json =>
  match value with
  | some value => (beforeValue allocator).andThen (appendEscaped allocator value) json
  | none => (false, json)

/-- `m65_json_uint`. -/
def jsonUint (value : UInt64) : JsonOp :=
  (beforeValue allocator).andThen (appendBytes allocator (digits 10 value.toNat))

/-- The text of `PRId64`. -/
def signedDigits : ℤ → List UInt8
  | .ofNat value => digits 10 value
  | .negSucc value => 0x2d :: digits 10 (value + 1)

/-- `m65_json_int`. -/
def jsonInt (value : Int64) : JsonOp :=
  (beforeValue allocator).andThen (appendBytes allocator (signedDigits value.toInt))

/-- `m65_json_bool`. -/
def jsonBool (value : Bool) : JsonOp :=
  (beforeValue allocator).andThen (appendText allocator (if value then "true" else "false"))

/-- `m65_json_null`. -/
def jsonNull : JsonOp := (beforeValue allocator).andThen (appendText allocator "null")

end Calls

/-- `m65_json_finish`. -/
def jsonFinish (json : Json) : Bool := !json.failed && json.rootWritten && json.levels.isEmpty

/-- `m65_json_data`: the string in the block. -/
def jsonData (json : Json) : CString := CString.ofBytes (json.data.getD [])

/-! ## Sequences of calls -/

/-- A call of the writer with its argument. -/
inductive JsonCall where
  | beginObject
  | endObject
  | beginArray
  | endArray
  | key (name : Option CString)
  | string (value : Option CString)
  | uint (value : UInt64)
  | int (value : Int64)
  | bool (value : Bool)
  | null
deriving DecidableEq

/-- What a call does. -/
def JsonCall.exec (allocator : Allocator) : JsonCall → JsonOp
  | .beginObject => jsonBeginObject allocator
  | .endObject => jsonEndObject allocator
  | .beginArray => jsonBeginArray allocator
  | .endArray => jsonEndArray allocator
  | .key name => jsonKey allocator name
  | .string value => jsonString allocator value
  | .uint value => jsonUint allocator value
  | .int value => jsonInt allocator value
  | .bool value => jsonBool allocator value
  | .null => jsonNull allocator

/-- The calls of a list one after the other, each with the value it returned. -/
def jsonCalls (allocator : Allocator) : List JsonCall → Json → List (JsonCall × Bool) × Json
  | [], json => ([], json)
  | call :: calls, json =>
      let (ok, json) := call.exec allocator json
      let (rest, json) := jsonCalls allocator calls json
      ((call, ok) :: rest, json)

end M65
