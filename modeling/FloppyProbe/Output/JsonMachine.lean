import FloppyProbe.Memory.Loop
import FloppyProbe.Output.Json

/-!
# The JSON writer in `size_t` arithmetic

The functions of `src/json.c` once more, as they run on a machine: lengths, capacities, counts and
the depth are `size_t`, the open containers are an array of 16, and the loop of `reserve` is a loop.
A call has no result if it accesses memory outside of its object, if a sum, a difference or a
product wraps around, or if that loop does not end within 64 rounds.

The three arrays of `M65Json` that are indexed by the depth are one array of records.
-/

namespace M65

open BoundedLoop

/-- A `size_t`. -/
abbrev SizeT : Type := UInt64

/-- `SIZE_MAX`. -/
abbrev sizeTMax : SizeT := 0xffffffffffffffff

/-- The entry of a container in the arrays of `M65Json`. After the `memset` it is the entry of
neither kind. -/
structure MachineLevel where
  container : Option JsonContainer := none
  count : SizeT := 0
  expectingValue : Bool := false
deriving DecidableEq

/-- `M65Json` with the arithmetic of `size_t`. -/
structure JsonMachine where
  /-- The heap block, or NULL. -/
  data : Option (List UInt8) := none
  length : SizeT := 0
  capacity : SizeT := 0
  levels : Vector MachineLevel jsonMaxDepth := Vector.replicate jsonMaxDepth {}
  depth : SizeT := 0
  rootWritten : Bool := false
  failed : Bool := false
  /-- The number of requests made to the allocator. -/
  requests : ℕ := 0
deriving DecidableEq

/-- A call of the writer, which may have no result. -/
abbrev MachineOp : Type := JsonMachine → Option (Bool × JsonMachine)

/-- `first && second`. -/
def MachineOp.andThen (first second : MachineOp) : MachineOp := fun writer => do
  let (ok, writer) ← first writer
  if ok then second writer else return (false, writer)

/-- The writer fails, and the call returns false. -/
def JsonMachine.fail (writer : JsonMachine) : Option (Bool × JsonMachine) :=
  some (false, { writer with failed := true })

/-- `memcpy(&block[offset], bytes, ...)` inside the block. -/
def storeInside (block : List UInt8) (offset : ℕ) (bytes : List UInt8) : Option (List UInt8) :=
  if offset + bytes.length ≤ block.length then some (store block offset bytes) else none

/-- The entry at `index`, inside the array. -/
def JsonMachine.level (writer : JsonMachine) (index : SizeT) : Option MachineLevel :=
  writer.levels[index.toNat]?

/-- The store of an entry at `index`, inside the array. -/
def JsonMachine.setLevel (writer : JsonMachine) (index : SizeT) (level : MachineLevel) :
    Option JsonMachine :=
  if h : index.toNat < jsonMaxDepth then
    some { writer with levels := writer.levels.set index.toNat level }
  else
    none

/-- The body of the loop of `reserve`, which leaves without a capacity when it fails. -/
def doublingBody (required capacity : SizeT) : Option (SizeT ⊕ Option SizeT) :=
  if capacity < required then
    if sizeTMax / 2 < capacity then some (.inr none) else (exactDouble capacity).map .inl
  else
    some (.inr (some capacity))

/-- More rounds than a `size_t` can be doubled. -/
abbrev doublingRounds : ℕ := 64

section Calls

variable (allocator : Allocator)

/-- `reserve`. -/
def reserveMachine (extra : SizeT) : MachineOp := fun writer => do
  if writer.failed then
    writer.fail
  else
    let room ← exactSub (← exactSub sizeTMax writer.length) 1
    if room < extra then
      writer.fail
    else
      let required ← exactAdd (← exactAdd writer.length extra) 1
      if required ≤ writer.capacity then
        return (true, writer)
      else
        match ← run (doublingBody required) doublingRounds writer.capacity with
        | none => writer.fail
        | some capacity =>
            let asked := { writer with requests := writer.requests + 1 }
            if allocator.grants writer.requests then
              let block :=
                allocator.block writer.requests capacity.toNat (writer.data.getD [])
              return (true, { asked with data := some block, capacity })
            else
              asked.fail

/-- `append_bytes`. -/
def appendBytesMachine (bytes : List UInt8) : MachineOp :=
  (reserveMachine allocator (UInt64.ofNat bytes.length)).andThen fun writer => do
    let block ← writer.data
    let block ← storeInside block writer.length.toNat bytes
    let length ← exactAdd writer.length (UInt64.ofNat bytes.length)
    let block ← storeInside block length.toNat [0]
    return (true, { writer with data := some block, length })

/-- `append_text`. -/
def appendTextMachine (text : String) : MachineOp := appendBytesMachine allocator (str text)

/-- `append_char`. -/
def appendCharMachine (value : UInt8) : MachineOp := appendBytesMachine allocator [value]

/-- The body of the loop of `append_escaped`. -/
def appendEscapedByteMachine (byte : UInt8) : MachineOp :=
  if byte = 0x22 then appendTextMachine allocator "\\\""
  else if byte = 0x5c then appendTextMachine allocator "\\\\"
  else if byte = 0x08 then appendTextMachine allocator "\\b"
  else if byte = 0x0c then appendTextMachine allocator "\\f"
  else if byte = 0x0a then appendTextMachine allocator "\\n"
  else if byte = 0x0d then appendTextMachine allocator "\\r"
  else if byte = 0x09 then appendTextMachine allocator "\\t"
  else if byte < 0x20 then appendBytesMachine allocator (str "\\u" ++ hexDigits 4 byte.toNat)
  else appendCharMachine allocator byte

/-- The loop of `append_escaped`, and the quote behind it. -/
def appendEscapedBytesMachine : List UInt8 → MachineOp
  | [] => appendCharMachine allocator 0x22
  | byte :: rest =>
      (appendEscapedByteMachine allocator byte).andThen (appendEscapedBytesMachine rest)

/-- `append_escaped`. -/
def appendEscapedMachine (value : CString) : MachineOp :=
  (appendCharMachine allocator 0x22).andThen (appendEscapedBytesMachine allocator value.bytes)

/-- `count > 0 && append_char(json, ',')`, or true. -/
def commaMachine (count : SizeT) : MachineOp := fun writer =>
  if 0 < count then appendCharMachine allocator 0x2c writer else some (true, writer)

/-- `before_value`. -/
def beforeValueMachine : MachineOp := fun writer => do
  if writer.failed then
    return (false, writer)
  else if writer.depth = 0 then
    if writer.rootWritten then writer.fail else return (true, { writer with rootWritten := true })
  else
    let index ← exactSub writer.depth 1
    let level ← writer.level index
    if level.container = some .object then
      if level.expectingValue then
        let count ← exactAdd level.count 1
        return (true, ← writer.setLevel index { level with expectingValue := false, count })
      else
        writer.fail
    else
      let (ok, writer) ← commaMachine allocator level.count writer
      if ok then
        let count ← exactAdd level.count 1
        return (true, ← writer.setLevel index { level with count })
      else
        return (false, writer)

/-- `m65_json_init`. -/
def jsonInitMachine : Option (Bool × JsonMachine) :=
  let writer : JsonMachine := { capacity := 256, requests := 1 }
  if allocator.grants 0 then do
    let block ← storeInside (allocator.block 0 256 []) 0 [0]
    return (true, { writer with data := some block })
  else
    writer.fail

/-- `begin_container`. -/
def beginContainerMachine (container : JsonContainer) (token : UInt8) : MachineOp :=
  fun writer => do
    if UInt64.ofNat jsonMaxDepth ≤ writer.depth then
      writer.fail
    else
      let (ok, writer) ←
        (beforeValueMachine allocator).andThen (appendCharMachine allocator token) writer
      if ok then
        let writer ← writer.setLevel writer.depth ⟨some container, 0, false⟩
        let depth ← exactAdd writer.depth 1
        return (true, { writer with depth })
      else
        writer.fail

/-- `end_container`. -/
def endContainerMachine (container : JsonContainer) (token : UInt8) : MachineOp :=
  fun writer => do
    if writer.depth = 0 then
      return (false, writer)
    else
      let index ← exactSub writer.depth 1
      let level ← writer.level index
      if level.container ≠ some container || level.expectingValue then
        writer.fail
      else
        appendCharMachine allocator token { writer with depth := index }

/-- `m65_json_key`; a NULL key is nothing. -/
def jsonKeyMachine (key : Option CString) : MachineOp := fun writer => do
  match key with
  | none => return (false, writer)
  | some key =>
      if writer.depth = 0 then
        return (false, writer)
      else
        let index ← exactSub writer.depth 1
        let level ← writer.level index
        if level.container ≠ some .object || level.expectingValue then
          writer.fail
        else
          let (ok, writer) ← commaMachine allocator level.count writer
          if ok then
            let (ok, writer) ←
              (appendEscapedMachine allocator key).andThen (appendCharMachine allocator 0x3a) writer
            if ok then
              return (true, ← writer.setLevel index { level with expectingValue := true })
            else
              return (false, writer)
          else
            return (false, writer)

/-- `m65_json_string`; a NULL string is nothing. -/
def jsonStringMachine (value : Option CString) : MachineOp := fun writer =>
  match value with
  | some value =>
      (beforeValueMachine allocator).andThen (appendEscapedMachine allocator value) writer
  | none => some (false, writer)

/-- The functions for numbers, booleans and `null`, with the text of the value. -/
def jsonScalarMachine (text : List UInt8) : MachineOp :=
  (beforeValueMachine allocator).andThen (appendBytesMachine allocator text)

end Calls

/-- What a call does. -/
def JsonCall.execMachine (allocator : Allocator) : JsonCall → MachineOp
  | .beginObject => beginContainerMachine allocator .object 0x7b
  | .endObject => endContainerMachine allocator .object 0x7d
  | .beginArray => beginContainerMachine allocator .array 0x5b
  | .endArray => endContainerMachine allocator .array 0x5d
  | .key name => jsonKeyMachine allocator name
  | .string value => jsonStringMachine allocator value
  | .uint value => jsonScalarMachine allocator (digits 10 value.toNat)
  | .int value => jsonScalarMachine allocator (signedDigits value.toInt)
  | .bool value => jsonScalarMachine allocator (str (if value then "true" else "false"))
  | .null => jsonScalarMachine allocator (str "null")

/-- The calls of a list one after the other, each with the value it returned. -/
def jsonCallsMachine (allocator : Allocator) :
    List JsonCall → JsonMachine → Option (List (JsonCall × Bool) × JsonMachine)
  | [], writer => some ([], writer)
  | call :: calls, writer => do
      let (ok, writer) ← call.execMachine allocator writer
      let (rest, writer) ← jsonCallsMachine allocator calls writer
      return ((call, ok) :: rest, writer)

/-- `m65_json_init` and the given calls. -/
def jsonSessionMachine (allocator : Allocator) (calls : List JsonCall) :
    Option (List (JsonCall × Bool) × JsonMachine) := do
  let (_, writer) ← jsonInitMachine allocator
  jsonCallsMachine allocator calls writer

end M65
