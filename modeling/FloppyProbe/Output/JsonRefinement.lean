import FloppyProbe.JsonText.Document
import FloppyProbe.JsonText.Reader
import FloppyProbe.Output.JsonBuffer

/-!
# The writer builds a document

Each successful call of the writer is one event of a traversal, and the levels, flags and bytes
of the writer are those of the document that these events build (`Represents`). A call that
returns false has failed the writer for good or left it as it was, and it does so only where
its event does not fit, or the containers or the memory run out (`Pushes`).
-/

namespace M65

open JsonText

/-! ## Levels -/

/-- The level of the innermost container. -/
def frameLevel : Frame → JsonLevel
  | .array elements => ⟨.array, elements.length, false⟩
  | .object members => ⟨.object, members.length, false⟩
  | .member members _ => ⟨.object, members.length, true⟩

/-- The level of a container around another one. The value in it is already counted. -/
def outerLevel : Outer → JsonLevel
  | .array elements => ⟨.array, elements.length + 1, false⟩
  | .object members _ => ⟨.object, members.length + 1, false⟩

/-- The levels of the open containers, the innermost first. -/
def documentLevels : Document → List JsonLevel
  | .building frame outer => frameLevel frame :: outer.map outerLevel
  | _ => []

/-- Something has been written. -/
def documentStarted : Document → Bool
  | .empty => false
  | _ => true

/-- A container that was given its value stands at its level. -/
theorem frameLevel_fill (place : Outer) (value : Tree) :
    frameLevel (place.fill value) = outerLevel place := by
  cases place <;> simp [Outer.fill, frameLevel, outerLevel]

/-- After a value the open containers are those around it. -/
theorem documentLevels_put (outer : List Outer) (value : Tree) :
    documentLevels (.put outer value) = outer.map outerLevel := by
  cases outer with
  | nil => rfl
  | cons place outer => simp [Document.put, documentLevels, frameLevel_fill]

/-- After a value something has been written. -/
theorem documentStarted_put (outer : List Outer) (value : Tree) :
    documentStarted (.put outer value) = true := by
  cases outer <;> rfl

/-- There is one level for each open container. -/
theorem length_documentLevels (document : Document) :
    (documentLevels document).length = document.depth := by
  cases document <;> simp [documentLevels, Document.depth]

/-! ## The relation -/

/-- The writer stands where the document stands. -/
structure Represents (json : Json) (document : Document) : Prop where
  holds : Holds json document.text
  noNul : 0 ∉ document.text
  levels : json.levels = documentLevels document
  rootWritten : json.rootWritten = documentStarted document
  depth_le : document.depth ≤ jsonMaxDepth

/-- The writer has counted a value that it has still to write into the given containers. -/
structure Awaits (json : Json) (text : List UInt8) (outer : List Outer) : Prop where
  holds : Holds json text
  levels : json.levels = outer.map outerLevel
  rootWritten : json.rootWritten = true

/-- The outcome of a call that stands for `token`. -/
def Pushes (allocator : Allocator) (json : Json) (document : Document) (token : Token)
    (reply : Bool × Json) : Prop :=
  (∃ next, document.push token = some next ∧ reply.1 = true ∧ Represents reply.2 next) ∨
    (reply.1 = false ∧
      (reply.2.failed = true ∨ reply.2 = json ∧ document.push token = none) ∧
      ∀ next, document.push token = some next → next.depth ≤ jsonMaxDepth →
        allocator.Generous → 2 ^ 63 ≤ next.text.length)

variable {allocator : Allocator} {json : Json} {document : Document}

/-- A level that differs from those of the document only in what the writer has yet to note. -/
theorem Holds.withLevels {text : List UInt8} (h : Holds json text) (levels : List JsonLevel) :
    Holds { json with levels } text :=
  ⟨h.working, h.length_eq, h.doubled, h.block⟩

/-- `before_value` writes the comma of the document, finds no place for a value, or fails. -/
theorem beforeValue_cases (h : Represents json document) :
    (∃ json' outer, document.places = some outer ∧ beforeValue allocator json = (true, json') ∧
      Awaits json' (document.text ++ document.comma) outer) ∨
    (document.places = none ∧ (beforeValue allocator json).1 = false ∧
      (beforeValue allocator json).2.failed = true) ∨
    FailedAt allocator (document.text ++ document.comma).length (beforeValue allocator json) := by
  have hworking := h.holds.working
  have hlevels := h.levels
  have hroot := h.rootWritten
  cases document with
  -- a value may stand at the root of an empty document, after a key, and inside an array
  | empty =>
    left
    refine ⟨{ json with rootWritten := true }, [], rfl, ?_, ?_, hlevels, rfl⟩
    · simp [beforeValue, hworking, hlevels, documentLevels, hroot, documentStarted]
    · have hholds := h.holds
      exact ⟨hholds.working, hholds.length_eq, hholds.doubled, hholds.block⟩
  | done value =>
    right; left
    simp [beforeValue, hworking, hlevels, documentLevels, hroot, documentStarted, Json.fail,
      Document.places]
  | building frame outer =>
    cases frame with
    | object members =>
      right; left
      simp [beforeValue, hworking, hlevels, documentLevels, frameLevel, Json.fail, Document.places,
        Frame.place]
    | member members name =>
      left
      have heq : beforeValue allocator json = (true, { json with
          levels := ⟨.object, members.length + 1, false⟩ :: outer.map outerLevel }) := by
        simp [beforeValue, hworking, hlevels, documentLevels, frameLevel]
      have hcomma : (Document.building (.member members name) outer).comma = [] := rfl
      refine ⟨_, .object members name :: outer, rfl, heq, ?_, rfl, hroot⟩
      rw [hcomma, List.append_nil]
      exact h.holds.withLevels _
    -- only a value after the first of an array needs memory, for its comma
    | array elements =>
      by_cases hempty : elements = []
      · left
        subst hempty
        have heq : beforeValue allocator json = (true, { json with
            levels := ⟨.array, 1, false⟩ :: outer.map outerLevel }) := by
          simp [beforeValue, hworking, hlevels, documentLevels, frameLevel]
        have hcomma : (Document.building (.array []) outer).comma = [] := rfl
        refine ⟨_, .array [] :: outer, rfl, heq, ?_, rfl, hroot⟩
        rw [hcomma, List.append_nil]
        exact h.holds.withLevels _
      · have hpos : 0 < elements.length := List.length_pos_of_ne_nil hempty
        have hcomma : (Document.building (.array elements) outer).comma = [0x2c] := if_neg hempty
        have happends : Appends allocator (appendChar allocator 0x2c) [0x2c] :=
          appends_appendChar 0x2c
        rw [hcomma]
        rcases happends.outcome h.holds with ⟨json', heq, hholds, hsame⟩ | hfailed
        · left
          have hbefore : beforeValue allocator json = (true, { json' with
              levels := ⟨.array, elements.length + 1, false⟩ :: outer.map outerLevel }) := by
            simp [beforeValue, hworking, hlevels, documentLevels, frameLevel, hpos, heq]
          exact ⟨_, .array elements :: outer, rfl, hbefore, hholds.withLevels _, rfl,
            hsame.rootWritten.trans hroot⟩
        · right; right
          have hbefore :
              beforeValue allocator json = (false, (appendChar allocator 0x2c json).2) := by
            simp [beforeValue, hworking, hlevels, documentLevels, frameLevel, hpos,
              hfailed.refused]
          rw [hbefore]
          exact ⟨rfl, hfailed.failed, hfailed.large⟩

/-! ## Bytes of the text -/

/-- An escaped byte has no zero byte. -/
theorem zero_notMem_escape {byte : UInt8} (h : byte ≠ 0) : 0 ∉ escape byte := by
  have hall : ∀ n < 256, n ≠ 0 → 0 ∉ escape (UInt8.ofNat n) := by decide +kernel
  have hbyte := hall byte.toNat byte.toNat_lt fun hzero => h (UInt8.toNat_inj.1 hzero)
  rwa [UInt8.ofNat_toNat] at hbyte

/-- A quoted string has no zero byte. -/
theorem zero_notMem_quote (value : CString) : 0 ∉ quote value.bytes := by
  intro hmem
  simp only [quote, List.mem_cons, List.mem_append, List.mem_flatMap, List.not_mem_nil] at hmem
  rcases hmem with hmem | ⟨byte, hbyte, hmem⟩ | hmem | hmem
  · cases hmem
  · exact zero_notMem_escape (fun hzero => value.noNul (hzero ▸ hbyte)) hmem
  · cases hmem
  · exact hmem

/-- A number has no zero byte. -/
theorem zero_notMem_decimal (value : ℕ) : 0 ∉ decimal value := by
  intro hmem
  have hdigit := isDigit_decimal value 0 hmem
  cases hdigit

/-- A comma has no zero byte. -/
theorem zero_notMem_comma (document : Document) : 0 ∉ document.comma := by
  cases document with
  | building frame outer =>
    cases frame with
    | array elements => by_cases h : elements = [] <;> simp [Document.comma, Frame.comma, h]
    | object members => by_cases h : members = [] <;> simp [Document.comma, Frame.comma, h]
    | member members name => exact List.not_mem_nil
  | _ => exact List.not_mem_nil

/-! ## Calls as events -/

/-- The event that a call stands for. A NULL string stands for nothing. -/
def JsonCall.token : JsonCall → Option Token
  | .beginObject => some .beginObject
  | .endObject => some .endObject
  | .beginArray => some .beginArray
  | .endArray => some .endArray
  | .key name => name.map fun name => .key name.bytes
  | .string value => value.map fun value => .scalar (.string value.bytes)
  | .uint value => some (.scalar (.number value.toNat))
  | .int value => some (.scalar (.number value.toInt))
  | .bool value => some (.scalar (.bool value))
  | .null => some (.scalar .null)

/-- A number is appended as it is rendered. -/
theorem appends_number (value : ℤ) :
    Appends allocator (appendBytes allocator (signedDigits value))
      (Scalar.render (.number value)) := by
  have heq : signedDigits value = Scalar.render (.number value) := by cases value <;> rfl
  exact heq ▸ appends_appendBytes _

/-- A rendered number has no zero byte. -/
theorem zero_notMem_number (value : ℤ) : 0 ∉ Scalar.render (.number value) := by
  cases value with
  | ofNat value => exact zero_notMem_decimal value
  | negSucc value =>
    intro hmem
    rcases List.mem_cons.1 hmem with hmem | hmem
    · cases hmem
    · exact zero_notMem_decimal _ hmem

/-- The places of a document are its open containers. -/
theorem length_places {outer : List Outer} (h : document.places = some outer) :
    outer.length = document.depth := by
  cases document with
  | empty =>
    obtain rfl := Option.some.inj h
    rfl
  | building frame around =>
    obtain ⟨place, -, rfl⟩ := Option.map_eq_some_iff.1 h
    rfl
  | done value => cases h

/-- The writer has written a value that is complete. -/
theorem represents_put {json' : Json} {outer : List Outer} {value : Tree}
    (hholds : Holds json' (Document.put outer value).text)
    (hnoNul : 0 ∉ (Document.put outer value).text) (hlevels : json'.levels = outer.map outerLevel)
    (hroot : json'.rootWritten = true) (hdepth : outer.length ≤ jsonMaxDepth) :
    Represents json' (.put outer value) where
  holds := hholds
  noNul := hnoNul
  levels := hlevels.trans (documentLevels_put outer value).symm
  rootWritten := hroot.trans (documentStarted_put outer value).symm
  depth_le := (Document.put_depth_le outer value).trans hdepth

/-- A failure while appending is a failure of the call. -/
theorem Pushes.of_failedAt {token : Token} {reply : Bool × Json} {length : ℕ}
    (h : FailedAt allocator length reply)
    (hle : ∀ next, document.push token = some next → length ≤ next.text.length) :
    Pushes allocator json document token reply :=
  .inr ⟨h.refused, .inl h.failed, fun next hpush _ hgenerous =>
    (h.large hgenerous).trans (hle next hpush)⟩

/-- The event does not fit, and the call has failed the writer. -/
theorem Pushes.of_push_none {token : Token} {reply : Bool × Json} (hrefused : reply.1 = false)
    (hfailed : reply.2.failed = true) (hpush : document.push token = none) :
    Pushes allocator json document token reply :=
  .inr ⟨hrefused, .inl hfailed, fun next hnext => by simp [hpush] at hnext⟩

/-- After a refusal the second function is not called. -/
theorem JsonOp.andThen_of_false {first : JsonOp} (second : JsonOp)
    (h : (first json).1 = false) : first.andThen second json = (false, (first json).2) := by
  simp [JsonOp.andThen, h]

/-- After a success the second function is called. -/
theorem JsonOp.andThen_of_true {first : JsonOp} {json' : Json} (second : JsonOp)
    (h : first json = (true, json')) : first.andThen second json = second json' := by
  simp [JsonOp.andThen, h]

/-- `before_value` and the text of a value or the bracket of a container. -/
theorem beforeValue_andThen_cases {append : JsonOp} {bytes : List UInt8}
    (h : Represents json document) (happends : Appends allocator append bytes) :
    (∃ json' outer, document.places = some outer ∧
      (beforeValue allocator).andThen append json = (true, json') ∧
      Awaits json' (document.text ++ (document.comma ++ bytes)) outer) ∨
    (document.places = none ∧ ((beforeValue allocator).andThen append json).1 = false ∧
      ((beforeValue allocator).andThen append json).2.failed = true) ∨
    FailedAt allocator (document.text ++ (document.comma ++ bytes)).length
      ((beforeValue allocator).andThen append json) := by
  rw [← List.append_assoc]
  have hbefore : (∃ json' outer, document.places = some outer ∧
      beforeValue allocator json = (true, json') ∧ _) ∨ _ := beforeValue_cases h
  -- the comma was written, the value is not allowed here, or memory ran out
  rcases hbefore with ⟨json', outer, hplaces, heq, hawaits⟩ | ⟨hplaces, hrefused, hfailed⟩ | hfailed
  · rw [JsonOp.andThen_of_true append heq]
    rcases happends.outcome hawaits.holds with ⟨json'', heq', hholds, hsame⟩ | hfailed
    · exact .inl ⟨json'', outer, hplaces, heq', hholds, hsame.levels.trans hawaits.levels,
        hsame.rootWritten.trans hawaits.rootWritten⟩
    · exact .inr (.inr hfailed)
  · right; left
    rw [JsonOp.andThen_of_false append hrefused]
    exact ⟨hplaces, rfl, hfailed⟩
  · right; right
    rw [JsonOp.andThen_of_false append hfailed.refused]
    exact ⟨rfl, hfailed.failed, fun hgenerous =>
      (hfailed.large hgenerous).trans (by simp only [List.length_append]; omega)⟩

/-- A call of a scalar value. -/
theorem pushes_scalar {value : Scalar} {append : JsonOp} (h : Represents json document)
    (happends : Appends allocator append value.render) (hnoNul : 0 ∉ value.render) :
    Pushes allocator json document (.scalar value)
      ((beforeValue allocator).andThen append json) := by
  rcases beforeValue_andThen_cases h happends with
    ⟨json', outer, hplaces, heq, hawaits⟩ | ⟨hplaces, hrefused, hfailed⟩ | hfailed
  · left
    have hpush : document.push (.scalar value) = some (.put outer (.scalar value)) := by
      simp [Document.push, hplaces]
    have htext := Document.push_text hpush
    rw [heq]
    refine ⟨_, hpush, rfl, represents_put (htext ▸ hawaits.holds) ?_ hawaits.levels
      hawaits.rootWritten ((length_places hplaces).le.trans h.depth_le)⟩
    rw [htext, Document.addition, List.mem_append, List.mem_append, not_or, not_or]
    exact ⟨h.noNul, zero_notMem_comma document, hnoNul⟩
  · exact .of_push_none hrefused hfailed (by simp [Document.push, hplaces])
  · exact .of_failedAt hfailed fun next hnext =>
      (congrArg List.length (Document.push_text hnext)).ge

/-- A call that begins a container. -/
theorem pushes_beginContainer {container : JsonContainer} {bracket : UInt8} {token : Token}
    {frame : Frame} (h : Represents json document) (hnoNul : bracket ≠ 0)
    (hpush : document.push token = document.places.map fun outer => .building frame outer)
    (haddition : document.addition token = document.comma ++ [bracket])
    (hframe : frameLevel frame = ⟨container, 0, false⟩) :
    Pushes allocator json document token
      (beginContainer allocator container bracket json) := by
  have hlength : json.levels.length = document.depth := by
    rw [h.levels, length_documentLevels]
  -- the depth is checked before anything is written
  by_cases hdeep : jsonMaxDepth ≤ json.levels.length
  · rw [beginContainer, if_pos hdeep]
    refine .inr ⟨rfl, .inl rfl, fun next hnext hdepth => ?_⟩
    rw [hpush] at hnext
    obtain ⟨outer, hplaces, rfl⟩ := Option.map_eq_some_iff.1 hnext
    have houter := length_places hplaces
    simp only [Document.depth] at hdepth
    omega
  have happends : Appends allocator (appendChar allocator bracket) [bracket] :=
    appends_appendChar bracket
  rw [beginContainer, if_neg hdeep]
  rcases beforeValue_andThen_cases h happends with
    ⟨json', outer, hplaces, heq, hawaits⟩ | ⟨hplaces, hrefused, hfailed⟩ | hfailed
  · left
    have hnext : document.push token = some (.building frame outer) := by simp [hpush, hplaces]
    have htext := Document.push_text hnext
    rw [haddition] at htext
    simp only [heq, if_true]
    refine ⟨_, hnext, trivial, htext ▸ hawaits.holds.withLevels _, ?_, ?_, hawaits.rootWritten, ?_⟩
    · rw [htext, List.mem_append, List.mem_append, not_or, not_or]
      exact ⟨h.noNul, zero_notMem_comma document, by simpa using hnoNul.symm⟩
    · simp [documentLevels, hframe, hawaits.levels]
    · have houter := length_places hplaces
      simp only [Document.depth]
      omega
  · simp only [hrefused]
    exact .of_push_none rfl rfl (by simp [hpush, hplaces])
  · simp only [hfailed.refused]
    refine .inr ⟨rfl, .inl rfl, fun next hnext _ hgenerous => ?_⟩
    rw [Document.push_text hnext, haddition]
    exact hfailed.large hgenerous

/-- The value that a container becomes when it ends now. -/
def frameValue : Frame → Tree
  | .array elements => .array elements
  | .object members => .object members
  | .member members _ => .object members

/-- A call that ends a container. -/
theorem pushes_endContainer {container : JsonContainer} {bracket : UInt8} {token : Token}
    (h : Represents json document) (hnoNul : bracket ≠ 0)
    (haddition : document.addition token = [bracket])
    (hpush : ∀ frame outer, (Document.building frame outer).push token =
      if (frameLevel frame).container ≠ container ∨ (frameLevel frame).expectingValue = true then
        none
      else some (.put outer (frameValue frame)))
    (hclosed : documentLevels document = [] → document.push token = none) :
    Pushes allocator json document token (endContainer allocator container bracket json) := by
  have hlevels := h.levels
  cases document with
  | building frame outer =>
    by_cases hmismatch :
        (frameLevel frame).container ≠ container ∨ (frameLevel frame).expectingValue = true
    · have hend : endContainer allocator container bracket json = json.fail := by
        simp only [endContainer, hlevels, documentLevels, if_pos hmismatch]
      rw [hend]
      exact .of_push_none rfl rfl (by rw [hpush, if_pos hmismatch])
    have hnext : (Document.building frame outer).push token =
        some (.put outer (frameValue frame)) := by
      rw [hpush, if_neg hmismatch]
    have htext := Document.push_text hnext
    rw [haddition] at htext
    have hend : endContainer allocator container bracket json =
        appendChar allocator bracket { json with levels := outer.map outerLevel } := by
      simp only [endContainer, hlevels, documentLevels, if_neg hmismatch]
    have happends : Appends allocator (appendChar allocator bracket) [bracket] :=
      appends_appendChar bracket
    rw [hend]
    rcases happends.outcome (h.holds.withLevels (outer.map outerLevel)) with
      ⟨json', heq, hholds, hsame⟩ | hfailed
    · left
      rw [heq]
      have hdepth := h.depth_le
      rw [Document.depth] at hdepth
      refine ⟨_, hnext, rfl, represents_put (htext ▸ hholds) ?_ hsame.levels
        (hsame.rootWritten.trans h.rootWritten) (by omega)⟩
      rw [htext, List.mem_append, not_or]
      exact ⟨h.noNul, by simpa using hnoNul.symm⟩
    · refine .of_failedAt hfailed fun next heq => ?_
      rw [Document.push_text heq, haddition]
  -- without an open container the call returns false and leaves the writer alone
  | _ =>
    have hend : endContainer allocator container bracket json = (false, json) := by
      simp only [endContainer, hlevels, documentLevels]
    rw [hend]
    exact .inr ⟨rfl, .inr ⟨rfl, hclosed rfl⟩, fun next hnext => by simp [hclosed rfl] at hnext⟩

/-- The comma that `m65_json_key` puts before a key. -/
def keyComma (allocator : Allocator) (count : ℕ) : JsonOp := fun json =>
  if 0 < count then appendChar allocator 0x2c json else (true, json)

/-- The comma before a key is that of the object. -/
theorem appends_keyComma (members : List (List UInt8 × Tree)) :
    Appends allocator (keyComma allocator members.length) (Frame.object members).comma := by
  by_cases hempty : members = []
  · subst hempty
    refine ⟨fun {json text} h => .inl ⟨json, rfl, ?_, rfl, rfl⟩⟩
    simpa [Frame.comma] using h
  · have hcomma : (Frame.object members).comma = [0x2c] := if_neg hempty
    have heq : keyComma allocator members.length = appendChar allocator 0x2c := by
      funext json
      exact if_pos (List.length_pos_of_ne_nil hempty)
    rw [hcomma, heq]
    exact appends_appendChar 0x2c

/-- What `m65_json_key` does inside an object that waits for a key. -/
theorem jsonKey_object {count : ℕ} {outer : List JsonLevel} (name : CString)
    (h : json.levels = ⟨.object, count, false⟩ :: outer) :
    jsonKey allocator (some name) json =
      let reply := (keyComma allocator count).andThen
        ((appendEscaped allocator name).andThen (appendChar allocator 0x3a)) json
      if reply.1 then (true, { reply.2 with levels := ⟨.object, count, true⟩ :: outer })
      else (false, reply.2) := by
  simp only [jsonKey, h, keyComma, JsonOp.andThen]
  by_cases hcount : 0 < count
  · cases hok : (appendChar allocator 0x2c json).1 <;> simp [hcount, hok]
  · simp [hcount]

/-- A call that gives a key. -/
theorem pushes_key (h : Represents json document) (name : CString) :
    Pushes allocator json document (.key name.bytes) (jsonKey allocator (some name) json) := by
  have hlevels := h.levels
  cases document with
  | building frame outer =>
    cases frame with
    | object members =>
      have hcomma : Appends allocator (keyComma allocator members.length)
          (Frame.object members).comma := appends_keyComma members
      have happends := hcomma.andThen
        ((appends_appendEscaped name).andThen (appends_appendChar 0x3a))
      have hnext : (Document.building (.object members) outer).push (.key name.bytes) =
          some (.building (.member members name.bytes) outer) := rfl
      have htext := Document.push_text hnext
      have hkey : jsonKey allocator (some name) json = _ := jsonKey_object name hlevels
      rcases happends.outcome h.holds with ⟨json', heq, hholds, hsame⟩ | hfailed
      · left
        rw [hkey]
        simp only [heq, ↓reduceIte]
        refine ⟨_, hnext, trivial, htext ▸ hholds.withLevels _, ?_, rfl,
          hsame.rootWritten.trans h.rootWritten, h.depth_le⟩
        rw [htext, List.mem_append, not_or]
        refine ⟨h.noNul, ?_⟩
        simp only [Document.addition, List.mem_append, not_or]
        exact ⟨zero_notMem_comma _, zero_notMem_quote name, by decide⟩
      · rw [hkey]
        simp only [hfailed.refused]
        refine .of_failedAt ⟨rfl, hfailed.failed, hfailed.large⟩ fun next heq => ?_
        rw [Document.push_text heq]
        exact Nat.le_refl _
    -- a key in an array, or before the value of another key, fails the writer
    | array elements | member members pending =>
      have hkey : jsonKey allocator (some name) json = json.fail := by
        simp [jsonKey, hlevels, documentLevels, frameLevel]
      exact hkey ▸ .of_push_none rfl rfl rfl
  | _ =>
    have hkey : jsonKey allocator (some name) json = (false, json) := by
      simp only [jsonKey, hlevels, documentLevels]
    rw [hkey]
    exact .inr ⟨rfl, .inr ⟨rfl, rfl⟩, fun next hnext => by cases hnext⟩

/-! ## Every call -/

/-- Every call puts its token into the document, or returns false. -/
theorem exec_pushes (allocator : Allocator) (h : Represents json document) (call : JsonCall)
    {token : Token} (htoken : call.token = some token) :
    Pushes allocator json document token (call.exec allocator json) := by
  cases call with
  | beginObject | beginArray =>
    obtain rfl := Option.some.inj htoken
    exact pushes_beginContainer h (by decide) rfl rfl rfl
  | endObject | endArray =>
    obtain rfl := Option.some.inj htoken
    refine pushes_endContainer h (by decide) rfl (fun frame outer => ?_) fun hlevels => ?_
    · cases frame <;> simp [Document.push, frameLevel, frameValue]
    -- at the root no container is open, and the abstract document refuses as well
    · cases document <;> first | rfl | cases hlevels
  | key name =>
    obtain ⟨name, rfl, rfl⟩ := Option.map_eq_some_iff.1 htoken
    exact pushes_key h name
  | string value =>
    obtain ⟨value, rfl, rfl⟩ := Option.map_eq_some_iff.1 htoken
    exact pushes_scalar h (appends_appendEscaped value) (zero_notMem_quote value)
  | uint value =>
    obtain rfl := Option.some.inj htoken
    exact pushes_scalar h (appends_number value.toNat) (zero_notMem_number value.toNat)
  | int value =>
    obtain rfl := Option.some.inj htoken
    exact pushes_scalar h (appends_number value.toInt) (zero_notMem_number value.toInt)
  | bool value =>
    obtain rfl := Option.some.inj htoken
    refine pushes_scalar h ?_ (by cases value <;> decide)
    cases value
    · exact appends_appendText "false"
    · exact appends_appendText "true"
  | null =>
    obtain rfl := Option.some.inj htoken
    exact pushes_scalar h (appends_appendText "null") (by decide)

/-- A call with a NULL string returns false and leaves the writer as it was. -/
theorem exec_of_token_none {call : JsonCall} (h : call.token = none) :
    call.exec allocator json = (false, json) := by
  cases call with
  | key name =>
    cases name with
    | none => cases hlevels : json.levels <;> simp [JsonCall.exec, jsonKey]
    | some name => cases h
  | string value =>
    cases value with
    | none => rfl
    | some value => cases h
  | _ => cases h

/-- `before_value` leaves a failed writer alone. -/
theorem freezes_beforeValue : Freezes (beforeValue allocator) := by
  intro json hjson
  have hrefused : beforeValue allocator json = (false, json) := by simp [beforeValue, hjson]
  rw [hrefused]
  exact ⟨rfl, .refl hjson⟩

/-- `begin_container` leaves a failed writer alone. -/
theorem freezes_beginContainer (container : JsonContainer) (bracket : UInt8) :
    Freezes (beginContainer allocator container bracket) := by
  intro json hjson
  by_cases hdeep : jsonMaxDepth ≤ json.levels.length
  · rw [beginContainer, if_pos hdeep]
    exact ⟨rfl, rfl, rfl, rfl⟩
  · have hbegin : Freezes ((beforeValue allocator).andThen (appendChar allocator bracket)) :=
      freezes_beforeValue.andThen _
    obtain ⟨hrefused, hfrozen⟩ := hbegin json hjson
    have hfail : beginContainer allocator container bracket json =
        ((beforeValue allocator).andThen (appendChar allocator bracket) json).2.fail := by
      simp [beginContainer, hdeep, hrefused]
    rw [hfail]
    exact ⟨rfl, rfl, hfrozen.length_eq, hfrozen.data_eq⟩

/-- `end_container` leaves a failed writer alone. -/
theorem freezes_endContainer (container : JsonContainer) (bracket : UInt8) :
    Freezes (endContainer allocator container bracket) := by
  intro json hjson
  unfold endContainer
  split
  · exact ⟨rfl, .refl hjson⟩
  · next level outer _ =>
    split
    · exact ⟨rfl, rfl, rfl, rfl⟩
    · have happend : Freezes (appendChar allocator bracket) := freezes_appendBytes [bracket]
      obtain ⟨hrefused, hfrozen⟩ := happend { json with levels := outer } hjson
      exact ⟨hrefused, hfrozen.failed, hfrozen.length_eq, hfrozen.data_eq⟩

/-- `m65_json_key` leaves a failed writer alone. -/
theorem freezes_jsonKey (key : Option CString) : Freezes (jsonKey allocator key) := by
  intro json hjson
  have hcomma : Freezes (appendChar allocator 0x2c) := freezes_appendBytes [0x2c]
  have hname (name : CString) :
      Freezes ((appendEscaped allocator name).andThen (appendChar allocator 0x3a)) :=
    ((freezes_appendBytes [0x22]).andThen _).andThen _
  unfold jsonKey
  split
  · next name level outer _ =>
    by_cases hmismatch : level.container ≠ .object ∨ level.expectingValue = true
    · rw [if_pos hmismatch]
      exact ⟨rfl, rfl, rfl, rfl⟩
    · rw [if_neg hmismatch]
      by_cases hcount : 0 < level.count
      · simpa [hcount, (hcomma json hjson).1] using (hcomma json hjson).2
      · simpa [hcount, (hname name json hjson).1] using (hname name json hjson).2
  · exact ⟨rfl, .refl hjson⟩

/-- No call succeeds once the writer has failed, and none changes its text. -/
theorem freezes_exec (call : JsonCall) : Freezes (call.exec allocator) := by
  cases call with
  | beginObject => exact freezes_beginContainer _ _
  | beginArray => exact freezes_beginContainer _ _
  | endObject => exact freezes_endContainer _ _
  | endArray => exact freezes_endContainer _ _
  | key name => exact freezes_jsonKey name
  | string value =>
    intro json hjson
    cases value with
    | none => exact ⟨rfl, .refl hjson⟩
    | some value => exact freezes_beforeValue.andThen _ json hjson
  | uint value => exact freezes_beforeValue.andThen _
  | int value => exact freezes_beforeValue.andThen _
  | bool value => exact freezes_beforeValue.andThen _
  | null => exact freezes_beforeValue.andThen _

end M65
