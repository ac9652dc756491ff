import FloppyProbe.JsonText.Tree

/-!
# Documents under construction

A value built from left to right. `Document` is how far one has come: its containers that are
still open, outermost last, where each but the innermost waits for the value inside it. So a
document that is not a prefix of a value cannot be built. `push` adds the next event of a
traversal, or rejects it where it does not fit.

* `push_text`: every accepted event appends to the text.
* `push_tokens`: a document remembers exactly the accepted events.
* `pushesWithin_tokens`: the events of a value, in order, build that value.
-/

namespace JsonText

/-- An open container that waits for its next value. -/
inductive Outer where
  | array (elements : List Tree)
  | object (members : List (List UInt8 × Tree)) (name : List UInt8)

/-- The innermost open container. A `member` waits for the value of a key. -/
inductive Frame where
  | array (elements : List Tree)
  | object (members : List (List UInt8 × Tree))
  | member (members : List (List UInt8 × Tree)) (name : List UInt8)

/-- What a sequence of tokens has built so far: nothing, a value that is still open inside others,
or a whole value. -/
inductive Document where
  | empty
  | building (frame : Frame) (outer : List Outer)
  | done (value : Tree)

/-- The container with its next value. -/
def Outer.fill : Outer → Tree → Frame
  | .array elements, value => .array (elements ++ [value])
  | .object members name, value => .object (members ++ [(name, value)])

/-- The container as one that waits for a value, if it may take one. -/
def Frame.place : Frame → Option Outer
  | .array elements => some (.array elements)
  | .object _ => none
  | .member members name => some (.object members name)

namespace Document

/-- The containers around the next value, if there may be one. -/
def places : Document → Option (List Outer)
  | .empty => some []
  | .building frame outer => frame.place.map (· :: outer)
  | .done _ => none

/-- A value that is complete takes its place in the containers around it. -/
def put : List Outer → Tree → Document
  | [], value => .done value
  | place :: outer, value => .building (place.fill value) outer

/-- The document after the next event. -/
def push (document : Document) : Token → Option Document
  | .scalar value => document.places.map fun outer => put outer (.scalar value)
  | .beginArray => document.places.map fun outer => .building (.array []) outer
  | .beginObject => document.places.map fun outer => .building (.object []) outer
  | .endArray =>
      match document with
      | .building (.array elements) outer => some (put outer (.array elements))
      | _ => none
  | .endObject =>
      match document with
      | .building (.object members) outer => some (put outer (.object members))
      | _ => none
  | .key name =>
      match document with
      | .building (.object members) outer => some (.building (.member members name) outer)
      | _ => none

/-- The ways in which an event fits. -/
inductive Step : Document → Token → Document → Prop
  | scalar {document : Document} {outer : List Outer} {value : Scalar}
      (hplaces : document.places = some outer) :
      Step document (.scalar value) (put outer (.scalar value))
  | beginArray {document : Document} {outer : List Outer}
      (hplaces : document.places = some outer) :
      Step document .beginArray (.building (.array []) outer)
  | beginObject {document : Document} {outer : List Outer}
      (hplaces : document.places = some outer) :
      Step document .beginObject (.building (.object []) outer)
  | endArray (elements : List Tree) (outer : List Outer) :
      Step (.building (.array elements) outer) .endArray (put outer (.array elements))
  | endObject (members : List (List UInt8 × Tree)) (outer : List Outer) :
      Step (.building (.object members) outer) .endObject (put outer (.object members))
  | key (members : List (List UInt8 × Tree)) (outer : List Outer) (name : List UInt8) :
      Step (.building (.object members) outer) (.key name) (.building (.member members name) outer)

/-- What `push` does is a step of the grammar. -/
theorem step_of_push {document next : Document} {token : Token}
    (h : document.push token = some next) : Step document token next := by
  cases token with
  | scalar value =>
    obtain ⟨outer, hplaces, rfl⟩ := Option.map_eq_some_iff.1 h
    exact .scalar hplaces
  | beginArray =>
    obtain ⟨outer, hplaces, rfl⟩ := Option.map_eq_some_iff.1 h
    exact .beginArray hplaces
  | beginObject =>
    obtain ⟨outer, hplaces, rfl⟩ := Option.map_eq_some_iff.1 h
    exact .beginObject hplaces
  -- an end fits only the container of its kind, a key only an object that waits for one
  | endArray =>
    simp only [push] at h
    split at h
    · next elements outer =>
      obtain rfl := Option.some.inj h
      exact .endArray elements outer
    · cases h
  | endObject =>
    simp only [push] at h
    split at h
    · next members outer =>
      obtain rfl := Option.some.inj h
      exact .endObject members outer
    · cases h
  | key name =>
    simp only [push] at h
    split at h
    · next members outer =>
      obtain rfl := Option.some.inj h
      exact .key members outer name
    · cases h

/-- The number of open containers. -/
def depth : Document → ℕ
  | .building _ outer => outer.length + 1
  | _ => 0

/-- The document after the given events, if all of them fit and never more than `limit`
containers are open. -/
def pushesWithin (limit : ℕ) : Document → List Token → Option Document
  | document, [] => some document
  | document, token :: tokens =>
      match document.push token with
      | some next => if next.depth ≤ limit then next.pushesWithin limit tokens else none
      | none => none

end Document

/-! ## Text -/

/-- The text up to the next value. -/
def Outer.text : Outer → List UInt8
  | .array elements => 0x5b :: (elementsText elements ++ [0x2c]).tail
  | .object members name => 0x7b :: (membersText members ++ 0x2c :: (quote name ++ [0x3a])).tail

/-- The text of an open value, up to where the next token goes. -/
def Frame.text : Frame → List UInt8
  | .array elements => 0x5b :: (elementsText elements).tail
  | .object members => 0x7b :: (membersText members).tail
  | .member members name => (Outer.object members name).text

/-- The text of the containers around a value, up to that value. -/
def outerText : List Outer → List UInt8
  | [] => []
  | place :: outer => outerText outer ++ place.text

/-- The comma that the next value or key of the container needs. -/
def Frame.comma : Frame → List UInt8
  | .array elements => if elements = [] then [] else [0x2c]
  | .object members => if members = [] then [] else [0x2c]
  | .member _ _ => []

namespace Document

/-- The text so far. -/
def text : Document → List UInt8
  | .empty => []
  | .building frame outer => outerText outer ++ frame.text
  | .done value => value.render

/-- The comma that the next value or key needs. -/
def comma : Document → List UInt8
  | .building frame _ => frame.comma
  | _ => []

/-- What the next event appends to the text. -/
def addition (document : Document) : Token → List UInt8
  | .scalar value => document.comma ++ value.render
  | .beginArray => document.comma ++ [0x5b]
  | .beginObject => document.comma ++ [0x7b]
  | .endArray => [0x5d]
  | .endObject => [0x7d]
  | .key name => document.comma ++ (quote name ++ [0x3a])

end Document

/-- Filling a place appends the text of the value to that of the place. -/
theorem Outer.fill_text (place : Outer) (value : Tree) :
    (place.fill value).text = place.text ++ value.render := by
  cases place with
  | array elements => cases elements <;> simp [fill, Frame.text, text, elementsText]
  | object members name => cases members <;> simp [fill, Frame.text, text, membersText]

/-- The text up to a place is that of the frame and the comma. -/
theorem Frame.place_text {frame : Frame} {place : Outer} (h : frame.place = some place) :
    place.text = frame.text ++ frame.comma := by
  cases frame with
  | array elements =>
    obtain rfl := Option.some.inj h
    cases elements <;> simp [Outer.text, Frame.text, Frame.comma, elementsText]
  | object members => cases h
  | member members name =>
    obtain rfl := Option.some.inj h
    simp [Frame.text, Frame.comma]

namespace Document

variable {document next : Document}

/-- Putting a value into its place appends its text to that of everything around it. -/
theorem put_text (outer : List Outer) (value : Tree) :
    (put outer value).text = outerText outer ++ value.render := by
  cases outer with
  | nil => rfl
  | cons place outer => simp [put, text, outerText, place.fill_text]

/-- The text up to where a value goes is that of the document and the comma. -/
theorem places_text {outer : List Outer} (h : document.places = some outer) :
    outerText outer = document.text ++ document.comma := by
  cases document with
  | empty =>
    obtain rfl := Option.some.inj h
    rfl
  | building frame around =>
    obtain ⟨place, hplace, rfl⟩ := Option.map_eq_some_iff.1 h
    simp [outerText, text, comma, Frame.place_text hplace]
  | done value => cases h

/-- An event only appends to the text. -/
theorem push_text {token : Token} (h : document.push token = some next) :
    next.text = document.text ++ document.addition token := by
  cases step_of_push h with
  | scalar hplaces => simp [put_text, places_text hplaces, addition, Tree.render]
  | beginArray hplaces => simp [text, Frame.text, places_text hplaces, addition, elementsText]
  | beginObject hplaces => simp [text, Frame.text, places_text hplaces, addition, membersText]
  | endArray | endObject =>
    rw [put_text]
    simp [text, Frame.text, addition, Tree.render]
  | key members outer name =>
    cases members <;> simp [text, Frame.text, Outer.text, addition, comma, Frame.comma, membersText]

end Document

/-! ## Events -/

/-- The tokens that led to a place. -/
def Outer.tokens : Outer → List Token
  | .array elements => .beginArray :: elementsTokens elements
  | .object members name => .beginObject :: (membersTokens members ++ [.key name])

/-- The tokens of an open value. -/
def Frame.tokens : Frame → List Token
  | .array elements => .beginArray :: elementsTokens elements
  | .object members => .beginObject :: membersTokens members
  | .member members name => (Outer.object members name).tokens

/-- The tokens of everything around the innermost value, from the outside in. -/
def outerTokens : List Outer → List Token
  | [] => []
  | place :: outer => outerTokens outer ++ place.tokens

/-- The events that the document consists of. -/
def Document.tokens : Document → List Token
  | .empty => []
  | .building frame outer => outerTokens outer ++ frame.tokens
  | .done value => value.tokens

/-- Filling a place appends the tokens of the value. -/
theorem Outer.fill_tokens (place : Outer) (value : Tree) :
    (place.fill value).tokens = place.tokens ++ value.tokens := by
  cases place <;> simp [fill, Frame.tokens, tokens, elementsTokens, membersTokens]

/-- A place adds no tokens to its frame. -/
theorem Frame.place_tokens {frame : Frame} {place : Outer} (h : frame.place = some place) :
    place.tokens = frame.tokens := by
  cases frame with
  | array elements =>
    obtain rfl := Option.some.inj h
    rfl
  | object members => cases h
  | member members name =>
    obtain rfl := Option.some.inj h
    rfl

namespace Document

variable {document next : Document}

/-- Putting a value into its place appends its tokens to all those around it. -/
theorem put_tokens (outer : List Outer) (value : Tree) :
    (put outer value).tokens = outerTokens outer ++ value.tokens := by
  cases outer with
  | nil => rfl
  | cons place outer => simp [put, tokens, outerTokens, place.fill_tokens]

/-- Where a value goes, the tokens are those of the document. -/
theorem places_tokens {outer : List Outer} (h : document.places = some outer) :
    outerTokens outer = document.tokens := by
  cases document with
  | empty =>
    obtain rfl := Option.some.inj h
    rfl
  | building frame around =>
    obtain ⟨place, hplace, rfl⟩ := Option.map_eq_some_iff.1 h
    simp [outerTokens, tokens, Frame.place_tokens hplace]
  | done value => cases h

/-- A token that was pushed is the last token of the document. -/
theorem push_tokens {token : Token} (h : document.push token = some next) :
    next.tokens = document.tokens ++ [token] := by
  cases step_of_push h with
  | scalar hplaces => simp [put_tokens, places_tokens hplaces, Tree.tokens]
  | beginArray hplaces => simp [tokens, Frame.tokens, places_tokens hplaces, elementsTokens]
  | beginObject hplaces => simp [tokens, Frame.tokens, places_tokens hplaces, membersTokens]
  | endArray | endObject =>
    rw [put_tokens]
    simp [tokens, Frame.tokens, Tree.tokens]
  | key => simp [tokens, Frame.tokens, Outer.tokens]

/-! ## Building a value -/

variable {limit : ℕ}

/-- Pushing two lists of tokens is pushing the one after the other. -/
theorem pushesWithin_append (first second : List Token) :
    document.pushesWithin limit (first ++ second) =
      (document.pushesWithin limit first).bind fun next => next.pushesWithin limit second := by
  induction first generalizing document with
  | nil => rfl
  | cons token first ih =>
    simp only [List.cons_append, pushesWithin]
    cases document.push token with
    | none => rfl
    | some next =>
      dsimp only
      split
      · exact ih
      · rfl

/-- Pushing a list begins with its first token, when that one stays within the limit. -/
theorem pushesWithin_cons {token : Token} (h : document.push token = some next)
    (hdepth : next.depth ≤ limit) (tokens : List Token) :
    document.pushesWithin limit (token :: tokens) = next.pushesWithin limit tokens := by
  simp [pushesWithin, h, hdepth]

/-- A list of tokens that can be pushed begins with one that can. -/
theorem pushesWithin_cons_eq_some {token : Token} {tokens : List Token} {last : Document}
    (h : document.pushesWithin limit (token :: tokens) = some last) :
    ∃ next, document.push token = some next ∧ next.depth ≤ limit ∧
      next.pushesWithin limit tokens = some last := by
  simp only [pushesWithin] at h
  split at h
  · next next hpush =>
    split at h
    · next hdepth => exact ⟨next, hpush, hdepth, h⟩
    · cases h
  · cases h

/-- Events only make the text longer. -/
theorem length_text_le {tokens : List Token} (h : document.pushesWithin limit tokens = some next) :
    document.text.length ≤ next.text.length := by
  induction tokens generalizing document with
  | nil =>
    obtain rfl := Option.some.inj h
    exact Nat.le_refl _
  | cons token tokens ih =>
    obtain ⟨second, hpush, -, hrest⟩ := pushesWithin_cons_eq_some h
    have hlength := congrArg List.length (push_text hpush)
    rw [List.length_append] at hlength
    have hle := ih hrest
    omega

/-- A value that was put into its place leaves no more levels open than there were around it. -/
theorem put_depth_le (outer : List Outer) (value : Tree) :
    (put outer value).depth ≤ outer.length := by
  cases outer <;> simp [put, depth]

mutual

/-- The events of a value build that value, in a place that takes one. -/
theorem pushesWithin_tokens : ∀ (value : Tree) {document : Document} {outer : List Outer},
    document.places = some outer → outer.length + value.nesting ≤ limit →
    document.pushesWithin limit value.tokens = some (put outer value)
  | .scalar value, document, outer, hplaces, hlimit => by
    have hpush : document.push (.scalar value) = some (put outer (.scalar value)) := by
      simp [push, hplaces]
    have hdepth := put_depth_le outer (.scalar value)
    rw [Tree.nesting] at hlimit
    rw [Tree.tokens, pushesWithin_cons hpush (by omega)]
    rfl
  -- a container opens one place deeper, takes what it holds, and is put where it was opened
  | .array elements, document, outer, hplaces, hlimit => by
    have hbegin : document.push .beginArray = some (building (.array []) outer) := by
      simp [push, hplaces]
    rw [Tree.nesting] at hlimit
    have helements := pushesWithin_elements elements [] outer (by omega)
    have hend : (building (.array ([] ++ elements)) outer).push .endArray =
        some (put outer (.array elements)) := rfl
    have hdepth := put_depth_le outer (.array elements)
    rw [Tree.tokens, pushesWithin_cons hbegin (by simp only [depth]; omega),
      pushesWithin_append, helements, Option.bind_some, pushesWithin_cons hend (by omega)]
    rfl
  | .object members, document, outer, hplaces, hlimit => by
    have hbegin : document.push .beginObject = some (building (.object []) outer) := by
      simp [push, hplaces]
    rw [Tree.nesting] at hlimit
    have hmembers := pushesWithin_members members [] outer (by omega)
    have hend : (building (.object ([] ++ members)) outer).push .endObject =
        some (put outer (.object members)) := rfl
    have hdepth := put_depth_le outer (.object members)
    rw [Tree.tokens, pushesWithin_cons hbegin (by simp only [depth]; omega),
      pushesWithin_append, hmembers, Option.bind_some, pushesWithin_cons hend (by omega)]
    rfl

/-- The tokens of some elements append them to an open array. -/
theorem pushesWithin_elements : ∀ (rest elements : List Tree) (outer : List Outer),
    outer.length + elementsNesting rest + 1 ≤ limit →
    (building (.array elements) outer).pushesWithin limit (elementsTokens rest) =
      some (building (.array (elements ++ rest)) outer)
  | [], elements, outer, _ => by simp [elementsTokens, pushesWithin]
  | element :: rest, elements, outer, hlimit => by
    rw [elementsNesting] at hlimit
    have hplaces : (building (.array elements) outer).places =
        some (.array elements :: outer) := rfl
    have helement := pushesWithin_tokens element hplaces (by simp only [List.length_cons]; omega)
    have hrest := pushesWithin_elements rest (elements ++ [element]) outer (by omega)
    rw [elementsTokens, pushesWithin_append, helement, Option.bind_some, put, Outer.fill, hrest,
      List.append_assoc, List.singleton_append]

/-- The tokens of some members append them to an open object. -/
theorem pushesWithin_members : ∀ (rest members : List (List UInt8 × Tree)) (outer : List Outer),
    outer.length + membersNesting rest + 1 ≤ limit →
    (building (.object members) outer).pushesWithin limit (membersTokens rest) =
      some (building (.object (members ++ rest)) outer)
  | [], members, outer, _ => by simp [membersTokens, pushesWithin]
  | (name, value) :: rest, members, outer, hlimit => by
    rw [membersNesting] at hlimit
    have hkey : (building (.object members) outer).push (.key name) =
        some (building (.member members name) outer) := rfl
    have hplaces : (building (.member members name) outer).places =
        some (.object members name :: outer) := rfl
    have hvalue := pushesWithin_tokens value hplaces (by simp only [List.length_cons]; omega)
    have hrest := pushesWithin_members rest (members ++ [(name, value)]) outer (by omega)
    rw [membersTokens, pushesWithin_cons hkey (by simp only [depth]; omega), pushesWithin_append,
      hvalue, Option.bind_some, put, Outer.fill, hrest, List.append_assoc, List.singleton_append]

end

end Document

/-- The events of a value determine it. -/
theorem Tree.tokens_injective {value value' : Tree} (h : value.tokens = value'.tokens) :
    value = value' := by
  have hplaces : Document.empty.places = some [] := rfl
  have hbuilds : ∀ tree : Tree, tree.nesting ≤ max value.nesting value'.nesting →
      Document.empty.pushesWithin (max value.nesting value'.nesting) tree.tokens =
        some (.done tree) :=
    fun tree hnesting => Document.pushesWithin_tokens tree hplaces (by simpa using hnesting)
  have hvalue := hbuilds value (Nat.le_max_left _ _)
  rw [h, hbuilds value' (Nat.le_max_right _ _)] at hvalue
  exact (Document.done.inj (Option.some.inj hvalue)).symm

end JsonText
