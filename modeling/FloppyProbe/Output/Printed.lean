import FloppyProbe.Output.Documents
import FloppyProbe.Output.JsonRuns

/-!
# Printed documents

The calls behind a document give a value (`Emits`), whatever the data is. So a document that is
printed at all is the text of that value, and any failure of the allocator leaves nothing to
print.
-/

namespace M65

open JsonText

/-! ## Calls that give values -/

/-- The calls give the elements of an array. -/
def EmitsElements (calls : List JsonCall) (elements : List Tree) : Prop :=
  calls.map JsonCall.token = (elementsTokens elements).map some

/-- The calls give the members of an object. -/
def EmitsMembers (calls : List JsonCall) (members : List (List UInt8 × Tree)) : Prop :=
  calls.map JsonCall.token = (membersTokens members).map some

/-- A member with a name of the source. -/
def member (name : String) (value : Tree) : List UInt8 × Tree := ((CString.lit name).bytes, value)

variable {calls calls' : List JsonCall} {name : String} {value : Tree}

/-- Members that are written make an object. -/
theorem Emits.object {members : List (List UInt8 × Tree)} (h : EmitsMembers calls members) :
    Emits (jsonObject calls) (.object members) := by
  have hcalls : calls.map JsonCall.token = _ := h
  simp [Emits, jsonObject, Tree.tokens, hcalls, JsonCall.token]

/-- Elements that are written make an array. -/
theorem Emits.array {elements : List Tree} (h : EmitsElements calls elements) :
    Emits (jsonArray calls) (.array elements) := by
  have hcalls : calls.map JsonCall.token = _ := h
  simp [Emits, jsonArray, Tree.tokens, hcalls, JsonCall.token]

/-- One member. -/
theorem EmitsMembers.single (h : Emits calls value) :
    EmitsMembers (jsonMember name calls) [member name value] := by
  have hcalls : calls.map JsonCall.token = _ := h
  simp [EmitsMembers, jsonMember, jsonKeyCall, membersTokens, member, hcalls, JsonCall.token]

/-- Members behind members. -/
theorem EmitsMembers.append {members members' : List (List UInt8 × Tree)}
    (h : EmitsMembers calls members) (h' : EmitsMembers calls' members') :
    EmitsMembers (calls ++ calls') (members ++ members') := by
  have hcalls : calls.map JsonCall.token = _ := h
  have hcalls' : calls'.map JsonCall.token = _ := h'
  simp [EmitsMembers, hcalls, hcalls']

/-- One member in front of others. -/
theorem EmitsMembers.cons {members : List (List UInt8 × Tree)} (h : Emits calls value)
    (h' : EmitsMembers calls' members) :
    EmitsMembers (jsonMember name calls ++ calls') (member name value :: members) :=
  (EmitsMembers.single h).append h'

/-- One element. -/
theorem Emits.elements (h : Emits calls value) : EmitsElements calls [value] := by
  have hcalls : calls.map JsonCall.token = _ := h
  simp [EmitsElements, elementsTokens, hcalls]

/-- Elements behind elements. -/
theorem EmitsElements.append {elements elements' : List Tree} (h : EmitsElements calls elements)
    (h' : EmitsElements calls' elements') :
    EmitsElements (calls ++ calls') (elements ++ elements') := by
  have hcalls : calls.map JsonCall.token = _ := h
  have hcalls' : calls'.map JsonCall.token = _ := h'
  simp [EmitsElements, hcalls, hcalls']

/-- One element for each item of a list. -/
theorem EmitsElements.flatMap {α : Type} {items : List α} {f : α → List JsonCall} {g : α → Tree}
    (h : ∀ item, Emits (f item) (g item)) : EmitsElements (items.flatMap f) (items.map g) := by
  induction items with
  | nil => rfl
  | cons item items ih =>
    rw [List.flatMap_cons, List.map_cons]
    exact (h item).elements.append ih

end M65
