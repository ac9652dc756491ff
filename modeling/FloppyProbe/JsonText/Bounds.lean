import FloppyProbe.JsonText.Tree
import Mathlib.Data.Nat.Digits.Defs
import Mathlib.Order.Lattice

/-!
# Bounds on JSON values

Three facts about a value that are proved together along its structure: no object has two members
of one name, its containers are at most so deep, and its text is at most so long.
-/

namespace JsonText

/-! ## Distinct keys -/

mutual

/-- No object in the value has two members of one name. -/
def Tree.DistinctKeys : Tree → Prop
  | .scalar _ => True
  | .array elements => ElementsDistinct elements
  | .object members => (members.map Prod.fst).Nodup ∧ MembersDistinct members

/-- No object among the elements repeats a key. -/
def ElementsDistinct : List Tree → Prop
  | [] => True
  | element :: rest => element.DistinctKeys ∧ ElementsDistinct rest

/-- No object among the values of the members repeats a key. -/
def MembersDistinct : List (List UInt8 × Tree) → Prop
  | [] => True
  | (_, value) :: rest => value.DistinctKeys ∧ MembersDistinct rest

end

/-- The members of two lists have distinct keys below them when those of each list do. -/
theorem membersDistinct_append {members members' : List (List UInt8 × Tree)} :
    MembersDistinct (members ++ members') ↔ MembersDistinct members ∧ MembersDistinct members' := by
  induction members with
  | nil => simp [MembersDistinct]
  | cons member members ih => simp only [List.cons_append, MembersDistinct, ih, and_assoc]

/-- The nesting of two lists of members is the larger one of both. -/
theorem membersNesting_append (members members' : List (List UInt8 × Tree)) :
    membersNesting (members ++ members') =
      max (membersNesting members) (membersNesting members') := by
  induction members with
  | nil => exact (Nat.zero_max _).symm
  | cons member members ih => simp only [List.cons_append, membersNesting, ih, max_assoc]

/-! ## Lengths -/

/-- A byte takes six characters at most. -/
theorem length_escape_le (byte : UInt8) : (escape byte).length ≤ 6 := by
  unfold escape
  repeat' split
  all_goals exact Nat.le_of_ble_eq_true rfl

/-- A quoted string takes six characters for each byte at most, and two quotes. -/
theorem length_quote_le (value : List UInt8) : (quote value).length ≤ 6 * value.length + 2 := by
  have hescaped : (value.flatMap escape).length ≤ 6 * value.length := by
    induction value with
    | nil => exact Nat.le_refl 0
    | cons byte value ih =>
      have hbyte := length_escape_le byte
      rw [List.flatMap_cons, List.length_append, List.length_cons]
      omega
  rw [quote, List.length_cons, List.length_append, List.length_singleton]
  omega

/-- A number below a power of ten has no more digits than that. -/
theorem length_decimal_le {value digits : ℕ} (hdigits : 0 < digits) (h : value < 10 ^ digits) :
    (decimal value).length ≤ digits := by
  rw [decimal, List.length_map]
  exact (Nat.length_toDigits_le_iff (by decide) hdigits).2 h

/-! ## The bounds -/

/-- The bounds of a value: at most `depth` containers deep, and a text of at most `size` bytes. -/
structure Tree.Within (depth size : ℕ) (value : Tree) : Prop where
  distinct : value.DistinctKeys
  nesting_le : value.nesting ≤ depth
  length_le : value.render.length ≤ size

/-- The bounds of the elements of an array. -/
structure ElementsWithin (depth size : ℕ) (elements : List Tree) : Prop where
  distinct : ElementsDistinct elements
  nesting_le : elementsNesting elements ≤ depth
  length_le : (elementsText elements).length ≤ size

/-- The bounds of the members of an object. -/
structure MembersWithin (depth size : ℕ) (members : List (List UInt8 × Tree)) : Prop where
  distinct : MembersDistinct members
  nesting_le : membersNesting members ≤ depth
  length_le : (membersText members).length ≤ size

variable {depth depth' size size' : ℕ} {value : Tree} {elements : List Tree}
  {members members' : List (List UInt8 × Tree)}

namespace Tree.Within

/-- A value within some bounds is within larger ones. -/
theorem mono (h : value.Within depth size) (hdepth : depth ≤ depth') (hsize : size ≤ size') :
    value.Within depth' size' :=
  ⟨h.distinct, h.nesting_le.trans hdepth, h.length_le.trans hsize⟩

/-- `null` takes four characters. -/
theorem null : (scalar .null).Within 0 4 := ⟨trivial, Nat.le_refl 0, Nat.le_refl 4⟩

/-- A truth value takes five characters at most. -/
theorem bool (value : Bool) : (scalar (.bool value)).Within 0 5 := by
  refine ⟨trivial, Nat.le_refl 0, ?_⟩
  cases value <;> exact Nat.le_of_ble_eq_true rfl

/-- A string takes six characters for each byte at most, and two quotes. -/
theorem string (value : List UInt8) : (scalar (.string value)).Within 0 (6 * value.length + 2) :=
  ⟨trivial, Nat.le_refl 0, length_quote_le value⟩

/-- A number of at most 64 bits. -/
theorem number {value : ℤ} (hlow : -2 ^ 64 ≤ value) (hhigh : value < 2 ^ 64) :
    (scalar (.number value)).Within 0 21 := by
  refine ⟨trivial, Nat.le_refl 0, ?_⟩
  cases value with
  | ofNat value =>
    have hlength : (decimal value).length ≤ 20 :=
      length_decimal_le (by decide) (by simp only [Int.ofNat_eq_natCast] at hhigh; omega)
    exact hlength.trans (by decide)
  | negSucc value =>
    have hlength : (decimal (value + 1)).length ≤ 20 :=
      length_decimal_le (by decide) (by simp only [Int.negSucc_eq] at hlow; omega)
    exact Nat.succ_le_succ hlength

/-- An array adds one level and its two brackets to the bounds of its elements. -/
theorem array (h : ElementsWithin depth size elements) :
    (Tree.array elements).Within (depth + 1) (size + 2) := by
  refine ⟨h.distinct, Nat.succ_le_succ h.nesting_le, ?_⟩
  have hlength := h.length_le
  rw [Tree.render, List.length_cons, List.length_append, List.length_tail, List.length_singleton]
  omega

/-- An object adds one level and its two braces to the bounds of its members, when its keys are
distinct. -/
theorem object (h : MembersWithin depth size members) (hkeys : (members.map Prod.fst).Nodup) :
    (Tree.object members).Within (depth + 1) (size + 2) := by
  refine ⟨⟨hkeys, h.distinct⟩, Nat.succ_le_succ h.nesting_le, ?_⟩
  have hlength := h.length_le
  rw [Tree.render, List.length_cons, List.length_append, List.length_tail, List.length_singleton]
  omega

end Tree.Within

namespace ElementsWithin

/-- No elements take no space. -/
theorem nil : ElementsWithin 0 0 [] := ⟨trivial, Nat.le_refl 0, Nat.le_refl 0⟩

/-- An element and its comma are added to the bounds of the rest. -/
theorem cons (h : value.Within depth size) (h' : ElementsWithin depth' size' elements) :
    ElementsWithin (max depth depth') (size + size' + 1) (value :: elements) := by
  refine ⟨⟨h.distinct, h'.distinct⟩, max_le_max h.nesting_le h'.nesting_le, ?_⟩
  have hlength := h.length_le
  have hlength' := h'.length_le
  rw [elementsText, List.length_cons, List.length_append]
  omega

/-- Elements within some bounds are within larger ones. -/
theorem mono (h : ElementsWithin depth size elements) (hdepth : depth ≤ depth')
    (hsize : size ≤ size') : ElementsWithin depth' size' elements :=
  ⟨h.distinct, h.nesting_le.trans hdepth, h.length_le.trans hsize⟩

/-- Elements with common bounds. -/
theorem map {α : Type} {items : List α} {f : α → Tree}
    (h : ∀ item ∈ items, (f item).Within depth size) :
    ElementsWithin depth (items.length * (size + 1)) (items.map f) := by
  induction items with
  | nil => exact nil.mono (Nat.zero_le depth) (Nat.zero_le _)
  | cons item items ih =>
    obtain ⟨hitem, hitems⟩ := List.forall_mem_cons.1 h
    refine (cons hitem (ih hitems)).mono (max_self depth).le ?_
    rw [List.length_cons, Nat.succ_mul]
    omega

end ElementsWithin

namespace MembersWithin

/-- No members take no space. -/
theorem nil : MembersWithin 0 0 [] := ⟨trivial, Nat.le_refl 0, Nat.le_refl 0⟩

/-- A member, with its key, the colon and the comma, is added to the bounds of the rest. -/
theorem cons {name : List UInt8} (h : value.Within depth size)
    (h' : MembersWithin depth' size' members) :
    MembersWithin (max depth depth') (6 * name.length + size + size' + 4)
      ((name, value) :: members) := by
  refine ⟨⟨h.distinct, h'.distinct⟩, max_le_max h.nesting_le h'.nesting_le, ?_⟩
  have hname := length_quote_le name
  have hlength := h.length_le
  have hlength' := h'.length_le
  rw [membersText, List.length_cons, List.length_append, List.length_cons, List.length_append]
  omega

/-- Members within some bounds are within larger ones. -/
theorem mono (h : MembersWithin depth size members) (hdepth : depth ≤ depth')
    (hsize : size ≤ size') : MembersWithin depth' size' members :=
  ⟨h.distinct, h.nesting_le.trans hdepth, h.length_le.trans hsize⟩

/-- The bounds of two lists of members add up. -/
theorem append (h : MembersWithin depth size members) (h' : MembersWithin depth' size' members') :
    MembersWithin (max depth depth') (size + size') (members ++ members') := by
  refine ⟨membersDistinct_append.2 ⟨h.distinct, h'.distinct⟩, ?_, ?_⟩
  · rw [membersNesting_append]
    exact max_le_max h.nesting_le h'.nesting_le
  · rw [membersText_append, List.length_append]
    exact Nat.add_le_add h.length_le h'.length_le

end MembersWithin

/-! ## Parts of a text -/

/-- The text of a value is shorter than that of the members it is one of. -/
theorem length_membersText_of_mem {name : List UInt8} (h : (name, value) ∈ members) :
    value.render.length < (membersText members).length := by
  induction members with
  | nil => cases h
  | cons member members ih =>
    rw [membersText, List.length_cons, List.length_append, List.length_cons, List.length_append]
    rcases List.mem_cons.1 h with rfl | h
    · simp only
      omega
    · have hrest := ih h
      omega

/-- The text of an object is longer than those of its values. -/
theorem length_render_of_mem {name : List UInt8} (h : (name, value) ∈ members) :
    value.render.length ≤ (Tree.object members).render.length := by
  have hlength := length_membersText_of_mem h
  rw [Tree.render, List.length_cons, List.length_append, List.length_tail]
  omega

/-- The text of a value is no longer than that of the array that holds it alone. -/
theorem length_render_singleton (value : Tree) :
    value.render.length ≤ (Tree.array [value]).render.length := by
  simp only [Tree.render, elementsText, List.tail_cons, List.length_cons, List.length_append]
  omega

end JsonText
