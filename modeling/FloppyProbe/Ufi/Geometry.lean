import Mathlib.Tactic.IntervalCases
import FloppyProbe.Ufi.Commands

/-!
# The 1581 geometry, byte by byte

Three descriptions of the Flexible Disk page meet in a change of the geometry: the setter writes
bytes of the page, the gate compares the fields of its table, and the builder copies the page into
the MODE SELECT payload. Here each of them is described by the bytes of the page, and the gate is
shown to pass exactly the changes that the mask permits bit by bit.
-/

namespace M65

/-! ## Bits -/

/-- Bit `j` of a byte. -/
def bit (b : UInt8) (j : Fin 8) : Bool := b.toBitVec[j]

/-- A byte is determined by its bits. -/
theorem bit_ext {a b : UInt8} (h : ∀ j, bit a j = bit b j) : a = b := by
  apply UInt8.toBitVec_inj.1
  apply BitVec.eq_of_getElem_eq
  intro j hj
  exact h ⟨j, hj⟩

/-- The bits of an exclusive disjunction. -/
@[simp]
theorem bit_xor (a b : UInt8) (j : Fin 8) : bit (a ^^^ b) j = (bit a j ^^ bit b j) := by
  simp [bit]

/-- The bits of a conjunction. -/
@[simp]
theorem bit_and (a b : UInt8) (j : Fin 8) : bit (a &&& b) j = (bit a j && bit b j) := by
  simp [bit]

/-- The bits of a complement. -/
@[simp]
theorem bit_not (a : UInt8) (j : Fin 8) : bit (~~~ a) j = !bit a j := by
  simp [bit]

@[simp]
theorem bit_zero (j : Fin 8) : bit 0 j = false := by
  simp [bit]

/-- Two bytes differ only at bits of the mask. -/
theorem xor_and_not_eq_zero_iff (a b m : UInt8) :
    (a ^^^ b) &&& ~~~ m = 0 ↔ ∀ j, bit a j ≠ bit b j → bit m j = true := by
  constructor
  · intro h j hne
    have hj := congrArg (bit · j) h
    simp only [bit_and, bit_xor, bit_not, bit_zero] at hj
    revert hj hne
    cases bit a j <;> cases bit b j <;> cases bit m j <;> simp
  · intro h
    apply bit_ext
    intro j
    have hj := h j
    simp only [bit_and, bit_xor, bit_not, bit_zero]
    revert hj
    cases bit a j <;> cases bit b j <;> cases bit m j <;> simp

/-! ## The setter -/

/-- The bytes of the page under the 1581 geometry: 250 kbit/s, 2 heads, 10 sectors of 512 bytes,
80 cylinders and 300 rotations a minute, all big-endian. -/
def geometryByte1581 : ℕ → Option UInt8
  | 2 => some 0x00
  | 3 => some 0xfa
  | 4 => some 2
  | 5 => some 10
  | 6 => some 0x02
  | 7 => some 0x00
  | 8 => some 0
  | 9 => some 80
  | 28 => some 0x01
  | 29 => some 0x2c
  | _ => none

/-- The bytes of the geometry lie within the page. -/
theorem lt_of_geometryByte1581 {i : ℕ} {b : UInt8} (h : geometryByte1581 i = some b) :
    i < flexPageLength := by
  unfold geometryByte1581 at h
  split at h <;> first | decide | cases h

/-- A store changes the byte at its index and no other. -/
theorem getD_setIfInBounds {n : ℕ} (data : Vector UInt8 n) (i : ℕ) (b : UInt8) {j : ℕ}
    (hj : j < n) : (data.setIfInBounds i b)[j]?.getD 0 = if i = j then b else data[j]?.getD 0 := by
  rw [Vector.getElem?_setIfInBounds]
  by_cases h : i = j
  · simp [h, hj]
  · simp [h]

/-- The setter writes the bytes of the geometry and no others. -/
theorem set1581Geometry_byte (page : FlexibleDiskPage) {i : ℕ} (hi : i < flexPageLength) :
    (set1581Geometry page).byte i = (geometryByte1581 i).getD (page.byte i) := by
  simp only [set1581Geometry, FlexibleDiskPage.byte, writeBe16, getD_setIfInBounds _ _ _ hi]
  unfold flexPageLength at hi
  interval_cases i <;> rfl

/-! ## The gate -/

/-- The bytes of the fields that the gate looks at. -/
def requiredOffsets : List ℕ := requiredFields.flatMap FlexibleField.offsets

/-- The fields of the gate's table hold the bytes of the geometry. -/
theorem mem_requiredOffsets_iff {i : ℕ} (hi : i < flexPageLength) :
    i ∈ requiredOffsets ↔ geometryByte1581 i ≠ none := by
  unfold flexPageLength at hi
  interval_cases i <;> decide

/-- The bytes that the gate looks at lie within the page. -/
theorem lt_of_mem_requiredOffsets {i : ℕ} (h : i ∈ requiredOffsets) : i < flexPageLength := by
  have hall : ∀ i ∈ requiredOffsets, i < flexPageLength := by decide
  exact hall i h

/-- The gate permits a change exactly when every bit that it changes in the fields of its table is
set in the mask. -/
theorem geometryChangesAllowed_eq_ok_iff (current desired mask : FlexibleDiskPage) :
    geometryChangesAllowed current desired mask = .ok () ↔
      ∀ i ∈ requiredOffsets, ∀ j,
        bit (current.byte i) j ≠ bit (desired.byte i) j → bit (mask.byte i) j = true := by
  -- the gate names the first field that is not allowed, and passes when there is none
  have hgate : geometryChangesAllowed current desired mask = .ok () ↔
      ∀ field ∈ requiredFields, fieldChangeAllowed current desired mask field = true := by
    unfold geometryChangesAllowed
    cases hfind : requiredFields.find? fun field => !fieldChangeAllowed current desired mask field
    with
    | none => simpa using List.find?_eq_none.1 hfind
    | some field =>
        have hfield := List.find?_some hfind
        have hmem := List.mem_of_find?_eq_some hfind
        simp only [reduceCtorEq, false_iff, not_forall]
        exact ⟨field, hmem, by simpa using hfield⟩
  rw [hgate]
  simp only [fieldChangeAllowed, List.all_eq_true, beq_iff_eq, xor_and_not_eq_zero_iff,
    requiredOffsets, List.mem_flatMap]
  constructor
  · rintro h i ⟨field, hfield, hi⟩
    exact h field hfield i hi
  · exact fun h field hfield i hi => h i ⟨field, hfield, hi⟩

/-- The gate passes the change to the 1581 geometry exactly when the mask permits every bit in
which the page differs from it. -/
theorem geometryChangesAllowed_set1581Geometry_iff (page mask : FlexibleDiskPage) :
    geometryChangesAllowed page (set1581Geometry page) mask = .ok () ↔
      ∀ i < flexPageLength, ∀ j,
        bit (page.byte i) j ≠ bit ((set1581Geometry page).byte i) j →
          bit (mask.byte i) j = true := by
  rw [geometryChangesAllowed_eq_ok_iff]
  constructor
  · intro h i hi j hne
    refine h i ((mem_requiredOffsets_iff hi).2 fun hnone => hne ?_) j hne
    rw [set1581Geometry_byte page hi, hnone, Option.getD_none]
  · exact fun h i hi => h i (lt_of_mem_requiredOffsets hi)

/-! ## The builder -/

/-- The payload builder and the allowlist accept the page. -/
structure FlexibleDiskPage.Selectable (page : FlexibleDiskPage) : Prop where
  code_eq : page.byte 0 &&& 0x3f = flexibleDiskPage
  not_subpage : page.byte 0 &&& 0x40 = 0
  length_eq : page.byte 1 = 30

/-- The payload builder takes exactly the pages of code 5, without the subpage bit, whose length
byte is 30. -/
theorem buildModeSelectPayload_eq_ok_iff {page : FlexibleDiskPage} :
    buildModeSelectPayload page = .ok (modeSelectPayload page) ↔ page.Selectable := by
  unfold buildModeSelectPayload
  constructor
  · intro h
    split at h
    · cases h
    · next hbad =>
        simp only [not_or, ne_eq, not_not] at hbad
        exact ⟨hbad.1, hbad.2.1, hbad.2.2⟩
  · rintro ⟨hcode, hsubpage, hlength⟩
    simp [hcode, hsubpage, hlength]

/-- The geometry leaves the header of the page alone. -/
theorem selectable_set1581Geometry_iff {page : FlexibleDiskPage} :
    (set1581Geometry page).Selectable ↔ page.Selectable := by
  have h0 : (set1581Geometry page).byte 0 = page.byte 0 := by
    rw [set1581Geometry_byte page (by decide)]
    rfl
  have h1 : (set1581Geometry page).byte 1 = page.byte 1 := by
    rw [set1581Geometry_byte page (by decide)]
    rfl
  constructor
  · rintro ⟨hcode, hsubpage, hlength⟩
    rw [h0] at hcode hsubpage
    rw [h1] at hlength
    exact ⟨hcode, hsubpage, hlength⟩
  · rintro ⟨hcode, hsubpage, hlength⟩
    rw [← h0] at hcode hsubpage
    rw [← h1] at hlength
    exact ⟨hcode, hsubpage, hlength⟩

/-- The mask of changeable fields is no part of the page. -/
theorem selectable_applyChangeability_iff {current mask : FlexibleDiskPage} :
    (applyChangeability current mask).Selectable ↔ current.Selectable :=
  ⟨fun h => ⟨h.1, h.2, h.3⟩, fun h => ⟨h.1, h.2, h.3⟩⟩

/-- The geometry is written into the same bytes whether or not the fields were marked as
changeable. -/
theorem set1581Geometry_applyChangeability (current mask : FlexibleDiskPage) :
    (set1581Geometry (applyChangeability current mask)).page = (set1581Geometry current).page :=
  rfl

/-- The payload depends on the bytes of the page only. -/
theorem modeSelectPayload_congr {page page' : FlexibleDiskPage} (h : page.page = page'.page) :
    modeSelectPayload page = modeSelectPayload page' := by
  simp only [modeSelectPayload, FlexibleDiskPage.byte, h]

/-- The gate looks at the bytes of the pages only. -/
theorem geometryChangesAllowed_applyChangeability_iff (current mask : FlexibleDiskPage) :
    geometryChangesAllowed (applyChangeability current mask)
        (set1581Geometry (applyChangeability current mask)) mask = .ok () ↔
      geometryChangesAllowed current (set1581Geometry current) mask = .ok () := by
  simp only [geometryChangesAllowed_set1581Geometry_iff, FlexibleDiskPage.byte,
    set1581Geometry_applyChangeability]
  rfl

/-- A byte of the payload, which has eight bytes of header before the page. -/
theorem byteAt_modeSelectPayload (page : FlexibleDiskPage) {i : ℕ}
    (hi : i < modeSelectPayloadLength) :
    byteAt (modeSelectPayload page).toList i =
      if i < 8 then 0 else if i = 8 then page.byte 0 &&& 0x3f else page.byte (i - 8) := by
  rw [byteAt, List.getD_eq_getElem?_getD, List.getElem?_eq_getElem (by simpa using hi)]
  simp [modeSelectPayload]

end M65
