import FloppyProbe.Probe.Select
import FloppyProbe.Ufi.ModeSense

/-!
# Saving and restoring a page

The parser, the geometry setter, the payload builder and the allowlist agree about the Flexible
Disk page: a page that was parsed with the length byte 30 can be selected, with or without the
1581 geometry, and a response that carries the payload is parsed into the same page again.
-/

namespace M65

variable {data : List UInt8} {length offset : ℕ}

/-- The 32 bytes at `offset` are the page of the payload, up to the PS bit. -/
structure CarriesPayload (response : List UInt8) (offset : ℕ)
    (payload : Vector UInt8 modeSelectPayloadLength) : Prop where
  header_eq : byteAt response offset &&& 0x7f = byteAt payload.toList 8
  bytes_eq : ∀ i, 1 ≤ i → i < flexPageLength →
    byteAt response (offset + i) = byteAt payload.toList (8 + i)

/-- The page `found` is `page` again: the same bytes up to the PS bit, the fields that belong to
them, and the same payload when it is selected. -/
structure RepeatsPage (page found : FlexibleDiskPage) : Prop where
  bytes_eq : ∀ i, 1 ≤ i → i < flexPageLength → found.byte i = page.byte i
  code_eq : found.byte 0 &&& 0x3f = page.byte 0 &&& 0x3f
  typed : found.Typed
  geometry_iff : geometryIs1581 found = true ↔ page.Stores1581
  restores : buildModeSelectPayload found = .ok (modeSelectPayload page)

/-- A page that was parsed can be selected when its length byte is 30. -/
theorem selectable_of_parse {saved : ModeParameters}
    (h : parseModeParameters data length = .ok saved) (hlength : saved.flexible.byte 1 = 30) :
    saved.flexible.Selectable := by
  obtain ⟨offset, hresponse, hholds, -⟩ := (parseModeParameters_accepts_iff data length).2 saved h
  obtain ⟨hpage, hcode⟩ := hresponse.chain.hasPage
  have hbyte0 : saved.flexible.byte 0 = byteAt data offset := hholds.page_eq 0 (by decide)
  refine ⟨?_, ?_, hlength⟩
  · rw [hbyte0]
    exact hcode
  · rw [hbyte0]
    exact hpage.not_subpage

/-- The payload depends on the bytes of the page only, and not on its PS bit. -/
theorem modeSelectPayload_eq_of_bytes {page page' : FlexibleDiskPage}
    (hbytes : ∀ i, 1 ≤ i → i < flexPageLength → page.byte i = page'.byte i)
    (hcode : page.byte 0 &&& 0x3f = page'.byte 0 &&& 0x3f) :
    modeSelectPayload page = modeSelectPayload page' := by
  unfold modeSelectPayload
  congr 1
  funext i
  by_cases hheader : (i : ℕ) < 8
  · rw [if_pos hheader, if_pos hheader]
  by_cases hfirst : (i : ℕ) = 8
  · rw [if_neg hheader, if_neg hheader, if_pos hfirst, if_pos hfirst, hcode]
  · have hi : (i : ℕ) < 8 + 32 := i.isLt
    have hlt : (i : ℕ) - 8 < flexPageLength := by
      show (i : ℕ) - 8 < 32
      omega
    rw [if_neg hheader, if_neg hheader, if_neg hfirst, if_neg hfirst, hbytes _ (by omega) hlt]

/-- Storing the geometry is a matter of the bytes behind the header. -/
theorem stores1581_iff_of_bytes {page page' : FlexibleDiskPage}
    (hbytes : ∀ i, 1 ≤ i → i < flexPageLength → page.byte i = page'.byte i) :
    page.Stores1581 ↔ page'.Stores1581 := by
  have hbyte {i : ℕ} {b : UInt8} (hb : geometryByte1581 i = some b) :
      page.byte i = page'.byte i := by
    refine hbytes i ?_ (lt_of_geometryByte1581 hb)
    rcases i with _ | i
    · cases hb
    · omega
  refine ⟨fun h i b hb => ?_, fun h i b hb => ?_⟩
  · rw [← hbyte hb]
    exact h i b hb
  · rw [hbyte hb]
    exact h i b hb

/-- A response that carries the payload of a page is parsed into that page. -/
theorem repeatsPage_of_parse {page : FlexibleDiskPage} {params : ModeParameters}
    (hpage : page.Selectable) (hparse : parseModeParameters data length = .ok params)
    (hholds : params.Holds data offset)
    (hcarries : CarriesPayload data offset (modeSelectPayload page)) :
    RepeatsPage page params.flexible := by
  have hbytes : ∀ i, 1 ≤ i → i < flexPageLength → params.flexible.byte i = page.byte i := by
    intro i hi hlt
    have hpayload : 8 + i < modeSelectPayloadLength := Nat.add_lt_add_left hlt 8
    rw [hholds.page_eq i hlt, hcarries.bytes_eq i hi hlt, byteAt_modeSelectPayload page hpayload,
      if_neg (by omega), if_neg (by omega), Nat.add_sub_cancel_left]
  -- the first byte of the page, without its PS bit
  have hfirst : params.flexible.byte 0 &&& 0x7f = page.byte 0 &&& 0x3f := by
    rw [hholds.page_eq 0 (by decide), Nat.add_zero, hcarries.header_eq,
      byteAt_modeSelectPayload page (by decide)]
    rfl
  have hmask (mask : UInt8) (hmask : 0x7f &&& mask = mask) :
      params.flexible.byte 0 &&& mask = page.byte 0 &&& (0x3f &&& mask) := by
    calc params.flexible.byte 0 &&& mask
        = params.flexible.byte 0 &&& (0x7f &&& mask) := by rw [hmask]
      _ = (params.flexible.byte 0 &&& 0x7f) &&& mask := (UInt8.and_assoc _ _ _).symm
      _ = (page.byte 0 &&& 0x3f) &&& mask := by rw [hfirst]
      _ = page.byte 0 &&& (0x3f &&& mask) := UInt8.and_assoc _ _ _
  have hcode : params.flexible.byte 0 &&& 0x3f = page.byte 0 &&& 0x3f := hmask 0x3f (by decide)
  have hselectable : params.flexible.Selectable := by
    refine ⟨hcode.trans hpage.code_eq, ?_, (hbytes 1 le_rfl (by decide)).trans hpage.length_eq⟩
    rw [hmask 0x40 (by decide), show (0x3f &&& 0x40 : UInt8) = 0 by decide]
    simp
  refine ⟨hbytes, hcode, typed_of_parse hparse, ?_, ?_⟩
  · rw [(typed_of_parse hparse).geometryIs1581_iff]
    exact stores1581_iff_of_bytes hbytes
  · rw [buildModeSelectPayload_eq_ok_iff.2 hselectable, modeSelectPayload_eq_of_bytes hbytes hcode]

/-- A page that was parsed with the length byte 30, with or without the 1581 geometry, makes a
MODE SELECT that the allowlist accepts, and every response that carries its payload is parsed into
the same page again. -/
theorem modePage_roundTrip {saved : ModeParameters} {page : FlexibleDiskPage}
    (hparse : parseModeParameters data length = .ok saved) (hlength : saved.flexible.byte 1 = 30)
    (hpage : page = saved.flexible ∨ page = set1581Geometry saved.flexible) :
    buildModeSelectPayload page = .ok (modeSelectPayload page) ∧ (modeSelectCommand page).Valid ∧
      ∀ response length offset, IsModeResponse response length offset →
        CarriesPayload response offset (modeSelectPayload page) →
          ∃ params, parseModeParameters response length = .ok params ∧
            params.pageOffset = offset ∧ RepeatsPage page params.flexible := by
  have hselectable : page.Selectable := by
    have hsaved := selectable_of_parse hparse hlength
    rcases hpage with rfl | rfl
    · exact hsaved
    · exact selectable_set1581Geometry_iff.2 hsaved
  refine ⟨buildModeSelectPayload_eq_ok_iff.2 hselectable, hselectable.valid, ?_⟩
  intro response length offset hresponse hcarries
  obtain ⟨haccepts, hsound⟩ := parseModeParameters_accepts_iff response length
  obtain ⟨params, hparams⟩ := haccepts.2 ⟨offset, hresponse⟩
  obtain ⟨offset', hresponse', hholds, -⟩ := hsound params hparams
  obtain rfl : offset = offset' := hresponse.chain.unique hresponse'.chain
  exact ⟨params, hparams, hholds.pageOffset_eq,
    repeatsPage_of_parse hselectable hparams hholds hcarries⟩

/-- A response with an empty page of 30 bytes, without descriptors and other pages. -/
def emptyPageResponse : List UInt8 := [0, 38, 0, 0, 0, 0, 0, 0, 0x05, 30] ++ List.replicate 30 0

/-- What the parser makes of it. -/
def emptyPageParameters : ModeParameters :=
  responseParameters emptyPageResponse 8
    { page := Vector.ofFn fun i => byteAt (emptyPageResponse.drop 8) i }

/-- The empty page with the 1581 geometry, in a response that carries its payload. -/
def geometryResponse : List UInt8 :=
  [0, 38, 0, 0, 0, 0, 0, 0] ++
    (modeSelectPayload (set1581Geometry emptyPageParameters.flexible)).toList.drop 8

/-- The page is selected, and comes back from the response that carries its payload. -/
theorem emptyPage_roundTrip :
    (modeSelectCommand (set1581Geometry emptyPageParameters.flexible)).Valid ∧
      ∃ params, parseModeParameters geometryResponse 40 = .ok params ∧ params.pageOffset = 8 ∧
        RepeatsPage (set1581Geometry emptyPageParameters.flexible) params.flexible := by
  have hparse : parseModeParameters emptyPageResponse 40 = .ok emptyPageParameters := rfl
  obtain ⟨-, hvalid, hrepeats⟩ := modePage_roundTrip hparse (by decide) (.inr rfl)
  have hresponse : IsModeResponse geometryResponse 40 8 :=
    ⟨by decide, by decide, by decide, by decide,
      .found ⟨by decide, by decide, by decide⟩ (by decide), by decide⟩
  refine ⟨hvalid, hrepeats geometryResponse 40 8 hresponse ⟨by decide, fun i hi hlt => ?_⟩⟩
  have hlt : i < 32 := hlt
  interval_cases i <;> rfl

end M65
