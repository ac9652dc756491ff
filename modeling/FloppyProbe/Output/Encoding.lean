import FloppyProbe.JsonText.Utf8
import FloppyProbe.Output.Schema
import FloppyProbe.Probe.Inspection
import FloppyProbe.Probe.Reasons

/-!
# Encoding of the inspection's document

The writer passes bytes from `0x80` on as they come, so a document is valid UTF-8 exactly when
its strings are. All strings of the document of a completed inspection are ASCII, apart from the
device's and the three that come from the INQUIRY response.
-/

namespace M65

open Interaction JsonText

/-! ## ASCII texts -/

/-- An ASCII literal is valid UTF-8. -/
theorem validUtf8_lit {text : String} (h : IsAsciiText (CString.lit text).bytes) :
    ValidUtf8 (CString.lit text).bytes :=
  validUtf8_of_isAscii h

/-- The digits of a hexadecimal number. -/
theorem isAscii_digits (value : ℕ) : IsAsciiText (digits 16 value) := by
  have hdigit : ∀ digit < 16, IsAscii (UInt8.ofNat (Nat.digitChar digit).toNat) := by decide
  have hall : ∀ value, ∀ c ∈ Nat.toDigits 16 value, IsAscii (UInt8.ofNat c.toNat) := by
    intro value
    induction value using Nat.strongRecOn with
    | ind value ih =>
      rw [Nat.toDigits_eq_if (by decide)]
      split
      case isTrue hlt => simpa using hdigit value hlt
      case isFalse hge =>
        simp only [List.forall_mem_append, List.forall_mem_singleton]
        exact ⟨ih (value / 16) (by omega), hdigit _ (Nat.mod_lt _ (by decide))⟩
  intro byte hbyte
  obtain ⟨c, hc, rfl⟩ := List.mem_map.1 hbyte
  exact hall value c hc

/-- A text of ASCII pieces is ASCII. -/
theorem Text.isAscii_format {n : ℕ} [NeZero n] {pieces : List (List UInt8)}
    (h : ∀ piece ∈ pieces, IsAsciiText piece) :
    IsAsciiText (Text.format pieces : Text n).bytes := by
  intro byte hbyte
  have hmem := (List.takeWhile_sublist _).subset (List.mem_of_mem_take hbyte)
  obtain ⟨piece, hpiece, hbyte⟩ := List.mem_flatten.1 hmem
  exact h piece hpiece byte hbyte

/-- The hexadecimal form of an identifier is ASCII. -/
theorem isAscii_hexIdentifier (value : UInt16) :
    IsAsciiText (hexIdentifier value).bytes := by
  refine Text.isAscii_format fun piece hpiece => ?_
  simp only [List.mem_cons, List.not_mem_nil, or_false] at hpiece
  rcases hpiece with rfl | rfl
  · decide
  · intro byte hbyte
    rcases List.mem_append.1 hbyte with hbyte | hbyte
    · rw [List.eq_of_mem_replicate hbyte]
      decide
    · exact isAscii_digits _ byte hbyte

/-! ## Members -/

/-- A string is valid UTF-8 when its bytes are. -/
theorem utf8_textTree_iff (value : CString) : (textTree value).Utf8 ↔ ValidUtf8 value.bytes :=
  Tree.utf8_string_iff _

/-- A literal of the source is valid UTF-8. -/
theorem utf8_literalTree {value : String}
    (h : IsAsciiText (CString.lit value).bytes) : (literalTree value).Utf8 :=
  (utf8_textTree_iff _).2 (validUtf8_lit h)

/-- Numbers are valid UTF-8. -/
theorem utf8_numberTree (value : ℤ) : (numberTree value).Utf8 := Tree.utf8_number value

/-- Truth values are valid UTF-8. -/
theorem utf8_boolTree (value : Bool) : (boolTree value).Utf8 := Tree.utf8_bool value

/-- The names and the values of the members are valid UTF-8. -/
def MembersUtf8 (members : List (List UInt8 × Tree)) : Prop :=
  ∀ member ∈ members, ValidUtf8 member.1 ∧ member.2.Utf8

/-- An object is valid UTF-8 when its members are. -/
theorem utf8_object_iff (members : List (List UInt8 × Tree)) :
    (Tree.object members).Utf8 ↔ MembersUtf8 members :=
  Tree.utf8_object_iff members

/-- No member is invalid in an empty object. -/
theorem membersUtf8_nil : MembersUtf8 [] := by
  simp [MembersUtf8]

/-- A member with an ASCII name is valid UTF-8 when its value is. -/
theorem membersUtf8_cons_iff {name : String} {value : Tree} {members : List (List UInt8 × Tree)}
    (hname : IsAsciiText (CString.lit name).bytes) :
    MembersUtf8 (member name value :: members) ↔ value.Utf8 ∧ MembersUtf8 members := by
  rw [MembersUtf8, List.forall_mem_cons, MembersUtf8]
  exact and_congr_left fun _ => and_iff_right (validUtf8_lit hname)

/-- The members of two lists are valid UTF-8 when those of both are. -/
theorem membersUtf8_append_iff (first second : List (List UInt8 × Tree)) :
    MembersUtf8 (first ++ second) ↔ MembersUtf8 first ∧ MembersUtf8 second :=
  List.forall_mem_append

/-! ## Parts -/

/-- Identifiers are valid UTF-8. -/
theorem utf8_identifierTree (value : UInt16) : (identifierTree value).Utf8 := by
  simp (disch := decide) only [identifierTree, utf8_object_iff, membersUtf8_cons_iff,
    membersUtf8_nil, utf8_numberTree, utf8_textTree_iff, true_and, and_true]
  exact validUtf8_of_isAscii (isAscii_hexIdentifier value)

/-- The texts of a device. -/
structure DeviceInfo.Utf8 (device : DeviceInfo) : Prop where
  bsdName : ValidUtf8 device.bsdName.bytes
  rawPath : ValidUtf8 device.rawPath.bytes
  mediaName : ValidUtf8 device.mediaName.bytes
  usbManufacturer : ValidUtf8 device.usbManufacturer.bytes
  usbProduct : ValidUtf8 device.usbProduct.bytes
  productRevision : ValidUtf8 device.productRevision.bytes

/-- The members of a device are valid UTF-8 when its texts are. -/
theorem membersUtf8_device {device : DeviceInfo} (h : device.Utf8) :
    MembersUtf8 (deviceMembers device) := by
  have hname : (if device.bsdName.bytes ≠ [] then textTree device.bsdName.toCString
      else nullTree).Utf8 := by
    split
    · exact (utf8_textTree_iff _).2 h.bsdName
    · exact Tree.utf8_null
  simp (disch := decide) only [deviceMembers, utf8_object_iff, membersUtf8_cons_iff,
    membersUtf8_nil, utf8_identifierTree, utf8_boolTree, utf8_textTree_iff, true_and, and_true]
  exact ⟨hname, h.mediaName, h.usbManufacturer, h.usbProduct, h.productRevision⟩

/-- The members of a medium are valid UTF-8 when the texts of the device are. -/
theorem membersUtf8_media {device : DeviceInfo} (h : device.Utf8) :
    MembersUtf8 (mediaMembers device) := by
  simp (disch := decide) only [mediaMembers, utf8_object_iff, membersUtf8_cons_iff,
    membersUtf8_nil, utf8_numberTree, utf8_boolTree, utf8_textTree_iff, true_and, and_true]
  exact h.rawPath

/-- Sense data are valid UTF-8. -/
theorem utf8_senseTree (sense : Sense) : (senseTree sense).Utf8 := by
  simp (disch := decide) only [senseTree, utf8_object_iff, membersUtf8_cons_iff,
    membersUtf8_nil, utf8_numberTree, utf8_boolTree, and_true]

/-- The names of the changeable fields are valid UTF-8. -/
theorem utf8_changeableTree (page : FlexibleDiskPage) : (changeableTree page).Utf8 := by
  have hname : ∀ field ∈ flexibleFieldOrder,
      IsAsciiText (CString.lit (flexibleFields field).name).bytes := by decide
  rw [changeableTree, Tree.utf8_array_iff]
  intro element helement
  obtain ⟨field, hfield, rfl⟩ := List.mem_map.1 helement
  exact utf8_literalTree (hname field (List.mem_of_mem_filter hfield))

/-- A page is valid UTF-8. -/
theorem utf8_flexibleTree (page : FlexibleDiskPage) (includeChangeable : Bool) :
    (flexibleTree page includeChangeable).Utf8 := by
  rw [flexibleTree, utf8_object_iff, membersUtf8_append_iff]
  constructor
  · simp (disch := decide) only [membersUtf8_cons_iff, membersUtf8_nil, utf8_numberTree, and_true]
  · cases includeChangeable with
    | false => exact membersUtf8_nil
    | true => exact (membersUtf8_cons_iff (by decide)).2 ⟨utf8_changeableTree page, membersUtf8_nil⟩

/-- A capacity is valid UTF-8. -/
theorem utf8_capacityTree (capacity : Capacity) : (capacityTree capacity).Utf8 := by
  simp (disch := decide) only [capacityTree, utf8_object_iff, membersUtf8_cons_iff,
    membersUtf8_nil, utf8_numberTree, and_true]

/-- A descriptor is valid UTF-8. -/
theorem utf8_descriptorTree (descriptor : FormatCapacityDescriptor) :
    (descriptorTree descriptor).Utf8 := by
  simp (disch := decide) only [descriptorTree, utf8_object_iff, membersUtf8_cons_iff,
    membersUtf8_nil, utf8_numberTree, and_true]

/-- The texts of an INQUIRY response as they are printed. -/
structure Inquiry.Utf8 (inquiry : Inquiry) : Prop where
  vendor : ValidUtf8 (CString.ofBytes inquiry.vendor).bytes
  product : ValidUtf8 (CString.ofBytes inquiry.product).bytes
  firmware : ValidUtf8 (CString.ofBytes inquiry.firmware).bytes

/-- The object of an INQUIRY is valid UTF-8 when its texts are. -/
theorem utf8_inquiryTree_iff (inquiry : Inquiry) : (inquiryTree inquiry).Utf8 ↔ inquiry.Utf8 := by
  simp (disch := decide) only [inquiryTree, utf8_object_iff, membersUtf8_cons_iff,
    membersUtf8_nil, utf8_textTree_iff, and_true]
  exact ⟨fun ⟨hvendor, hproduct, hfirmware⟩ => ⟨hvendor, hproduct, hfirmware⟩,
    fun ⟨hvendor, hproduct, hfirmware⟩ => ⟨hvendor, hproduct, hfirmware⟩⟩

/-! ## The document of a completed inspection -/

/-- The common members are valid UTF-8. -/
theorem membersUtf8_top {command : String}
    (h : IsAsciiText (CString.lit command).bytes) :
    MembersUtf8 (topMembers (CString.lit command)) := by
  simp (disch := decide) only [topMembers, utf8_object_iff, membersUtf8_cons_iff,
    membersUtf8_nil, utf8_numberTree, utf8_textTree_iff, true_and, and_true]
  exact validUtf8_lit h

/-- Of a completed inspection, only the texts of the INQUIRY response can be wrong. -/
theorem membersUtf8_inspect_iff {device : DeviceInfo} {report : InspectReport}
    (hdevice : device.Utf8) (hok : report.code = .ok)
    (hreason : report.reason = errorText "inspection completed") :
    MembersUtf8 (inspectMembers device report) ↔ report.inquiry.Utf8 := by
  have hstatus : (textTree (CString.lit "ok")).Utf8 := utf8_literalTree (by decide)
  have hcompleted : (textTree (errorText "inspection completed").toCString).Utf8 :=
    (utf8_textTree_iff _).2 (validUtf8_of_isAscii (by decide))
  have hformats : (Tree.array
      (report.formatCapacities.descriptors.map descriptorTree)).Utf8 := by
    rw [Tree.utf8_array_iff]
    intro element helement
    obtain ⟨descriptor, -, rfl⟩ := List.mem_map.1 helement
    exact utf8_descriptorTree descriptor
  have herrors : (errorsTree none (some report.sense)).Utf8 :=
    (Tree.utf8_array_iff []).2 (by simp)
  simp (disch := decide) only [inspectMembers, resultMembers, hok, hreason, if_true,
    utf8_object_iff, membersUtf8_cons_iff, membersUtf8_nil, utf8_boolTree, utf8_capacityTree,
    utf8_flexibleTree, utf8_senseTree, membersUtf8_device hdevice, membersUtf8_media hdevice,
    utf8_inquiryTree_iff, hstatus, hcompleted, hformats, herrors, true_and, and_true]

/-! ## INQUIRY responses -/

/-- The bytes of a field of the response, up to the first zero byte. -/
def responseField (response : List UInt8) (offset size : ℕ) : List UInt8 :=
  ((response.drop offset).take size).takeWhile (· ≠ 0)

/-- The vendor, product and firmware fields are valid UTF-8, each up to its first zero byte. -/
structure ResponseUtf8 (response : List UInt8) : Prop where
  vendor : ValidUtf8 (responseField response 8 8)
  product : ValidUtf8 (responseField response 16 16)
  firmware : ValidUtf8 (responseField response 32 4)

/-- The bytes at the first indices are the first bytes. -/
theorem map_byteAt_range {source : List UInt8} {size : ℕ} (h : size ≤ source.length) :
    (List.range size).map (byteAt source) = source.take size := by
  apply List.ext_getElem
  · simp [Nat.min_eq_left h]
  · intro i hi hi'
    rw [List.length_map, List.length_range] at hi
    have hlt : i < source.length := Nat.lt_of_lt_of_le hi h
    simp [byteAt, hlt]

/-- What `trim_copy` leaves out are blanks and zeros. -/
theorem exists_blanks {source : List UInt8} {size : ℕ} (h : size ≤ source.length) :
    ∃ blanks, source.take size = source.take (trimmedLength source size) ++ blanks ∧
      ∀ byte ∈ blanks, byte = 0x20 ∨ byte = 0 := by
  induction size with
  | zero => exact ⟨[], rfl, by simp⟩
  | succ used ih =>
    have hlt : used < source.length := h
    have hbyte : byteAt source used = source[used] := by simp [byteAt, hlt]
    rw [trimmedLength]
    split
    case isFalse => exact ⟨[], (List.append_nil _).symm, by simp⟩
    case isTrue hblank =>
      obtain ⟨blanks, heq, hblanks⟩ := ih (by omega)
      refine ⟨blanks ++ [source[used]], ?_, List.forall_mem_append.2 ⟨hblanks, ?_⟩⟩
      · rw [List.take_succ_eq_append_getElem hlt, heq, List.append_assoc]
      · rw [hbyte] at hblank
        simpa using hblank

/-- The blanks at the end of a field do not matter. -/
theorem validUtf8_trimCopy_iff {source : List UInt8} {size : ℕ} (h : size ≤ source.length) :
    ValidUtf8 (CString.ofBytes (trimCopy (size + 1) source size)).bytes ↔
      ValidUtf8 ((source.take size).takeWhile (· ≠ 0)) := by
  have hle := trimmedLength_le source size
  have hcopy : trimCopy (size + 1) source size = source.take (trimmedLength source size) := by
    simp only [trimCopy]
    rw [if_neg (by omega), map_byteAt_range (hle.trans h)]
  obtain ⟨blanks, heq, hblanks⟩ := exists_blanks h
  rw [hcopy, heq, List.takeWhile_append]
  show ValidUtf8 ((source.take (trimmedLength source size)).takeWhile (· ≠ 0)) ↔ _
  split
  case isFalse => rfl
  case isTrue hlength =>
    have hall := (List.takeWhile_prefix (l := source.take (trimmedLength source size))
      (fun byte => decide (byte ≠ 0))).eq_of_length hlength
    rw [hall, ValidUtf8.append_isAscii_iff]
    intro byte hbyte
    rcases hblanks byte ((List.takeWhile_sublist _).subset hbyte) with rfl | rfl <;> decide

/-- The texts of an INQUIRY are valid UTF-8 exactly when the fields of its response are. -/
theorem parseInquiry_utf8_iff {response : List UInt8} {length : ℕ} {inquiry : Inquiry}
    (hlength : length ≤ response.length) (h : parseInquiry response length = .ok inquiry) :
    inquiry.Utf8 ↔ ResponseUtf8 response := by
  unfold parseInquiry at h
  split at h
  · cases h
  · obtain rfl := Except.ok.inj h
    have hvendor := @validUtf8_trimCopy_iff (response.drop 8) 8 (by rw [List.length_drop]; omega)
    have hproduct := @validUtf8_trimCopy_iff (response.drop 16) 16 (by rw [List.length_drop]; omega)
    have hfirmware := @validUtf8_trimCopy_iff (response.drop 32) 4 (by rw [List.length_drop]; omega)
    exact ⟨fun ⟨h₁, h₂, h₃⟩ => ⟨hvendor.1 h₁, hproduct.1 h₂, hfirmware.1 h₃⟩,
      fun ⟨h₁, h₂, h₃⟩ => ⟨hvendor.2 h₁, hproduct.2 h₂, hfirmware.2 h₃⟩⟩

/-! ## What an inspection prints -/

/-- The bytes are a JSON text: they are well formed, and they are encoded in UTF-8. -/
def IsJsonText (bytes : List UInt8) : Prop := (∃ value, parse bytes = some value) ∧ ValidUtf8 bytes

/-- A rendered value is a JSON text exactly when its strings and names are valid UTF-8. -/
theorem isJsonText_render_iff (value : Tree) : IsJsonText value.render ↔ value.Utf8 := by
  rw [← validUtf8_render_iff]
  exact and_iff_right ⟨value, parse_render value⟩

/-- The bytes that the INQUIRY of a run transferred. -/
def inquiryResponse (t : List WorkflowEvent) : Option (List UInt8) :=
  ((executions t).find? fun e => e.command.cdbByte 0 = opcodeInquiry).map (·.transferredBytes)

/-- A completed inspection got an INQUIRY response that was accepted. -/
theorem Inspected.inquiryResponse {report : InspectReport} {t : List WorkflowEvent}
    (h : Inspected report t) (hok : report.code = .ok) :
    ∃ response, inquiryResponse t = some response ∧
      (report.inquiry.Utf8 ↔ ResponseUtf8 response) := by
  obtain ⟨inquiry, unit, capacity, formats, current, changeable, hexecutions, hfound⟩ := h.found hok
  have hwire := h.commands_isPrefix
  rw [hexecutions, List.map_cons] at hwire
  have hcommand : inquiry.command.wire = (inputCommand (cdbInquiry 96) 96).wire :=
    (List.cons_prefix_cons.1 hwire).1
  have hopcode : inquiry.command.cdbByte 0 = opcodeInquiry := by
    show (inquiry.command.wire.cdb[0]?).getD 0 = opcodeInquiry
    rw [hcommand]
    decide
  have hdelivers := hfound.inquiry
  have hlength : inquiry.reply.result.transferred ≤ inquiry.transferredBytes.length := by
    have hfits := hdelivers.fits
    simp [Execution.transferredBytes, hfits]
  refine ⟨inquiry.transferredBytes, ?_, parseInquiry_utf8_iff hlength hdelivers.parsed⟩
  simp [M65.inquiryResponse, hexecutions, hopcode]

/-- The document of a completed inspection is a JSON text exactly when the texts of its INQUIRY are
valid UTF-8. -/
theorem completed_isJsonText_iff {device : DeviceInfo} {report : InspectReport}
    (hdevice : device.Utf8) (hok : report.code = .ok)
    (hreason : report.reason = errorText "inspection completed") {allocator : Allocator}
    {text : CString} (hprint : outputInspectJson allocator device report = some text) :
    IsJsonText text.bytes ↔ report.inquiry.Utf8 := by
  rw [printDocument_eq_some (emits_inspect device report) hprint, isJsonText_render_iff,
    utf8_object_iff, membersUtf8_append_iff, membersUtf8_inspect_iff hdevice hok hreason]
  exact and_iff_right (membersUtf8_top (by decide))

/-- What a completed inspection prints is a JSON text exactly when the texts of the INQUIRY
response are valid UTF-8. -/
theorem inspect_isJsonText_iff {s : Bool} (r : Run inspect s) (hok : r.result.code = .ok)
    {device : DeviceInfo} (hdevice : device.Utf8) {allocator : Allocator} {text : CString}
    (hprint : outputInspectJson allocator device r.result = some text) :
    IsJsonText text.bytes ↔
      ∃ response, inquiryResponse r.trace = some response ∧ ResponseUtf8 response := by
  obtain ⟨response, hresponse, hutf8⟩ := (inspected_of_exec r.exec).inquiryResponse hok
  rw [completed_isJsonText_iff hdevice hok ((inspect_told r.exec).good hok) hprint, hutf8,
    hresponse]
  constructor
  · exact fun h => ⟨response, rfl, h⟩
  · rintro ⟨_, heq, h⟩
    obtain rfl := Option.some.inj heq
    exact h

/-- An INQUIRY response with `vendor` in every byte of its vendor field. -/
def vendorResponse (vendor : UInt8) : List UInt8 :=
  List.replicate 8 0 ++ List.replicate 8 vendor ++ List.replicate 20 0

/-- An inspection that is completed after this response. -/
def vendorRun (vendor : UInt8) : Run inspect false :=
  inspect.replay (answering [vendorResponse vendor, [], List.replicate 8 0, List.replicate 4 0,
    modeResponse 0, modeResponse 0]) false

/-- The texts of a record of zeros are valid UTF-8. -/
theorem emptyDevice_utf8 : DeviceInfo.Utf8 {} := ⟨.nil, .nil, .nil, .nil, .nil, .nil⟩

/-- With a generous allocator a report with short texts is printed. -/
theorem exists_printed {report : InspectReport}
    (h : (OutputDocument.inspection none report).freeBytes < 2 ^ 50) :
    ∃ text, outputInspectJson generousAllocator {} report = some text := by
  have hwithin := within_tree (.inspection none report)
  have hlength := hwithin.length_le
  exact exists_printDocument (fun _ => rfl) (emits_inspect {} report)
    (hwithin.nesting_le.trans (by decide)) (Nat.lt_of_le_of_lt hlength (by omega))

/-- The run evaluated once, for either vendor. -/
theorem vendorRun_eval (vendor : UInt8) (h : vendor = 0x41 ∨ vendor = 0xff) :
    (vendorRun vendor).result.code = .ok ∧
      (vendorRun vendor).result.reason = errorText "inspection completed" ∧
      (vendorRun vendor).result.inquiry.vendor = List.replicate 8 vendor ∧
      inquiryResponse (vendorRun vendor).trace = some (vendorResponse vendor) ∧
      (OutputDocument.inspection none (vendorRun vendor).result).freeBytes < 2 ^ 50 := by
  rcases h with rfl | rfl <;> decide +kernel

/-- With an ASCII vendor the document is a JSON text. -/
theorem asciiVendor_isJsonText : ∃ text,
    outputInspectJson generousAllocator {} (vendorRun 0x41).result = some text ∧
      IsJsonText text.bytes := by
  obtain ⟨hok, -, -, hresponse, hfree⟩ := vendorRun_eval 0x41 (.inl rfl)
  obtain ⟨text, hprint⟩ := exists_printed hfree
  refine ⟨text, hprint, (inspect_isJsonText_iff _ hok emptyDevice_utf8 hprint).2 ?_⟩
  exact ⟨_, hresponse, validUtf8_of_isAscii (by decide), .nil, .nil⟩

/-- With a vendor byte that no UTF-8 text begins with, it is not. -/
theorem rawVendor_not_isJsonText :
    ¬ ∀ (r : Run inspect false) (device : DeviceInfo) (allocator : Allocator) (text : CString),
      r.result.code = .ok → device.Utf8 →
        outputInspectJson allocator device r.result = some text → IsJsonText text.bytes := by
  intro hall
  obtain ⟨hok, hreason, hvendor, -, hfree⟩ := vendorRun_eval 0xff (.inr rfl)
  obtain ⟨text, hprint⟩ := exists_printed hfree
  have hutf8 := (completed_isJsonText_iff emptyDevice_utf8 hok hreason hprint).1
    (hall _ _ _ text hok emptyDevice_utf8 hprint)
  have hbytes := hutf8.vendor
  rw [hvendor] at hbytes
  exact ValidUtf8.not_cons (by decide) _ hbytes

end M65
