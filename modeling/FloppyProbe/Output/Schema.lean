import FloppyProbe.JsonText.Bounds
import FloppyProbe.Output.Contents

/-!
# The schema of the documents

Every document of `src/output.c` is an object with the seven members of the schema and without a
repeated name in any object, for all data. Its containers are far less deep than the writer
allows, so while the allocator does not refuse, it is printed unless its text has `2 ^ 63` bytes,
where the writer stops.
-/

namespace M65

open JsonText

/-! ## Parts -/

section Parts

/-- A literal of the source as a member name or a value. -/
def IsShort (literal : String) : Prop := (CString.lit literal).bytes.length ≤ 40

instance (literal : String) : Decidable (IsShort literal) :=
  inferInstanceAs (Decidable ((CString.lit literal).bytes.length ≤ 40))

variable {depth depth' size size' : ℕ} {value : Tree} {members : List (List UInt8 × Tree)}

/-- A string is at most six times as long as its bytes. -/
theorem within_text (value : CString) : (textTree value).Within 0 (6 * value.bytes.length + 2) :=
  .string value.bytes

/-- A bounded text gives a string of bounded length. -/
theorem within_array {n : ℕ} (value : Text n) :
    (textTree value.toCString).Within 0 (6 * n + 2) := by
  have hfits := value.fits
  exact (within_text value.toCString).mono (Nat.le_refl 0) (by omega)

/-- A literal of the source is short. -/
theorem within_literal {literal : String} (h : IsShort literal) :
    (literalTree literal).Within 0 242 := by
  have hshort : (CString.lit literal).bytes.length ≤ 40 := h
  exact (within_text (CString.lit literal)).mono (Nat.le_refl 0) (by omega)

/-- A number of 64 bits is short. -/
theorem within_natural {value : ℕ} (h : value < 2 ^ 64) : (numberTree value).Within 0 21 :=
  .number (by omega) (by omega)

/-- A truth value is short. -/
theorem within_bool (value : Bool) : (boolTree value).Within 0 5 := .bool value

/-- A member under a literal of the source. -/
theorem within_member (name : String) (h : value.Within depth size)
    (h' : MembersWithin depth' size' members) (hname : IsShort name := by decide) :
    MembersWithin (max depth depth') (size + size' + 244) (member name value :: members) := by
  have hshort : (CString.lit name).bytes.length ≤ 40 := hname
  refine (MembersWithin.cons h h').mono (Nat.le_refl _) ?_
  omega

/-- The names of members. -/
def memberNames (names : List String) : List (List UInt8) :=
  names.map fun name => (CString.lit name).bytes

/-- An object with the given names. -/
theorem within_object (names : List String) (h : MembersWithin depth size members)
    (hnames : members.map Prod.fst = memberNames names := by rfl)
    (hnodup : (memberNames names).Nodup := by decide) :
    (Tree.object members).Within (depth + 1) (size + 2) :=
  .object h (hnames ▸ hnodup)

/-- An identifier is a short object. -/
theorem within_identifier (value : UInt16) : (identifierTree value).Within 1 600 := by
  have hvalue := value.toNat_lt
  exact (within_object ["numeric", "hex"]
    (within_member "numeric" (within_natural (by omega))
      (within_member "hex" (within_array (hexIdentifier value)) .nil))).mono (by decide) (by decide)

/-- The members of a device are bounded. -/
theorem within_deviceMembers (device : DeviceInfo) :
    MembersWithin 2 10000 (deviceMembers device) := by
  have hname : (if device.bsdName.bytes ≠ [] then textTree device.bsdName.toCString
      else nullTree).Within 0 400 := by
    split
    · exact (within_array device.bsdName).mono (by decide) (by decide)
    · exact Tree.Within.null.mono (by decide) (by decide)
  have husb := within_object ["vid", "pid", "device_revision", "manufacturer", "product",
      "product_revision", "known_controller"]
    (within_member "vid" (within_identifier device.usbVid)
      (within_member "pid" (within_identifier device.usbPid)
        (within_member "device_revision" (within_identifier device.usbDeviceRevision)
          (within_member "manufacturer" (within_array device.usbManufacturer)
            (within_member "product" (within_array device.usbProduct)
              (within_member "product_revision" (within_array device.productRevision)
                (within_member "known_controller" (within_bool device.knownController) .nil)))))))
  exact (within_member "bsd_name" hname (within_member "name" (within_array device.mediaName)
    (within_member "usb" husb .nil))).mono (by decide) (by decide)

/-- The members of a medium are bounded. -/
theorem within_mediaMembers (device : DeviceInfo) :
    MembersWithin 1 10000 (mediaMembers device) := by
  have hcapacity := device.capacityBytes.toNat_lt
  have hsize := device.blockSize.toNat_lt
  have herrno : (numberTree device.permissionErrno.toInt).Within 0 21 := by
    have hlow := device.permissionErrno.le_toInt
    have hhigh := device.permissionErrno.toInt_lt
    exact .number (by omega) (by omega)
  have hpermissions := within_object ["raw_path", "readable", "errno"]
    (within_member "raw_path" (within_array device.rawPath)
      (within_member "readable" (within_bool device.readable)
        (within_member "errno" herrno .nil)))
  exact (within_member "present" (within_bool device.mediaPresent)
    (within_member "external" (within_bool device.external)
      (within_member "removable" (within_bool device.removable)
        (within_member "whole" (within_bool device.whole)
          (within_member "mounted" (within_bool device.mounted)
            (within_member "capacity_bytes" (within_natural (by omega))
              (within_member "block_size" (within_natural (by omega))
                (within_member "permissions" hpermissions .nil)))))))).mono (by decide) (by decide)

/-- Sense data are a short object. -/
theorem within_sense (sense : Sense) : (senseTree sense).Within 1 2000 := by
  have hkey := sense.key.toNat_lt
  have hasc := sense.asc.toNat_lt
  have hascq := sense.ascq.toNat_lt
  exact (within_object ["valid", "sense_key", "asc", "ascq"]
    (within_member "valid" (within_bool sense.valid)
      (within_member "sense_key" (within_natural (by omega))
        (within_member "asc" (within_natural (by omega))
          (within_member "ascq" (within_natural (by omega)) .nil))))).mono (by decide) (by decide)

/-- The names of the fields are short. -/
theorem isShort_fieldName (field : FlexibleField) : IsShort (flexibleFields field).name := by
  cases field <;> decide

/-- A page is a bounded object. -/
theorem within_flexible (page : FlexibleDiskPage) (includeChangeable : Bool) :
    (flexibleTree page includeChangeable).Within 2 10000 := by
  have hrate := page.transferRateKbit.toNat_lt
  have hheads := page.heads.toNat_lt
  have hsectors := page.sectorsPerTrack.toNat_lt
  have hbytes := page.bytesPerSector.toNat_lt
  have hcylinders := page.cylinders.toNat_lt
  have hrotation := page.mediumRotationRateRpm.toNat_lt
  -- every field is a 16-bit number or less, so its text is short whatever it holds
  have hgeometry : MembersWithin 0 2000 [
      member "transfer_rate_kbit_s" (numberTree page.transferRateKbit.toNat),
      member "heads" (numberTree page.heads.toNat),
      member "sectors_per_track" (numberTree page.sectorsPerTrack.toNat),
      member "bytes_per_sector" (numberTree page.bytesPerSector.toNat),
      member "cylinders" (numberTree page.cylinders.toNat),
      member "medium_rotation_rate_rpm" (numberTree page.mediumRotationRateRpm.toNat)] :=
    (within_member "transfer_rate_kbit_s" (within_natural (by omega))
      (within_member "heads" (within_natural (by omega))
        (within_member "sectors_per_track" (within_natural (by omega))
          (within_member "bytes_per_sector" (within_natural (by omega))
            (within_member "cylinders" (within_natural (by omega))
              (within_member "medium_rotation_rate_rpm" (within_natural (by omega))
                .nil)))))).mono (by decide) (by decide)
  cases includeChangeable with
  | false =>
    have hobject := within_object ["transfer_rate_kbit_s", "heads", "sectors_per_track",
      "bytes_per_sector", "cylinders", "medium_rotation_rate_rpm"] hgeometry
    exact hobject.mono (by decide) (by decide)
  | true =>
    -- the changeable fields are a sublist of a fixed order
    have hfields : (flexibleFieldOrder.filter page.fieldChangeable).length ≤ 20 :=
      List.length_filter_le _ _
    have hchangeable : (changeableTree page).Within 1 5000 := by
      refine (Tree.Within.array (ElementsWithin.map fun field _ =>
        within_literal (isShort_fieldName field))).mono (by decide) ?_
      omega
    have hobject := within_object ["transfer_rate_kbit_s", "heads", "sectors_per_track",
      "bytes_per_sector", "cylinders", "medium_rotation_rate_rpm", "changeable_fields"]
      (hgeometry.append (within_member "changeable_fields" hchangeable .nil))
    exact hobject.mono (by decide) (by decide)

/-- The errors of a document are as long as the message. -/
theorem within_errors (error : Option CString) (sense : Option Sense) :
    (errorsTree error sense).Within 3 (6 * (error.elim 0 (·.bytes.length)) + 3000) := by
  have hnone : (Tree.array []).Within 3 (6 * (error.elim 0 (·.bytes.length)) + 3000) :=
    (Tree.Within.array .nil).mono (by decide) (by omega)
  cases error with
  | none => exact hnone
  | some error =>
    by_cases hempty : error.bytes = []
    · have hfilter : (some error).filter (·.bytes ≠ []) = none := by simp [hempty]
      rw [errorsTree, hfilter]
      exact hnone
    · have hfilter : (some error).filter (·.bytes ≠ []) = some error := by simp [hempty]
      -- one object with the message, and with the sense data if they are valid
      have hobject : (errorTree error sense).Within 2 (6 * error.bytes.length + 2900) := by
        have hmessage := within_text error
        unfold errorTree
        cases sense.filter (·.valid) with
        | none =>
          have hplain := within_object ["message"] (within_member "message" hmessage .nil)
          exact hplain.mono (by decide) (by omega)
        | some sense =>
          have hsensed := within_object ["message", "sense"] (within_member "message" hmessage
            (within_member "sense" (within_sense sense) .nil))
          exact hsensed.mono (by decide) (by omega)
      rw [errorsTree, hfilter]
      have harray := Tree.Within.array (.cons hobject .nil)
      exact harray.mono (by decide) (by simp only [Option.elim_some]; omega)

/-- A capacity is a short object. -/
theorem within_capacity (capacity : Capacity) : (capacityTree capacity).Within 1 2000 := by
  have hblocks := capacity.blocks.toNat_lt
  have hsize := capacity.blockSize.toNat_lt
  have hbytes : capacity.blocks.toNat * capacity.blockSize.toNat < 2 ^ 32 * 2 ^ 32 :=
    Nat.mul_lt_mul'' hblocks hsize
  exact (within_object ["blocks", "block_size", "bytes"]
    (within_member "blocks" (within_natural (by omega))
      (within_member "block_size" (within_natural (by omega))
        (within_member "bytes" (.number (by omega) (by exact_mod_cast hbytes)) .nil)))).mono
    (by decide) (by decide)

/-- A descriptor is a short object. -/
theorem within_descriptor (descriptor : FormatCapacityDescriptor) :
    (descriptorTree descriptor).Within 1 2000 := by
  have hblocks := descriptor.blocks.toNat_lt
  have hsize := descriptor.blockSize.toNat_lt
  have hcode := descriptor.descriptorCode.toNat_lt
  exact (within_object ["blocks", "block_size", "descriptor_code"]
    (within_member "blocks" (within_natural (by omega))
      (within_member "block_size" (within_natural (by omega))
        (within_member "descriptor_code" (within_natural (by omega)) .nil)))).mono (by decide)
    (by decide)

/-- A string ends at a zero byte or before it. -/
theorem length_ofBytes_le (bytes : List UInt8) :
    (CString.ofBytes bytes).bytes.length ≤ bytes.length :=
  (List.takeWhile_prefix _).length_le

/-- The fields of an inquiry are as long as their arrays. -/
theorem within_inquiry {n : ℕ} {inquiry : Inquiry} (hvendor : inquiry.vendor.length ≤ n)
    (hproduct : inquiry.product.length ≤ n) (hfirmware : inquiry.firmware.length ≤ n) :
    (inquiryTree inquiry).Within 1 (18 * n + 1000) := by
  have hfield : ∀ {field : List UInt8}, field.length ≤ n →
      (textTree (CString.ofBytes field)).Within 0 (6 * n + 2) := by
    intro field hle
    have hlength := length_ofBytes_le field
    exact (within_text _).mono (Nat.le_refl 0) (by omega)
  exact (within_object ["vendor", "product", "firmware"]
    (within_member "vendor" (hfield hvendor)
      (within_member "product" (hfield hproduct)
        (within_member "firmware" (hfield hfirmware) .nil)))).mono (by decide) (by omega)

end Parts

/-! ## Documents -/

/-- The documents of `src/output.c` with their data. A NULL record gives the members of a record
of zeros. -/
inductive OutputDocument where
  | listing (list : DeviceList) (error : Option CString)
  | failure (command : Option CString) (device : Option DeviceInfo) (error : Option CString)
  | inspection (device : Option DeviceInfo) (report : InspectReport)
  | test (device : Option DeviceInfo) (report : Report1581) (outputPath : Option CString)

namespace OutputDocument

/-- The function that prints the document. -/
def print (allocator : Allocator) : OutputDocument → Option CString
  | .listing list error => outputListJson allocator list error
  | .failure command device error => outputErrorJson allocator command device error
  | .inspection device report => outputInspectJson allocator (device.getD {}) report
  | .test device report outputPath =>
      output1581Json allocator (device.getD {}) report outputPath

/-- The command that the document names. -/
def command : OutputDocument → CString
  | .listing _ _ => CString.lit "list"
  | .failure command _ _ => command.getD (CString.lit "invalid")
  | .inspection _ _ => CString.lit "inspect"
  | .test _ _ _ => CString.lit "test-1581"

/-- The calls behind those of `json_top`. -/
def calls : OutputDocument → List JsonCall
  | .listing list error => listCalls list error
  | .failure _ device error => errorCalls device error
  | .inspection device report => inspectCalls (device.getD {}) report
  | .test device report outputPath => calls1581 (device.getD {}) report outputPath

/-- The members behind the common ones. -/
def members : OutputDocument → List (List UInt8 × Tree)
  | .listing list error => listMembers list error
  | .failure _ device error => errorMembers device error
  | .inspection device report => inspectMembers (device.getD {}) report
  | .test device report outputPath => members1581 (device.getD {}) report outputPath

/-- All calls of the writer between `m65_json_init` and `m65_json_finish`. -/
def writerCalls (document : OutputDocument) : List JsonCall :=
  jsonTopCalls document.command ++ (document.calls ++ [.endObject])

/-- The value of the document. -/
def tree (document : OutputDocument) : Tree :=
  .object (topMembers document.command ++ document.members)

/-- The bytes of the texts without a bound of their own. -/
def freeBytes : OutputDocument → ℕ
  | .listing _ error => error.elim 0 (·.bytes.length)
  | .failure command _ error =>
      command.elim 0 (·.bytes.length) + error.elim 0 (·.bytes.length)
  | .inspection _ report => report.inquiry.vendor.length + report.inquiry.product.length +
      report.inquiry.firmware.length + report.formatCapacities.descriptors.length
  | .test _ _ outputPath => outputPath.elim 0 (·.bytes.length)

end OutputDocument

/-- The calls of a document write its members. -/
theorem emits_members (document : OutputDocument) :
    EmitsMembers document.calls document.members := by
  cases document with
  | listing list error => exact emits_list list error
  | failure command device error => exact emits_error device error
  | inspection device report => exact emits_inspect (device.getD {}) report
  | test device report outputPath => exact emits_1581 (device.getD {}) report outputPath

/-- Every document is printed by its own calls. -/
theorem print_eq (allocator : Allocator) (document : OutputDocument) :
    document.print allocator = printDocument allocator document.command document.calls := by
  cases document <;> rfl

/-- The members of the root object. -/
def schemaMembers : List String :=
  ["schema_version", "command", "device", "media", "ufi", "result", "errors"]

/-- Every document has the members of the schema, in their order. -/
theorem members_names (document : OutputDocument) :
    (topMembers document.command ++ document.members).map Prod.fst = memberNames schemaMembers := by
  cases document <;> rfl

/-- A result is bounded by its reason. -/
theorem within_result {status reason : CString} (hstatus : status.bytes.length ≤ 40) :
    MembersWithin 0 (6 * reason.bytes.length + 1000) (resultMembers status reason) := by
  have hmembers := within_member "status" (within_text status)
    (within_member "reason" (within_text reason) .nil)
  exact hmembers.mono (by decide) (by omega)

/-- The members of a list are bounded by its error. -/
theorem within_listMembers (list : DeviceList) (error : Option CString) :
    MembersWithin 5 (12 * (error.elim 0 (·.bytes.length)) + 400000) (listMembers list error) := by
  -- the list has a fixed capacity, which bounds the document
  have hcount : list.items.length ≤ 16 := list.count_le
  have hdevice : ∀ device ∈ list.items, (Tree.object (deviceMembers device ++
      [member "media" (.object (mediaMembers device))])).Within 3 21000 := by
    intro device _
    have hmedia := within_object ["present", "external", "removable", "whole", "mounted",
      "capacity_bytes", "block_size", "permissions"] (within_mediaMembers device)
    have hobject := within_object ["bsd_name", "name", "usb", "media"]
      ((within_deviceMembers device).append (within_member "media" hmedia .nil))
    exact hobject.mono (by decide) (by decide)
  have hcandidates : (Tree.array (list.items.map fun device => .object (deviceMembers device ++
      [member "media" (.object (mediaMembers device))]))).Within 4 350000 :=
    (Tree.Within.array (ElementsWithin.map hdevice)).mono (by decide) (by omega)
  have hobject := within_object ["candidates"] (within_member "candidates" hcandidates .nil)
  have hmedia := within_object ["candidate_count"]
    (within_member "candidate_count"
      (within_natural (show list.items.length < 2 ^ 64 by omega)) .nil)
  have hreason : (error.getD (CString.lit "enumeration completed")).bytes.length ≤
      error.elim 0 (·.bytes.length) + 40 := by
    cases error with
    | none => decide
    | some error => exact Nat.le_add_right _ _
  have hstatus : (CString.lit (if error.isNone then "ok" else "error")).bytes.length ≤ 40 := by
    cases error with
    | none => decide
    | some error => show (CString.lit "error").bytes.length ≤ 40; decide
  have hresult := within_object ["status", "reason"]
    (@within_result _ (error.getD (CString.lit "enumeration completed")) hstatus)
  have hmembers := within_member "device" hobject (within_member "media" hmedia
    (within_member "ufi" (within_object [] .nil) (within_member "result" hresult
      (within_member "errors" (within_errors error none) .nil))))
  exact hmembers.mono (by decide) (by omega)

/-- The object of a device is bounded. -/
theorem within_device (device : DeviceInfo) :
    (Tree.object (deviceMembers device)).Within 3 10002 :=
  within_object ["bsd_name", "name", "usb"] (within_deviceMembers device)

/-- The object of a medium is bounded. -/
theorem within_media (device : DeviceInfo) : (Tree.object (mediaMembers device)).Within 2 10002 :=
  within_object ["present", "external", "removable", "whole", "mounted", "capacity_bytes",
    "block_size", "permissions"] (within_mediaMembers device)

/-- The members of a failure are bounded by its error. -/
theorem within_errorMembers (device : Option DeviceInfo) (error : Option CString) :
    MembersWithin 5 (12 * (error.elim 0 (·.bytes.length)) + 400000)
      (errorMembers device error) := by
  have hreason : (error.getD (CString.lit "unknown error")).bytes.length ≤
      error.elim 0 (·.bytes.length) + 40 := by
    cases error with
    | none => decide
    | some error => exact Nat.le_add_right _ _
  have hresult := within_object ["status", "reason"]
    (@within_result (CString.lit "error") (error.getD (CString.lit "unknown error")) (by decide))
  have hmembers := within_member "device" (within_device (device.getD {}))
    (within_member "media" (within_media (device.getD {}))
      (within_member "ufi" (within_object [] .nil) (within_member "result" hresult
        (within_member "errors" (within_errors error none) .nil))))
  exact hmembers.mono (by decide) (by omega)

/-- The reason of a report as the message of its document. -/
theorem within_reportErrors (code : ProbeCode) (reason : ErrorText) (sense : Sense) :
    (errorsTree (if code = .ok then none else some reason.toCString) (some sense)).Within 3
      10000 := by
  have hfits : reason.bytes.length < 256 := reason.fits
  split
  · exact (within_errors none (some sense)).mono (by decide) (by decide)
  · exact (within_errors (some reason.toCString) (some sense)).mono (by decide)
      (by simp only [Option.elim_some]; omega)

/-- The members of an inspection are bounded by its texts and descriptors. -/
theorem within_inspectMembers (device : DeviceInfo) (report : InspectReport) :
    MembersWithin 5 (3000 * (report.inquiry.vendor.length + report.inquiry.product.length +
      report.inquiry.firmware.length + report.formatCapacities.descriptors.length) + 400000)
      (inspectMembers device report) := by
  have hfits : report.reason.bytes.length < 256 := report.reason.fits
  -- the strings of the inquiry are bounded by their sum, which the bound mentions
  have hinquiry := @within_inquiry (report.inquiry.vendor.length + report.inquiry.product.length +
    report.inquiry.firmware.length) report.inquiry (by omega) (by omega) (by omega)
  have hformats : (Tree.array (report.formatCapacities.descriptors.map descriptorTree)).Within 2
      (report.formatCapacities.descriptors.length * 2001 + 2) :=
    .array (ElementsWithin.map fun descriptor _ => within_descriptor descriptor)
  have hufi := within_object ["inquiry", "test_unit_ready", "capacity", "format_capacities",
      "flexible_disk", "sense"]
    (within_member "inquiry" hinquiry
      (within_member "test_unit_ready" (within_bool report.unitReady)
        (within_member "capacity" (within_capacity report.capacity)
          (within_member "format_capacities" hformats
            (within_member "flexible_disk" (within_flexible report.currentMode.flexible true)
              (within_member "sense" (within_sense report.sense) .nil))))))
  have hstatus : (CString.lit (if report.code = .ok then "ok" else "error")).bytes.length ≤ 40 := by
    split <;> decide
  have hresult := within_object ["status", "reason"]
    (@within_result _ report.reason.toCString hstatus)
  have hmembers := within_member "device" (within_device device)
    (within_member "media" (within_media device) (within_member "ufi" hufi
      (within_member "result" hresult (within_member "errors"
        (within_reportErrors report.code report.reason report.sense) .nil))))
  exact hmembers.mono (by decide) (by omega)

/-- The members of a test are bounded by the name of its output. -/
theorem within_members1581 (device : DeviceInfo) (report : Report1581)
    (outputPath : Option CString) :
    MembersWithin 5 (6 * (outputPath.elim 0 (·.bytes.length)) + 400000)
      (members1581 device report outputPath) := by
  have hfits : report.reason.bytes.length < 256 := report.reason.fits
  have hufi := within_object ["original_flexible_disk", "requested_flexible_disk",
      "accepted_flexible_disk", "sense"]
    (within_member "original_flexible_disk" (within_flexible report.original true)
      (within_member "requested_flexible_disk" (within_flexible report.requested false)
        (within_member "accepted_flexible_disk" (within_flexible report.accepted false)
          (within_member "sense" (within_sense report.sense) .nil))))
  have hstatus : (CString.lit (statusText1581 report.status)).bytes.length ≤ 40 := by
    cases report.status <;> decide
  have houtput : ∀ {output : Tree},
      output = nullTree ∨ (∃ path, outputPath = some path ∧ output = textTree path) →
      output.Within 0 (6 * (outputPath.elim 0 (·.bytes.length)) + 4) := by
    rintro _ (rfl | ⟨path, rfl, rfl⟩)
    · exact Tree.Within.null.mono (by decide) (by omega)
    · exact (within_text path).mono (by decide) (by simp only [Option.elim_some]; omega)
  have hresult {output : Tree} (h : output = nullTree ∨
      ∃ path, outputPath = some path ∧ output = textTree path) :=
    within_object ["status", "reason", "acknowledgement_supplied", "original_parameters_saved",
      "controller_restored", "boundary_lba_9_read", "boundary_lba_1599_read",
      "repeated_reads_match", "output"]
      ((@within_result _ report.reason.toCString hstatus).append
        (within_member "acknowledgement_supplied" (within_bool report.acknowledgementSupplied)
          (within_member "original_parameters_saved" (within_bool report.originalSaved)
            (within_member "controller_restored" (within_bool report.controllerRestored)
              (within_member "boundary_lba_9_read" (within_bool report.boundaryLba9Read)
                (within_member "boundary_lba_1599_read" (within_bool report.boundaryLba1599Read)
                  (within_member "repeated_reads_match" (within_bool report.repeatedReadsMatch)
                    (within_member "output" (houtput h) .nil))))))))
  refine (within_member "device" (within_device device) (within_member "media"
    (within_media device) (within_member "ufi" hufi (within_member "result" (hresult ?_)
      (within_member "errors" (within_reportErrors report.code report.reason report.sense)
        .nil))))).mono (by decide) (by omega)
  -- the path is named exactly when the report has no failure
  cases outputPath with
  | none => exact .inl rfl
  | some path =>
    by_cases hcode : report.code = .ok
    · exact .inr ⟨path, rfl, if_pos hcode⟩
    · exact .inl (if_neg hcode)

/-- The command is a short word, or a text without a bound of its own. -/
theorem length_command_le (document : OutputDocument) :
    document.command.bytes.length ≤ document.freeBytes + 40 := by
  have hliteral {literal : String} (h : IsShort literal) :
      (CString.lit literal).bytes.length ≤ document.freeBytes + 40 :=
    h.trans (Nat.le_add_left _ _)
  cases document with
  | listing list error => exact hliteral (show IsShort "list" by decide)
  | failure command device error =>
    cases command with
    | none => exact hliteral (show IsShort "invalid" by decide)
    | some command => exact (Nat.le_add_right _ _).trans (Nat.le_add_right _ _)
  | inspection device report => exact hliteral (show IsShort "inspect" by decide)
  | test device report outputPath => exact hliteral (show IsShort "test-1581" by decide)

/-- The members of every document are bounded by its free texts. -/
theorem within_documentMembers (document : OutputDocument) :
    MembersWithin 5 (3000 * document.freeBytes + 400000) document.members := by
  cases document with
  | listing list error =>
    exact (within_listMembers list error).mono (Nat.le_refl 5) (by
      simp only [OutputDocument.freeBytes]; omega)
  | failure command device error =>
    exact (within_errorMembers device error).mono (Nat.le_refl 5) (by
      simp only [OutputDocument.freeBytes]; omega)
  | inspection device report => exact within_inspectMembers (device.getD {}) report
  | test device report outputPath =>
    exact (within_members1581 (device.getD {}) report outputPath).mono (Nat.le_refl 5) (by
      simp only [OutputDocument.freeBytes]; omega)

/-- The value of a document has distinct names, is 6 containers deep at most, and its text is
long only when its free texts are. -/
theorem within_tree (document : OutputDocument) :
    document.tree.Within 6 (4000 * document.freeBytes + 500000) := by
  have hcommand := length_command_le document
  have htop := within_member "schema_version" (within_natural (show 1 < 2 ^ 64 by decide))
    (within_member "command" (within_object ["name"]
      (within_member "name" (within_text document.command) .nil)) .nil)
  have hroot := within_object schemaMembers (htop.append (within_documentMembers document))
    (members_names document)
  exact hroot.mono (by decide) (by omega)

/-! ## The schema -/

/-- A session of the writer that gives one document with the schema. -/
structure KeepsSchema (allocator : Allocator) (document : OutputDocument) : Prop where
  calls_ok : ∀ reply ∈ (jsonSession allocator document.writerCalls).1, reply.2 = true
  depth_le : ∀ before after, document.writerCalls = before ++ after →
    (jsonSession allocator before).2.levels.length ≤ jsonMaxDepth
  finishes : jsonFinish (jsonSession allocator document.writerCalls).2 = true
  printed : ∃ text members, document.print allocator = some text ∧
    parse text.bytes = some (.object members) ∧
    members.map Prod.fst = memberNames schemaMembers ∧ (Tree.object members).DistinctKeys

/-- A writer that still works after some calls has at most 16 open containers. -/
theorem levels_le {allocator : Allocator} {before : List JsonCall}
    (h : (jsonSession allocator before).2.failed = false) :
    (jsonSession allocator before).2.levels.length ≤ jsonMaxDepth := by
  rcases jsonInit_cases allocator with hinit | hfailed
  · rcases jsonCalls_cases allocator hinit before with hfailed | ⟨last, hlast, -⟩
    · exact absurd (hfailed.symm.trans h) nofun
    · rw [jsonSession, hlast.levels, length_documentLevels]
      exact hlast.depth_le
  · exact absurd ((jsonCalls_of_failed hfailed before).symm.trans h) nofun

/-- With a generous allocator a document that fits the memory keeps to the schema. -/
theorem keepsSchema_of_length {allocator : Allocator} (hgenerous : allocator.Generous)
    {document : OutputDocument} (hfits : document.tree.render.length < 2 ^ 63) :
    KeepsSchema allocator document := by
  have hwithin := within_tree document
  have hnesting : document.tree.nesting ≤ jsonMaxDepth := hwithin.nesting_le.trans (by decide)
  have hemits := emits_top document.command (emits_members document)
  obtain ⟨hall, hfinish, -⟩ := jsonSession_complete hgenerous hnesting hfits hemits
  refine ⟨hall, fun before after hsplit => levels_le ?_, hfinish, ?_⟩
  · by_contra hfailed
    have hlast : (jsonSession allocator document.writerCalls).2.failed = true := by
      rw [jsonSession, hsplit, jsonCalls_append]
      exact jsonCalls_of_failed (eq_true_of_ne_false hfailed) after
    have hfinish : jsonFinish (jsonSession allocator document.writerCalls).2 = true := hfinish
    simp [jsonFinish, hlast] at hfinish
  · obtain ⟨text, hprint⟩ := exists_printDocument hgenerous (emits_members document) hnesting hfits
    refine ⟨text, topMembers document.command ++ document.members, ?_, ?_,
      members_names document, hwithin.distinct⟩
    · rw [print_eq, hprint]
    · rw [printDocument_eq_some (emits_members document) hprint, parse_render]

/-- A document keeps the schema exactly when its text has fewer than `2 ^ 63` bytes, and a text is
that long only when the texts without a bound of their own are. -/
theorem outputDocument_keepsSchema (document : OutputDocument) :
    (∀ allocator : Allocator, allocator.Generous →
      (KeepsSchema allocator document ↔ document.tree.render.length < 2 ^ 63)) ∧
    (document.freeBytes < 2 ^ 50 → document.tree.render.length < 2 ^ 63) := by
  refine ⟨fun allocator hgenerous => ⟨fun h => ?_, keepsSchema_of_length hgenerous⟩, fun h => ?_⟩
  · by_contra hlong
    exact jsonSession_long (Nat.le_of_not_lt hlong)
      (emits_top document.command (emits_members document)) ⟨h.calls_ok, h.finishes⟩
  · have hlength := (within_tree document).length_le
    omega

/-- The document of an error is more than twice as long as the error. -/
theorem length_error_le {n : ℕ} (hpos : n ≠ 0) :
    2 * n ≤ (OutputDocument.failure none none (some (letters n))).tree.render.length := by
  have hquote : (textTree (letters n)).render.length = n + 2 := length_quote_replicate n
  have hreason := @length_render_of_mem _ (resultMembers (CString.lit "error") (letters n))
    (CString.lit "reason").bytes (List.mem_cons_of_mem _ List.mem_cons_self)
  have hmessage := @length_render_of_mem _ [member "message" (textTree (letters n))]
    (CString.lit "message").bytes List.mem_cons_self
  have herrors : (Tree.object [member "message" (textTree (letters n))]).render.length ≤
      (errorsTree (some (letters n)) none).render.length := by
    have hfilter : (some (letters n)).filter (·.bytes ≠ []) = some (letters n) := by
      simp [letters, hpos]
    rw [errorsTree, hfilter]
    exact length_render_singleton _
  -- the other members count for nothing; the reason and the message hold the error once each
  have hsplit : ∀ device media ufi : List UInt8 × Tree,
      (Tree.object (resultMembers (CString.lit "error") (letters n))).render.length +
        (errorsTree (some (letters n)) none).render.length ≤
      (membersText [device, media, ufi,
        member "result" (.object (resultMembers (CString.lit "error") (letters n))),
        member "errors" (errorsTree (some (letters n)) none)]).length := by
    intro device media ufi
    simp only [membersText, member, List.length_cons, List.length_append]
    omega
  have hmembers : _ ≤ (membersText (errorMembers none (some (letters n)))).length :=
    hsplit (member "device" (.object (deviceMembers {})))
      (member "media" (.object (mediaMembers {}))) (member "ufi" (.object []))
  show _ ≤ (Tree.object (topMembers (CString.lit "invalid") ++
    errorMembers none (some (letters n)))).render.length
  rw [Tree.render, membersText_append, List.length_cons, List.length_append, List.length_tail,
    List.length_append]
  omega

/-- An error of `2 ^ 62` letters, which a document holds twice, is refused by the writer even when
every request for memory succeeds. -/
theorem longError_not_keepsSchema : generousAllocator.Generous ∧
    ¬KeepsSchema generousAllocator (.failure none none (some (letters (2 ^ 62)))) := by
  have hlength := length_error_le (show 2 ^ 62 ≠ 0 by decide)
  refine ⟨fun _ => rfl, fun h => ?_⟩
  refine jsonSession_long ?_ (emits_top _ (emits_members _)) ⟨h.calls_ok, h.finishes⟩
  exact Nat.le_trans (by decide) hlength

end M65
