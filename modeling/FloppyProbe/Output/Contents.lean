import FloppyProbe.Output.Printed

/-!
# Contents of the documents

The value that each document of `Output/Documents.lean` is the text of. The calls of a document
give exactly this value, for all data, so nothing else is ever printed.
-/

namespace M65

open JsonText

/-- A string with the given bytes. -/
def textTree (value : CString) : Tree := .scalar (.string value.bytes)

/-- A string of the source. -/
def literalTree (value : String) : Tree := textTree (CString.lit value)

/-- A number. -/
def numberTree (value : ℤ) : Tree := .scalar (.number value)

/-- A truth value. -/
def boolTree (value : Bool) : Tree := .scalar (.bool value)

/-- The null value. -/
def nullTree : Tree := .scalar .null

/-! ## Parts -/

/-- The object that `json_identifier` writes. -/
def identifierTree (value : UInt16) : Tree :=
  .object [
    member "numeric" (numberTree value.toNat),
    member "hex" (textTree (hexIdentifier value).toCString)]

/-- The members that `json_device_fields` writes. -/
def deviceMembers (device : DeviceInfo) : List (List UInt8 × Tree) := [
  member "bsd_name"
    (if device.bsdName.bytes ≠ [] then textTree device.bsdName.toCString else nullTree),
  member "name" (textTree device.mediaName.toCString),
  member "usb" (.object [
    member "vid" (identifierTree device.usbVid),
    member "pid" (identifierTree device.usbPid),
    member "device_revision" (identifierTree device.usbDeviceRevision),
    member "manufacturer" (textTree device.usbManufacturer.toCString),
    member "product" (textTree device.usbProduct.toCString),
    member "product_revision" (textTree device.productRevision.toCString),
    member "known_controller" (boolTree device.knownController)])]

/-- The members that `json_media_fields` writes. -/
def mediaMembers (device : DeviceInfo) : List (List UInt8 × Tree) := [
  member "present" (boolTree device.mediaPresent),
  member "external" (boolTree device.external),
  member "removable" (boolTree device.removable),
  member "whole" (boolTree device.whole),
  member "mounted" (boolTree device.mounted),
  member "capacity_bytes" (numberTree device.capacityBytes.toNat),
  member "block_size" (numberTree device.blockSize.toNat),
  member "permissions" (.object [
    member "raw_path" (textTree device.rawPath.toCString),
    member "readable" (boolTree device.readable),
    member "errno" (numberTree device.permissionErrno.toInt)])]

/-- The object that `json_sense` writes. -/
def senseTree (sense : Sense) : Tree :=
  .object [
    member "valid" (boolTree sense.valid),
    member "sense_key" (numberTree sense.key.toNat),
    member "asc" (numberTree sense.asc.toNat),
    member "ascq" (numberTree sense.ascq.toNat)]

/-- The names of the fields that are marked as changeable. -/
def changeableTree (page : FlexibleDiskPage) : Tree :=
  .array ((flexibleFieldOrder.filter page.fieldChangeable).map fun field =>
    literalTree (flexibleFields field).name)

/-- The object that `json_flexible` writes. -/
def flexibleTree (page : FlexibleDiskPage) (includeChangeable : Bool) : Tree :=
  .object ([
    member "transfer_rate_kbit_s" (numberTree page.transferRateKbit.toNat),
    member "heads" (numberTree page.heads.toNat),
    member "sectors_per_track" (numberTree page.sectorsPerTrack.toNat),
    member "bytes_per_sector" (numberTree page.bytesPerSector.toNat),
    member "cylinders" (numberTree page.cylinders.toNat),
    member "medium_rotation_rate_rpm" (numberTree page.mediumRotationRateRpm.toNat)] ++
    if includeChangeable then [member "changeable_fields" (changeableTree page)] else [])

/-- An error with its sense, if there is a valid one. -/
def errorTree (error : CString) (sense : Option Sense) : Tree :=
  .object (member "message" (textTree error) ::
    ((sense.filter (·.valid)).toList.map fun sense => member "sense" (senseTree sense)))

/-- At most one error, and none with an empty message. -/
def errorsTree (error : Option CString) (sense : Option Sense) : Tree :=
  .array ((error.filter (·.bytes ≠ [])).toList.map fun error => errorTree error sense)

/-- The status and the reason of a result. -/
def resultMembers (status reason : CString) : List (List UInt8 × Tree) :=
  [member "status" (textTree status), member "reason" (textTree reason)]

/-- The capacity in blocks and in bytes. -/
def capacityTree (capacity : Capacity) : Tree :=
  .object [
    member "blocks" (numberTree capacity.blocks.toNat),
    member "block_size" (numberTree capacity.blockSize.toNat),
    member "bytes" (numberTree (capacity.blocks.toNat * capacity.blockSize.toNat))]

/-- One descriptor of READ FORMAT CAPACITIES. -/
def descriptorTree (descriptor : FormatCapacityDescriptor) : Tree :=
  .object [
    member "blocks" (numberTree descriptor.blocks.toNat),
    member "block_size" (numberTree descriptor.blockSize.toNat),
    member "descriptor_code" (numberTree descriptor.descriptorCode.toNat)]

/-- The texts of an INQUIRY. -/
def inquiryTree (inquiry : Inquiry) : Tree :=
  .object [
    member "vendor" (textTree (CString.ofBytes inquiry.vendor)),
    member "product" (textTree (CString.ofBytes inquiry.product)),
    member "firmware" (textTree (CString.ofBytes inquiry.firmware))]

/-- `json_device_fields` writes its members; a NULL record is one of zeros. -/
theorem emits_deviceFields (device : Option DeviceInfo) :
    EmitsMembers (jsonDeviceFields device) (deviceMembers (device.getD {})) := by
  have hname : Emits
      [if (device.getD {}).bsdName.bytes ≠ [] then jsonStringCall (device.getD {}).bsdName.toCString
        else .null]
      (if (device.getD {}).bsdName.bytes ≠ [] then textTree (device.getD {}).bsdName.toCString
        else nullTree) := by
    split <;> rfl
  simp only [jsonDeviceFields, List.append_assoc]
  exact .cons hname (.cons rfl (.single rfl))

/-- `json_media_fields` writes its members; a NULL record is one of zeros. -/
theorem emits_mediaFields (device : Option DeviceInfo) :
    EmitsMembers (jsonMediaFields device) (mediaMembers (device.getD {})) := by
  have hpermissions : ∀ device : DeviceInfo, Emits
      (jsonObject (
        jsonMember "raw_path" [jsonStringCall device.rawPath.toCString] ++
        jsonMember "readable" [.bool device.readable] ++
        jsonMember "errno" [.int device.permissionErrno.toInt64]))
      (.object [
        member "raw_path" (textTree device.rawPath.toCString),
        member "readable" (boolTree device.readable),
        member "errno" (numberTree device.permissionErrno.toInt)]) := by
    intro device
    have herrno : Emits [.int device.permissionErrno.toInt64]
        (numberTree device.permissionErrno.toInt) := by
      simp [Emits, JsonCall.token, numberTree, Tree.tokens]
    rw [List.append_assoc]
    exact .object (.cons rfl (.cons rfl (.single herrno)))
  simp only [jsonMediaFields, List.append_assoc]
  exact .cons rfl (.cons rfl (.cons rfl (.cons rfl (.cons rfl (.cons rfl (.cons rfl
    (.single (hpermissions _))))))))

/-- `json_sense` writes its object. -/
theorem emits_sense (sense : Sense) : Emits (jsonSense sense) (senseTree sense) := rfl

/-- `json_flexible` writes its object. -/
theorem emits_flexible (page : FlexibleDiskPage) (includeChangeable : Bool) :
    Emits (jsonFlexible page includeChangeable) (flexibleTree page includeChangeable) := by
  have hchangeable : EmitsElements
      ((flexibleFieldOrder.filter page.fieldChangeable).map fun field =>
        jsonLiteralCall (flexibleFields field).name)
      ((flexibleFieldOrder.filter page.fieldChangeable).map fun field =>
        literalTree (flexibleFields field).name) := by
    rw [← List.flatMap_pure_eq_map]
    exact .flatMap fun field => rfl
  refine .object (.append rfl ?_)
  cases includeChangeable with
  | false => rfl
  | true => exact .single (.array hchangeable)

/-- An error has sense data if they are valid. -/
theorem emits_errorSense (sense : Option Sense) : EmitsMembers (jsonErrorSense sense)
    ((sense.filter (·.valid)).toList.map fun sense => member "sense" (senseTree sense)) := by
  cases sense with
  | none => rfl
  | some sense =>
    by_cases hvalid : sense.valid = true
    · simp only [jsonErrorSense, hvalid, if_true, Option.filter_some]
      exact .single (emits_sense sense)
    · simp only [jsonErrorSense, hvalid, Option.filter_some]
      rfl

/-- `json_errors` writes the list of errors. -/
theorem emits_errors (error : Option CString) (sense : Option Sense) :
    EmitsMembers (jsonErrors error sense) [member "errors" (errorsTree error sense)] := by
  refine .single (.array ?_)
  cases error with
  | none => rfl
  | some error =>
    by_cases hempty : error.bytes = []
    · simp only [hempty, Option.filter_some]
      rfl
    · have hobject : Emits
          (jsonObject (jsonMember "message" [jsonStringCall error] ++ jsonErrorSense sense))
          (errorTree error sense) := .object (.cons rfl (emits_errorSense sense))
      have hfilter : (some error).filter (·.bytes ≠ []) = some error := by simp [hempty]
      rw [hfilter]
      simp only [if_neg hempty]
      exact hobject.elements

/-- The texts of an INQUIRY are written as one object. -/
theorem emits_inquiry (inquiry : Inquiry) : Emits
    (jsonObject (
      jsonMember "vendor" [jsonStringCall (CString.ofBytes inquiry.vendor)] ++
      jsonMember "product" [jsonStringCall (CString.ofBytes inquiry.product)] ++
      jsonMember "firmware" [jsonStringCall (CString.ofBytes inquiry.firmware)]))
    (inquiryTree inquiry) := rfl

/-! ## Documents -/

/-- The members that `json_top` begins every document with. -/
def topMembers (command : CString) : List (List UInt8 × Tree) := [
  member "schema_version" (numberTree 1),
  member "command" (.object [member "name" (textTree command)])]

/-- The members of the list of devices. -/
def listMembers (list : DeviceList) (error : Option CString) : List (List UInt8 × Tree) := [
  member "device" (.object [member "candidates" (.array (list.items.map fun device =>
    .object (deviceMembers device ++ [member "media" (.object (mediaMembers device))])))]),
  member "media" (.object [member "candidate_count" (numberTree list.items.length)]),
  member "ufi" (.object []),
  member "result" (.object (resultMembers
    (CString.lit (if error.isNone then "ok" else "error"))
    (error.getD (CString.lit "enumeration completed")))),
  member "errors" (errorsTree error none)]

/-- The members of a failure. -/
def errorMembers (device : Option DeviceInfo) (error : Option CString) :
    List (List UInt8 × Tree) := [
  member "device" (.object (deviceMembers (device.getD {}))),
  member "media" (.object (mediaMembers (device.getD {}))),
  member "ufi" (.object []),
  member "result" (.object (resultMembers (CString.lit "error")
    (error.getD (CString.lit "unknown error")))),
  member "errors" (errorsTree error none)]

/-- The members of an inspection. -/
def inspectMembers (device : DeviceInfo) (report : InspectReport) : List (List UInt8 × Tree) := [
  member "device" (.object (deviceMembers device)),
  member "media" (.object (mediaMembers device)),
  member "ufi" (.object [
    member "inquiry" (inquiryTree report.inquiry),
    member "test_unit_ready" (boolTree report.unitReady),
    member "capacity" (capacityTree report.capacity),
    member "format_capacities" (.array (report.formatCapacities.descriptors.map descriptorTree)),
    member "flexible_disk" (flexibleTree report.currentMode.flexible true),
    member "sense" (senseTree report.sense)]),
  member "result" (.object (resultMembers
    (CString.lit (if report.code = .ok then "ok" else "error")) report.reason.toCString)),
  member "errors" (errorsTree (if report.code = .ok then none else some report.reason.toCString)
    (some report.sense))]

/-- The members of a test. -/
def members1581 (device : DeviceInfo) (report : Report1581) (outputPath : Option CString) :
    List (List UInt8 × Tree) := [
  member "device" (.object (deviceMembers device)),
  member "media" (.object (mediaMembers device)),
  member "ufi" (.object [
    member "original_flexible_disk" (flexibleTree report.original true),
    member "requested_flexible_disk" (flexibleTree report.requested false),
    member "accepted_flexible_disk" (flexibleTree report.accepted false),
    member "sense" (senseTree report.sense)]),
  member "result" (.object (
    resultMembers (CString.lit (statusText1581 report.status)) report.reason.toCString ++ [
    member "acknowledgement_supplied" (boolTree report.acknowledgementSupplied),
    member "original_parameters_saved" (boolTree report.originalSaved),
    member "controller_restored" (boolTree report.controllerRestored),
    member "boundary_lba_9_read" (boolTree report.boundaryLba9Read),
    member "boundary_lba_1599_read" (boolTree report.boundaryLba1599Read),
    member "repeated_reads_match" (boolTree report.repeatedReadsMatch),
    member "output" (match outputPath with
      | some path => if report.code = .ok then textTree path else nullTree
      | none => nullTree)])),
  member "errors" (errorsTree (if report.code = .ok then none else some report.reason.toCString)
    (some report.sense))]

/-- The list of devices writes its members. -/
theorem emits_list (list : DeviceList) (error : Option CString) :
    EmitsMembers (listCalls list error) (listMembers list error) := by
  have hdevice : ∀ device : DeviceInfo, Emits
      (jsonObject (jsonDeviceFields (some device) ++
        jsonMember "media" (jsonObject (jsonMediaFields (some device)))))
      (.object (deviceMembers device ++ [member "media" (.object (mediaMembers device))])) := by
    intro device
    exact .object ((emits_deviceFields (some device)).append
      (.single (.object (emits_mediaFields (some device)))))
  have hcount : Emits [.uint (UInt64.ofNat list.items.length)] (numberTree list.items.length) := by
    have hle : list.items.length ≤ 16 := list.count_le
    have hvalue : (UInt64.ofNat list.items.length).toNat = list.items.length :=
      UInt64.toNat_ofNat_of_lt' (show list.items.length < 2 ^ 64 by omega)
    simp only [Emits, List.map_cons, JsonCall.token, hvalue]
    rfl
  simp only [listCalls, List.append_assoc]
  exact .cons (.object (.single (.array (.flatMap hdevice)))) (.cons (.object (.single hcount))
    (.cons rfl (.cons rfl (emits_errors error none))))

/-- A failure writes its members. -/
theorem emits_error (device : Option DeviceInfo) (error : Option CString) :
    EmitsMembers (errorCalls device error) (errorMembers device error) := by
  simp only [errorCalls, List.append_assoc]
  exact .cons (.object (emits_deviceFields device)) (.cons (.object (emits_mediaFields device))
    (.cons rfl (.cons rfl (emits_errors error none))))

/-- The capacity is written as one object. -/
theorem emits_capacity (capacity : Capacity) : Emits
    (jsonObject (
      jsonMember "blocks" [.uint capacity.blocks.toUInt64] ++
      jsonMember "block_size" [.uint capacity.blockSize.toUInt64] ++
      jsonMember "bytes" [.uint (capacity.blocks.toUInt64 * capacity.blockSize.toUInt64)]))
    (capacityTree capacity) := by
  have hblocks := capacity.blocks.toNat_lt
  have hsize := capacity.blockSize.toNat_lt
  have hproduct : capacity.blocks.toNat * capacity.blockSize.toNat < 2 ^ 32 * 2 ^ 32 :=
    Nat.mul_lt_mul'' hblocks hsize
  have hvalue : (capacity.blocks.toUInt64 * capacity.blockSize.toUInt64).toNat
      = capacity.blocks.toNat * capacity.blockSize.toNat := by
    rw [UInt64.toNat_mul, UInt32.toNat_toUInt64, UInt32.toNat_toUInt64]
    exact Nat.mod_eq_of_lt hproduct
  have hbytes : Emits [.uint (capacity.blocks.toUInt64 * capacity.blockSize.toUInt64)]
      (numberTree (capacity.blocks.toNat * capacity.blockSize.toNat)) := by
    simp only [Emits, List.map_cons, JsonCall.token, hvalue]
    rfl
  rw [List.append_assoc]
  exact .object (.cons rfl (.cons rfl (.single hbytes)))

/-- An inspection writes its members. -/
theorem emits_inspect (device : DeviceInfo) (report : InspectReport) :
    EmitsMembers (inspectCalls device report) (inspectMembers device report) := by
  have hformats : EmitsElements
      (report.formatCapacities.descriptors.flatMap fun descriptor => jsonObject (
        jsonMember "blocks" [.uint descriptor.blocks.toUInt64] ++
        jsonMember "block_size" [.uint descriptor.blockSize.toUInt64] ++
        jsonMember "descriptor_code" [.uint descriptor.descriptorCode.toUInt64]))
      (report.formatCapacities.descriptors.map descriptorTree) := .flatMap fun descriptor => rfl
  simp only [inspectCalls, List.append_assoc]
  exact .cons (.object (emits_deviceFields (some device)))
    (.cons (.object (emits_mediaFields (some device)))
      (.cons (.object (.cons (emits_inquiry report.inquiry) (.cons rfl
        (.cons (emits_capacity report.capacity) (.cons (.array hformats)
          (.cons (emits_flexible _ true) (.single (emits_sense report.sense))))))))
        (.cons rfl (emits_errors _ (some report.sense)))))

/-- A test writes its members. -/
theorem emits_1581 (device : DeviceInfo) (report : Report1581) (outputPath : Option CString) :
    EmitsMembers (calls1581 device report outputPath) (members1581 device report outputPath) := by
  have houtput : Emits
      [match outputPath with
        | some path => if report.code = .ok then jsonStringCall path else .null
        | none => .null]
      (match outputPath with
        | some path => if report.code = .ok then textTree path else nullTree
        | none => nullTree) := by
    cases outputPath with
    | none => rfl
    | some path =>
        by_cases hcode : report.code = .ok <;> simp only [hcode, if_true, if_false] <;> rfl
  simp only [calls1581, jsonResult, List.append_assoc]
  exact .cons (.object (emits_deviceFields (some device)))
    (.cons (.object (emits_mediaFields (some device)))
      (.cons (.object (.cons (emits_flexible _ true) (.cons (emits_flexible _ false)
        (.cons (emits_flexible _ false) (.single (emits_sense report.sense))))))
        (.cons (.object (.cons rfl (.cons rfl (.cons rfl (.cons rfl (.cons rfl (.cons rfl
          (.cons rfl (.cons rfl (.single houtput))))))))))
          (emits_errors _ (some report.sense)))))

/-! ## Printing -/

/-- Calls that all succeed leave the writer where the plain calls leave it. -/
theorem jsonCallsWhile_eq_some {allocator : Allocator} {calls : List JsonCall} {json json' : Json}
    (h : jsonCallsWhile allocator calls json = some json') :
    (jsonCalls allocator calls json).2 = json' := by
  induction calls generalizing json with
  | nil => exact Option.some.inj h
  | cons call calls ih =>
    simp only [jsonCallsWhile] at h
    split at h
    · exact ih h
    · cases h

/-- Two lists of calls are made one after the other. -/
theorem jsonCalls_append (allocator : Allocator) (first second : List JsonCall) (json : Json) :
    (jsonCalls allocator (first ++ second) json).2 =
      (jsonCalls allocator second (jsonCalls allocator first json).2).2 := by
  induction first generalizing json with
  | nil => rfl
  | cons call first ih => exact ih _

/-- Calls that all succeed are all made. -/
theorem jsonCallsWhile_of_ok {allocator : Allocator} {calls : List JsonCall} {json : Json}
    (h : ∀ reply ∈ (jsonCalls allocator calls json).1, reply.2 = true) :
    jsonCallsWhile allocator calls json = some (jsonCalls allocator calls json).2 := by
  induction calls generalizing json with
  | nil => rfl
  | cons call calls ih =>
    have hcall : (call.exec allocator json).1 = true := h (call, _) List.mem_cons_self
    have hrest := @ih (call.exec allocator json).2 fun reply hreply =>
      h reply (List.mem_cons_of_mem _ hreply)
    simp only [jsonCallsWhile, hcall, if_true, hrest]
    rfl

/-- The replies of two lists of calls come one after the other. -/
theorem jsonCalls_append_replies (allocator : Allocator) (first second : List JsonCall)
    (json : Json) : (jsonCalls allocator (first ++ second) json).1 =
      (jsonCalls allocator first json).1 ++
        (jsonCalls allocator second (jsonCalls allocator first json).2).1 := by
  induction first generalizing json with
  | nil => rfl
  | cons call first ih => exact congrArg (_ :: ·) (ih _)

/-- A document is one object with the common members in front. -/
theorem emits_top (command : CString) {calls : List JsonCall} {members : List (List UInt8 × Tree)}
    (h : EmitsMembers calls members) : Emits (jsonTopCalls command ++ (calls ++ [.endObject]))
    (.object (topMembers command ++ members)) := by
  have htop : EmitsMembers (jsonTopCalls command).tail (topMembers command) := rfl
  exact Emits.object (htop.append h)

/-- What is printed is the text of the document. -/
theorem printDocument_eq_some {allocator : Allocator} {command text : CString}
    {calls : List JsonCall} {members : List (List UInt8 × Tree)} (h : EmitsMembers calls members)
    (hprint : printDocument allocator command calls = some text) :
    text.bytes = (Tree.object (topMembers command ++ members)).render := by
  unfold printDocument at hprint
  cases htop : jsonTop allocator command with
  | none =>
    rw [htop] at hprint
    cases hprint
  | some json =>
    rw [htop] at hprint
    simp only [jsonEmit] at hprint
    split at hprint
    case isFalse => cases hprint
    case isTrue hfinish =>
      -- the calls of `json_top` and the others are one session of the writer
      have hsession : (jsonSession allocator (jsonTopCalls command ++ (calls ++ [.endObject]))).2 =
          (jsonCalls allocator (calls ++ [.endObject]) json).2 := by
        rw [jsonSession, jsonCalls_append]
        unfold jsonTop at htop
        split at htop
        next ok json' hinit =>
          split at htop
          · rw [hinit, jsonCallsWhile_eq_some htop]
          · cases htop
      rw [← hsession] at hfinish hprint
      obtain rfl := Option.some.inj hprint
      exact jsonSession_emits (emits_top command h) hfinish

/-- A document of few containers is printed while there is memory. -/
theorem exists_printDocument {allocator : Allocator} (hgenerous : allocator.Generous)
    {command : CString} {calls : List JsonCall} {members : List (List UInt8 × Tree)}
    (h : EmitsMembers calls members)
    (hnesting : (Tree.object (topMembers command ++ members)).nesting ≤ jsonMaxDepth)
    (hfits : (Tree.object (topMembers command ++ members)).render.length < 2 ^ 63) :
    ∃ text, printDocument allocator command calls = some text := by
  obtain ⟨hall, hfinish, -⟩ := jsonSession_complete hgenerous hnesting hfits (emits_top command h)
  rw [jsonSession, jsonCalls_append] at hfinish
  rw [jsonSession, jsonCalls_append_replies] at hall
  have htop := jsonCallsWhile_of_ok fun reply hreply => hall reply (List.mem_append_left _ hreply)
  have hinit : (jsonInit allocator).1 = true := by simp [jsonInit, hgenerous 0]
  unfold printDocument jsonTop
  simp only [hinit, if_true, htop, jsonEmit, hfinish]
  exact ⟨_, rfl⟩

end M65
