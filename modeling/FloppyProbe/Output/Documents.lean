import FloppyProbe.Device.Device
import FloppyProbe.Output.Json
import FloppyProbe.Probe.Inspect
import FloppyProbe.Probe.Test1581

/-!
# JSON documents

The JSON output of `src/output.c`. The functions there call the writer and ignore what it
returns, so each of them is a list of calls here, and `jsonEmit` looks at the writer at the end.
-/

namespace M65

/-- `M65_SCHEMA_VERSION`. -/
abbrev schemaVersion : UInt64 := 1

/-- `m65_json_key` with a literal of the source. -/
def jsonKeyCall (name : String) : JsonCall := .key (some (CString.lit name))

/-- A string that is not NULL. -/
def jsonStringCall (value : CString) : JsonCall := .string (some value)

/-- `m65_json_string` with a literal of the source. -/
def jsonLiteralCall (value : String) : JsonCall := jsonStringCall (CString.lit value)

/-- A key with the calls that write its value. -/
def jsonMember (name : String) (value : List JsonCall) : List JsonCall := jsonKeyCall name :: value

/-- An object with the given members. -/
def jsonObject (members : List JsonCall) : List JsonCall :=
  .beginObject :: (members ++ [.endObject])

/-- An array with the given elements. -/
def jsonArray (elements : List JsonCall) : List JsonCall := .beginArray :: (elements ++ [.endArray])

/-! ## Parts -/

/-- `0x%04x` in an array of seven bytes. -/
def hexIdentifier (value : UInt16) : Text 7 := Text.format [str "0x", hexDigits 4 value.toNat]

/-- `json_identifier`. -/
def jsonIdentifier (value : UInt16) : List JsonCall :=
  jsonObject (
    jsonMember "numeric" [.uint value.toUInt64] ++
    jsonMember "hex" [jsonStringCall (hexIdentifier value).toCString])

/-- The members for a NULL device are those for a record of zeros. -/
def jsonDeviceFields (device : Option DeviceInfo) : List JsonCall :=
  let device := device.getD {}
  jsonMember "bsd_name"
    [if device.bsdName.bytes ≠ [] then jsonStringCall device.bsdName.toCString else .null] ++
  jsonMember "name" [jsonStringCall device.mediaName.toCString] ++
  jsonMember "usb" (jsonObject (
    jsonMember "vid" (jsonIdentifier device.usbVid) ++
    jsonMember "pid" (jsonIdentifier device.usbPid) ++
    jsonMember "device_revision" (jsonIdentifier device.usbDeviceRevision) ++
    jsonMember "manufacturer" [jsonStringCall device.usbManufacturer.toCString] ++
    jsonMember "product" [jsonStringCall device.usbProduct.toCString] ++
    jsonMember "product_revision" [jsonStringCall device.productRevision.toCString] ++
    jsonMember "known_controller" [.bool device.knownController]))

/-- The members for a NULL device are those for a record of zeros. -/
def jsonMediaFields (device : Option DeviceInfo) : List JsonCall :=
  let device := device.getD {}
  jsonMember "present" [.bool device.mediaPresent] ++
  jsonMember "external" [.bool device.external] ++
  jsonMember "removable" [.bool device.removable] ++
  jsonMember "whole" [.bool device.whole] ++
  jsonMember "mounted" [.bool device.mounted] ++
  jsonMember "capacity_bytes" [.uint device.capacityBytes] ++
  jsonMember "block_size" [.uint device.blockSize.toUInt64] ++
  jsonMember "permissions" (jsonObject (
    jsonMember "raw_path" [jsonStringCall device.rawPath.toCString] ++
    jsonMember "readable" [.bool device.readable] ++
    jsonMember "errno" [.int device.permissionErrno.toInt64]))

/-- `json_sense`. -/
def jsonSense (sense : Sense) : List JsonCall :=
  jsonObject (
    jsonMember "valid" [.bool sense.valid] ++
    jsonMember "sense_key" [.uint sense.key.toUInt64] ++
    jsonMember "asc" [.uint sense.asc.toUInt64] ++
    jsonMember "ascq" [.uint sense.ascq.toUInt64])

/-- The fields in the order of their numbers. -/
def flexibleFieldOrder : List FlexibleField :=
  [.transferRate, .heads, .sectorsPerTrack, .bytesPerSector, .cylinders, .writePrecomp,
    .reducedWriteCurrent, .stepRate, .stepPulseWidth, .headSettleDelay, .motorOnDelay,
    .motorOffDelay, .trdySsnMo, .spc, .writeCompensation, .headLoadDelay, .headUnloadDelay,
    .pin34Pin2, .pin4Pin1, .rotationRate]

/-- `json_flexible`. -/
def jsonFlexible (page : FlexibleDiskPage) (includeChangeable : Bool) : List JsonCall :=
  jsonObject (
    jsonMember "transfer_rate_kbit_s" [.uint page.transferRateKbit.toUInt64] ++
    jsonMember "heads" [.uint page.heads.toUInt64] ++
    jsonMember "sectors_per_track" [.uint page.sectorsPerTrack.toUInt64] ++
    jsonMember "bytes_per_sector" [.uint page.bytesPerSector.toUInt64] ++
    jsonMember "cylinders" [.uint page.cylinders.toUInt64] ++
    jsonMember "medium_rotation_rate_rpm" [.uint page.mediumRotationRateRpm.toUInt64] ++
    (if includeChangeable then
      jsonMember "changeable_fields" (jsonArray (
        (flexibleFieldOrder.filter page.fieldChangeable).map fun field =>
          jsonLiteralCall (flexibleFields field).name))
    else []))

/-- The sense of an error, if it is given and valid. -/
def jsonErrorSense : Option Sense → List JsonCall
  | none => []
  | some sense => if sense.valid then jsonMember "sense" (jsonSense sense) else []

/-- `json_errors`: no error, or an empty one, gives an empty array. -/
def jsonErrors (error : Option CString) (sense : Option Sense) : List JsonCall :=
  jsonMember "errors" (jsonArray (
    match error with
    | none => []
    | some error =>
        if error.bytes = [] then []
        else jsonObject (jsonMember "message" [jsonStringCall error] ++ jsonErrorSense sense)))

/-- The status and the reason of a result. -/
def jsonResult (status reason : CString) : List JsonCall :=
  jsonMember "status" [jsonStringCall status] ++ jsonMember "reason" [jsonStringCall reason]

/-! ## Printing -/

/-- Calls that are given up at the first one that returns false. -/
def jsonCallsWhile (allocator : Allocator) : List JsonCall → Json → Option Json
  | [], json => some json
  | call :: calls, json =>
      let (ok, json) := call.exec allocator json
      if ok then jsonCallsWhile allocator calls json else none

/-- The calls of `json_top` after `m65_json_init`. -/
def jsonTopCalls (command : CString) : List JsonCall :=
  [.beginObject, jsonKeyCall "schema_version", .uint schemaVersion, jsonKeyCall "command",
    .beginObject, jsonKeyCall "name", jsonStringCall command, .endObject]

/-- `json_top`: a writer, unless a call fails. -/
def jsonTop (allocator : Allocator) (command : CString) : Option Json :=
  let (ok, json) := jsonInit allocator
  if ok then jsonCallsWhile allocator (jsonTopCalls command) json else none

/-- `json_emit`: what is printed, if the document is complete. -/
def jsonEmit (json : Json) : Option CString :=
  if jsonFinish json then some (jsonData json) else none

/-- A document: `json_top`, the given calls, the end of the root object, and `json_emit`. -/
def printDocument (allocator : Allocator) (command : CString) (members : List JsonCall) :
    Option CString :=
  match jsonTop allocator command with
  | none => none
  | some json => jsonEmit (jsonCalls allocator (members ++ [.endObject]) json).2

/-! ## Documents -/

/-- `m65_output_list_json`, from the device on. -/
def listCalls (list : DeviceList) (error : Option CString) : List JsonCall :=
  jsonMember "device" (jsonObject (jsonMember "candidates" (jsonArray (
    list.items.flatMap fun device => jsonObject (
      jsonDeviceFields (some device) ++
      jsonMember "media" (jsonObject (jsonMediaFields (some device)))))))) ++
  jsonMember "media" (jsonObject (
    jsonMember "candidate_count" [.uint (UInt64.ofNat list.items.length)])) ++
  jsonMember "ufi" (jsonObject []) ++
  jsonMember "result" (jsonObject (jsonResult
    (CString.lit (if error.isNone then "ok" else "error"))
    (error.getD (CString.lit "enumeration completed")))) ++
  jsonErrors error none

/-- `m65_output_list_json`; a NULL error is nothing. -/
def outputListJson (allocator : Allocator) (list : DeviceList) (error : Option CString) :
    Option CString :=
  printDocument allocator (CString.lit "list") (listCalls list error)

/-- `m65_output_error_json`, from the device on. -/
def errorCalls (device : Option DeviceInfo) (error : Option CString) : List JsonCall :=
  jsonMember "device" (jsonObject (jsonDeviceFields device)) ++
  jsonMember "media" (jsonObject (jsonMediaFields device)) ++
  jsonMember "ufi" (jsonObject []) ++
  jsonMember "result" (jsonObject (jsonResult (CString.lit "error")
    (error.getD (CString.lit "unknown error")))) ++
  jsonErrors error none

/-- `m65_output_error_json`; a NULL command, device or error is nothing. -/
def outputErrorJson (allocator : Allocator) (command : Option CString)
    (device : Option DeviceInfo) (error : Option CString) : Option CString :=
  printDocument allocator (command.getD (CString.lit "invalid")) (errorCalls device error)

/-- `m65_output_inspect_json`, from the device on. -/
def inspectCalls (device : DeviceInfo) (report : InspectReport) : List JsonCall :=
  let error := if report.code = .ok then none else some report.reason.toCString
  jsonMember "device" (jsonObject (jsonDeviceFields (some device))) ++
  jsonMember "media" (jsonObject (jsonMediaFields (some device))) ++
  jsonMember "ufi" (jsonObject (
    jsonMember "inquiry" (jsonObject (
      jsonMember "vendor" [jsonStringCall (CString.ofBytes report.inquiry.vendor)] ++
      jsonMember "product" [jsonStringCall (CString.ofBytes report.inquiry.product)] ++
      jsonMember "firmware" [jsonStringCall (CString.ofBytes report.inquiry.firmware)])) ++
    jsonMember "test_unit_ready" [.bool report.unitReady] ++
    jsonMember "capacity" (jsonObject (
      jsonMember "blocks" [.uint report.capacity.blocks.toUInt64] ++
      jsonMember "block_size" [.uint report.capacity.blockSize.toUInt64] ++
      jsonMember "bytes"
        [.uint (report.capacity.blocks.toUInt64 * report.capacity.blockSize.toUInt64)])) ++
    jsonMember "format_capacities" (jsonArray (
      report.formatCapacities.descriptors.flatMap fun descriptor => jsonObject (
        jsonMember "blocks" [.uint descriptor.blocks.toUInt64] ++
        jsonMember "block_size" [.uint descriptor.blockSize.toUInt64] ++
        jsonMember "descriptor_code" [.uint descriptor.descriptorCode.toUInt64]))) ++
    jsonMember "flexible_disk" (jsonFlexible report.currentMode.flexible true) ++
    jsonMember "sense" (jsonSense report.sense))) ++
  jsonMember "result" (jsonObject (jsonResult
    (CString.lit (if report.code = .ok then "ok" else "error")) report.reason.toCString)) ++
  jsonErrors error (some report.sense)

/-- `m65_output_inspect_json`. -/
def outputInspectJson (allocator : Allocator) (device : DeviceInfo) (report : InspectReport) :
    Option CString :=
  printDocument allocator (CString.lit "inspect") (inspectCalls device report)

/-- The words for a verdict. -/
def statusText1581 : Status1581 → String
  | .supported => "supported"
  | .unsupported => "unsupported"
  | .inconclusive => "inconclusive"

/-- `m65_output_1581_json`, from the device on. -/
def calls1581 (device : DeviceInfo) (report : Report1581) (outputPath : Option CString) :
    List JsonCall :=
  let error := if report.code = .ok then none else some report.reason.toCString
  jsonMember "device" (jsonObject (jsonDeviceFields (some device))) ++
  jsonMember "media" (jsonObject (jsonMediaFields (some device))) ++
  jsonMember "ufi" (jsonObject (
    jsonMember "original_flexible_disk" (jsonFlexible report.original true) ++
    jsonMember "requested_flexible_disk" (jsonFlexible report.requested false) ++
    jsonMember "accepted_flexible_disk" (jsonFlexible report.accepted false) ++
    jsonMember "sense" (jsonSense report.sense))) ++
  jsonMember "result" (jsonObject (
    jsonResult (CString.lit (statusText1581 report.status)) report.reason.toCString ++
    jsonMember "acknowledgement_supplied" [.bool report.acknowledgementSupplied] ++
    jsonMember "original_parameters_saved" [.bool report.originalSaved] ++
    jsonMember "controller_restored" [.bool report.controllerRestored] ++
    jsonMember "boundary_lba_9_read" [.bool report.boundaryLba9Read] ++
    jsonMember "boundary_lba_1599_read" [.bool report.boundaryLba1599Read] ++
    jsonMember "repeated_reads_match" [.bool report.repeatedReadsMatch] ++
    jsonMember "output" [match outputPath with
      | some path => if report.code = .ok then jsonStringCall path else .null
      | none => .null])) ++
  jsonErrors error (some report.sense)

/-- `m65_output_1581_json`; a NULL path is nothing. -/
def output1581Json (allocator : Allocator) (device : DeviceInfo) (report : Report1581)
    (outputPath : Option CString) : Option CString :=
  printDocument allocator (CString.lit "test-1581") (calls1581 device report outputPath)

end M65
