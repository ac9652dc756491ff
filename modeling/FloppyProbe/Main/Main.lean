import FloppyProbe.Device.Discovery
import FloppyProbe.Interaction.Part
import FloppyProbe.Mac.Creation
import FloppyProbe.Main.Cli
import FloppyProbe.Main.OutputFile
import FloppyProbe.Output.Documents

/-!
# The program

`main` of `src/main.c`: the command line, the discovery, the choice of a device, the workflow on
its transport, and the document and exit status at the end. Its state is the flag `interrupted`.

Only JSON documents are printed here; the output for humans and the text on stderr are left out,
and so are the calls that cannot fail (`signal`, `destroy`, `free`).
-/

namespace M65

open Interaction

/-! ## Environment -/

/-- What the program asks of its environment. -/
inductive MainCall where
  | discovery (call : DiscoveryCall)
  | creation (call : CreationCall)
  | workflow (call : WorkflowCall)
  | file (call : FileCall)
  /-- The reply is how the allocator behaves while a document is built. -/
  | jsonAllocator
  /-- A document is printed, with a line feed. -/
  | fputs (document : CString)

/-- What the environment answers. -/
abbrev MainReply : MainCall → Type
  | .discovery call => DiscoveryReply call
  | .creation call => CreationReply call
  | .workflow call => WorkflowReply call
  | .file call => FileReply call
  | .jsonAllocator => Allocator
  | .fputs _ => Unit

/-- A part of the program; the state is the flag that a signal sets. -/
abbrev Main : Type → Type := Prog Bool MainReply

/-- A call of the program to its environment, with the reply. -/
abbrev MainEvent : Type := Event Bool MainReply

/-- A document of `src/output.c`, built with the allocator of the process. -/
def printJson (document : Allocator → Option CString) : Main Unit := do
  match document (← Prog.call MainCall.jsonAllocator) with
  | none => return ()
  | some text => Prog.call (MainCall.fputs text)

/-! ## Codes and names -/

/-- `exit_code`. -/
def exitCode : ProbeCode → ℕ
  | .ok => 0
  | .noDevice => 2
  | .permission => 3
  | .transport => 4
  | .unsupported => 5
  | .mismatch => 6
  | .usage => 64

/-- `argv_has_json`. -/
def argvHasJson (argv : List CString) : Bool :=
  (argv.drop 1).any fun word => word.bytes = str "--json"

/-- `command_name`. -/
def commandName : CliCommand → String
  | .list => "list"
  | .inspect => "inspect"
  | .test1581 => "test-1581"

/-- The code of a report without a transport. -/
def codeForCreation : TransportStatus → ProbeCode
  | .permission => .permission
  | .noDevice => .noDevice
  | _ => .transport

/-! ## The selected device -/

/-- The report of `run_selected` for `inspect`. -/
def inspectSelected : Except CreationFailure Unit → Main InspectReport
  | .error failure => return { code := codeForCreation failure.status, reason := failure.detail }
  | .ok () => Prog.lift MainCall.workflow inspect

/-- The report of a test whose image could not be written. -/
def Report1581.outputFailure (report : Report1581) (detail : ErrorText) : Report1581 :=
  { report with
    code := .transport
    status := .inconclusive
    reason := Text.format [str "hardware read succeeded but ", detail.bytes] }

/-- The report of `run_selected` for `test-1581`. -/
def testSelected (acknowledgement : Bool) : Except CreationFailure Unit → Main Report1581
  | .error failure =>
      return { status := .inconclusive, code := codeForCreation failure.status,
               reason := failure.detail }
  | .ok () => Prog.lift MainCall.workflow (test1581 acknowledgement)

/-- The image of a good report is written to the output, if there is one. -/
def writeOutput (output : Option CString) (report : Report1581) : Main Report1581 := do
  match output with
  | none => return report
  | some path =>
      if report.code ≠ .ok then
        return report
      let image := (report.image.getD []).take report.imageLength
      match ← Prog.lift MainCall.file (writeNewImage path image) with
      | .ok () => return report
      | .error detail => return report.outputFailure detail

/-- `run_selected`: the exit status. -/
def runSelected (options : CliOptions) (device : DeviceInfo) : Main ℕ := do
  let created ← Prog.lift MainCall.creation (usbCbiTransportCreate device.bsdName.toCString)
  if options.command = .inspect then
    let report ← inspectSelected created
    if options.json then
      printJson fun allocator => outputInspectJson allocator device report
    return exitCode report.code
  else
    let report ← testSelected options.acknowledgement created
    let report ← writeOutput options.output report
    if options.json then
      printJson fun allocator => output1581Json allocator device report options.output
    return exitCode report.code

/-! ## The whole program -/

/-- The choice of the device for `run_selected`, or the device and the detail of a refusal. -/
def admitDevice (devices : DeviceList) (bsdName : Option CString) :
    Except (Option DeviceInfo × ErrorText) DeviceInfo :=
  match selectDevice devices bsdName with
  | (none, ambiguous) =>
      .error (none, errorText (if ambiguous then "multiple matching devices; specify --device"
        else "no matching device with that BSD name"))
  | (some device, _) =>
      match validateDevice (some device) with
      | .accepted => .ok device
      | validation => .error (some device, errorText (deviceValidationText validation))

/-- `main` from the enumeration on. -/
def mainOnDevices (options : CliOptions) (devices : DeviceList) : Main ℕ := do
  if options.command = .list then
    let error := if devices.items = [] then some (CString.lit "no matching device") else none
    if options.json then
      printJson fun allocator => outputListJson allocator devices error
    return if devices.items = [] then 2 else 0
  match admitDevice devices options.device with
  | .error (device, detail) =>
      if options.json then
        printJson fun allocator => outputErrorJson allocator
          (some (CString.lit (commandName options.command))) device (some detail.toCString)
      return 2
  | .ok device => runSelected options device

/-- `main`: the exit status. -/
def main (argv : List CString) : Main ℕ := do
  match cliParse argv with
  | .error detail =>
      if argvHasJson argv then
        printJson fun allocator => outputErrorJson allocator (some (CString.lit "invalid")) none
          (some detail.toCString)
      return 64
  | .ok options =>
      match ← Prog.lift MainCall.discovery discoverDevices with
      | .error detail =>
          if options.json then
            printJson fun allocator => outputErrorJson allocator
              (some (CString.lit (commandName options.command))) none (some detail.toCString)
          return 4
      | .ok devices => mainOnDevices options devices

end M65
