import FloppyProbe.Interaction.Simulation
import FloppyProbe.Mac.System
import FloppyProbe.Main.Main

/-!
# The process

`main` of `src/main.c` on the whole stack below it: the transport that `run_selected` creates is
the engine of `src/cbi.c` over the adapter of `src/usb_cbi_macos.c`, and `run_selected` destroys it
after the workflow. What is left as the environment are the calls of the operating system.

* `mainToEnd` is `main` with the destruction of the transport as a call; `hide_mainToEnd`: without
  that call it is `main`;
* `macClient` is the transport with its destruction among the calls of a client;
* `process` puts them together. Its state is the flag `interrupted` and the contexts of both
  layers.

The process has one thread, whose run loop is a parameter.
-/

namespace M65

open Interaction

/-! ## The end of a transport -/

/-- `transport->ops->destroy(transport)`, a call without a result. -/
inductive TransportEnd where
  | destroy

/-- The destruction needs no answer. -/
abbrev DestroyReply : TransportEnd → Type
  | .destroy => Unit

instance (e : TransportEnd) : Subsingleton (DestroyReply e) :=
  inferInstanceAs (Subsingleton Unit)

/-- Nothing is known of a destruction from outside. -/
def quietDestroy : (e : TransportEnd) → DestroyReply e
  | .destroy => ()

/-- A part of the program with the destruction of the transport among its calls. -/
abbrev MainToEnd : Type → Type := Prog Bool (WatchedReply MainReply DestroyReply)

/-- A part of the program in which no transport ends. -/
def unended {α : Type} (p : Main α) : MainToEnd α := Prog.lift Sum.inl p

/-- The transport is destroyed, at the end of `run_selected`. -/
def destroyTransport : MainToEnd Unit := Prog.call (Sum.inr TransportEnd.destroy)

/-! ## The program with the destruction -/

/-- The workflow of a command on the transport, which is destroyed after it if it was created. -/
def workflowToEnd {α : Type} (workflow : Except CreationFailure Unit → Main α)
    (created : Except CreationFailure Unit) : MainToEnd α := do
  let report ← unended (workflow created)
  match created with
  | .error _ => return report
  | .ok () =>
      destroyTransport
      return report

/-- `run_selected` with the destruction. -/
def runSelectedToEnd (options : CliOptions) (device : DeviceInfo) : MainToEnd ℕ := do
  let created ←
    unended (Prog.lift MainCall.creation (usbCbiTransportCreate device.bsdName.toCString))
  if options.command = .inspect then
    let report ← workflowToEnd inspectSelected created
    if options.json then
      unended (printJson fun allocator => outputInspectJson allocator device report)
    return exitCode report.code
  else
    let report ← workflowToEnd (testSelected options.acknowledgement) created
    let report ← unended (writeOutput options.output report)
    if options.json then
      unended (printJson fun allocator => output1581Json allocator device report options.output)
    return exitCode report.code

/-- `main` from the enumeration on, with the destruction. -/
def mainOnDevicesToEnd (options : CliOptions) (devices : DeviceList) : MainToEnd ℕ :=
  if options.command = .list then
    unended (mainOnDevices options devices)
  else
    match admitDevice devices options.device with
    | .error _ => unended (mainOnDevices options devices)
    | .ok device => runSelectedToEnd options device

/-- `main` with the destruction. -/
def mainToEnd (argv : List CString) : MainToEnd ℕ :=
  match cliParse argv with
  | .error _ => unended (main argv)
  | .ok options => do
      match ← unended (Prog.lift MainCall.discovery discoverDevices) with
      | .error detail =>
          if options.json then
            unended (printJson fun allocator => outputErrorJson allocator
              (some (CString.lit (commandName options.command))) none (some detail.toCString))
          return 4
      | .ok devices => mainOnDevicesToEnd options devices

section Hiding

/-- Without the end, a part that does not destroy is itself. -/
@[simp]
theorem hide_unended {α : Type} (p : Main α) : (unended p).hide quietDestroy = p :=
  hide_lift p

/-- Without the end, the destruction is no step. -/
@[simp]
theorem hide_destroyTransport :
    destroyTransport.hide quietDestroy = (pure () : Main Unit) := rfl

/-- Without the end, a workflow is the one of `run_selected`. -/
theorem hide_workflowToEnd {α : Type} (workflow : Except CreationFailure Unit → Main α)
    (created : Except CreationFailure Unit) :
    (workflowToEnd workflow created).hide quietDestroy = workflow created := by
  unfold workflowToEnd
  rw [hide_bind, hide_unended]
  cases created with
  | error failure => exact bind_pure _
  | ok => exact bind_pure _

/-- Without the end, `run_selected` is that of the program. -/
theorem hide_runSelectedToEnd (options : CliOptions) (device : DeviceInfo) :
    (runSelectedToEnd options device).hide quietDestroy = runSelected options device := by
  simp only [runSelectedToEnd, runSelected, hide_bind, hide_unended, hide_ite,
    hide_workflowToEnd, hide_pure]

/-- Without the end, `main` from the enumeration on is that of the program. -/
theorem hide_mainOnDevicesToEnd (options : CliOptions) (devices : DeviceList) :
    (mainOnDevicesToEnd options devices).hide quietDestroy = mainOnDevices options devices := by
  unfold mainOnDevicesToEnd
  by_cases hcommand : options.command = .list
  · rw [if_pos hcommand, hide_unended]
  · rw [if_neg hcommand]
    cases hadmitted : admitDevice devices options.device with
    | error refusal => exact hide_unended _
    | ok device =>
      simp only [mainOnDevices, if_neg hcommand, hadmitted]
      exact hide_runSelectedToEnd options device

/-- Without the destruction the program is `main`. -/
theorem hide_mainToEnd (argv : List CString) :
    (mainToEnd argv).hide quietDestroy = main argv := by
  unfold mainToEnd
  cases hparse : cliParse argv with
  | error detail => exact hide_unended _
  | ok options =>
    simp only [hide_bind, hide_unended, main, hparse]
    refine bind_congr fun out => ?_
    cases out with
    | error detail => simp only [hide_bind, hide_unended, hide_ite, hide_pure]
    | ok devices => exact hide_mainOnDevicesToEnd options devices

end Hiding

end M65
