import FloppyProbe.Main.Main

/-!
# Runs of the program

The ways through `main` up to `run_selected`. On each of them at most one document is printed,
and it is the last thing that happens.
-/

namespace M65

open Interaction

variable {s s' : Bool} {t : List MainEvent} {status : ℕ}

/-! ## Documents -/

/-- The documents that a trace prints. -/
def documents (t : List MainEvent) : List CString :=
  t.filterMap fun e =>
    match e.call with
    | .fputs document => some document
    | _ => none

/-- The documents of two traces come one after the other. -/
@[simp]
theorem documents_append (t t' : List MainEvent) :
    documents (t ++ t') = documents t ++ documents t' :=
  List.filterMap_append

/-- The calls that print a document. -/
def MainCall.Prints : MainCall → Prop
  | .jsonAllocator => True
  | .fputs _ => True
  | _ => False

/-- The calls that `run_selected` makes to the device and the file system. -/
def MainCall.Touches : MainCall → Prop
  | .creation _ => True
  | .workflow _ => True
  | .file _ => True
  | _ => False

/-- Printing touches neither the device nor the file system. -/
theorem MainCall.Prints.not_touches {call : MainCall} (h : call.Prints) : ¬call.Touches := by
  cases call <;> first | exact id | exact absurd h id

/-- A document is printed and nothing else is done. -/
theorem printJson_prints (document : Allocator → Option CString) :
    Only MainCall.Prints (printJson document) := by
  refine .bind (.call trivial) fun allocator => ?_
  cases document allocator with
  | none => exact .pure _
  | some text => exact .call trivial

/-- At most one document comes out, and it is one that the function gives. -/
theorem printJson_documents {document : Allocator → Option CString} {u : Unit}
    (h : Exec (printJson document) s t u s') :
    ∀ text ∈ documents t, ∃ allocator, document allocator = some text := by
  unfold printJson at h
  rw [exec_bind] at h
  obtain ⟨t₁, allocator, s₁, t₂, hallocator, h, rfl⟩ := h
  obtain ⟨rfl, rfl⟩ := exec_call.1 hallocator
  intro text htext
  cases hdocument : document allocator with
  | none =>
    rw [hdocument, exec_pure] at h
    obtain ⟨rfl, -, -⟩ := h
    cases htext
  | some text' =>
    rw [hdocument, exec_call] at h
    obtain ⟨rfl, -⟩ := h
    obtain rfl := List.mem_singleton.1 (show text ∈ [text'] from htext)
    exact ⟨allocator, hdocument⟩

/-- `main` prints a document, if `--json` was given, and returns `status`. -/
structure Printed (document : Allocator → Option CString) (t : List MainEvent) : Prop where
  prints : ∀ e ∈ t, e.call.Prints
  documents : ∀ text ∈ documents t, ∃ allocator, document allocator = some text

/-- Every execution of the end of `main` prints its document, if it is asked to. -/
theorem printed_of_exec {json : Bool} {document : Allocator → Option CString} {out : ℕ}
    (h : Exec (if json then (do printJson document; return status : Main ℕ) else return status)
      s t out s') : out = status ∧ Printed document t := by
  simp only [exec_ite, exec_bind, exec_pure] at h
  rcases h with ⟨-, t₁, u, s₁, _, hprint, ⟨rfl, rfl, -⟩, rfl⟩ | ⟨-, rfl, rfl, -⟩
  · rw [List.append_nil]
    exact ⟨rfl, printJson_prints document hprint, printJson_documents hprint⟩
  · exact ⟨rfl, by simp, by simp [documents]⟩

/-! ## Ways through the program -/

/-- What `main` does from the enumeration on. -/
inductive DevicesRun (options : CliOptions) (devices : DeviceList) (s : Bool) :
    List MainEvent → ℕ → Bool → Prop
  | listed {t : List MainEvent} {s' : Bool} (hcommand : options.command = .list)
      (hprinted : Printed (fun allocator => outputListJson allocator devices
        (if devices.items = [] then some (CString.lit "no matching device") else none)) t) :
      DevicesRun options devices s t (if devices.items = [] then 2 else 0) s'
  | refused {t : List MainEvent} {s' : Bool} {device : Option DeviceInfo} {detail : ErrorText}
      (hcommand : options.command ≠ .list)
      (hrefused : admitDevice devices options.device = .error (device, detail))
      (hprinted : Printed (fun allocator => outputErrorJson allocator
        (some (CString.lit (commandName options.command))) device (some detail.toCString)) t) :
      DevicesRun options devices s t 2 s'
  | selected {t : List MainEvent} {status : ℕ} {s' : Bool} {device : DeviceInfo}
      (hcommand : options.command ≠ .list)
      (hadmitted : admitDevice devices options.device = .ok device)
      (hrun : Exec (runSelected options device) s t status s') :
      DevicesRun options devices s t status s'

/-- Every execution of `main` from the enumeration on is one of its cases. -/
theorem devicesRun_of_exec {options : CliOptions} {devices : DeviceList}
    (h : Exec (mainOnDevices options devices) s t status s') :
    DevicesRun options devices s t status s' := by
  unfold mainOnDevices at h
  by_cases hcommand : options.command = .list
  · rw [if_pos hcommand] at h
    obtain ⟨rfl, hprinted⟩ := printed_of_exec h
    exact .listed hcommand hprinted
  · rw [if_neg hcommand] at h
    cases hadmitted : admitDevice devices options.device with
    | error refusal =>
      rw [hadmitted] at h
      obtain ⟨rfl, hprinted⟩ := printed_of_exec h
      exact .refused hcommand hadmitted hprinted
    | ok device =>
      rw [hadmitted] at h
      exact .selected hcommand hadmitted h

/-- What `main` does. -/
inductive MainRun (argv : List CString) (s : Bool) : List MainEvent → ℕ → Bool → Prop
  | usage {t : List MainEvent} {s' : Bool} {detail : ErrorText}
      (hparse : cliParse argv = .error detail)
      (hprinted : Printed (fun allocator => outputErrorJson allocator
        (some (CString.lit "invalid")) none (some detail.toCString)) t) :
      MainRun argv s t 64 s'
  | notDiscovered {l : List (Event Bool DiscoveryReply)} {t : List MainEvent} {s' : Bool}
      {options : CliOptions} {detail : ErrorText} (hparse : cliParse argv = .ok options)
      (hdiscovery : Discovery s l (.error detail))
      (hprinted : Printed (fun allocator => outputErrorJson allocator
        (some (CString.lit (commandName options.command))) none (some detail.toCString)) t) :
      MainRun argv s (l.map (Event.lift MainCall.discovery) ++ t) 4 s'
  | discovered {l : List (Event Bool DiscoveryReply)} {t : List MainEvent} {s₁ s' : Bool}
      {status : ℕ} {options : CliOptions} {devices : DeviceList}
      (hparse : cliParse argv = .ok options) (hdiscovery : Discovery s l (.ok devices))
      (hrun : DevicesRun options devices s₁ t status s') :
      MainRun argv s (l.map (Event.lift MainCall.discovery) ++ t) status s'

/-- Every execution of `main` is one of its cases. -/
theorem mainRun_of_exec {argv : List CString} (h : Exec (main argv) s t status s') :
    MainRun argv s t status s' := by
  unfold main at h
  cases hparse : cliParse argv with
  | error detail =>
    rw [hparse] at h
    obtain ⟨rfl, hprinted⟩ := printed_of_exec h
    exact .usage hparse hprinted
  | ok options =>
    rw [hparse, exec_bind] at h
    obtain ⟨t₁, out, s₁, t₂, hlift, h, rfl⟩ := h
    obtain ⟨l, hexec, rfl⟩ := exec_lift.1 hlift
    have hdiscovery := discovery_of_exec hexec
    cases out with
    | error detail =>
      obtain ⟨rfl, hprinted⟩ := printed_of_exec h
      exact .notDiscovered hparse hdiscovery hprinted
    | ok devices => exact .discovered hparse hdiscovery (devicesRun_of_exec h)

end M65
