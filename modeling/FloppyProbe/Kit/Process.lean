import FloppyProbe.Interaction.Hide
import FloppyProbe.Kit.Discovery
import FloppyProbe.Kit.UsbCreation
import FloppyProbe.Main.Main

/-!
# The program, with its objects

`main` of `src/main.c` on the discovery and the creation of this directory, with the destruction of
the transport after its workflow. Its other calls are those of `Main/Main.lean`.

* `process_balanced`: a program that comes to its end holds no object and no block of the ones that
  it obtained, and it never used or gave back one that it did not hold.
-/

namespace M65.Kit

open Interaction

/-! ## Program -/

/-- Programs of the process with the calls that take and give back objects. -/
abbrev KitMain : Type → Type := Prog Bool (WatchedReply MainReply KitReply)

/-- An event of the process, or a call on objects. -/
abbrev KitMainEvent : Type := Event Bool (WatchedReply MainReply KitReply)

/-- How the process ends. -/
inductive Ended where
  /-- With this exit status. -/
  | exited (status : ℕ)
  /-- The discovery was still at its media. -/
  | inMedia (session iterator : ℕ)
  /-- The creation was still at the ancestors of its medium. -/
  | inAncestors (service : ℕ)

/-- A part of the program without objects. -/
def aside {α : Type} (p : Main α) : KitMain α := Prog.lift Sum.inl p

/-- A program on objects, as a part of the process. -/
def onObjects {α : Type} (p : Prog Bool KitReply α) : KitMain α := Prog.lift Sum.inr p

/-- The rest of the program, in which there are no objects. -/
def toEnd (p : Main ℕ) : KitMain Ended := do
  let status ← aside p
  return .exited status

/-- `run_selected` from the creation on. The transport is destroyed after its workflow. -/
def runCreated (options : CliOptions) (device : DeviceInfo)
    (created : Except CreationFailure Unit) (destroy : Prog Bool KitReply Unit) :
    KitMain Ended :=
  if options.command = .inspect then do
    let report ← aside (inspectSelected created)
    onObjects destroy
    toEnd do
      if options.json then
        printJson fun allocator => outputInspectJson allocator device report
      return exitCode report.code
  else do
    let report ← aside (testSelected options.acknowledgement created)
    onObjects destroy
    toEnd do
      let report ← writeOutput options.output report
      if options.json then
        printJson fun allocator => output1581Json allocator device report options.output
      return exitCode report.code

/-- `run_selected`. -/
def runSelected (rounds : ℕ) (options : CliOptions) (device : DeviceInfo) : KitMain Ended := do
  let created ← onObjects (usbCbiTransportCreate rounds device.bsdName.toCString)
  match created with
  | .unfinished service => return .inAncestors service
  | .failed failure => runCreated options device (.error failure) (pure ())
  | .created transport => runCreated options device (.ok ()) (cbiDestroy transport)

/-- `main` from the enumeration on. -/
def mainOnDevices (rounds : ℕ) (options : CliOptions) (devices : DeviceList) : KitMain Ended :=
  if options.command = .list then
    toEnd (M65.mainOnDevices options devices)
  else
    match admitDevice devices options.device with
    | .error _ => toEnd (M65.mainOnDevices options devices)
    | .ok device => runSelected rounds options device

/-- `main`, with at most `rounds` media and at most `rounds` ancestors of the chosen one. -/
def main (rounds : ℕ) (argv : List CString) : KitMain Ended :=
  match cliParse argv with
  | .error _ => toEnd (M65.main argv)
  | .ok options => do
      let discovered ← onObjects (discoverDevices rounds)
      match discovered with
      | .unfinished session iterator => return .inMedia session iterator
      | .failed detail =>
          toEnd do
            if options.json then
              printJson fun allocator => outputErrorJson allocator
                (some (CString.lit (commandName options.command))) none (some detail.toCString)
            return 4
      | .listed devices => mainOnDevices rounds options devices

/-! ## Traces -/

section Traces

variable {α : Type} {a : α} {s s' : Bool} {t : List KitMainEvent} {ended : Ended}

/-- The call on objects that an event is, if it is one. -/
def objectCall : KitMainEvent → Option (KitEvent Bool)
  | ⟨s, .inr call, reply⟩ => some ⟨s, call, reply⟩
  | ⟨_, .inl _, _⟩ => none

/-- The part of the process that touches no objects runs as it does alone. -/
theorem aside_of_exec {p : Main α} (h : Exec (aside p) s t a s') :
    Exec p s (t.filterMap Event.visible) a s' ∧ t.filterMap objectCall = [] := by
  obtain ⟨l, hl, rfl⟩ := exec_lift.1 h
  rw [List.filterMap_map, List.filterMap_map]
  have hvisible : l.filterMap (Event.visible ∘ Event.lift Sum.inl) = l := List.filterMap_some
  exact ⟨hvisible.symm ▸ hl, List.filterMap_eq_nil_iff.2 fun _ _ => rfl⟩

/-- The part that works on objects runs as it does alone. -/
theorem onObjects_of_exec {p : Prog Bool KitReply α} (h : Exec (onObjects p) s t a s') :
    Exec p s (t.filterMap objectCall) a s' ∧ t.filterMap Event.visible = [] := by
  obtain ⟨l, hl, rfl⟩ := exec_lift.1 h
  rw [List.filterMap_map, List.filterMap_map]
  have hobject : l.filterMap (objectCall ∘ Event.lift Sum.inr) = l := List.filterMap_some
  exact ⟨hobject.symm ▸ hl, List.filterMap_eq_nil_iff.2 fun _ _ => rfl⟩

/-- A part of `main` that ends the program. -/
theorem toEnd_of_exec {p : Main ℕ}
    (h : Exec (toEnd p) s t ended s') :
    ∃ status, ended = .exited status ∧ Exec p s (t.filterMap Event.visible) status s' ∧
      t.filterMap objectCall = [] := by
  obtain ⟨t₁, status, s₁, t₂, hp, h₁, rfl⟩ := exec_bind.1 h
  obtain ⟨rfl, rfl, rfl⟩ := exec_pure.1 h₁
  obtain ⟨hvisible, hobject⟩ := aside_of_exec hp
  rw [List.append_nil]
  exact ⟨status, rfl, hvisible, hobject⟩

/-- A run on a transport that was created ends with a status. -/
theorem exits_of_runCreated {options : CliOptions} {device : DeviceInfo}
    {created : Except CreationFailure Unit} {destroy : Prog Bool KitReply Unit}
    (h : Exec (runCreated options device created destroy) s t ended s') :
    ∃ status, ended = .exited status := by
  rcases exec_ite.1 h with ⟨-, h₁⟩ | ⟨-, h₁⟩ <;>
    · obtain ⟨t₁, report, s₁, t₂, -, h₂, rfl⟩ := exec_bind.1 h₁
      obtain ⟨t₃, _, s₂, t₄, -, h₃, rfl⟩ := exec_bind.1 h₂
      obtain ⟨status, hstatus, -, -⟩ := toEnd_of_exec h₃
      exact ⟨status, hstatus⟩

/-- Only more than `rounds` media or ancestors keep the program from its end. -/
theorem exits_or_rounds_le {rounds : ℕ} {argv : List CString}
    (h : Exec (main rounds argv) s t ended s') :
    (∃ status, ended = .exited status) ∨ rounds ≤ mediaCount (t.filterMap objectCall) ∨
      rounds ≤ parentSteps (t.filterMap objectCall) := by
  -- once nothing but `main` itself is left, the program comes to its end
  have hend {p : Main ℕ} {s : Bool} {t : List KitMainEvent}
      (h : Exec (toEnd p) s t ended s') : ∃ status, ended = .exited status := by
    obtain ⟨status, hstatus, -, -⟩ := toEnd_of_exec h
    exact ⟨status, hstatus⟩
  unfold main at h
  cases hparse : cliParse argv with
  | error detail =>
    rw [hparse] at h
    exact .inl (hend h)
  | ok options =>
    rw [hparse] at h
    obtain ⟨t₁, discovered, s₁, t₂, hdiscovered, h₁, rfl⟩ := exec_bind.1 h
    obtain ⟨hdiscovery, -⟩ := onObjects_of_exec hdiscovered
    rw [List.filterMap_append, mediaCount_append, parentSteps_append]
    -- of the loops only those over the media and over the parents can run on
    cases discovered with
    | unfinished session iterator =>
      exact .inr (.inl ((rounds_le_of_discovery hdiscovery).trans (Nat.le_add_right _ _)))
    | failed detail => exact .inl (hend h₁)
    | listed devices =>
      rcases exec_ite.1 h₁ with ⟨-, h₂⟩ | ⟨-, h₂⟩
      · exact .inl (hend h₂)
      cases hadmitted : admitDevice devices options.device with
      | error refusal =>
        rw [hadmitted] at h₂
        exact .inl (hend h₂)
      | ok device =>
        rw [hadmitted] at h₂
        obtain ⟨t₃, created, s₂, t₄, hcreated, h₃, rfl⟩ := exec_bind.1 h₂
        obtain ⟨hcreation, -⟩ := onObjects_of_exec hcreated
        cases created with
        | unfinished service =>
          have hrounds := rounds_le_of_creation hcreation
          rw [List.filterMap_append, parentSteps_append]
          exact .inr (.inr (by omega))
        | failed failure => exact .inl (exits_of_runCreated h₃)
        | created transport => exact .inl (exits_of_runCreated h₃)

end Traces

/-! ## References -/

/-- The references of the program. The calls without objects have nothing to do with them. -/
def mainLedger : Ledger (WatchedReply MainReply KitReply) KitObject where
  uses
    | .inl _ => []
    | .inr call => kitLedger.uses call
  releases
    | .inl _ => 0
    | .inr call => kitLedger.releases call
  obtains
    | .inl _, _ => 0
    | .inr call, reply => kitLedger.obtains call reply

/-- What the process still holds at its end. -/
def Ended.held : Ended → Multiset KitObject
  | .exited _ => 0
  | .inMedia session iterator => {.io iterator} + {.cf session}
  | .inAncestors service => {.io service}

section References

variable {α : Type} {P : Multiset KitObject}

/-- A part on objects trades what it trades alone. -/
theorem trades_onObjects {p : Prog Bool KitReply α} {R : α → Multiset KitObject}
    (h : Trades kitLedger P p R) : Trades mainLedger P (onObjects p) R :=
  .lift h

/-- The part that touches no objects trades nothing. -/
theorem trades_aside (p : Main α) : Trades mainLedger P (aside p) fun _ => P :=
  .lift (.idle (fun _ => rfl) (fun _ => rfl) fun _ _ => rfl)

/-- A run to the end trades nothing. -/
theorem trades_toEnd (p : Main ℕ) : Trades mainLedger 0 (toEnd p) Ended.held :=
  .bind (trades_aside p) fun _ => .pure rfl

/-- A run on a transport gives the transport back. -/
theorem trades_runCreated {destroy : Prog Bool KitReply Unit}
    (hdestroy : Trades kitLedger P destroy fun _ => 0) (options : CliOptions)
    (device : DeviceInfo) (created : Except CreationFailure Unit) :
    Trades mainLedger P (runCreated options device created destroy) Ended.held :=
  .ite
    (fun _ => .bind (trades_aside _) fun _ => .bind (trades_onObjects hdestroy) fun _ =>
      trades_toEnd _)
    fun _ => .bind (trades_aside _) fun _ => .bind (trades_onObjects hdestroy) fun _ =>
      trades_toEnd _

/-- A run on a device gives back what it took. -/
theorem trades_runSelected (rounds : ℕ) (options : CliOptions) (device : DeviceInfo) :
    Trades mainLedger 0 (runSelected rounds options device) Ended.held := by
  refine .bind (trades_onObjects (trades_usbCbiTransportCreate rounds _)) fun created => ?_
  cases created with
  | unfinished service => exact .pure rfl
  | failed failure => exact trades_runCreated (.pure rfl) _ _ _
  | created transport => exact trades_runCreated (trades_cbiDestroy transport) _ _ _

/-- The process ends with what it holds. -/
theorem trades_main (rounds : ℕ) (argv : List CString) :
    Trades mainLedger 0 (main rounds argv) Ended.held := by
  unfold main
  cases cliParse argv with
  | error detail => exact trades_toEnd _
  | ok options =>
    refine .bind (trades_onObjects (trades_discoverDevices rounds)) fun discovered => ?_
    cases discovered with
    | unfinished session iterator => exact .pure rfl
    | failed detail => exact trades_toEnd _
    | listed devices =>
      refine .ite (fun _ => trades_toEnd _) fun _ => ?_
      cases admitDevice devices options.device with
      | error refusal => exact trades_toEnd _
      | ok device => exact trades_runSelected rounds options device

/-- The program gives back every object and every block that it obtained, whatever it is called
with and whatever the calls return. Only more than `rounds` media or ancestors keep it from its
end. -/
theorem process_balanced (rounds : ℕ) (argv : List CString) (interrupted : Bool)
    (r : Run (main rounds argv) interrupted) :
    mainLedger.monitor.run 0 r.trace = some r.result.held ∧
      ((∃ status, r.result = .exited status) ∨
        rounds ≤ mediaCount (r.trace.filterMap objectCall) ∨
        rounds ≤ parentSteps (r.trace.filterMap objectCall)) :=
  ⟨(trades_main rounds argv).run r.exec, exits_or_rounds_le r.exec⟩

end References

end M65.Kit
