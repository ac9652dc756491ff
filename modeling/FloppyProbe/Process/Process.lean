import FloppyProbe.Interaction.Monitor
import FloppyProbe.Mac.Client
import FloppyProbe.Main.Runs
import FloppyProbe.Process.Program

/-!
# The process on its transport

The calls of the process are those of the operating system: of the discovery, of the creation, of
IOUSBLib, of the file system and of the allocator. `serve` answers a call of `main` with such calls;
for the transport these are the programs of both layers.

* `serve_obeys`: a protocol that the transport keeps towards IOUSBLib, as long as its clients keep
  one of their own, is kept by the process as long as the program keeps that of the clients;
* `mainToEnd_monitored`: the program keeps a protocol if both workflows do;
* `process_monitored`: both together;
* `main_of_process`: the run of `main` in a run of the process;
* `mainCalls`: the calls of `main` that are calls of the process as they are, which is all but
  those of the workflows (`mainCalls_eq_of_served`).
-/

namespace M65

open Interaction

variable {thread : RunLoopRef} {argv : List CString}

/-! ## Environment -/

/-- What the whole process asks of the system. -/
inductive ProcessCall where
  | discovery (call : DiscoveryCall)
  | creation (call : CreationCall)
  | testInterrupt
  | clearInterrupt
  | malloc (size : ℕ)
  | usb (call : IoUsbCall)
  /-- The reply is what an array without an initial value happens to hold. -/
  | uninitialised
  | file (call : FileCall)
  | jsonAllocator
  | fputs (document : CString)

/-- What the system answers. -/
abbrev ProcessReply : ProcessCall → Type
  | .discovery call => DiscoveryReply call
  | .creation call => CreationReply call
  | .testInterrupt => ℕ
  | .clearInterrupt => ℕ
  | .malloc size => Option (Vector UInt8 size)
  | .usb call => IoUsbReply call
  | .uninitialised => ErrorText
  | .file call => FileReply call
  | .jsonAllocator => Allocator
  | .fputs _ => Unit

/-- What stands behind a call of the workflow, on the thread of the process. -/
def serveWorkflow (thread : RunLoopRef) :
    (call : WorkflowCall) → Prog SystemState ProcessReply (WorkflowReply call)
  | .testInterrupt => Prog.call ProcessCall.testInterrupt
  | .clearInterrupt => Prog.call ProcessCall.clearInterrupt
  | .malloc size => Prog.call (ProcessCall.malloc size)
  | .transport call => Prog.lift ProcessCall.usb (macClient (.transport ⟨thread, call⟩))

/-- A call of the program, served by the transport where it goes to the device. -/
def serve (thread : RunLoopRef) : (call : MainCall ⊕ TransportEnd) →
    Prog SystemState ProcessReply (WatchedReply MainReply DestroyReply call)
  | .inl (.discovery call) => Prog.call (ProcessCall.discovery call)
  | .inl (.creation call) => Prog.call (ProcessCall.creation call)
  | .inl (.workflow call) => serveWorkflow thread call
  | .inl (.file call) => Prog.call (ProcessCall.file call)
  | .inl .jsonAllocator => Prog.call ProcessCall.jsonAllocator
  | .inl (.fputs document) => Prog.call (ProcessCall.fputs document)
  | .inr .destroy => do
      let detail ← Prog.call ProcessCall.uninitialised
      let ignored ← Prog.call ProcessCall.uninitialised
      Prog.lift ProcessCall.usb (macClient (.destroy thread detail ignored))

/-- The flag `interrupted` and the contexts of the transport. -/
abbrev ProcessState : Type := Bool × SystemState

/-- A call of the process to the system, with its reply. -/
abbrev ProcessEvent : Type := Event ProcessState ProcessReply

/-- The process from the command line to the exit status. -/
def process (thread : RunLoopRef) (argv : List CString) : Prog ProcessState ProcessReply ℕ :=
  (mainToEnd argv).atop (serve thread)

/-- A run of the process from its start, where the flag may be set by an early signal. -/
abbrev ProcessRun (thread : RunLoopRef) (argv : List CString) (interrupted : Bool) : Type :=
  Run (process thread argv) (interrupted, ({}, {}))

/-! ## Protocols -/

section Gates

variable {Q Q' : Type}

/-- The protocol `μ` of the clients, for the calls of a workflow. -/
def workflowGate (thread : RunLoopRef) (μ : Monitor ClientReply Q) : Monitor WorkflowReply Q
  | q, .transport call, reply => μ q (.transport ⟨thread, call⟩) reply
  | q, _, _ => some q

/-- The protocol `μ` of the clients, for the calls of the program. -/
def mainGate (thread : RunLoopRef) (μ : Monitor ClientReply Q) :
    Monitor (WatchedReply MainReply DestroyReply) Q
  | q, .inl (.workflow call), reply => workflowGate thread μ q call reply
  | q, .inr .destroy, reply => μ q (.destroy thread Text.empty Text.empty) reply
  | q, .inl _, _ => some q

/-- The protocol `ν` of IOUSBLib, for the calls of the process. -/
def processGate (ν : Monitor IoUsbReply Q') : Monitor ProcessReply Q'
  | q, .usb call, reply => ν q call reply
  | q, _, _ => some q

/-- What a client's protocol says of a destruction does not depend on the texts. -/
def IgnoresTexts (μ : Monitor ClientReply Q) : Prop :=
  ∀ q thread detail ignored reply, μ q (.destroy thread detail ignored) reply =
    μ q (.destroy thread Text.empty Text.empty) reply

variable {μ : Monitor ClientReply Q} {ν : Monitor IoUsbReply Q'} {J : Q → SystemState → Q' → Prop}

/-- What the transport owes to IOUSBLib is owed in the process too. -/
theorem lift_obeys (hobeys : Obeys macClient μ ν J) {q q₁ : Q} {v : Q'} {u u' : SystemState}
    {call : ClientCall} {reply : ClientReply call} {t : List (Event SystemState ProcessReply)}
    (hJ : J q u v) (hstep : μ q call reply = some q₁)
    (hexec : Exec (Prog.lift ProcessCall.usb (macClient call)) u t reply u') :
    ∃ v', (processGate ν).run v t = some v' ∧ J q₁ u' v' := by
  obtain ⟨l, hl, rfl⟩ := exec_lift.1 hexec
  obtain ⟨v', hrun, hJ'⟩ := hobeys hJ hstep hl
  refine ⟨v', ?_, hJ'⟩
  rw [← hrun]
  exact Monitor.run_map fun _ _ _ => rfl

/-- What stands behind the calls of the program keeps the protocol of IOUSBLib, as long as the
program keeps that of the clients. -/
theorem serve_obeys (hobeys : Obeys macClient μ ν J) (htexts : IgnoresTexts μ) :
    Obeys (serve thread) (mainGate thread μ) (processGate ν) J := by
  intro call q q₁ v u inner reply u' hJ hstep hexec
  -- calls that do not go to the device are passed on as they are
  have hdirect {call : ProcessCall} {reply : ProcessReply call} {t : List (Event SystemState _)}
      (hstep : some q = some q₁) (hcall : ∀ v, processGate ν v call reply = some v)
      (hexec : Exec (Prog.call call) u t reply u') :
      ∃ v', (processGate ν).run v t = some v' ∧ J q₁ u' v' := by
    obtain ⟨rfl, rfl⟩ := exec_call.1 hexec
    obtain rfl := Option.some.inj hstep
    exact ⟨v, by rw [Monitor.run_cons, hcall]; rfl, hJ⟩
  rcases call with call | call
  · cases call with
    | discovery | creation | file | jsonAllocator | fputs =>
      exact hdirect hstep (fun _ => rfl) hexec
    | workflow call =>
      cases call with
      | testInterrupt | clearInterrupt | malloc => exact hdirect hstep (fun _ => rfl) hexec
      | transport call => exact lift_obeys hobeys hJ hstep hexec
  · obtain ⟨detail, t₁, hrest, rfl⟩ := exec_call_bind.1 hexec
    obtain ⟨ignored, t₂, hdestroy, rfl⟩ := exec_call_bind.1 hrest
    obtain ⟨v', hrun, hJ'⟩ :=
      lift_obeys hobeys hJ ((htexts q thread detail ignored reply).trans hstep) hdestroy
    exact ⟨v', hrun, hJ'⟩

end Gates

/-! ## Calls of the program -/

section Calls

/-- A call of the program and of its end, with the reply. -/
abbrev ToEndEvent : Type := Event Bool (WatchedReply MainReply DestroyReply)

/-- The call of `main` that an event is, for the calls that nothing stands behind. -/
def mainCallOf : ProcessEvent → Option MainEvent
  | ⟨s, .discovery call, reply⟩ => some ⟨s.1, .discovery call, reply⟩
  | ⟨s, .creation call, reply⟩ => some ⟨s.1, .creation call, reply⟩
  | ⟨s, .file call, reply⟩ => some ⟨s.1, .file call, reply⟩
  | ⟨s, .jsonAllocator, reply⟩ => some ⟨s.1, .jsonAllocator, reply⟩
  | ⟨s, .fputs document, reply⟩ => some ⟨s.1, .fputs document, reply⟩
  | _ => none

/-- The calls of `main` outside the workflows. -/
def mainCalls (t : List ProcessEvent) : List MainEvent := t.filterMap mainCallOf

/-- The event, if it is not one of the workflow. -/
def outsideWorkflow : MainEvent → Option MainEvent
  | ⟨_, .workflow _, _⟩ => none
  | e => some e

/-- Calls of IOUSBLib are none of `main`. -/
theorem mainCalls_of_usb {α : Type} {p : Prog SystemState IoUsbReply α} {a : α}
    {u u' : SystemState} {inner : List (Event SystemState ProcessReply)}
    (h : Exec (Prog.lift ProcessCall.usb p) u inner a u') (s : Bool) :
    (inner.map (Event.below s)).filterMap mainCallOf = [] := by
  obtain ⟨l, -, rfl⟩ := exec_lift.1 h
  rw [List.map_map, List.filterMap_map, List.filterMap_eq_nil_iff]
  exact fun _ _ => rfl

/-- A call of the program outside the workflows is a call of the process. -/
theorem mainCalls_of_serve {e : ToEndEvent} {u u' : SystemState}
    {inner : List (Event SystemState ProcessReply)}
    (h : Exec (serve thread e.call) u inner e.reply u') :
    (inner.map (Event.below e.state)).filterMap mainCallOf =
      (e.visible.bind outsideWorkflow).toList := by
  -- the calls beside the transport are passed down as they are
  have hdirect {call : ProcessCall} {reply : ProcessReply call} {part : List MainEvent}
      (hpart : [Event.below e.state ⟨u, call, reply⟩].filterMap mainCallOf = part)
      (hexec : Exec (Prog.call call) u inner reply u') :
      (inner.map (Event.below e.state)).filterMap mainCallOf = part := by
    obtain ⟨rfl, -⟩ := exec_call.1 hexec
    exact hpart
  obtain ⟨s, call, reply⟩ := e
  rcases call with call | call
  · cases call with
    | discovery | creation | file | jsonAllocator | fputs => exact hdirect rfl h
    | workflow call =>
      cases call with
      | testInterrupt | clearInterrupt | malloc => exact hdirect rfl h
      | transport call => exact mainCalls_of_usb h s
  · obtain ⟨detail, t₁, h₁, rfl⟩ := exec_call_bind.1 h
    obtain ⟨ignored, t₂, h₂, rfl⟩ := exec_call_bind.1 h₁
    exact mainCalls_of_usb h₂ s

/-- The calls of `main` in a process are those of the program outside of the workflow. -/
theorem mainCalls_eq_of_served {u u' : SystemState} {l : List ToEndEvent} {t : List ProcessEvent}
    (hserved : Served (serve thread) u l t u') :
    mainCalls t = (l.filterMap Event.visible).filterMap outsideWorkflow := by
  rw [List.filterMap_filterMap]
  exact hserved.filterMap_eq fun e _ _ _ => mainCalls_of_serve

/-- What is read off the calls outside the workflows is the same for the process and for `main`. -/
theorem mainCalls_of_served {β : Type} {f : MainEvent → Option β} {u u' : SystemState}
    {l : List ToEndEvent} {t : List ProcessEvent} (hserved : Served (serve thread) u l t u')
    (hworkflow : ∀ {s call reply}, f ⟨s, .workflow call, reply⟩ = none) :
    (mainCalls t).filterMap f = (l.filterMap Event.visible).filterMap f := by
  rw [mainCalls_eq_of_served hserved, List.filterMap_filterMap]
  refine List.filterMap_congr fun e _ => ?_
  obtain ⟨s, call, reply⟩ := e
  cases call <;> first | rfl | exact hworkflow.symm

end Calls

/-! ## The program -/

section Main

variable {Q α : Type} {μ : Monitor ClientReply Q} {I M F : Q → Prop}

/-- A part of the program that leaves the transport alone. -/
theorem unended_monitored {C : MainCall → Prop} {p : Main α} (hp : Only C p)
    (hC : ∀ workflow, ¬C (.workflow workflow)) :
    Monitored (mainGate thread μ) (fun _ q => I q) (unended p) (fun _ _ q => I q) := by
  refine .lift (.of_only hp fun q call reply _ hcall => ?_)
  cases call with
  | workflow call => exact absurd hcall (hC call)
  | discovery | creation | file | jsonAllocator | fputs => rfl

/-- Printing keeps what a gate says of the device. -/
theorem printed_monitored {status : ℕ} (json : Bool) (document : Allocator → Option CString) :
    Monitored (mainGate thread μ) (fun _ q => I q)
      (if json then (do unended (printJson document); return status) else return status)
      (fun _ _ q => I q) := by
  refine .ite (fun _ => .bind (unended_monitored (printJson_prints document) fun _ => id)
    fun _ => ?_) fun _ => ?_
  · exact .pure fun _ _ hq => hq
  · exact .pure fun _ _ hq => hq

/-- The end of `main` makes no call but for its document. -/
theorem printed_prints {status : ℕ} (json : Bool) (document : Allocator → Option CString) :
    Only MainCall.Prints
      (if json then (do printJson document; return status : Main ℕ) else return status) :=
  .ite (.bind (printJson_prints document) fun _ => .pure _) (.pure _)

/-- The output makes calls to the file system only. -/
theorem writeOutput_only (output : Option CString) (report : Report1581) :
    Only (∃ call, · = MainCall.file call) (writeOutput output report) := by
  cases output with
  | none => exact .pure _
  | some path =>
    refine .ite (.pure _) (.bind (.lift _) fun written => ?_)
    cases written <;> exact .pure _

/-- A transport that was created is used by the workflow and destroyed, and nothing happens to
one that was not. -/
theorem workflowToEnd_monitored {workflow : Except CreationFailure Unit → Main α} {p : Workflow α}
    (hfailed : ∀ failure, ∃ report, workflow (.error failure) = pure report)
    (hcreated : workflow (.ok ()) = Prog.lift MainCall.workflow p)
    (hp : Monitored (workflowGate thread μ) (fun _ q => I q) p (fun _ _ q => M q))
    (hdestroy : ∀ q, M q → ∃ q', μ q (.destroy thread Text.empty Text.empty) () = some q' ∧ F q')
    (hstart : ∀ q, I q → F q) (created : Except CreationFailure Unit) :
    Monitored (mainGate thread μ) (fun _ q => I q) (workflowToEnd workflow created)
      (fun _ _ q => F q) := by
  unfold workflowToEnd
  cases created with
  | error failure =>
    obtain ⟨report, hreport⟩ := hfailed failure
    rw [hreport]
    exact .pure fun _ q hq => hstart q hq
  | ok =>
    rw [hcreated]
    refine .bind (.lift (.lift hp)) fun report => .bind ?_ fun _ => .pure fun _ _ hq => hq
    exact .call fun s q reply hq => hdestroy q hq

/-- The program keeps a protocol of the clients, if both workflows do and the end is allowed after
them. -/
theorem mainToEnd_monitored
    (hinspect : ∀ options, cliParse argv = .ok options → options.command = .inspect →
      Monitored (workflowGate thread μ) (fun _ q => I q) inspect (fun _ _ q => M q))
    (htest : ∀ options, cliParse argv = .ok options → options.command = .test1581 →
      Monitored (workflowGate thread μ) (fun _ q => I q) (test1581 options.acknowledgement)
        (fun _ _ q => M q))
    (hdestroy : ∀ q, M q → ∃ q', μ q (.destroy thread Text.empty Text.empty) () = some q' ∧ F q')
    (hstart : ∀ q, I q → F q) :
    Monitored (mainGate thread μ) (fun _ q => I q) (mainToEnd argv) (fun _ _ q => F q) := by
  -- a way through `main` that only prints leaves the gate where it was
  have hprints {p : Main ℕ} (hp : Only MainCall.Prints p) :
      Monitored (mainGate thread μ) (fun _ q => I q) (unended p) (fun _ _ q => F q) :=
    (unended_monitored hp fun _ => id).mono (fun _ _ hq => hq) fun _ _ q hq => hstart q hq
  unfold mainToEnd
  cases hparse : cliParse argv with
  | error detail =>
    refine hprints ?_
    simp only [main, hparse]
    exact printed_prints _ _
  | ok options =>
    refine .bind (unended_monitored (.lift _) (by simp)) fun out => ?_
    cases out with
    | error detail =>
      exact (printed_monitored _ _).mono (fun _ _ hq => hq) fun _ _ q hq => hstart q hq
    | ok devices =>
      refine .ite (fun hcommand => hprints ?_) fun hlist => ?_
      · simp only [mainOnDevices, if_pos hcommand]
        exact printed_prints _ _
      cases hadmitted : admitDevice devices options.device with
      | error refusal =>
        refine hprints ?_
        simp only [mainOnDevices, if_neg hlist, hadmitted]
        exact printed_prints _ _
      | ok device =>
        -- a device is selected: its workflow, and then the destruction of the transport
        refine .bind (unended_monitored (.lift _) (by simp)) fun created => .ite ?_ ?_
        · intro hcommand
          have hfailed (failure : CreationFailure) :
              ∃ report, inspectSelected (.error failure) = pure report := ⟨_, rfl⟩
          have hcreated : inspectSelected (.ok ()) = Prog.lift MainCall.workflow inspect := rfl
          exact .bind (workflowToEnd_monitored hfailed hcreated
            (hinspect options hparse hcommand) hdestroy hstart created) fun report =>
              printed_monitored _ _
        · intro hcommand
          have hfailed (failure : CreationFailure) :
              ∃ report, testSelected options.acknowledgement (.error failure) = pure report :=
            ⟨_, rfl⟩
          have hcreated : testSelected options.acknowledgement (.ok ()) =
              Prog.lift MainCall.workflow (test1581 options.acknowledgement) := rfl
          have htest := htest options hparse (by
            cases hoption : options.command with
            | list => exact absurd hoption hlist
            | inspect => exact absurd hoption hcommand
            | test1581 => rfl)
          refine .bind (workflowToEnd_monitored hfailed hcreated htest hdestroy hstart created)
            fun report => ?_
          exact .bind (unended_monitored (writeOutput_only _ _) (by simp)) fun report =>
            printed_monitored _ _

end Main

/-- The process keeps the protocol of IOUSBLib, if the transport does and the program keeps that
of the clients. -/
theorem process_monitored {Q Q' : Type} {μ : Monitor ClientReply Q} {ν : Monitor IoUsbReply Q'}
    {J : Q → SystemState → Q' → Prop} {F : Q → Prop} {q : Q} {v : Q'}
    (hobeys : Obeys macClient μ ν J) (htexts : IgnoresTexts μ) (hJ : J q ({}, {}) v)
    (hmain : Monitored (mainGate thread μ) (fun _ q' => q' = q) (mainToEnd argv)
      (fun _ _ q' => F q'))
    {interrupted : Bool} (r : ProcessRun thread argv interrupted) :
    ∃ q' v', F q' ∧ (processGate ν).run v r.trace = some v' ∧ J q' r.final.2 v' := by
  obtain ⟨trace, status, ⟨interrupted', s⟩, hexec⟩ := r
  obtain ⟨l, hl, hserved⟩ := exec_atop.1 hexec
  obtain ⟨q', hrun, hF⟩ := hmain rfl hl
  obtain ⟨v', hgate, hJ'⟩ := (serve_obeys hobeys htexts).served hserved hrun hJ
  exact ⟨q', v', hF, hgate, hJ'⟩

/-- A run of the process is a run of `main` whose calls are served. -/
theorem main_of_process {interrupted : Bool} {t : List ProcessEvent} {status : ℕ}
    {final : ProcessState}
    (h : Exec (process thread argv) (interrupted, ({}, {})) t status final) :
    ∃ l, Exec (main argv) interrupted (l.filterMap Event.visible) status final.1 ∧
      Served (serve thread) ({}, {}) l t final.2 := by
  obtain ⟨l, hl, hserved⟩ := exec_atop.1 h
  refine ⟨l, ?_, hserved⟩
  rw [← hide_mainToEnd argv]
  exact exec_of_hide hl

end M65
