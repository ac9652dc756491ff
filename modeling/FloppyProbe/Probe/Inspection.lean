import FloppyProbe.Probe.Phases
import FloppyProbe.Probe.Inspect

/-!
# What an inspection does

The commands of `inspect` come in the fixed order of `inspectStages`, and the inspection ends at
the first stage that does not accept the answer. It returns OK exactly when every stage accepted
its answer and the transport was released, and then the report holds what the parsers made of the
bytes that were transferred.
-/

namespace M65

open Interaction

variable {s s' : Bool} {t t' : List WorkflowEvent} {report report' : InspectReport}

/-! ## Stages -/

/-- The bytes that a command transferred into its buffer. -/
def Execution.transferredBytes (e : Execution) : List UInt8 :=
  e.reply.buffer.toList.take e.reply.result.transferred

/-- The command was good, stayed inside its buffer, and its response parses to `response`. -/
structure Execution.Delivers {α : Type} (e : Execution)
    (parse : List UInt8 → ℕ → Except ErrorText α) (response : α) : Prop where
  good : commandGood e.reply.result = true
  fits : e.reply.result.transferred ≤ e.command.dataLength
  parsed : parse e.transferredBytes e.reply.result.transferred = .ok response

/-- A command of the inspection, and which answers to it let the inspection go on. -/
structure InspectStage where
  command : Command
  Accepts : Execution → Prop

/-- The step of a stage. -/
def InspectStage.step (stage : InspectStage) : WorkflowStep := .command stage.command.wire

/-- A command that reads into a buffer of zeros. -/
def inputCommand (cdb : Vector UInt8 16 × ℕ) (bufferSize : ℕ) : Command :=
  simpleCommand cdb .dataIn (some (Vector.replicate bufferSize (0 : UInt8)))

/-- A stage whose response is parsed. -/
def parsedStage {α : Type} (cdb : Vector UInt8 16 × ℕ) (bufferSize : ℕ)
    (parse : List UInt8 → ℕ → Except ErrorText α) : InspectStage where
  command := inputCommand cdb bufferSize
  Accepts e := ∃ response, e.Delivers parse response

/-- The TEST UNIT READY of the inspection. -/
def unitReadyCommand : Command :=
  simpleCommand cdbTestUnitReady .none (none : Option (Vector UInt8 0))

/-- The two MODE SENSE commands. -/
def modeStages : List InspectStage :=
  [parsedStage (cdbModeSense10 false 256) modeBufferSize parseModeParameters,
    parsedStage (cdbModeSense10 true 256) modeBufferSize parseModeParameters]

/-- The stages from READ CAPACITY on. -/
def capacityStages : List InspectStage :=
  parsedStage cdbReadCapacity10 8 parseReadCapacity10 ::
    parsedStage (cdbReadFormatCapacities 252) 252 parseFormatCapacities :: modeStages

/-- The stages from TEST UNIT READY on. -/
def unitStages : List InspectStage :=
  ⟨unitReadyCommand, fun e => commandGood e.reply.result = true⟩ :: capacityStages

/-- INQUIRY, TEST UNIT READY, READ CAPACITY (10), READ FORMAT CAPACITIES, and MODE SENSE for the
page in effect and for the changeable mask. -/
def inspectStages : List InspectStage :=
  parsedStage (cdbInquiry 96) 96 parseInquiry :: unitStages

/-! ## One command -/

/-- The steps and the commands of a trace, when one command was tried. -/
theorem Attempt.steps_eq {command : Command} {reply : ExecuteReply command.dataLength}
    (h : Attempt command s t reply s') :
    (steps t = [] ∧ executions t = [] ∧ commandGood reply.result = false) ∨
      (steps t = [.command command.wire] ∧ executions t = [⟨command, reply⟩]) := by
  cases h with
  | refused _ hstatus => exact .inl ⟨rfl, rfl, commandGood_eq_false (by simp [hstatus])⟩
  | interrupted _ _ hstatus => exact .inl ⟨rfl, rfl, commandGood_eq_false (by simp [hstatus])⟩
  | handed => exact .inr ⟨rfl, rfl⟩

/-- A stage whose answer is not accepted, or that is not answered. -/
structure StageFailed (stage : InspectStage) (t : List WorkflowEvent) : Prop where
  steps_isPrefix : steps t <+: [stage.step]
  failed : ∀ e ∈ executions t, ¬ stage.Accepts e

/-- A stage whose answer `e` is accepted. -/
structure StagePassed (stage : InspectStage) (t : List WorkflowEvent) (e : Execution) : Prop where
  steps_eq : steps t = [stage.step]
  executions_eq : executions t = [e]
  accepted : stage.Accepts e

/-- A failed command is no good code. -/
theorem commandFailure_code_ne (report : InspectReport) (operation : String)
    {result : CommandResult} : (report.commandFailure operation result).code ≠ .ok := by
  cases hstatus : result.transportStatus <;>
    simp [InspectReport.commandFailure, copyCommandFailure, codeForTransport, hstatus]

section Parsed

variable {α : Type} {parse : List UInt8 → ℕ → Except ErrorText α} {operation : String}
  {cdb : Vector UInt8 16 × ℕ} {bufferSize : ℕ}

/-- What is left of a buffer when only the bytes that were transferred are kept. -/
theorem Execution.delivers_iff {e : Execution} {response : α}
    (hcongr : ∀ {length : ℕ} {data data' : List UInt8}, AgreeOn length data data' →
      parse data length = parse data' length) :
    e.Delivers parse response ↔ commandGood e.reply.result = true ∧
      e.reply.result.transferred ≤ e.command.dataLength ∧
      parse e.reply.buffer.toList e.reply.result.transferred = .ok response := by
  have hparse : parse e.transferredBytes e.reply.result.transferred =
      parse e.reply.buffer.toList e.reply.result.transferred := hcongr (.take _ _)
  exact ⟨fun h => ⟨h.good, h.fits, hparse ▸ h.parsed⟩, fun h => ⟨h.1, h.2.1, hparse ▸ h.2.2⟩⟩

/-- A parsed stage either fails, with a code that says so, or passes with its response. -/
theorem inspectParsed_cases {out : Except InspectReport α}
    (hcongr : ∀ {length : ℕ} {data data' : List UInt8}, AgreeOn length data data' →
      parse data length = parse data' length)
    (h : Exec (inspectParsed report operation cdb bufferSize parse) s t out s') :
    (∃ report', out = .error report' ∧ report'.code ≠ .ok ∧
        StageFailed (parsedStage cdb bufferSize parse) t) ∨
      ∃ response e, out = .ok response ∧
        StagePassed (parsedStage cdb bufferSize parse) t e ∧ e.Delivers parse response := by
  unfold inspectParsed inspectInput at h
  simp only [exec_bind, exec_ite, exec_pure] at h
  obtain ⟨_, input, s₁, t₂, ⟨t₁, reply, s₂, t₃, hcommand, hinput, rfl⟩, h, rfl⟩ := h
  have hattempt : Attempt (inputCommand cdb bufferSize) s t₁ reply s₂ := attempt_of_exec hcommand
  -- every failure ends with a code other than OK, set here at the latest
  have hcode (code : ProbeCode) : (if code = .ok then ProbeCode.transport else code) ≠ .ok := by
    split <;> simp_all
  have hfailed (hbad : ∀ response, ¬ Execution.Delivers ⟨inputCommand cdb bufferSize, reply⟩
      parse response) : StageFailed (parsedStage cdb bufferSize parse) t₁ := by
    rcases hattempt.steps_eq with ⟨hsteps, hexecutions, -⟩ | ⟨hsteps, hexecutions⟩
    · exact ⟨by simp [hsteps], by simp [hexecutions]⟩
    · refine ⟨by rw [hsteps]; exact List.prefix_rfl, fun e he => ?_⟩
      rw [hexecutions, List.mem_singleton] at he
      rw [he]
      rintro ⟨response, hresponse⟩
      exact hbad response hresponse
  rcases hinput with ⟨hbad, rfl, rfl, rfl⟩ | ⟨hgood, hinput⟩
  · rw [exec_pure] at h
    obtain ⟨rfl, rfl, rfl⟩ := h
    simp only [List.append_nil]
    refine .inl ⟨_, rfl, hcode _, hfailed fun response hresponse => ?_⟩
    have hgood : commandGood reply.result = true := hresponse.good
    simp [hgood] at hbad
  rcases hinput with ⟨hlarge, rfl, rfl, rfl⟩ | ⟨hfits, rfl, rfl, rfl⟩
  · rw [exec_pure] at h
    obtain ⟨rfl, rfl, rfl⟩ := h
    simp only [List.append_nil]
    refine .inl ⟨_, rfl, hcode .transport, hfailed fun response hresponse => ?_⟩
    exact absurd hresponse.fits (Nat.not_le_of_lt hlarge)
  · cases hparse : parse reply.buffer.toList reply.result.transferred with
    | error detail =>
        simp only [hparse, exec_pure] at h
        obtain ⟨rfl, rfl, rfl⟩ := h
        simp only [List.append_nil]
        refine .inl ⟨_, rfl, hcode _, hfailed fun response hresponse => ?_⟩
        have hparsed := ((Execution.delivers_iff hcongr).1 hresponse).2.2
        cases hparse.symm.trans hparsed
    | ok response =>
        simp only [hparse, exec_pure] at h
        obtain ⟨rfl, rfl, rfl⟩ := h
        simp only [List.append_nil]
        have hgood : commandGood reply.result = true := by simpa using hgood
        have hdelivers : Execution.Delivers ⟨inputCommand cdb bufferSize, reply⟩ parse response :=
          (Execution.delivers_iff hcongr).2 ⟨hgood, Nat.le_of_not_lt hfits, hparse⟩
        rcases hattempt.steps_eq with ⟨-, -, hbad⟩ | ⟨hsteps, hexecutions⟩
        · simp [hgood] at hbad
        · exact .inr ⟨response, _, rfl, ⟨hsteps, hexecutions, response, hdelivers⟩, hdelivers⟩

end Parsed

/-! ## Several stages -/

/-- What the inspection has done at the end of `stages`: the commands it sent, whether they were
all accepted, and if so what `Found` says. -/
structure InspectOutcome (stages : List InspectStage) (t : List WorkflowEvent)
    (report : InspectReport) (Found : Prop) : Prop where
  steps_isPrefix : steps t <+: stages.map InspectStage.step
  code_iff : report.code = .ok ↔ List.Forall₂ InspectStage.Accepts stages (executions t)
  found : report.code = .ok → Found

namespace InspectOutcome

variable {stage : InspectStage} {stages : List InspectStage} {e : Execution} {Found Found' : Prop}

/-- The inspection ends at a stage that failed. -/
theorem stop (h : StageFailed stage t) (hcode : report.code ≠ .ok) :
    InspectOutcome (stage :: stages) t report Found := by
  refine ⟨h.steps_isPrefix.trans ?_, iff_of_false hcode fun haccepted => ?_, fun hok =>
    absurd hok hcode⟩
  · exact ⟨stages.map InspectStage.step, rfl⟩
  · generalize hexecutions : executions t = commands at haccepted
    cases haccepted with
    | @cons _ e _ rest haccepts _ => exact h.failed e (by simp [hexecutions]) haccepts

/-- The inspection goes on after a stage that passed. -/
theorem after (h : StagePassed stage t e) (hrest : InspectOutcome stages t' report Found')
    (hfound : Found' → Found) : InspectOutcome (stage :: stages) (t ++ t') report Found where
  steps_isPrefix := by
    rw [steps_append, h.steps_eq, List.map_cons]
    exact (List.prefix_append_right_inj _).2 hrest.steps_isPrefix
  code_iff := by
    rw [executions_append, h.executions_eq, List.singleton_append, List.forall₂_cons,
      hrest.code_iff]
    exact (and_iff_right h.accepted).symm
  found hok := hfound (hrest.found hok)

/-- The inspection is over. -/
theorem done (hcode : report.code = .ok) (hfound : Found) : InspectOutcome [] [] report Found :=
  ⟨List.prefix_rfl, iff_of_true hcode .nil, fun _ => hfound⟩

end InspectOutcome

/-- The reports have the same fields up to the capacities. -/
structure InspectReport.SameCapacities (report report' : InspectReport) : Prop where
  inquiry : report'.inquiry = report.inquiry
  unitReady : report'.unitReady = report.unitReady
  capacity : report'.capacity = report.capacity
  formatCapacities : report'.formatCapacities = report.formatCapacities

/-- What the two MODE SENSE commands make of the report: the page in effect, with the
changeability of its fields taken from the mask, and the mask. -/
structure ModesFound (report : InspectReport) (current changeable : Execution) : Prop where
  current : ∃ parameters, current.Delivers parseModeParameters parameters ∧
    report.currentMode = { parameters with
      flexible := applyChangeability parameters.flexible report.changeableMode.flexible }
  changeable : changeable.Delivers parseModeParameters report.changeableMode

/-- The mode pages are looked at in their stages. -/
theorem inspectModes_outcome (h : Exec (inspectModes report) s t report' s') :
    InspectOutcome modeStages t report' (report.SameCapacities report' ∧
      ∃ current changeable, executions t = [current, changeable] ∧
        ModesFound report' current changeable) := by
  unfold inspectModes at h
  rw [exec_bind] at h
  obtain ⟨t₁, out₁, s₁, t₂, hcurrent, h, rfl⟩ := h
  -- the reply was refused, or did not parse, or fills in the report
  rcases inspectParsed_cases parseModeParameters_congr hcurrent with
    ⟨report₁, rfl, hcode, hfailed⟩ | ⟨current, e₁, rfl, hpassed₁, hdelivers₁⟩
  · rw [exec_pure] at h
    obtain ⟨rfl, rfl, rfl⟩ := h
    rw [List.append_nil]
    exact .stop hfailed hcode
  simp only [exec_bind] at h
  obtain ⟨t₂, out₂, s₂, t₃, hchangeable, h, rfl⟩ := h
  rcases inspectParsed_cases parseModeParameters_congr hchangeable with
    ⟨report₂, rfl, hcode, hfailed⟩ | ⟨changeable, e₂, rfl, hpassed₂, hdelivers₂⟩
  · rw [exec_pure] at h
    obtain ⟨rfl, rfl, rfl⟩ := h
    rw [List.append_nil]
    exact .after hpassed₁ (.stop hfailed hcode) id
  · rw [exec_pure] at h
    obtain ⟨rfl, rfl, rfl⟩ := h
    refine .after hpassed₁ (.after hpassed₂ (.done rfl trivial) id) fun _ => ?_
    refine ⟨⟨rfl, rfl, rfl, rfl⟩, e₁, e₂, ?_, ⟨current, hdelivers₁, rfl⟩, hdelivers₂⟩
    simp [hpassed₁.executions_eq, hpassed₂.executions_eq]

/-- What READ CAPACITY (10) and the commands after it make of the report. -/
structure CapacitiesFound (report : InspectReport)
    (capacity formats current changeable : Execution) : Prop
    extends ModesFound report current changeable where
  capacity : capacity.Delivers parseReadCapacity10 report.capacity
  formatCapacities : formats.Delivers parseFormatCapacities report.formatCapacities

/-- The capacities are looked at in their stages. -/
theorem inspectCapacities_outcome (h : Exec (inspectCapacities report) s t report' s') :
    InspectOutcome capacityStages t report'
      ((report'.inquiry = report.inquiry ∧ report'.unitReady = report.unitReady) ∧
        ∃ capacity formats current changeable,
          executions t = [capacity, formats, current, changeable] ∧
          CapacitiesFound report' capacity formats current changeable) := by
  unfold inspectCapacities at h
  rw [exec_bind] at h
  obtain ⟨t₁, out₁, s₁, t₂, hcapacity, h, rfl⟩ := h
  rcases inspectParsed_cases parseReadCapacity10_congr hcapacity with
    ⟨report₁, rfl, hcode, hfailed⟩ | ⟨capacity, e₁, rfl, hpassed₁, hdelivers₁⟩
  · rw [exec_pure] at h
    obtain ⟨rfl, rfl, rfl⟩ := h
    rw [List.append_nil]
    exact .stop hfailed hcode
  simp only [exec_bind] at h
  obtain ⟨t₂, out₂, s₂, t₃, hformats, h, rfl⟩ := h
  rcases inspectParsed_cases parseFormatCapacities_congr hformats with
    ⟨report₂, rfl, hcode, hfailed⟩ | ⟨formats, e₂, rfl, hpassed₂, hdelivers₂⟩
  · rw [exec_pure] at h
    obtain ⟨rfl, rfl, rfl⟩ := h
    rw [List.append_nil]
    exact .after hpassed₁ (.stop hfailed hcode) id
  · -- both answers were parsed, and the mode pages leave them in the report
    refine .after hpassed₁ (.after hpassed₂ (inspectModes_outcome h) id) fun hfound => ?_
    obtain ⟨hsame, e₃, e₄, hexecutions, hmodes⟩ := hfound
    refine ⟨⟨hsame.inquiry, hsame.unitReady⟩, e₁, e₂, e₃, e₄, ?_, hmodes, ?_, ?_⟩
    · simp [hpassed₁.executions_eq, hpassed₂.executions_eq, hexecutions]
    · exact hsame.capacity ▸ hdelivers₁
    · exact hsame.formatCapacities ▸ hdelivers₂

/-- The commands of an inspection that was completed, and what they make of the report. -/
structure InspectFound (report : InspectReport)
    (inquiry unit capacity formats current changeable : Execution) : Prop
    extends CapacitiesFound report capacity formats current changeable where
  inquiry : inquiry.Delivers parseInquiry report.inquiry
  unit : commandGood unit.reply.result = true
  unitReady : report.unitReady = true

/-- The unit is looked at in its stages. -/
theorem inspectUnit_outcome (h : Exec (inspectUnit report) s t report' s') :
    InspectOutcome unitStages t report' (report'.inquiry = report.inquiry ∧
      ∃ unit capacity formats current changeable,
        executions t = [unit, capacity, formats, current, changeable] ∧
        CapacitiesFound report' capacity formats current changeable ∧
        commandGood unit.reply.result = true ∧ report'.unitReady = true) := by
  unfold inspectUnit at h
  simp only [exec_bind, exec_ite, exec_pure] at h
  obtain ⟨t₁, reply, s₁, t₂, hcommand, h, rfl⟩ := h
  have hattempt : Attempt unitReadyCommand s t₁ reply s₁ := attempt_of_exec hcommand
  rcases h with ⟨hbad, rfl, rfl, rfl⟩ | ⟨hgood, h⟩
  · rw [List.append_nil]
    refine .stop ?_ (commandFailure_code_ne _ _)
    -- the command was not sent, or it was sent and failed
    rcases hattempt.steps_eq with ⟨hsteps, hexecutions, -⟩ | ⟨hsteps, hexecutions⟩
    · exact ⟨by simp [hsteps], by simp [hexecutions]⟩
    · refine ⟨by rw [hsteps]; exact List.prefix_rfl, fun e he => ?_⟩
      rw [hexecutions, List.mem_singleton] at he
      rw [he]
      intro hgood
      have hgood : commandGood reply.result = true := hgood
      simp [hgood] at hbad
  · have hgood : commandGood reply.result = true := by simpa using hgood
    rcases hattempt.steps_eq with ⟨-, -, hbad⟩ | ⟨hsteps, hexecutions⟩
    · simp [hgood] at hbad
    refine .after ⟨hsteps, hexecutions, hgood⟩ (inspectCapacities_outcome h) fun hfound => ?_
    obtain ⟨⟨hinquiry, hready⟩, e₃, e₄, e₅, e₆, hrest, hcapacities⟩ := hfound
    refine ⟨hinquiry, ⟨unitReadyCommand, reply⟩, e₃, e₄, e₅, e₆, ?_, hcapacities, hgood,
      hready⟩
    rw [executions_append, hexecutions, hrest]
    rfl

/-- The inspection of the controller goes through all stages. -/
theorem inspectController_outcome (h : Exec (inspectController report) s t report' s') :
    InspectOutcome inspectStages t report' (∃ inquiry unit capacity formats current changeable,
      executions t = [inquiry, unit, capacity, formats, current, changeable] ∧
      InspectFound report' inquiry unit capacity formats current changeable) := by
  unfold inspectController at h
  rw [exec_bind] at h
  obtain ⟨t₁, out₁, s₁, t₂, hinquiry, h, rfl⟩ := h
  rcases inspectParsed_cases parseInquiry_congr hinquiry with
    ⟨report₁, rfl, hcode, hfailed⟩ | ⟨inquiry, e₁, rfl, hpassed₁, hdelivers₁⟩
  · rw [exec_pure] at h
    obtain ⟨rfl, rfl, rfl⟩ := h
    rw [List.append_nil]
    exact .stop hfailed hcode
  · refine .after hpassed₁ (inspectUnit_outcome h) fun hfound => ?_
    obtain ⟨hsame, e₂, e₃, e₄, e₅, e₆, hexecutions, hcapacities, hgood, hready⟩ := hfound
    refine ⟨e₁, e₂, e₃, e₄, e₅, e₆, ?_, hcapacities, ?_, hgood, hready⟩
    · simp [hpassed₁.executions_eq, hexecutions]
    · exact hsame ▸ hdelivers₁

/-! ## Whole runs -/

/-- The transport was acquired. -/
def TransportAcquired (t : List WorkflowEvent) : Prop :=
  ∃ e ∈ t, stepOf e = some .acquire ∧ Passed e

/-- The transport was released, and that succeeded. -/
def TransportReleased (t : List WorkflowEvent) : Prop :=
  ∃ e ∈ t, stepOf e = some .release ∧ Passed e

/-- A run of the inspection and its report. -/
structure Inspected (report : InspectReport) (t : List WorkflowEvent) : Prop where
  /-- Nothing but the commands of the stages is sent, in their order. -/
  commands_isPrefix :
    (executions t).map (·.command.wire) <+: inspectStages.map (·.command.wire)
  not_dataOut : ∀ e ∈ executions t, e.command.direction ≠ .dataOut
  /-- The transport is released once if it was acquired, and never otherwise. -/
  released : TransportAcquired t ∧ (steps t).count .release = 1 ∨
    ¬ TransportAcquired t ∧ (steps t).count .release = 0
  code_iff : report.code = .ok ↔
    List.Forall₂ InspectStage.Accepts inspectStages (executions t) ∧ TransportReleased t
  found : report.code = .ok → ∃ inquiry unit capacity formats current changeable,
    executions t = [inquiry, unit, capacity, formats, current, changeable] ∧
      InspectFound report inquiry unit capacity formats current changeable

/-- The commands of a list of stages. -/
theorem filterMap_wire_stages (stages : List InspectStage) :
    (stages.map InspectStage.step).filterMap WorkflowStep.wire? =
      stages.map (·.command.wire) := by
  induction stages with
  | nil => rfl
  | cons stage stages ih => exact congrArg (stage.command.wire :: ·) ih

/-- No stage releases the transport. -/
theorem count_release_stages {l : List WorkflowStep} {stages : List InspectStage}
    (h : l <+: stages.map InspectStage.step) : l.count .release = 0 := by
  rw [List.count_eq_zero]
  intro hmem
  obtain ⟨stage, -, hstage⟩ := List.mem_map.1 (h.subset hmem)
  cases hstage

/-- No stage sends data. -/
theorem not_dataOut_of_stages {e : Execution}
    (h : e.command.wire ∈ inspectStages.map (·.command.wire)) : e.command.direction ≠ .dataOut := by
  have hall : ∀ wire ∈ inspectStages.map (·.command.wire), wire.direction ≠ .dataOut := by
    decide
  exact hall _ h

/-- The events around the body of an inspection that acquired the transport. -/
def aroundBody (s s₁ : Bool) (n : ℕ) (reply releaseReply : StatusReply)
    (body : List WorkflowEvent) : List WorkflowEvent :=
  ⟨s, .clearInterrupt, n⟩ :: ⟨false, .transport (.acquireExclusive Text.empty), reply⟩ ::
    (body ++ [⟨s₁, .transport (.releaseExclusive Text.empty), releaseReply⟩])

section AroundBody

variable {s₁ : Bool} {n : ℕ} {reply releaseReply : StatusReply} {body : List WorkflowEvent}

/-- The commands of an inspection are those of its body. -/
theorem executions_aroundBody :
    executions (aroundBody s s₁ n reply releaseReply body) = executions body := by
  show executions (body ++ [_]) = executions body
  rw [executions_append]
  exact List.append_nil _

/-- The body stands between the acquisition and the release. -/
theorem steps_aroundBody :
    steps (aroundBody s s₁ n reply releaseReply body) = .acquire :: (steps body ++ [.release]) := by
  show .acquire :: steps (body ++ [_]) = _
  rw [steps_append]
  rfl

/-- The transport was released when the last reply says so. -/
theorem transportReleased_aroundBody_iff (hbody : (steps body).count .release = 0) :
    TransportReleased (aroundBody s s₁ n reply releaseReply body) ↔ releaseReply.status = .ok := by
  constructor
  · rintro ⟨e, he, hstep, hpassed⟩
    simp only [aroundBody, List.mem_cons, List.mem_append, List.not_mem_nil, or_false] at he
    rcases he with rfl | rfl | he | rfl
    · cases hstep
    · cases hstep
    · exact absurd (List.mem_filterMap.2 ⟨e, he, hstep⟩) (List.count_eq_zero.1 hbody)
    · exact hpassed
  · intro hok
    exact ⟨⟨s₁, .transport (.releaseExclusive Text.empty), releaseReply⟩, by simp [aroundBody],
      rfl, hok⟩

/-- A run that acquired the transport. The release decides only whether a good code is kept. -/
theorem inspected_of_body (hacquired : reply.status = .ok)
    (houtcome : InspectOutcome inspectStages body report
      (∃ inquiry unit capacity formats current changeable,
        executions body = [inquiry, unit, capacity, formats, current, changeable] ∧
        InspectFound report inquiry unit capacity formats current changeable))
    (hkept : releaseReply.status = .ok → report' = report)
    (hlost : releaseReply.status ≠ .ok → report'.code ≠ .ok) :
    Inspected report' (aroundBody s s₁ n reply releaseReply body) := by
  -- the commands are a prefix of the stages, none of which sends data
  have hstart : (executions body).map (·.command.wire) <+:
      inspectStages.map (·.command.wire) := by
    rw [executions_wire, ← filterMap_wire_stages]
    exact houtcome.steps_isPrefix.filterMap _
  have hcount := count_release_stages houtcome.steps_isPrefix
  refine ⟨?_, ?_, .inl ⟨?_, ?_⟩, ?_, fun hok => ?_⟩
  · rwa [executions_aroundBody]
  · rw [executions_aroundBody]
    exact fun e he => not_dataOut_of_stages (hstart.subset (List.mem_map_of_mem he))
  · exact ⟨⟨false, .transport (.acquireExclusive Text.empty), reply⟩, by simp [aroundBody], rfl,
      hacquired⟩
  · simp [steps_aroundBody, hcount]
  · rw [transportReleased_aroundBody_iff hcount, executions_aroundBody]
    by_cases hok : releaseReply.status = .ok
    · rw [hkept hok, houtcome.code_iff, and_iff_left hok]
    · exact iff_of_false (hlost hok) fun h => hok h.2
  · by_cases hreleased : releaseReply.status = .ok
    · obtain rfl := hkept hreleased
      rw [executions_aroundBody]
      exact houtcome.found hok
    · exact absurd hok (hlost hreleased)

end AroundBody

/-- Every execution of `m65_inspect` has the properties of an inspection. -/
theorem inspected_of_exec {trace : List WorkflowEvent} (h : Exec inspect s trace report s') :
    Inspected report trace := by
  unfold inspect acquireExclusive releaseExclusive at h
  simp only [exec_bind, exec_clearInterrupted, exec_call, exec_ite, exec_pure] at h
  obtain ⟨_, _, _, _, ⟨n, rfl, rfl⟩, ⟨_, reply, _, _, ⟨rfl, rfl⟩, h, rfl⟩, rfl⟩ := h
  -- a refused acquisition ends the inspection with the code of its status
  rcases h with ⟨hrefused, rfl, rfl, rfl⟩ | ⟨hacquired, h⟩
  · have hcode : codeForTransport reply.status ≠ .ok := by
      cases hstatus : reply.status <;> simp_all [codeForTransport]
    refine ⟨List.nil_prefix, by simp [executions, executionOf], .inr ⟨?_, rfl⟩, ?_,
      fun hok => absurd hok hcode⟩
    · rintro ⟨e, he, hstep, hpassed⟩
      simp only [List.append_nil, List.singleton_append, List.mem_cons, List.not_mem_nil,
        or_false] at he
      rcases he with rfl | rfl
      · cases hstep
      · exact hrefused hpassed
    · refine iff_of_false hcode ?_
      rintro ⟨-, e, he, hstep, -⟩
      simp only [List.append_nil, List.singleton_append, List.mem_cons, List.not_mem_nil,
        or_false] at he
      rcases he with rfl | rfl <;> cases hstep
  · have hacquired : reply.status = .ok := of_not_not hacquired
    obtain ⟨body, report₁, s₁, _, hbody, ⟨_, releaseReply, s₂, _, ⟨rfl, rfl⟩, h, rfl⟩, rfl⟩ := h
    have houtcome := inspectController_outcome hbody
    -- the failure of the release replaces an OK, and no other code
    rcases h with ⟨hlost, rfl, rfl, rfl⟩ | ⟨hkept, rfl, rfl, rfl⟩
    · refine inspected_of_body hacquired houtcome (fun hok => absurd hok hlost) fun _ => ?_
      by_cases hcode : report₁.code = .ok
      · cases hstatus : releaseReply.status <;> simp_all [codeForTransport]
      · simp [hcode]
    · exact inspected_of_body hacquired houtcome (fun _ => rfl) fun hlost => absurd hlost hkept

/-- The inspection sends its six commands in order, releases what it acquired, and returns OK
exactly when every command and the release succeeded. -/
theorem inspect_inspected {s : Bool} (r : Run inspect s) : Inspected r.result r.trace :=
  inspected_of_exec r.exec

/-! ## A device with changeable fields -/

/-- A MODE SENSE response whose page has `value` in every byte after its header. -/
def modeResponse (value : UInt8) : List UInt8 :=
  [0, 38, 0, 0, 0, 0, 0, 0, 0x05, 0x1e] ++ List.replicate 30 value

/-- Every stage accepts its answer; the one to TEST UNIT READY claims to have transferred a byte. -/
def changeableRun : Run inspect false :=
  inspect.replay (answering [List.replicate 36 0, [0], List.replicate 8 0, List.replicate 4 0,
    modeResponse 0, modeResponse 0xff]) false

/-- The inspection is good although a command without data transferred some, and the parameters of
the page in effect are not what the parser made of the response. -/
theorem changeableRun_unfaithful :
    ¬ (∀ r : Run inspect false, r.result.code = .ok →
        ∀ e ∈ executions r.trace, e.reply.result.transferred ≤ e.command.dataLength) ∧
      ¬ ∀ r : Run inspect false, r.result.code = .ok → ∃ e ∈ executions r.trace,
        parseModeParameters e.transferredBytes e.reply.result.transferred =
          .ok r.result.currentMode := by
  have hok : changeableRun.result.code = .ok := by decide +kernel
  constructor
  · intro hfits
    exact absurd (hfits changeableRun hok) (by decide +kernel)
  · intro hparsed
    obtain ⟨e, he, hparse⟩ := hparsed changeableRun hok
    -- the parser marks no field as changeable
    have hnone : ∀ e ∈ executions changeableRun.trace,
        (parseModeParameters e.transferredBytes e.reply.result.transferred).toOption.map
          (·.flexible.fieldChangeable .heads) ≠ some true := by decide +kernel
    have hheads : changeableRun.result.currentMode.flexible.fieldChangeable .heads = true := by
      decide +kernel
    exact hnone e he (by rw [hparse]; exact congrArg some hheads)

end M65
