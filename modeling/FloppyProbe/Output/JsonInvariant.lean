import FloppyProbe.Output.JsonFollows
import FloppyProbe.Output.JsonRuns

/-!
# The representation invariant of the JSON writer

After any calls the writer has failed, or its length is below its capacity with a terminator there;
growing ends without wrapping around, and a writer that has failed keeps its bytes
(`jsonMachine_invariant`).
-/

namespace M65

open BoundedLoop

variable {allocator : Allocator} {writer : JsonMachine} {json : Json}

/-! ## The statement -/

/-- The text is terminated inside of its block, and the containers fit their array. -/
structure WellFormed (writer : JsonMachine) : Prop where
  length_lt : writer.length < writer.capacity
  terminated : ∃ block, writer.data = some block ∧ block.length = writer.capacity.toNat ∧
    block[writer.length.toNat]? = some 0
  depth_le : writer.depth ≤ UInt64.ofNat jsonMaxDepth

/-- What `reserve` owes to a writer that has not failed, for any number of further bytes. -/
structure MakesRoom (allocator : Allocator) (writer : JsonMachine) : Prop where
  /-- The loop ends, and a capacity that it leaves with is large enough. -/
  loop (required : SizeT) : ∃ result,
    run (doublingBody required) doublingRounds writer.capacity = some result ∧
      ∀ capacity ∈ result, required ≤ capacity
  /-- There is room for the bytes and a terminator, or the writer has failed. -/
  room (extra : SizeT) : ∃ ok writer', reserveMachine allocator extra writer = some (ok, writer') ∧
    if ok then writer.length.toNat + extra.toNat + 1 ≤ writer'.capacity.toNat
    else writer'.failed = true

/-- The given calls leave a failed writer with the bytes it has. -/
def KeepsBytes (allocator : Allocator) (writer : JsonMachine) (later : List JsonCall) : Prop :=
  ∃ replies writer', jsonCallsMachine allocator later writer = some (replies, writer') ∧
    writer'.failed = true ∧ writer'.length = writer.length ∧ writer'.data = writer.data

/-! ## Runs -/

/-- A list of calls follows the writer of unbounded arithmetic. -/
theorem Mirrors.calls (h : Mirrors writer json) (calls : List JsonCall) :
    ∃ writer', jsonCallsMachine allocator calls writer =
        some ((jsonCalls allocator calls json).1, writer') ∧
      Mirrors writer' (jsonCalls allocator calls json).2 := by
  induction calls generalizing writer json with
  | nil => exact ⟨writer, rfl, h⟩
  | cons call calls ih =>
    obtain ⟨writer₁, heq, h₁⟩ := follows_exec call writer json h
    obtain ⟨writer₂, heq', h₂⟩ := ih h₁
    refine ⟨writer₂, ?_, h₂⟩
    simp [jsonCallsMachine, jsonCalls, heq, heq']

/-- `m65_json_init` follows the writer of unbounded arithmetic. -/
theorem mirrors_jsonInit (allocator : Allocator) :
    ∃ writer, jsonInitMachine allocator = some ((jsonInit allocator).1, writer) ∧
      Mirrors writer (jsonInit allocator).2 := by
  have husable : (jsonInit allocator).2.failed = true ∨
      ∃ text, Holds (jsonInit allocator).2 text :=
    (jsonInit_cases allocator).symm.imp_right fun h => ⟨_, h.holds⟩
  by_cases hgrant : allocator.grants 0 = true
  · simp only [jsonInit, if_pos hgrant] at husable ⊢
    -- the first block has 256 cells, so the terminator stays inside
    have hstore : storeInside (allocator.block 0 256 []) 0 [0] =
        some (store (allocator.block 0 256 []) 0 [0]) := by
      refine if_pos ?_
      rw [Allocator.length_block]
      decide
    refine ⟨{ data := some (store (allocator.block 0 256 []) 0 [0]), capacity := 256,
              requests := 1 }, ?_, rfl, rfl, rfl, rfl, Nat.zero_le _, ?_, ?_, rfl, rfl, rfl,
              husable⟩
    · simp only [jsonInitMachine, if_pos hgrant, hstore, Option.bind_eq_bind, Option.bind_some]
      rfl
    · exact fun level outer hsuffix => absurd hsuffix (by simp)
    · simp
  · simp only [jsonInit, if_neg hgrant]
    refine ⟨{ capacity := 256, requests := 1, failed := true }, ?_, rfl, rfl, rfl, rfl,
      Nat.zero_le _, ?_, ?_, rfl, rfl, rfl, .inl rfl⟩
    · simp only [jsonInitMachine, if_neg hgrant, JsonMachine.fail]
    · exact fun level outer hsuffix => absurd hsuffix (by simp)
    · simp

/-- After any calls, both writers stand at the same place. -/
theorem mirrors_jsonSession (allocator : Allocator) (calls : List JsonCall) :
    ∃ writer, jsonSessionMachine allocator calls =
        some ((jsonSession allocator calls).1, writer) ∧
      Mirrors writer (jsonSession allocator calls).2 := by
  obtain ⟨writer₁, heq, h₁⟩ := mirrors_jsonInit allocator
  obtain ⟨writer₂, heq', h₂⟩ := h₁.calls calls
  refine ⟨writer₂, ?_, h₂⟩
  simp [jsonSessionMachine, jsonSession, heq, heq']

/-! ## The invariant -/

/-- A working machine is well formed. -/
theorem Mirrors.wellFormed (h : Mirrors writer json) {text : List UInt8}
    (hholds : Holds json text) : WellFormed writer := by
  have hlength := h.length
  have hcapacity := h.capacity
  have htext := hholds.length_eq
  constructor
  · rw [UInt64.lt_iff_toNat_lt, hlength, hcapacity, htext]
    exact hholds.length_lt
  · obtain ⟨block, hdata, hblock, rest, rfl⟩ := hholds.block
    refine ⟨_, h.data.trans hdata, hblock.trans hcapacity.symm, ?_⟩
    rw [hlength, htext]
    simp
  · rw [UInt64.le_iff_toNat_le, h.depth]
    exact h.depth_le

/-- A working machine makes room, or fails. -/
theorem Mirrors.makesRoom (h : Mirrors writer json) {text : List UInt8} (hholds : Holds json text) :
    MakesRoom allocator writer where
  loop required := by
    have hdoubled : Doubled writer.capacity.toNat := h.capacity.symm ▸ hholds.doubled
    obtain ⟨result, hrun, hresult⟩ := run_doubling hdoubled required
    refine ⟨result, hrun, fun capacity hcapacity => ?_⟩
    -- the capacity is doubled until it is enough, or the doubling overflows
    rcases newCapacity_cases _ required.toNat hdoubled with ⟨capacity', heq, -, -, hle⟩ | ⟨heq, -⟩
    · rw [hcapacity, Option.map_some, heq] at hresult
      rw [UInt64.le_iff_toNat_le, Option.some.inj hresult]
      exact hle
    · rw [hcapacity, heq] at hresult
      cases hresult
  room extra := by
    have hfollows : Mimics (reserveMachine allocator extra) (reserve allocator extra.toNat) :=
      follows_reserve extra
    obtain ⟨writer', heq, hmirrors⟩ := hfollows writer json h
    refine ⟨_, writer', heq, ?_⟩
    rw [h.length, hmirrors.capacity, hmirrors.failed]
    have hcases : (∃ json', reserve allocator extra.toNat json = (true, json') ∧ _) ∨ _ :=
      reserve_cases hholds extra.toNat
    rcases hcases with ⟨json', heq', -, hroom, -⟩ | hfailed
    · rw [heq', if_pos rfl, hholds.length_eq]
      exact hroom
    · rw [hfailed.refused]
      exact hfailed.failed

/-- A failed machine keeps its bytes. -/
theorem Mirrors.keepsBytes (h : Mirrors writer json) (hfailed : writer.failed = true)
    (later : List JsonCall) : KeepsBytes allocator writer later := by
  have hcalls : ∃ writer', jsonCallsMachine allocator later writer =
      some ((jsonCalls allocator later json).1, writer') ∧ Mirrors writer' _ := h.calls later
  have hfrozen : Frozen json (jsonCalls allocator later json).2 :=
    jsonCalls_frozen (h.failed.symm.trans hfailed) later
  obtain ⟨writer', heq, hmirrors⟩ := hcalls
  obtain ⟨hstill, hlength, hdata⟩ := hfrozen
  refine ⟨_, writer', heq, hmirrors.failed.trans hstill, ?_, ?_⟩
  · rw [← UInt64.toNat_inj, hmirrors.length, hlength, h.length]
  · rw [hmirrors.data, hdata, h.data]

/-- After any calls, whatever the allocator refuses, the writer has failed or its text is terminated
inside of its block, with at most 16 containers open; there the loop of `reserve` ends with a
capacity that is large enough, or fails the writer. A failed writer keeps its bytes. -/
theorem jsonMachine_invariant (allocator : Allocator) (calls : List JsonCall) :
    ∃ replies writer, jsonSessionMachine allocator calls = some (replies, writer) ∧
      (writer.failed = true ∨ WellFormed writer ∧ MakesRoom allocator writer) ∧
      (writer.failed = true → ∀ later, KeepsBytes allocator writer later) := by
  obtain ⟨writer, heq, hmirrors⟩ := mirrors_jsonSession allocator calls
  refine ⟨_, writer, heq, ?_, hmirrors.keepsBytes⟩
  rcases hmirrors.usable with hfailed | ⟨text, hholds⟩
  · exact .inl (hmirrors.failed.trans hfailed)
  · exact .inr ⟨hmirrors.wellFormed hholds, hmirrors.makesRoom hholds⟩

end M65
