import Mathlib.Algebra.Group.Int.Defs
import FloppyProbe.Output.JsonRefinement

/-!
# Documents written by any sequence of calls

Any sequence of calls, with any allocator, leaves a writer that has failed or one that
represents the document built by the calls that returned true. So a writer that finishes holds
the text of exactly one value. Conversely, the calls of a value that is at most 16 containers
deep all succeed while the allocator does not refuse and the text stays below `2 ^ 63` bytes.
-/

namespace M65

open JsonText

/-! ## Runs -/

/-- `m65_json_init` and the given calls. -/
def jsonSession (allocator : Allocator) (calls : List JsonCall) : List (JsonCall × Bool) × Json :=
  jsonCalls allocator calls (jsonInit allocator).2

/-- The events of the calls that returned true. -/
def written (replies : List (JsonCall × Bool)) : List Token :=
  replies.filterMap fun (call, ok) => if ok then call.token else none

/-- The tokens of two runs come one after the other. -/
theorem written_append (first second : List (JsonCall × Bool)) :
    written (first ++ second) = written first ++ written second :=
  List.filterMap_append

variable {allocator : Allocator}

/-- `m65_json_init` begins an empty document, or fails. -/
theorem jsonInit_cases (allocator : Allocator) :
    Represents (jsonInit allocator).2 .empty ∨ (jsonInit allocator).2.failed = true := by
  by_cases hgrant : allocator.grants 0 = true
  · left
    simp only [jsonInit, if_pos hgrant]
    have hlength : (store (allocator.block 0 256 []) 0 [0]).length = 256 := by
      rw [length_store (by simp), Allocator.length_block]
    exact ⟨⟨rfl, rfl, ⟨8, by decide, by decide, rfl⟩, _, rfl, hlength, _, rfl⟩, List.not_mem_nil,
      rfl, rfl, Nat.zero_le _⟩
  · right
    simp [jsonInit, hgrant]

/-- One call, seen from outside. -/
theorem exec_cases (allocator : Allocator) {json : Json} {document : Document}
    (h : Represents json document) (call : JsonCall) :
    (call.exec allocator json).2.failed = true ∧ (call.exec allocator json).1 = false ∨
      ∃ next, Represents (call.exec allocator json).2 next ∧
        next.tokens = document.tokens ++ written [(call, (call.exec allocator json).1)] := by
  cases htoken : call.token with
  | none =>
    right
    rw [exec_of_token_none htoken]
    exact ⟨document, h, by simp [written]⟩
  | some token =>
    rcases exec_pushes allocator h call htoken with
      ⟨next, hpush, hok, hnext⟩ | ⟨hrefused, hfailed | ⟨hsame, -⟩, -⟩
    · right
      exact ⟨next, hnext, by simp [Document.push_tokens hpush, written, hok, htoken]⟩
    · exact .inl ⟨hfailed, hrefused⟩
    · right
      rw [hsame, hrefused]
      exact ⟨document, h, by simp [written]⟩

/-- Once the writer has failed, it keeps its text through all later calls. -/
theorem jsonCalls_frozen {json : Json} (h : json.failed = true) (calls : List JsonCall) :
    Frozen json (jsonCalls allocator calls json).2 := by
  induction calls generalizing json with
  | nil => exact .refl h
  | cons call calls ih =>
    have hfreezes : Freezes (call.exec allocator) := freezes_exec call
    obtain ⟨-, hfrozen⟩ := hfreezes json h
    exact hfrozen.trans (ih hfrozen.failed)

/-- A failed writer stays failed. -/
theorem jsonCalls_of_failed {json : Json} (h : json.failed = true) (calls : List JsonCall) :
    (jsonCalls allocator calls json).2.failed = true :=
  (jsonCalls_frozen h calls).failed

/-- Calls leave a writer that has failed, or the document of those that returned true. -/
theorem jsonCalls_cases (allocator : Allocator) {json : Json} {document : Document}
    (h : Represents json document) (calls : List JsonCall) :
    (jsonCalls allocator calls json).2.failed = true ∨
      ∃ next, Represents (jsonCalls allocator calls json).2 next ∧
        next.tokens = document.tokens ++ written (jsonCalls allocator calls json).1 := by
  induction calls generalizing json document with
  | nil => exact .inr ⟨document, h, by simp [jsonCalls, written]⟩
  | cons call calls ih =>
    rcases exec_cases allocator h call with ⟨hfailed, -⟩ | ⟨next, hnext, htokens⟩
    · exact .inl (jsonCalls_of_failed hfailed calls)
    · rcases ih hnext with hfailed | ⟨last, hlast, hlastTokens⟩
      · exact .inl hfailed
      · right
        refine ⟨last, hlast, ?_⟩
        rw [hlastTokens, htokens, List.append_assoc]
        exact congrArg (document.tokens ++ ·) (written_append [_] _).symm

/-- A writer that finishes has one complete value. -/
theorem Represents.eq_done {json : Json} {document : Document} (h : Represents json document)
    (hfinish : jsonFinish json = true) : ∃ value, document = .done value := by
  have hroot := h.rootWritten
  have hlevels := h.levels
  simp only [jsonFinish, Bool.and_eq_true, List.isEmpty_iff] at hfinish
  cases document with
  | empty => simp [hfinish.1.2, documentStarted] at hroot
  | building frame outer => simp [hfinish.2, documentLevels] at hlevels
  | done value => exact ⟨value, rfl⟩

/-- A finished document is the rendered value. -/
theorem Represents.finish {json : Json} {value : Tree} (h : Represents json (.done value)) :
    jsonFinish json = true ∧ (jsonData json).bytes = value.render := by
  refine ⟨?_, h.holds.data_eq h.noNul⟩
  simp [jsonFinish, h.holds.working, h.rootWritten, h.levels, documentStarted, documentLevels]

/-- The calls give the value, from left to right. -/
def Emits (calls : List JsonCall) (value : Tree) : Prop :=
  calls.map JsonCall.token = value.tokens.map some

/-- Calls that give a value all succeed, and build it, unless the writer fails. -/
theorem jsonCalls_emits {limit : ℕ} {calls : List JsonCall} {tokens : List Token}
    (htokens : calls.map JsonCall.token = tokens.map some) {json : Json}
    {document last : Document} (h : Represents json document)
    (hlast : document.pushesWithin limit tokens = some last) :
    (jsonCalls allocator calls json).2.failed = true ∨
      Represents (jsonCalls allocator calls json).2 last := by
  induction calls generalizing tokens json document with
  | nil =>
    obtain rfl := List.map_eq_nil_iff.1 htokens.symm
    obtain rfl := Option.some.inj hlast
    exact .inr h
  | cons call calls ih =>
    cases tokens with
    | nil => cases htokens
    | cons token tokens =>
      obtain ⟨htoken, hrest⟩ := List.cons.inj htokens
      obtain ⟨next, hpush, -, hbuilds⟩ := Document.pushesWithin_cons_eq_some hlast
      -- one call took the token, failed for good, or met a token that is not allowed
      rcases exec_pushes allocator h call htoken with
        ⟨next', hpush', hok, hnext⟩ | ⟨-, hfailed | ⟨-, hnone⟩, -⟩
      · obtain rfl := Option.some.inj (hpush.symm.trans hpush')
        exact ih hrest hnext hbuilds
      · exact .inl (jsonCalls_of_failed hfailed calls)
      · simp [hpush] at hnone

/-- Calls that give a value all succeed while there is memory, and build it. -/
theorem jsonCalls_of_pushesWithin (hgenerous : allocator.Generous) {calls : List JsonCall}
    {tokens : List Token} (htokens : calls.map JsonCall.token = tokens.map some) {json : Json}
    {document last : Document} (h : Represents json document)
    (hlast : document.pushesWithin jsonMaxDepth tokens = some last)
    (hfits : last.text.length < 2 ^ 63) :
    (∀ reply ∈ (jsonCalls allocator calls json).1, reply.2 = true) ∧
      Represents (jsonCalls allocator calls json).2 last := by
  induction calls generalizing tokens json document with
  | nil =>
    obtain rfl := List.map_eq_nil_iff.1 htokens.symm
    obtain rfl := Option.some.inj hlast
    exact ⟨by simp [jsonCalls], h⟩
  | cons call calls ih =>
    cases tokens with
    | nil => cases htokens
    | cons token tokens =>
      obtain ⟨htoken, hrest⟩ := List.cons.inj htokens
      obtain ⟨next, hpush, hdepth, hbuilds⟩ := Document.pushesWithin_cons_eq_some hlast
      rcases exec_pushes allocator h call htoken with
        ⟨next', hpush', hok, hnext⟩ | ⟨-, -, hlarge⟩
      -- either the call did what the document does, or the text is too long for a writer
      · obtain rfl := Option.some.inj (hpush.symm.trans hpush')
        obtain ⟨hall, hlast⟩ := ih hrest hnext hbuilds
        refine ⟨?_, hlast⟩
        intro reply hreply
        rcases List.mem_cons.1 hreply with rfl | hreply
        · exact hok
        · exact hall reply hreply
      · have hle := Document.length_text_le hbuilds
        have hlong := hlarge next hpush hdepth hgenerous
        omega

/-! ## Values that can be written -/

/-- The strings of the event have no zero byte, and its number fits into 64 bits. -/
def WritableToken : Token → Prop
  | .key name => 0 ∉ name
  | .scalar (.string value) => 0 ∉ value
  | .scalar (.number value) => -2 ^ 63 ≤ value ∧ value < 2 ^ 64
  | _ => True

/-- The calls of the writer can give the value. -/
def Writable (value : Tree) : Prop := ∀ token ∈ value.tokens, WritableToken token

/-- There is a call for every writable token. -/
theorem exists_call {token : Token} (h : WritableToken token) :
    ∃ call : JsonCall, call.token = some token := by
  cases token with
  | beginObject => exact ⟨.beginObject, rfl⟩
  | endObject => exact ⟨.endObject, rfl⟩
  | beginArray => exact ⟨.beginArray, rfl⟩
  | endArray => exact ⟨.endArray, rfl⟩
  | key name => exact ⟨.key (some ⟨name, h⟩), rfl⟩
  | scalar value =>
    cases value with
    | null => exact ⟨.null, rfl⟩
    | bool value => exact ⟨.bool value, rfl⟩
    | string value => exact ⟨.string (some ⟨value, h⟩), rfl⟩
    | number value =>
      obtain ⟨hlow, hhigh⟩ := h
      by_cases hnegative : value < 0
      · refine ⟨.int (Int64.ofInt value), ?_⟩
        rw [JsonCall.token, Int64.toInt_ofInt_of_le (by omega) (by omega)]
      · refine ⟨.uint (UInt64.ofNat value.toNat), ?_⟩
        rw [JsonCall.token, UInt64.toNat_ofNat_of_lt' (show value.toNat < 2 ^ 64 by omega),
          Int.toNat_of_nonneg (by omega)]

/-- There are calls for every writable value. -/
theorem exists_emits {value : Tree} (h : Writable value) : ∃ calls, Emits calls value := by
  have hall : ∀ tokens : List Token, (∀ token ∈ tokens, WritableToken token) →
      ∃ calls : List JsonCall, calls.map JsonCall.token = tokens.map some := by
    intro tokens
    induction tokens with
    | nil => exact fun _ => ⟨[], rfl⟩
    | cons token tokens ih =>
      intro hwritable
      obtain ⟨call, hcall⟩ := exists_call (hwritable token (by simp))
      obtain ⟨calls, hcalls⟩ := ih fun token htoken => hwritable token (by simp [htoken])
      exact ⟨call :: calls, by simp [hcall, hcalls]⟩
  exact hall value.tokens h

/-! ## The writer -/

/-- A session that finishes holds the text of the value given by the calls that returned true. -/
theorem jsonSession_sound {calls : List JsonCall}
    (hfinish : jsonFinish (jsonSession allocator calls).2 = true) :
    ∃ value : Tree, value.tokens = written (jsonSession allocator calls).1 ∧
      (jsonData (jsonSession allocator calls).2).bytes = value.render ∧
      value.render.length < 2 ^ 63 := by
  have hworking : ¬(jsonSession allocator calls).2.failed = true := by
    intro hfailed
    simp [jsonFinish, hfailed] at hfinish
  rcases jsonInit_cases allocator with hinit | hfailed
  · rcases jsonCalls_cases allocator hinit calls with hfailed | ⟨last, hlast, htokens⟩
    · exact absurd hfailed hworking
    · obtain ⟨value, rfl⟩ := hlast.eq_done hfinish
      have hlength := hlast.holds.length_lt
      have hcapacity := hlast.holds.doubled.le
      exact ⟨value, htokens, hlast.finish.2, Nat.lt_of_lt_of_le hlength hcapacity⟩
  · exact absurd (jsonCalls_of_failed hfailed calls) hworking

/-- A session that finishes after the calls of a value holds the text of this value. -/
theorem jsonSession_emits {calls : List JsonCall} {value : Tree} (hcalls : Emits calls value)
    (hfinish : jsonFinish (jsonSession allocator calls).2 = true) :
    (jsonData (jsonSession allocator calls).2).bytes = value.render := by
  have hworking : ¬(jsonSession allocator calls).2.failed = true := by
    intro hfailed
    simp [jsonFinish, hfailed] at hfinish
  have hplaces : Document.empty.places = some [] := rfl
  have hbuilds := Document.pushesWithin_tokens value hplaces
    (show ([] : List Outer).length + value.nesting ≤ value.nesting by simp)
  rcases jsonInit_cases allocator with hinit | hfailed
  · rcases jsonCalls_emits hcalls hinit hbuilds with hfailed | hlast
    · exact absurd hfailed hworking
    · exact hlast.finish.2
  · exact absurd (jsonCalls_of_failed hfailed calls) hworking

/-- With a generous allocator a value that is not nested too deeply and fits the memory is
written. -/
theorem jsonSession_complete (hgenerous : allocator.Generous) {value : Tree}
    (hnesting : value.nesting ≤ jsonMaxDepth) (hfits : value.render.length < 2 ^ 63)
    {calls : List JsonCall} (hcalls : Emits calls value) :
    (∀ reply ∈ (jsonSession allocator calls).1, reply.2 = true) ∧
      jsonFinish (jsonSession allocator calls).2 = true ∧
      (jsonData (jsonSession allocator calls).2).bytes = value.render := by
  have hplaces : Document.empty.places = some [] := rfl
  have hbuilds := Document.pushesWithin_tokens value hplaces
    (show ([] : List Outer).length + value.nesting ≤ jsonMaxDepth by simpa using hnesting)
  rcases jsonInit_cases allocator with hinit | hfailed
  · obtain ⟨hall, hlast⟩ := jsonCalls_of_pushesWithin hgenerous hcalls hinit hbuilds hfits
    exact ⟨hall, hlast.finish⟩
  · simp [jsonInit, hgenerous 0] at hfailed

/-- Every call is answered. -/
theorem map_fst_jsonCalls (calls : List JsonCall) (json : Json) :
    (jsonCalls allocator calls json).1.map Prod.fst = calls := by
  induction calls generalizing json with
  | nil => rfl
  | cons call calls ih => exact congrArg (call :: ·) (ih _)

/-- Calls that all succeed write their tokens. -/
theorem written_of_ok {replies : List (JsonCall × Bool)} {tokens : List Token}
    (hok : ∀ reply ∈ replies, reply.2 = true)
    (htokens : (replies.map Prod.fst).map JsonCall.token = tokens.map some) :
    written replies = tokens := by
  induction replies generalizing tokens with
  | nil => exact (List.map_eq_nil_iff.1 htokens.symm).symm
  | cons reply replies ih =>
    cases tokens with
    | nil => cases htokens
    | cons token tokens =>
      obtain ⟨htoken, hrest⟩ := List.cons.inj htokens
      have hfirst : written [reply] = [token] := by
        simp [written, hok reply (by simp), htoken]
      calc written (reply :: replies)
        _ = written [reply] ++ written replies := written_append [reply] replies
        _ = token :: tokens := by
          rw [hfirst, ih (fun reply hreply => hok reply (by simp [hreply])) hrest]
          rfl

/-- A text of `2 ^ 63` bytes does not fit into any buffer of the writer. -/
theorem jsonSession_long {value : Tree} (hlong : 2 ^ 63 ≤ value.render.length)
    {calls : List JsonCall} (hcalls : Emits calls value) :
    ¬((∀ reply ∈ (jsonSession allocator calls).1, reply.2 = true) ∧
      jsonFinish (jsonSession allocator calls).2 = true) := by
  rintro ⟨hall, hfinish⟩
  obtain ⟨built, htokens, -, hlength⟩ := jsonSession_sound hfinish
  have hwritten : written (jsonSession allocator calls).1 = value.tokens :=
    written_of_ok hall (by rw [jsonSession, map_fst_jsonCalls, hcalls])
  have heq : built = value := Tree.tokens_injective (htokens.trans hwritten)
  subst heq
  omega

/-- A value written by the calls of a session is read back from its text. -/
theorem jsonSession_sound_complete (allocator : Allocator) :
    (∀ calls, jsonFinish (jsonSession allocator calls).2 = true →
      ∃ value : Tree, value.tokens = written (jsonSession allocator calls).1 ∧
        parse (jsonData (jsonSession allocator calls).2).bytes = some value) ∧
    (allocator.Generous → ∀ value : Tree, value.nesting ≤ jsonMaxDepth → Writable value →
      value.render.length < 2 ^ 63 →
      (∃ calls, Emits calls value) ∧ ∀ calls, Emits calls value →
        (∀ reply ∈ (jsonSession allocator calls).1, reply.2 = true) ∧
        jsonFinish (jsonSession allocator calls).2 = true ∧
        parse (jsonData (jsonSession allocator calls).2).bytes = some value) := by
  refine ⟨fun calls hfinish => ?_, fun hgenerous value hnesting hwritable hfits => ?_⟩
  · obtain ⟨value, htokens, hdata, -⟩ := jsonSession_sound hfinish
    exact ⟨value, htokens, by rw [hdata, parse_render]⟩
  · refine ⟨exists_emits hwritable, fun calls hcalls => ?_⟩
    obtain ⟨hall, hfinish, hdata⟩ := jsonSession_complete hgenerous hnesting hfits hcalls
    exact ⟨hall, hfinish, by rw [hdata, parse_render]⟩

/-- An allocator that never refuses, and clears its blocks. -/
def generousAllocator : Allocator := ⟨fun _ => true, fun _ _ => 0⟩

/-- `{"a":[1,null]}` -/
def smallDocument : Tree := .object [([0x61], .array [.scalar (.number 1), .scalar .null])]

/-- A small document is written and read back. -/
theorem smallDocument_written : ∃ calls, Emits calls smallDocument ∧
    jsonFinish (jsonSession generousAllocator calls).2 = true ∧
    parse (jsonData (jsonSession generousAllocator calls).2).bytes = some smallDocument := by
  have hwritable : Writable smallDocument := by
    intro token htoken
    simp only [smallDocument, Tree.tokens, membersTokens, elementsTokens, List.mem_cons,
      List.mem_append, List.not_mem_nil, or_false] at htoken
    rcases htoken with rfl | (rfl | (rfl | (rfl | rfl) | rfl)) | rfl <;> simp [WritableToken]
  obtain ⟨⟨calls, hcalls⟩, hall⟩ := (jsonSession_sound_complete generousAllocator).2
    (fun _ => rfl) smallDocument (by decide) hwritable (by decide)
  exact ⟨calls, hcalls, (hall calls hcalls).2⟩

/-! ## A string too long for the writer -/

/-- A letter is quoted as itself. -/
theorem length_quote_replicate (n : ℕ) : (quote (List.replicate n 0x61)).length = n + 2 := by
  have hescape : escape 0x61 = [0x61] := by decide
  induction n with
  | zero => rfl
  | succ n ih =>
    simp only [quote, List.length_cons, List.length_append, List.length_nil] at ih ⊢
    rw [List.replicate_succ, List.flatMap_cons, hescape, List.length_append]
    simp only [List.length_cons, List.length_nil]
    omega

/-- A string of `n` letters. -/
def letters (n : ℕ) : CString where
  bytes := List.replicate n 0x61
  noNul h := by cases List.eq_of_mem_replicate h

/-- The array that holds this string four times. -/
def lettersArray (n : ℕ) : Tree :=
  .array (List.replicate 4 (.scalar (.string (letters n).bytes)))

/-- The calls that write it, all with the same string. -/
def lettersCalls (n : ℕ) : List JsonCall :=
  .beginArray :: (List.replicate 4 (.string (some (letters n))) ++ [.endArray])

/-- The tokens of the array. -/
theorem lettersArray_tokens (n : ℕ) : (lettersArray n).tokens =
    .beginArray :: (List.replicate 4 (.scalar (.string (letters n).bytes)) ++ [.endArray]) := rfl

/-- The array can be written. -/
theorem lettersArray_writable (n : ℕ) : Writable (lettersArray n) := by
  intro token htoken
  simp only [lettersArray_tokens, List.mem_cons, List.mem_append, List.mem_replicate,
    List.not_mem_nil, or_false] at htoken
  rcases htoken with rfl | ⟨-, rfl⟩ | rfl
  · trivial
  · exact (letters n).noNul
  · trivial

/-- The calls give the array. -/
theorem lettersCalls_emits (n : ℕ) : Emits (lettersCalls n) (lettersArray n) := rfl

/-- The length of the array as it is rendered. -/
theorem length_render_lettersArray (n : ℕ) : (lettersArray n).render.length = 4 * n + 13 := by
  have hlength := length_quote_replicate n
  simp only [lettersArray, Tree.render, List.replicate, elementsText, Scalar.render, letters,
    List.tail_cons, List.length_append, List.length_cons, List.length_nil] at hlength ⊢
  omega

/-- Where every request for memory succeeds, the array of a string of `2 ^ 61` letters cannot be
written, although the string and the buffer fit into memory side by side. -/
theorem letters_refused :
    generousAllocator.Generous ∧ (lettersArray (2 ^ 61)).nesting ≤ jsonMaxDepth ∧
      Writable (lettersArray (2 ^ 61)) ∧ Emits (lettersCalls (2 ^ 61)) (lettersArray (2 ^ 61)) ∧
      ¬((∀ reply ∈ (jsonSession generousAllocator (lettersCalls (2 ^ 61))).1, reply.2 = true) ∧
        jsonFinish (jsonSession generousAllocator (lettersCalls (2 ^ 61))).2 = true) := by
  have hemits := lettersCalls_emits (2 ^ 61)
  have hnesting : (lettersArray (2 ^ 61)).nesting = 1 := rfl
  refine ⟨fun _ => rfl, hnesting ▸ by decide, lettersArray_writable _, hemits,
    jsonSession_long ?_ hemits⟩
  rw [length_render_lettersArray]
  omega

end M65
