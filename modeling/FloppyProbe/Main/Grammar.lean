import FloppyProbe.Main.ExitStatus

/-!
# The grammar of the command line

The words behind the command read from left to right as option groups, and a group of an option
with a value is two words, whatever the second one looks like. A command line is accepted when it
reads as groups of different options that the command allows; the options then hold what the
groups say, in any order.
-/

namespace M65

/-- An option of the command line. -/
inductive CliOption where
  | json
  | acknowledgement
  | device
  | output
deriving DecidableEq

/-- An option with its value. -/
inductive OptionGroup where
  | json
  | acknowledgement
  | device (value : CString)
  | output (value : CString)

/-- The word of an option. -/
def CliOption.word : CliOption → CString
  | .json => CString.lit "--json"
  | .acknowledgement => CString.lit "--ack-temporary-controller-change"
  | .device => CString.lit "--device"
  | .output => CString.lit "--output"

namespace OptionGroup

/-- The option that a group gives. -/
def option : OptionGroup → CliOption
  | .json => .json
  | .acknowledgement => .acknowledgement
  | .device _ => .device
  | .output _ => .output

/-- The words of a group. -/
def words : OptionGroup → List CString
  | .json => [CliOption.json.word]
  | .acknowledgement => [CliOption.acknowledgement.word]
  | .device value => [CliOption.device.word, value]
  | .output value => [CliOption.output.word, value]

/-- The options after the group. -/
def add (options : CliOptions) : OptionGroup → CliOptions
  | .json => { options with json := true }
  | .acknowledgement => { options with acknowledgement := true }
  | .device value => { options with device := some value }
  | .output value => { options with output := some value }

end OptionGroup

/-- The option was given. -/
def CliOptions.has (options : CliOptions) : CliOption → Bool
  | .json => options.json
  | .acknowledgement => options.acknowledgement
  | .device => options.device.isSome
  | .output => options.output.isSome

/-- What a command demands of the options. -/
def CliCommand.Allows (given : CliOption → Prop) : CliCommand → Prop
  | .list => ¬given .device ∧ ¬given .output ∧ ¬given .acknowledgement
  | .inspect => given .device ∧ ¬given .output ∧ ¬given .acknowledgement
  | .test1581 => given .device ∧ given .acknowledgement

variable {options out : CliOptions} {group : OptionGroup} {groups : List OptionGroup}
  {words : List CString}

/-! ## One group -/

/-- A word is a literal when it has the bytes of the literal. -/
theorem CString.eq_lit_iff {word : CString} {literal : String}
    (h : (CString.lit literal).bytes = str literal) :
    word = CString.lit literal ↔ word.bytes = str literal := by
  rw [← h]
  constructor
  · exact congrArg CString.bytes
  · intro heq
    cases word
    cases heq
    rfl

/-- After a group its option was given, and the others as before. -/
theorem has_add (options : CliOptions) (group : OptionGroup) (option : CliOption) :
    (group.add options).has option = (options.has option || decide (group.option = option)) := by
  cases group <;> cases option <;> simp [OptionGroup.add, CliOptions.has, OptionGroup.option]

/-- A group does not change the command. -/
@[simp]
theorem command_add (options : CliOptions) (group : OptionGroup) :
    (group.add options).command = options.command := by
  cases group <;> rfl

/-- A group of an option that was not given yet is added. -/
theorem parseWords_add (h : options.has group.option = false) (words : List CString) :
    parseWords (group.words ++ words) options = parseWords words (group.add options) := by
  -- in the order in which the loop compares a word with the options
  cases group with
  | json =>
    have hfree : ¬options.json = true := ne_true_of_eq_false h
    rw [OptionGroup.words, List.singleton_append, parseWords.eq_def]
    simp only
    rw [if_pos (by decide), if_neg hfree]
    rfl
  | acknowledgement =>
    have hfree : ¬options.acknowledgement = true := ne_true_of_eq_false h
    rw [OptionGroup.words, List.singleton_append, parseWords.eq_def]
    simp only
    rw [if_neg (by decide), if_pos (by decide), if_neg hfree]
    rfl
  | device value =>
    have hfree : setOnce options.device value "--device" = .ok (some value) :=
      if_neg (ne_true_of_eq_false h)
    rw [OptionGroup.words, List.cons_append, List.singleton_append, parseWords.eq_def]
    simp only
    rw [if_neg (by decide), if_neg (by decide), if_pos (by decide), hfree]
    rfl
  | output value =>
    have hfree : setOnce options.output value "--output" = .ok (some value) :=
      if_neg (ne_true_of_eq_false h)
    rw [OptionGroup.words, List.cons_append, List.singleton_append, parseWords.eq_def]
    simp only
    rw [if_neg (by decide), if_neg (by decide), if_neg (by decide), if_pos (by decide), hfree]
    rfl

/-! ## The words behind the command -/

/-- Different options, none of which was given before. -/
structure Fresh (options : CliOptions) (groups : List OptionGroup) : Prop where
  nodup : (groups.map OptionGroup.option).Nodup
  free : ∀ group ∈ groups, options.has group.option = false

/-- A fresh list of groups is one after the other fresh. -/
theorem fresh_cons : Fresh options (group :: groups) ↔
    options.has group.option = false ∧ Fresh (group.add options) groups := by
  constructor
  · rintro ⟨hnodup, hfree⟩
    rw [List.map_cons, List.nodup_cons] at hnodup
    refine ⟨hfree group List.mem_cons_self, hnodup.2, fun later hlater => ?_⟩
    have hdifferent : group.option ≠ later.option := fun heq =>
      hnodup.1 (heq ▸ List.mem_map_of_mem hlater)
    rw [has_add, hfree later (List.mem_cons_of_mem _ hlater), decide_eq_false hdifferent]
    rfl
  · rintro ⟨hfirst, hnodup, hfree⟩
    have hlater : ∀ later ∈ groups, options.has later.option = false ∧
        group.option ≠ later.option := by
      intro later hlater
      have hadd := hfree later hlater
      rwa [has_add, Bool.or_eq_false_iff, decide_eq_false_iff_not] at hadd
    refine ⟨List.nodup_cons.2 ⟨fun hmem => ?_, hnodup⟩, List.forall_mem_cons.2
      ⟨hfirst, fun later hmem => (hlater later hmem).1⟩⟩
    obtain ⟨later, hmem, heq⟩ := List.mem_map.1 hmem
    exact (hlater later hmem).2 heq.symm

/-- The words are those of new groups, which lead from the options to `out`. -/
def ReadsTo (options : CliOptions) (words : List CString) (out : CliOptions) : Prop :=
  ∃ groups, words = groups.flatMap OptionGroup.words ∧ Fresh options groups ∧
    out = groups.foldl OptionGroup.add options

/-- Words may begin with a group of an option that was not given yet. -/
theorem ReadsTo.add (group : OptionGroup) (hfree : options.has group.option = false)
    (h : ReadsTo (group.add options) words out) : ReadsTo options (group.words ++ words) out := by
  obtain ⟨groups, rfl, hfresh, rfl⟩ := h
  exact ⟨group :: groups, rfl, fresh_cons.2 ⟨hfree, hfresh⟩, rfl⟩

/-- `set_once` takes a value only where there is none. -/
theorem setOnce_eq_ok {destination stored : Option CString} {value : CString} {option : String}
    (h : setOnce destination value option = .ok stored) :
    destination.isSome = false ∧ stored = some value := by
  unfold setOnce at h
  split at h
  case isTrue => cases h
  case isFalse hfree => exact ⟨eq_false_of_ne_true hfree, (Except.ok.inj h).symm⟩

/-- What the loop accepts is a list of fresh groups. -/
theorem readsTo_of_parseWords (h : parseWords words options = .ok out) :
    ReadsTo options words out := by
  fun_induction parseWords words options with
  | case1 options =>
    obtain rfl := Except.ok.inj h
    exact ⟨[], rfl, ⟨List.nodup_nil, by simp⟩, rfl⟩
  | case3 options word words hword hfree ih =>
    obtain rfl := (@CString.eq_lit_iff _ "--json" (by decide)).2 hword
    exact .add .json (eq_false_of_ne_true hfree) (ih h)
  | case5 options word words _ hword hfree ih =>
    obtain rfl := (@CString.eq_lit_iff _ "--ack-temporary-controller-change" (by decide)).2 hword
    exact .add .acknowledgement (eq_false_of_ne_true hfree) (ih h)
  | case8 word options _ _ hword value words device hset ih =>
    obtain rfl := (@CString.eq_lit_iff _ "--device" (by decide)).2 hword
    obtain ⟨hfree, rfl⟩ := setOnce_eq_ok hset
    exact .add (.device value) hfree (ih h)
  | case11 word options _ _ _ hword value words output hset ih =>
    obtain rfl := (@CString.eq_lit_iff _ "--output" (by decide)).2 hword
    obtain ⟨hfree, rfl⟩ := setOnce_eq_ok hset
    exact .add (.output value) hfree (ih h)
  | _ => cases h

/-- A list of fresh groups is accepted by the loop. -/
theorem parseWords_of_readsTo (h : ReadsTo options words out) :
    parseWords words options = .ok out := by
  obtain ⟨groups, rfl, hfresh, rfl⟩ := h
  induction groups generalizing options with
  | nil => rfl
  | cons group groups ih =>
    obtain ⟨hfree, hfresh⟩ := fresh_cons.1 hfresh
    rw [List.flatMap_cons, parseWords_add hfree, ih hfresh]
    rfl

/-- The loop accepts exactly the lists of fresh groups. -/
theorem parseWords_eq_ok_iff : parseWords words options = .ok out ↔ ReadsTo options words out :=
  ⟨readsTo_of_parseWords, parseWords_of_readsTo⟩

/-! ## The options -/

/-- After some groups exactly their options were given, and those from before. -/
theorem has_foldl (options : CliOptions) (groups : List OptionGroup) (option : CliOption) :
    (groups.foldl OptionGroup.add options).has option = true ↔
      options.has option = true ∨ option ∈ groups.map OptionGroup.option := by
  induction groups generalizing options with
  | nil => simp
  | cons group groups ih =>
    rw [List.foldl_cons, ih, has_add, Bool.or_eq_true, decide_eq_true_iff, List.map_cons,
      List.mem_cons, or_assoc, eq_comm (a := group.option)]

/-- Groups do not change the command. -/
theorem command_foldl (options : CliOptions) (groups : List OptionGroup) :
    (groups.foldl OptionGroup.add options).command = options.command := by
  induction groups generalizing options with
  | nil => rfl
  | cons group groups ih => rw [List.foldl_cons, ih, command_add]

/-- The options hold what the groups say. -/
structure Given (command : CliCommand) (groups : List OptionGroup) (options : CliOptions) :
    Prop where
  command_eq : options.command = command
  json_iff : options.json = true ↔ .json ∈ groups
  acknowledgement_iff : options.acknowledgement = true ↔ .acknowledgement ∈ groups
  device_iff : ∀ value, options.device = some value ↔ .device value ∈ groups
  output_iff : ∀ value, options.output = some value ↔ .output value ∈ groups

/-- Options that hold the same groups are the same. -/
theorem Given.unique {command : CliCommand} {groups' : List OptionGroup}
    (h : Given command groups options) (h' : Given command groups' out)
    (hsame : ∀ group, group ∈ groups ↔ group ∈ groups') : options = out := by
  have hjson : options.json = out.json :=
    Bool.eq_iff_iff.2 (h.json_iff.trans ((hsame _).trans h'.json_iff.symm))
  have hacknowledgement : options.acknowledgement = out.acknowledgement :=
    Bool.eq_iff_iff.2
      (h.acknowledgement_iff.trans ((hsame _).trans h'.acknowledgement_iff.symm))
  have hdevice : options.device = out.device := Option.ext fun value =>
    (h.device_iff value).trans ((hsame _).trans (h'.device_iff value).symm)
  have houtput : options.output = out.output := Option.ext fun value =>
    (h.output_iff value).trans ((hsame _).trans (h'.output_iff value).symm)
  have hcommand := h.command_eq.trans h'.command_eq.symm
  cases options
  cases out
  simp only [CliOptions.mk.injEq]
  exact ⟨hcommand, hdevice, houtput, hjson, hacknowledgement⟩

/-- The device after a group is that of the group, or the one before. -/
theorem device_add (hfree : options.has group.option = false) (value : CString) :
    (group.add options).device = some value ↔
      options.device = some value ∨ group = .device value := by
  cases group with
  | device given =>
    have hnone : options.device = none := by simpa [CliOptions.has, OptionGroup.option] using hfree
    simp [OptionGroup.add, hnone]
  | json | acknowledgement | output => simp [OptionGroup.add]

/-- The output after a group is that of the group, or the one before. -/
theorem output_add (hfree : options.has group.option = false) (value : CString) :
    (group.add options).output = some value ↔
      options.output = some value ∨ group = .output value := by
  cases group with
  | output given =>
    have hnone : options.output = none := by simpa [CliOptions.has, OptionGroup.option] using hfree
    simp [OptionGroup.add, hnone]
  | json | acknowledgement | device => simp [OptionGroup.add]

/-- The values after fresh groups are those that the groups give, or those before. -/
theorem values_foldl (hfresh : Fresh options groups) (value : CString) :
    ((groups.foldl OptionGroup.add options).device = some value ↔
      options.device = some value ∨ .device value ∈ groups) ∧
    ((groups.foldl OptionGroup.add options).output = some value ↔
      options.output = some value ∨ .output value ∈ groups) := by
  induction groups generalizing options with
  | nil => simp
  | cons group groups ih =>
    obtain ⟨hfree, hfresh⟩ := fresh_cons.1 hfresh
    obtain ⟨hdevice, houtput⟩ := ih hfresh
    rw [List.foldl_cons, hdevice, houtput, device_add hfree, output_add hfree, List.mem_cons,
      List.mem_cons, or_assoc, or_assoc, eq_comm (a := group), eq_comm (a := group)]
    exact ⟨Iff.rfl, Iff.rfl⟩

/-- `--json` is an option of the groups when it is one of them. -/
theorem json_mem_options : .json ∈ groups.map OptionGroup.option ↔ .json ∈ groups := by
  rw [List.mem_map]
  constructor
  · rintro ⟨group, hmem, heq⟩
    cases group <;> first | exact hmem | cases heq
  · exact fun hmem => ⟨_, hmem, rfl⟩

/-- The acknowledgement is an option of the groups when it is one of them. -/
theorem acknowledgement_mem_options :
    .acknowledgement ∈ groups.map OptionGroup.option ↔ .acknowledgement ∈ groups := by
  rw [List.mem_map]
  constructor
  · rintro ⟨group, hmem, heq⟩
    cases group <;> first | exact hmem | cases heq
  · exact fun hmem => ⟨_, hmem, rfl⟩

/-- The options after fresh groups hold what the groups say. -/
theorem given_foldl {command : CliCommand} (hfresh : Fresh { command } groups) :
    Given command groups (groups.foldl OptionGroup.add { command }) := by
  have hjson := has_foldl { command } groups .json
  have hacknowledgement := has_foldl { command } groups .acknowledgement
  refine ⟨command_foldl _ _, ?_, ?_, fun value => ?_, fun value => ?_⟩
  · rw [json_mem_options] at hjson
    exact hjson.trans (or_iff_right nofun)
  · rw [acknowledgement_mem_options] at hacknowledgement
    exact hacknowledgement.trans (or_iff_right nofun)
  · rw [(values_foldl hfresh value).1]
    simp
  · rw [(values_foldl hfresh value).2]
    simp

/-- A check that is passed gives the result behind it. -/
theorem ite_error_eq_ok {c : Prop} [Decidable c] {detail : ErrorText}
    {result : Except ErrorText CliOptions} :
    (if c then .error detail else result) = .ok out ↔ ¬c ∧ result = .ok out := by
  by_cases h : c <;> simp [h]

/-- An accepted result is the result itself. -/
theorem ok_eq_ok_iff :
    (Except.ok options : Except ErrorText CliOptions) = .ok out ↔ out = options :=
  ⟨fun h => (Except.ok.inj h).symm, fun h => congrArg _ h.symm⟩

/-- What is not absent is there. -/
theorem not_isNone_iff {value : Option CString} : ¬value.isNone = true ↔ value.isSome = true := by
  cases value <;> simp

/-- The checks change nothing, and pass what the command allows. -/
theorem checkOptions_eq_ok_iff : checkOptions options = .ok out ↔
    out = options ∧ options.command.Allows fun option => options.has option = true := by
  unfold checkOptions CliCommand.Allows
  cases options.command with
  | list =>
    simp only [if_true, ite_error_eq_ok, ok_eq_ok_iff, Bool.or_eq_true, not_or, CliOptions.has]
    rw [and_comm, and_assoc]
  | inspect =>
    simp only [reduceCtorEq, if_true, if_false, ite_error_eq_ok, ok_eq_ok_iff, Bool.or_eq_true,
      not_or, not_isNone_iff, CliOptions.has]
    rw [← and_assoc, and_comm]
  | test1581 =>
    simp only [reduceCtorEq, if_false, ite_error_eq_ok, ok_eq_ok_iff, not_isNone_iff,
      Bool.not_eq_true', Bool.not_eq_false, CliOptions.has]
    rw [← and_assoc, and_comm]

/-! ## Command lines -/

/-- The word for a command. -/
def CliCommand.word : CliCommand → CString
  | .list => CString.lit "list"
  | .inspect => CString.lit "inspect"
  | .test1581 => CString.lit "test-1581"

/-- The command line of some groups. -/
def commandLine (name : CString) (command : CliCommand) (groups : List OptionGroup) :
    List CString :=
  name :: command.word :: groups.flatMap OptionGroup.words

/-- Each option is given at most once, and the command allows them. -/
structure Acceptable (command : CliCommand) (groups : List OptionGroup) : Prop where
  nodup : (groups.map OptionGroup.option).Nodup
  allowed : command.Allows (· ∈ groups.map OptionGroup.option)

/-- The word of a command is read as the command. -/
theorem commandOf_word (command : CliCommand) : commandOf command.word = some command := by
  cases command <;> decide

/-- Only its own word is read as a command. -/
theorem eq_word_of_commandOf {word : CString} {command : CliCommand}
    (h : commandOf word = some command) : word = command.word := by
  unfold commandOf at h
  split at h
  case isTrue hword =>
    obtain rfl := Option.some.inj h
    exact (CString.eq_lit_iff (by decide)).2 hword
  case isFalse =>
    split at h
    case isTrue hword =>
      obtain rfl := Option.some.inj h
      exact (CString.eq_lit_iff (by decide)).2 hword
    case isFalse =>
      split at h
      case isTrue hword =>
        obtain rfl := Option.some.inj h
        exact (CString.eq_lit_iff (by decide)).2 hword
      case isFalse => cases h

/-- The demands of a command are about the options of the groups. -/
theorem allows_foldl {command : CliCommand} (groups : List OptionGroup) :
    command.Allows (fun option =>
      (groups.foldl OptionGroup.add { command }).has option = true) ↔
      command.Allows (· ∈ groups.map OptionGroup.option) := by
  have hgiven : ∀ option, (groups.foldl OptionGroup.add { command }).has option = true ↔
      option ∈ groups.map OptionGroup.option := fun option =>
    (has_foldl _ _ _).trans (or_iff_right (by cases option <;> nofun))
  unfold CliCommand.Allows
  cases command <;> simp only [hgiven]

/-- Acceptable groups are fresh before the first option. -/
theorem Acceptable.fresh {command : CliCommand} (h : Acceptable command groups) :
    Fresh { command } groups :=
  ⟨h.nodup, fun group _ => by cases group <;> rfl⟩

/-- The parser accepts exactly the command lines of acceptable groups. -/
theorem cliParse_eq_ok_iff {argv : List CString} : cliParse argv = .ok out ↔
    ∃ name command groups, argv = commandLine name command groups ∧ Acceptable command groups ∧
      out = groups.foldl OptionGroup.add { command } := by
  constructor
  · intro h
    -- what was accepted is read back from the branches that reached the end
    unfold cliParse at h
    split at h
    case h_2 => cases h
    case h_1 name word words =>
      split at h
      case h_1 => cases h
      case h_2 command hcommand =>
        split at h
        case h_1 => cases h
        case h_2 options hwords =>
          obtain ⟨groups, rfl, hfresh, rfl⟩ := parseWords_eq_ok_iff.1 hwords
          obtain ⟨rfl, hallows⟩ := checkOptions_eq_ok_iff.1 h
          rw [command_foldl, allows_foldl] at hallows
          obtain rfl := eq_word_of_commandOf hcommand
          exact ⟨name, command, groups, rfl, ⟨hfresh.nodup, hallows⟩, rfl⟩
  · rintro ⟨name, command, groups, rfl, hacceptable, rfl⟩
    -- a fresh group is never a repeated option, so the loop takes each of them
    have hwords : parseWords (groups.flatMap OptionGroup.words) { command } =
        .ok (groups.foldl OptionGroup.add { command }) :=
      parseWords_of_readsTo ⟨groups, rfl, hacceptable.fresh, rfl⟩
    have hchecked : checkOptions (groups.foldl OptionGroup.add { command }) =
        .ok (groups.foldl OptionGroup.add { command }) := by
      rw [checkOptions_eq_ok_iff, command_foldl, allows_foldl]
      exact ⟨rfl, hacceptable.allowed⟩
    simp only [cliParse, commandLine, commandOf_word, hwords, hchecked]

/-- Different options have different words. -/
theorem CliOption.word_injective : Function.Injective CliOption.word := by
  intro option option' h
  cases option <;> cases option' <;> first | rfl | exact absurd h (by decide)

/-- Different commands have different words. -/
theorem CliCommand.word_injective : Function.Injective CliCommand.word := by
  intro command command' h
  cases command <;> cases command' <;> first | rfl | exact absurd h (by decide)

/-- Words read in one way. -/
theorem flatMap_words_injective {groups' : List OptionGroup}
    (h : groups.flatMap OptionGroup.words = groups'.flatMap OptionGroup.words) :
    groups = groups' := by
  induction groups generalizing groups' with
  | nil =>
    cases groups' with
    | nil => rfl
    | cons group' groups' => cases group' <;> cases h
  | cons group groups ih =>
    cases groups' with
    | nil => cases group <;> cases h
    | cons group' groups' =>
      -- the first word of a group tells which option it is
      have hword : ∀ group : OptionGroup, ∀ groups : List OptionGroup,
          ((group :: groups).flatMap OptionGroup.words).head? = some group.option.word := by
        rintro (_ | _ | _ | _) groups <;> rfl
      have hoption : group.option = group'.option := by
        have hhead := congrArg List.head? h
        rw [hword, hword] at hhead
        exact CliOption.word_injective (Option.some.inj hhead)
      have htail := congrArg List.tail h
      rw [List.flatMap_cons, List.flatMap_cons] at htail
      -- then the groups have the same length, and a value is the second word
      cases group with
      | json =>
        cases group' <;> first | exact congrArg _ (ih htail) | cases hoption
      | acknowledgement =>
        cases group' <;> first | exact congrArg _ (ih htail) | cases hoption
      | device value =>
        cases group' with
        | device value' =>
          obtain ⟨rfl, hrest⟩ := List.cons.inj htail
          exact congrArg _ (ih hrest)
        | json | acknowledgement | output => cases hoption
      | output value =>
        cases group' with
        | output value' =>
          obtain ⟨rfl, hrest⟩ := List.cons.inj htail
          exact congrArg _ (ih hrest)
        | json | acknowledgement | device => cases hoption

/-- A command line has one reading only. -/
theorem commandLine_injective {name name' : CString} {command command' : CliCommand}
    {groups' : List OptionGroup}
    (h : commandLine name command groups = commandLine name' command' groups') :
    command = command' ∧ groups = groups' := by
  obtain ⟨-, h⟩ := List.cons.inj h
  obtain ⟨hcommand, hgroups⟩ := List.cons.inj h
  exact ⟨CliCommand.word_injective hcommand, flatMap_words_injective hgroups⟩

/-- The order of the options does not matter. -/
theorem Acceptable.perm {command : CliCommand} {groups' : List OptionGroup}
    (h : Acceptable command groups) (hperm : groups'.Perm groups) :
    Acceptable command groups' := by
  have hoptions := hperm.map OptionGroup.option
  refine ⟨hoptions.nodup_iff.2 h.nodup, ?_⟩
  have hallowed := h.allowed
  unfold CliCommand.Allows at hallowed ⊢
  simpa only [hoptions.mem_iff] using hallowed

/-- An accepted command line has acceptable groups, and the options are what they say. -/
theorem cliParse_commandLine {name : CString} {command : CliCommand}
    (h : cliParse (commandLine name command groups) = .ok options) :
    Acceptable command groups ∧ options = groups.foldl OptionGroup.add { command } := by
  obtain ⟨name', command', groups', hargv, hacceptable, rfl⟩ := cliParse_eq_ok_iff.1 h
  obtain ⟨rfl, rfl⟩ := commandLine_injective hargv
  exact ⟨hacceptable, rfl⟩

/-! ## The grammar -/

/-- What `m65_cli_parse` makes of a command line. -/
structure ParsesGrammar (argv : List CString) (out : Except ErrorText CliOptions) : Prop where
  ok_iff : (∃ options, out = .ok options) ↔
    ∃ name command groups, argv = commandLine name command groups ∧ Acceptable command groups
  given : ∀ options, out = .ok options → ∀ name command groups,
    argv = commandLine name command groups → Given command groups options
  permuted : ∀ options, out = .ok options → ∀ name command groups groups',
    argv = commandLine name command groups → groups'.Perm groups →
    cliParse (commandLine name command groups') = .ok options
  told : ∀ detail, out = .error detail → detail.bytes ≠ []

/-- The command line has a grammar, and its option groups may come in any order. -/
theorem cliParse_parsesGrammar (argv : List CString) : ParsesGrammar argv (cliParse argv) := by
  refine ⟨⟨?_, ?_⟩, ?_, ?_, cliParse_telling argv⟩
  · rintro ⟨options, h⟩
    obtain ⟨name, command, groups, hargv, hacceptable, -⟩ := cliParse_eq_ok_iff.1 h
    exact ⟨name, command, groups, hargv, hacceptable⟩
  · rintro ⟨name, command, groups, hargv, hacceptable⟩
    exact ⟨_, cliParse_eq_ok_iff.2 ⟨name, command, groups, hargv, hacceptable, rfl⟩⟩
  · rintro options h name command groups rfl
    obtain ⟨hacceptable, rfl⟩ := cliParse_commandLine h
    exact given_foldl hacceptable.fresh
  · rintro options h name command groups groups' rfl hperm
    obtain ⟨hacceptable, rfl⟩ := cliParse_commandLine h
    have hacceptable' := hacceptable.perm hperm
    have hgiven := given_foldl hacceptable.fresh
    have hgiven' := given_foldl hacceptable'.fresh
    rw [hgiven.unique hgiven' fun group => hperm.mem_iff.symm]
    exact cliParse_eq_ok_iff.2 ⟨name, command, groups', rfl, hacceptable', rfl⟩

end M65
