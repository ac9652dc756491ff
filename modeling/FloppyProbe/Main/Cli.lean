import FloppyProbe.Types

/-!
# The command line

`m65_cli_parse` of `src/cli.c`. `argv` starts with the name of the program. The buffer for the
error text is the one of `main`.
-/

namespace M65

/-- `M65CliCommand`. -/
inductive CliCommand where
  | list
  | inspect
  | test1581
deriving DecidableEq

/-- `M65CliOptions`; a pointer that is NULL is nothing. -/
structure CliOptions where
  command : CliCommand := .list
  device : Option CString := none
  output : Option CString := none
  json : Bool := false
  acknowledgement : Bool := false
deriving DecidableEq

/-- `set_once`: an option may be given once only. -/
def setOnce (destination : Option CString) (value : CString) (option : String) :
    Except ErrorText (Option CString) :=
  if destination.isSome then
    .error (Text.format [str option, str " was specified more than once"])
  else
    .ok (some value)

/-- The loop of `m65_cli_parse` over the words behind the command. -/
def parseWords : List CString → CliOptions → Except ErrorText CliOptions
  | [], options => .ok options
  | word :: words, options =>
      if word.bytes = str "--json" then
        if options.json then
          .error (errorText "--json was specified more than once")
        else
          parseWords words { options with json := true }
      else if word.bytes = str "--ack-temporary-controller-change" then
        if options.acknowledgement then
          .error (errorText "acknowledgement flag was specified more than once")
        else
          parseWords words { options with acknowledgement := true }
      else if word.bytes = str "--device" then
        match words with
        | [] => .error (errorText "--device requires a BSD name")
        -- whatever follows the option is its value, a word with dashes too
        | value :: words =>
            match setOnce options.device value "--device" with
            | .error detail => .error detail
            | .ok device => parseWords words { options with device := device }
      else if word.bytes = str "--output" then
        match words with
        | [] => .error (errorText "--output requires a file path")
        | value :: words =>
            match setOnce options.output value "--output" with
            | .error detail => .error detail
            | .ok output => parseWords words { options with output := output }
      else
        .error (Text.format [str "unknown option: ", word.bytes])

/-- The checks after the loop. -/
def checkOptions (options : CliOptions) : Except ErrorText CliOptions :=
  -- each command says which of the options it does not take
  if options.command = .list then
    if options.device.isSome || options.output.isSome || options.acknowledgement then
      .error (errorText "list accepts only the optional --json flag")
    else
      .ok options
  else if options.device.isNone then
    .error (Text.format [str (if options.command = .inspect then "inspect" else "test-1581"),
      str " requires --device <bsd-name>"])
  else if options.command = .inspect then
    if options.output.isSome || options.acknowledgement then
      .error (errorText "inspect does not accept --output or the acknowledgement flag")
    else
      .ok options
  else if !options.acknowledgement then
    .error (errorText "test-1581 requires --ack-temporary-controller-change")
  else
    .ok options

/-- The command that a word stands for. -/
def commandOf (word : CString) : Option CliCommand :=
  if word.bytes = str "list" then some .list
  else if word.bytes = str "inspect" then some .inspect
  else if word.bytes = str "test-1581" then some .test1581
  else none

/-- `m65_cli_parse`: a command, then its options in any order. -/
def cliParse : List CString → Except ErrorText CliOptions
  | _ :: word :: words =>
      match commandOf word with
      | none => .error (Text.format [str "unknown command: ", word.bytes])
      | some command =>
          match parseWords words { command := command } with
          | .error detail => .error detail
          | .ok options => checkOptions options
  | _ => .error (errorText "missing command")

end M65
