/-
# Arguments — the command line and what it asks for

A command line is options of the program, the name of a command, and the options and operands of
that command, among which options of the program may stand as well.  An option has a value behind
an equals sign or in the next argument; after two hyphens everything is an operand.

`Invocation.parse` reads arguments from left to right and stops at the first that is wrong, or
that asks for the version or for help.
-/
import Courier.Send.Error
import Courier.Text.Blank

namespace Courier.Cli

/-! ## What is asked for -/

/-- The body of a message on the command line. -/
structure Body where
  text : Option String
  template : Option String
  /-- Variables of the template, in their order. -/
  bindings : List (String × String)
  deriving DecidableEq, Repr

/-- What the program is asked to do. -/
inductive Command where
  | check
  | classify (number : String) (role : Role)
  | sendSms (recipients : List String) (sender : Option String) (body : Body)
  | sendEmail (recipients : List String) (subject sender : Option String) (body : Body)
  deriving DecidableEq, Repr

/-- A command and the options of the program. -/
structure Invocation where
  config : Option String
  dryRun : Bool
  logDirectory : Option String
  command : Command
  deriving DecidableEq, Repr

/-- What a command line asks for. -/
inductive Asked where
  | help
  | version
  | run (i : Invocation)
  deriving DecidableEq, Repr

/-- Why a command line cannot be read. -/
inductive UsageError where
  | unexpected (argument : String)
  | noValue (option : String)
  | badValue (option value : String)
  | repeated (option : String)
  | unneededValue (option : String)
  | noCommand
  | missing (what : String)
  | conflict (first second : String)
  deriving DecidableEq, Repr

/-- The wording of a usage error. -/
def UsageError.message : UsageError → String
  | .unexpected argument => "unexpected argument '" ++ argument ++ "' found"
  | .noValue option => "a value is required for '--" ++ option ++ "' but none was supplied"
  | .badValue option value => "invalid value '" ++ value ++ "' for '--" ++ option ++ "'"
  | .repeated option => "the argument '--" ++ option ++ "' cannot be used multiple times"
  | .unneededValue option => "unexpected value for '--" ++ option ++ "' found"
  | .noCommand => "a subcommand is required but one was not provided"
  | .missing what => "the required argument " ++ what ++ " was not provided"
  | .conflict first second =>
    "the argument '--" ++ first ++ "' cannot be used with '--" ++ second ++ "'"

/-- What is printed for the version. -/
def versionText : String := "herald 0.1.0\n"

/-- What is printed for help. -/
def helpText : String :=
  "Usage: herald [OPTIONS] <COMMAND>\n\nCommands:\n"
    ++ "  check\n  classify [--role <ROLE>] <NUMBER>\n"
    ++ "  send-sms --to <TO> [--from <FROM>] <BODY>\n"
    ++ "  send-email --to <TO> [--subject <SUBJECT>] [--from <FROM>] <BODY>\n\n"
    ++ "Body:\n  --text <TEXT>\n  --template <TEMPLATE> [--var <KEY=VALUE>]\n\n"
    ++ "Options:\n  --config <CONFIG>\n  --dry-run\n  --log-dir <LOG_DIR>\n"

/-! ## Options -/

/-- How an option is used. -/
inductive Use where
  | flag
  | once
  | many
  deriving DecidableEq, Repr

/-- An option: its name, its use, and the values that it takes. -/
structure OptionSpec where
  name : String
  use : Use
  accepts : String → Bool

/-- An option with a text as its value. -/
def once (name : String) : OptionSpec := ⟨name, .once, fun _ => true⟩

/-- An option with the path of something as its value. -/
def oncePath (name : String) : OptionSpec := ⟨name, .once, (· ≠ "")⟩

/-- An option that may be repeated. -/
def many (name : String) : OptionSpec := ⟨name, .many, fun _ => true⟩

/-- A variable of a template: a key that is not blank, and a value. -/
def pair? (s : String) : Option (String × String) :=
  match Text.splitAtFirst '=' s.toList with
  | none => none
  | some (key, value) =>
    let key := Text.trimChars key
    if key = [] then none else some (String.ofList key, String.ofList value)

/-- The options of the program. -/
def globalOptions : List OptionSpec :=
  [oncePath "config", ⟨"dry-run", .flag, fun _ => true⟩, oncePath "log-dir"]

/-- The options of a body. -/
def bodyOptions : List OptionSpec :=
  [once "text", once "template", ⟨"var", .many, fun s => (pair? s).isSome⟩]

/-- What can stand at one level of a command line. -/
structure Level where
  options : List OptionSpec
  /-- How many operands there may be. -/
  operands : Nat
  /-- The commands that lead to the next level. -/
  commands : List String
  version : Bool

/-- The names of the commands. -/
def commandNames : List String := ["check", "classify", "send-sms", "send-email"]

/-- The program itself. -/
def programLevel : Level := ⟨globalOptions, 0, commandNames ++ ["help"], true⟩

/-- The level of a command. -/
def commandLevel (name : String) : Level :=
  if name = "classify" then
    ⟨⟨"role", .once, fun s => (Role.names.lookup s).isSome⟩ :: globalOptions, 1, [], false⟩
  else if name = "send-sms" then
    ⟨[many "to", once "from"] ++ bodyOptions ++ globalOptions, 0, [], false⟩
  else if name = "send-email" then
    ⟨[many "to", once "subject", once "from"] ++ bodyOptions ++ globalOptions, 0, [], false⟩
  else ⟨globalOptions, 0, [], false⟩

/-! ## One level -/

/-- What a level holds. -/
structure Found where
  /-- The options in their order, each with its value. -/
  options : List (String × String)
  operands : List String
  deriving Repr

/-- How a level ends. -/
inductive Ending where
  | finished
  | help
  | version
  /-- A command, and the arguments behind it. -/
  | command (name : String) (rest : List String)

namespace Found

/-- Nothing yet. -/
def empty : Found := ⟨[], []⟩

/-- True when an option is there. -/
def has (f : Found) (name : String) : Bool := f.options.any (·.1 = name)

/-- The value of an option, the last one if there are several. -/
def value? (f : Found) (name : String) : Option String := f.options.reverse.lookup name

/-- All values of an option. -/
def values (f : Found) (name : String) : List String :=
  (f.options.filter (·.1 = name)).map (·.2)

/-- Adds an option with its value, if it takes that and may be used again. -/
def add (f : Found) (spec : OptionSpec) (value : String) : Except UsageError Found :=
  if !spec.accepts value then .error (.badValue spec.name value)
  else if spec.use ≠ .many && f.has spec.name then .error (.repeated spec.name)
  else .ok { f with options := f.options ++ [(spec.name, value)] }

/-- Adds an operand, if there is room for it. -/
def addOperand (f : Found) (level : Level) (argument : String) : Except UsageError Found :=
  if f.operands.length < level.operands then
    .ok { f with operands := f.operands ++ [argument] }
  else .error (.unexpected argument)

end Found

/-- True when an argument can be the value of the option before it. -/
def isValue (argument : String) : Bool := argument = "-" || argument.toList.head? ≠ some '-'

/-- The name of a long option and its value, if one is attached. -/
def longOption? (argument : String) : Option (String × Option String) :=
  match ['-', '-'].isPrefixOf? argument.toList with
  | none => none
  | some cs =>
    match Text.splitAtFirst '=' cs with
    | none => some (String.ofList cs, none)
    | some (name, value) => some (String.ofList name, some (String.ofList value))

/-- What a short option asks for. -/
def shortOption (level : Level) (argument : String) : Except UsageError Ending :=
  match argument.toList with
  | '-' :: 'h' :: _ => .ok .help
  | '-' :: 'V' :: _ => if level.version then .ok .version else .error (.unexpected argument)
  | _ => .error (.unexpected argument)

/-- Reads the arguments of one level. -/
def readLevel (level : Level) (f : Found) : List String → Except UsageError (Found × Ending)
  | [] => .ok (f, .finished)
  | argument :: rest =>
    if argument = "--" then do
      return (← rest.foldlM (·.addOperand level) f, .finished)
    else
      match longOption? argument with
      | some ("help", none) => .ok (f, .help)
      | some (name, attached) =>
        if name = "version" && attached.isNone && level.version then .ok (f, .version)
        else
          match level.options.find? (·.name = name), attached with
          | none, _ => .error (.unexpected argument)
          | some spec, some value =>
            if spec.use = .flag then .error (.unneededValue name)
            else do readLevel level (← f.add spec value) rest
          | some spec, none =>
            if spec.use = .flag then do readLevel level (← f.add spec "") rest
            else
              match rest with
              | [] => .error (.noValue name)
              | value :: rest =>
                if isValue value then do readLevel level (← f.add spec value) rest
                else .error (.noValue name)
      | none =>
        if isValue argument then
          if level.commands.contains argument then .ok (f, .command argument rest)
          else do readLevel level (← f.addOperand level argument) rest
        else do return (f, ← shortOption level argument)

/-! ## The whole -/

/-- The body that options ask for. -/
def bodyOf (f : Found) : Except UsageError Body :=
  if f.has "text" && f.has "template" then .error (.conflict "text" "template")
  else .ok ⟨f.value? "text", f.value? "template", (f.values "var").filterMap pair?⟩

/-- The recipients, of which there has to be one. -/
def recipientsOf (f : Found) : Except UsageError (List String) :=
  if f.has "to" then .ok (f.values "to") else .error (.missing "--to")

/-- The command that a name, options and operands ask for. -/
def commandOf (name : String) (f : Found) : Except UsageError Command :=
  if name = "classify" then
    match f.operands with
    | number :: _ =>
      .ok (.classify number (((f.value? "role").bind fun s => Role.names.lookup s).getD .recipient))
    | [] => .error (.missing "<NUMBER>")
  else if name = "send-sms" then do
    return .sendSms (← recipientsOf f) (f.value? "from") (← bodyOf f)
  else if name = "send-email" then do
    return .sendEmail (← recipientsOf f) (f.value? "subject") (f.value? "from") (← bodyOf f)
  else .ok .check

/-- What a command and the options on both levels ask for; those behind the command count first. -/
def invocationOf (name : String) (outer inner : Found) : Except UsageError Invocation := do
  return {
    config := (inner.value? "config").or (outer.value? "config")
    dryRun := inner.has "dry-run" || outer.has "dry-run"
    logDirectory := (inner.value? "log-dir").or (outer.value? "log-dir")
    command := ← commandOf name inner }

/-- What the arguments behind the word for help ask for: help on the program or on one command. -/
def helpOn : List String → Except UsageError Asked
  | [] => .ok .help
  | [name] => if programLevel.commands.contains name then .ok .help else .error (.unexpected name)
  | name :: next :: _ =>
    .error (.unexpected (if programLevel.commands.contains name then next else name))

/-- What arguments ask for. -/
def parse (arguments : List String) : Except UsageError Asked := do
  match ← readLevel programLevel .empty arguments with
  | (_, .help) => return .help
  | (_, .version) => return .version
  | (_, .finished) => throw .noCommand
  | (outer, .command name rest) =>
    if name = "help" then return ← helpOn rest
    match ← readLevel (commandLevel name) .empty rest with
    | (inner, .finished) => return .run (← invocationOf name outer inner)
    | (_, .version) => return .version
    | _ => return .help

end Courier.Cli
