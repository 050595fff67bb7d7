/-
# Commands — what the program does when it is asked

`run` takes an invocation and what the process finds around it, and gives what is printed, or the
failure, and what is logged.  The configuration comes first, then the log is set up, and then the
command runs.
-/
import Courier.Cli.Arguments
import Courier.Failure
import Courier.Log.Filter

namespace Courier.Cli

/-- What a process finds around it. -/
structure Surroundings where
  home : String
  /-- The path of the working directory. -/
  here : String
  exported : EnvFile.Names
  world : World

/-- What a run comes to: what it prints or why it fails, what it logs, and where the log goes. -/
structure Result where
  printed : Except Failure String
  records : List LogRecord
  /-- The directory with the log file, if there is one. -/
  logDirectory : Option String

/-! ## Configuration -/

/-- Reads a configuration file. -/
def loadConfig (files : Files) (path : String) : Except Failure Config :=
  let failed (reason : String) : Failure := ⟨"failed to load " ++ path, [reason]⟩
  match files.read path with
  | .error e =>
    .error (failed ("failed to read config at " ++ path ++ ": " ++ e.message))
  | .ok s =>
    match Config.read s with
    | .error _ =>
      .error (failed ("failed to parse config at " ++ path ++ ": TOML parse error"))
    | .ok c => .ok c

/-- The configuration, and the directory from which its paths are taken.  The file in the home
directory may be missing, but not one that is named. -/
def resolveConfig (p : Surroundings) (named : Option String) : Except Failure (Config × String) :=
  let standard := Config.fileIn p.home
  match named, p.world.files.has standard with
  | none, false => .ok (.standard, p.here)
  | _, _ =>
    let path := named.getD standard
    (loadConfig p.world.files path).map fun c => (c, (parentPath? path).getD ".")

/-! ## Commands -/

/-- What a command prints or why it fails, and what it logs. -/
abbrev Running := Traced LogRecord (Except Failure String)

/-- The service of a configuration, and the report on it. -/
def assemble (p : Surroundings) (c : Config) (base : String) :
    Traced LogRecord (Except Failure (Service × Report)) := do
  match ← c.environment p.exported p.world.files base with
  | .error e => return .error (.ofProperties e)
  | .ok env =>
    match ← (Assembly.ofConfig c env p.world.files).mapTrace Event.records with
    | .error e => return .error (.ofAssembly e)
    | .ok a =>
      match ← (a.build p.world.network).mapTrace Event.records with
      | .error e => return .error (.ofAssembly e)
      | .ok r => return .ok r

/-- Assembles the service and prints the report on it. -/
def check (p : Surroundings) (c : Config) (base : String) : Running := do
  return (← assemble p c base).map fun (_, report) => report.describe

/-- What is printed of an address. -/
def addressLines (a : Address) : String :=
  let w := (PhoneNumber.addressed a).toWire
  a.toJson.writePretty ++ "\n" ++ "ton=" ++ toString w.ton ++ " npi=" ++ toString w.npi ++ "\n"

/-- The translator of a configuration for numbers with a part. -/
def translatorOf (c : Config) (role : Role) : AddressTranslator :=
  ⟨role, match role with
    | .sender => c.senderRules
    | .recipient => c.recipientRules⟩

/-- Prints the address of a number. -/
def classify (c : Config) (number : String) (role : Role) : Except Failure String :=
  match (translatorOf c role).translateRaw number with
  | .ok a => .ok (addressLines a)
  | .error e => .error ⟨"cannot address '" ++ number ++ "'", [e.message]⟩

/-- The content of a body: a text or a template, but not both and not neither. -/
def Body.content (b : Body) : Except Failure Content :=
  match b.text, b.template with
  | some s, none => .ok (.text s)
  | none, some name =>
    .ok (.template (b.bindings.foldl (fun t (k, v) => t.withVariable k (.text v)) ⟨.path name, []⟩))
  | _, _ => .error (.plain "exactly one of --text or --template is required")

/-- The record of a message that was sent. -/
def sentRecord (c : Channel) : LogRecord :=
  { level := .info
    target := "herald"
    message := c.name ++ " sent"
    fields := [] }

/-- Sends a message through a service. -/
def send {M : Type} [Message M] (p : Surroundings) (c : Config) (base : String)
    (through : Service → M → Traced (Step M) (Except SendError Unit)) (m : M) : Running := do
  match ← assemble p c base with
  | .error e => return .error e
  | .ok (service, _) =>
    match ← (through service m).mapTrace Step.records with
    | .error e => return .error (.ofSend ("failed to send " ++ (Message.channel M).name) e)
    | .ok _ =>
      Traced.step (sentRecord (Message.channel M))
      return .ok ""

/-- Runs a command. -/
def runCommand (p : Surroundings) (c : Config) (base : String) : Command → Running
  | .check => check p c base
  | .classify number role => pure (classify c number role)
  | .sendSms recipients sender body =>
    match body.content with
    | .error e => pure (.error e)
    | .ok content =>
      send p c base Service.sendSms ⟨content, sender.map .raw, recipients.map .raw⟩
  | .sendEmail recipients subject sender body =>
    match body.content with
    | .error e => pure (.error e)
    | .ok content =>
      send p c base Service.sendEmail ⟨content, subject, sender, recipients, [], []⟩

/-! ## The whole -/

/-- The record of the configuration. -/
def configured (base : String) (dryRun : Bool) : LogRecord :=
  { level := .debug
    target := "herald"
    message := "configuration loaded"
    fields := [("base_dir", .text base), ("dry_run", .bool dryRun)] }

/-- Runs an invocation; of what it logs, only what the filter admits is kept. -/
def run (p : Surroundings) (i : Invocation) : Result :=
  match resolveConfig p i.config with
  | .error e => ⟨.error e, [], none⟩
  | .ok (c, base) =>
    let c := { c with dryRun := c.dryRun || i.dryRun }
    let log := c.logging.setUp i.logDirectory false p.world.files
    match log.result with
    | .error e => ⟨.error (.plain e.message), [], none⟩
    | .ok _ =>
      let p := { p with world := { p.world with files := log.files } }
      let filter := Filter.choose (p.exported "RUST_LOG") c.logging.level
      let r := runCommand p c base i.command
      { printed := r.value
        records := (configured base c.dryRun :: r.trace).filter filter.admits
        logDirectory := c.logging.chosenDirectory i.logDirectory }

/-! ## Files that matter -/

/-- The path of the template in a command, if it has one. -/
def templatePath? (c : Config) : Command → Option String
  | .sendSms _ _ body => body.template.map (c.templates.location c.templates.sms).path
  | .sendEmail _ _ _ body => body.template.map (c.templates.location c.templates.email).path
  | _ => none

/-- The paths to all directories on the way to a path, and the path itself. -/
def pathsTo (path : String) : List String :=
  let start := if isAbsolute path then "/" else ""
  (List.range (pathParts path).length).map fun n =>
    start ++ "/".intercalate ((pathParts path).take (n + 1))

/-- The paths that a run of an invocation looks at, as far as its configuration is known. -/
def pathsOf (s : Surroundings) (i : Invocation) : List String :=
  i.config.getD (Config.fileIn s.home) ::
    match resolveConfig s i.config with
    | .error _ => []
    | .ok (c, base) =>
      (c.envFile.map (joinPath base)).toList ++ (templatePath? c i.command).toList
        ++ ((c.logging.chosenDirectory i.logDirectory).map pathsTo).getD []

end Courier.Cli
