/-
# Configuration — what a configuration file sets

A configuration is read from a table; whatever the table does not set has a standard value.  The
properties are a table of their own: `flatten` joins the names on the way to each leaf by dots.
-/
import Courier.Address.Rules
import Courier.Decode
import Courier.EnvFile
import Courier.Toml.Reader

namespace Courier

open Json (Value)

/-! ## Properties -/

namespace Toml

/-- The text of a value without parts; a list or a table has none. -/
def Value.scalarText? : Value → Option String
  | .text s => some s
  | .int i => some (toString i)
  | .float f => some (Decimal.plain.write f)
  | .bool b => some (toString b)
  | .moment m => some m.text
  | .list _ => none
  | .table _ => none

/-- The text of a leaf; of a list, the texts of its items with commas between them. -/
def Value.leafText : Value → String
  | .list items => ",".intercalate (items.filterMap (·.scalarText?))
  | v => v.scalarText?.getD ""

mutual
/-- A value all of whose tables have their names in order. -/
def Value.sorted : Value → Value
  | .list items => .list (sortedItems items)
  | .table es => .table (sortedEntries es)
  | v => v

/-- The items of a list with the names of their tables in order. -/
def sortedItems : List Value → List Value
  | [] => []
  | v :: vs => v.sorted :: sortedItems vs

/-- The entries of a table in the order of their names. -/
def sortedEntries : List (String × Value) → List (String × Value)
  | [] => []
  | (name, v) :: es => Entries.insert name v.sorted (sortedEntries es)
end

mutual
/-- The leaves of a value with the names on the way to them; `path` leads to the value. -/
def Value.leaves (path : List String) : Value → List (List String × Value)
  | .table es => leavesOf path es
  | v => [(path, v)]

/-- The leaves of a table with the names on the way to them. -/
def leavesOf (path : List String) : List (String × Value) → List (List String × Value)
  | [] => []
  | (name, v) :: es => v.leaves (path ++ [name]) ++ leavesOf path es
end

/-- The texts of the leaves of a table, by the names on the way to them with dots between; of two
leaves with one such name the later counts. -/
def flatten (t : Table) : List (String × String) :=
  Entries.ofList ((leavesOf [] t).map fun (path, v) => (".".intercalate path, v.leafText))

end Toml

/-! ## Sections -/

/-- What is logged, and where to. -/
structure LoggingConfig where
  level : String
  directory : Option String
  deriving DecidableEq, Repr

/-- The channel of texts. -/
structure SmsConfig where
  enabled : Bool
  fill : Bool
  addressing : Bool
  countryCode : Option String
  sender : Rules
  recipient : Rules
  deriving DecidableEq, Repr

/-- The channel of letters. -/
structure EmailConfig where
  enabled : Bool
  fill : Bool
  deriving DecidableEq, Repr

/-- Where the templates of one channel are, as far as it differs. -/
structure LocationConfig where
  before : Option String
  after : Option String
  deriving DecidableEq, Repr

/-- The templates. -/
structure TemplatesConfig where
  enabled : Bool
  before : String
  after : String
  sms : Option LocationConfig
  email : Option LocationConfig
  deriving DecidableEq, Repr

/-- All settings. -/
structure Config where
  dryRun : Bool
  envFile : Option String
  logging : LoggingConfig
  /-- The properties, with the names in order. -/
  properties : Toml.Table
  /-- The capabilities that are switched off. -/
  disabled : List String
  sms : SmsConfig
  email : EmailConfig
  templates : TemplatesConfig
  deriving Repr

/-! ## Standard values -/

/-- Informative records, on the console alone. -/
def LoggingConfig.standard : LoggingConfig := ⟨"info", none⟩

/-- Everything on. -/
def SmsConfig.standard : SmsConfig :=
  { enabled := true
    fill := true
    addressing := true
    countryCode := none
    sender := .sender
    recipient := .openRecipient }

/-- Everything on. -/
def EmailConfig.standard : EmailConfig := ⟨true, true⟩

/-- No differences. -/
def LocationConfig.standard : LocationConfig := ⟨none, none⟩

/-- Templates in the working directory. -/
def TemplatesConfig.standard : TemplatesConfig := ⟨true, "", "", none, none⟩

/-- Nothing set. -/
def Config.standard : Config :=
  { dryRun := false
    envFile := none
    logging := .standard
    properties := []
    disabled := []
    sms := .standard
    email := .standard
    templates := .standard }

/-! ## Reading -/

namespace Config

/-- Reads the settings of the log. -/
def readLogging : Value → Except DecodeError LoggingConfig :=
  Decode.record .config "LoggingConfig"
    [Decode.field "level" Decode.text fun s c => { c with level := s },
     Decode.field "dir" (Decode.optional Decode.path) fun s c => { c with directory := s }]
    .standard

/-- Reads which capabilities are switched off. -/
def readDisabled : Value → Except DecodeError (List String) :=
  Decode.record .config "CapabilitiesConfig"
    [Decode.field "disabled" (Decode.list Decode.text) fun names _ => names] []

/-- Reads the settings of the channel of texts. -/
def readSms : Value → Except DecodeError SmsConfig :=
  Decode.record .config "SmsConfig"
    [Decode.field "enabled" Decode.bool fun b c => { c with enabled := b },
     Decode.field "fill" Decode.bool fun b c => { c with fill := b },
     Decode.field "addressing" Decode.bool fun b c => { c with addressing := b },
     Decode.field "country_code" (Decode.optional Decode.text)
       fun s c => { c with countryCode := s },
     Decode.field "sender" (Rules.decode .config) fun r c => { c with sender := r },
     Decode.field "recipient" (Rules.decode .config) fun r c => { c with recipient := r }]
    .standard

/-- Reads the settings of the channel of letters. -/
def readEmail : Value → Except DecodeError EmailConfig :=
  Decode.record .config "EmailConfig"
    [Decode.field "enabled" Decode.bool fun b c => { c with enabled := b },
     Decode.field "fill" Decode.bool fun b c => { c with fill := b }]
    .standard

/-- Reads where the templates of one channel are. -/
def readLocation : Value → Except DecodeError LocationConfig :=
  Decode.record .config "TemplateLocationConfig"
    [Decode.field "prefix" (Decode.optional Decode.text) fun s c => { c with before := s },
     Decode.field "suffix" (Decode.optional Decode.text) fun s c => { c with after := s }]
    .standard

/-- Reads the settings of the templates. -/
def readTemplates : Value → Except DecodeError TemplatesConfig :=
  Decode.record .config "TemplatesConfig"
    [Decode.field "enabled" Decode.bool fun b c => { c with enabled := b },
     Decode.field "prefix" Decode.text fun s c => { c with before := s },
     Decode.field "suffix" Decode.text fun s c => { c with after := s },
     Decode.field "sms" (Decode.optional readLocation) fun l c => { c with sms := l },
     Decode.field "email" (Decode.optional readLocation) fun l c => { c with email := l }]
    .standard

/-- Accepts whatever can be taken for a table. -/
def readTable : Value → Except DecodeError Unit
  | .object _ => .ok ()
  | v => Decode.wrongType v "a map"

/-- The sections of a configuration. -/
def fields : List (Decode.Field Config) :=
  [Decode.field "dry_run" Decode.bool fun b c => { c with dryRun := b },
   Decode.field "env_file" (Decode.optional Decode.path) fun s c => { c with envFile := s },
   Decode.field "logging" readLogging fun l c => { c with logging := l },
   Decode.field "properties" readTable fun _ c => c,
   Decode.field "capabilities" readDisabled fun names c => { c with disabled := names },
   Decode.field "sms" readSms fun s c => { c with sms := s },
   Decode.field "email" readEmail fun e c => { c with email := e },
   Decode.field "templates" readTemplates fun t c => { c with templates := t }]

/-- The table of properties in a configuration file. -/
def propertiesOf (t : Toml.Table) : Toml.Table :=
  Toml.sortedEntries (((t.lookup "properties").bind (·.entries?)).getD [])

/-- The configuration that a table sets. -/
def ofTable (t : Toml.Table) : Except DecodeError Config := do
  let c ← Decode.members fields (Toml.entriesToJson t) .standard
  return { c with properties := propertiesOf t }

/-- Why a text is no configuration. -/
inductive Invalid where
  /-- The text is wrong as such. -/
  | malformed
  /-- A value does not fit. -/
  | misfit (e : DecodeError)

/-- The configuration that a text spells. -/
def read (s : String) : Except Invalid Config :=
  match Toml.read s with
  | none => .error .malformed
  | some t => (ofTable t).mapError .misfit

/-! ## Meaning -/

/-- The rules for senders, with the country code of the channel. -/
def senderRules (c : Config) : Rules := c.sms.sender.withSharedCountryCode c.sms.countryCode

/-- The rules for recipients, with the country code of the channel. -/
def recipientRules (c : Config) : Rules := c.sms.recipient.withSharedCountryCode c.sms.countryCode

/-- What this program can do, less what is switched off. -/
def capabilities (c : Config) : Capabilities := c.disabled.foldl Capabilities.erase .detect

/-- The properties that the configuration itself sets. -/
def ownProperties (c : Config) : Properties := .ofList (Toml.flatten c.properties)

/-- Adds properties of a file where there are none. -/
def completed (p : Properties) : Except PropertiesError Properties → Except PropertiesError Properties
  | .ok more => .ok (p.mergeMissing more)
  | .error e => .error e

/-- The properties of the configuration, and those of its file where it sets none; a relative path
is taken from `base`. -/
def loadProperties (process : EnvFile.Names) (files : Files) (base : String) (c : Config) :
    Traced LogRecord (Except PropertiesError Properties) :=
  match c.envFile with
  | none => pure (.ok c.ownProperties)
  | some path => do
    return completed c.ownProperties (← Properties.load process files (joinPath base path))

/-- The record of an environment. -/
def environmentRecord (p : Properties) (c : Capabilities) : LogRecord :=
  { level := .debug
    target := "herald::config"
    message := "environment assembled"
    fields := [("properties", .int p.size),
      ("capabilities", .text (Text.bracketed (c.names.map Text.quoted)))] }

/-- The environment of a configuration. -/
def environment (process : EnvFile.Names) (files : Files) (base : String) (c : Config) :
    Traced LogRecord (Except PropertiesError Environment) := do
  match ← c.loadProperties process files base with
  | .error e => return .error e
  | .ok p =>
    Traced.step (environmentRecord p c.capabilities)
    return .ok (.of p c.capabilities)

end Config

end Courier
