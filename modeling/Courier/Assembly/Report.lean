/-
# Reports — what assembly decided

Every attempt to register an implementation has an outcome, and every pipeline that is put
together says what it consists of.  The report holds both, in words and as a document.
-/
import Courier.Pipeline.Layers

namespace Courier

open Json (Value)

/-! ## Outcomes -/

/-- What became of an attempt to register an implementation. -/
inductive RegistrationStatus where
  | registered
  | missingCapability (name : String)
  | missingProperty (key : String)
  deriving DecidableEq, Repr

/-- A status in words. -/
def RegistrationStatus.describe : RegistrationStatus → String
  | .registered => "registered"
  | .missingCapability name => "skipped (capability '" ++ name ++ "' unavailable)"
  | .missingProperty key => "skipped (property '" ++ key ++ "' not set)"

/-- A status as members of a document. -/
def RegistrationStatus.members : RegistrationStatus → List (String × Value)
  | .registered => [("status", .text "registered")]
  | .missingCapability name =>
    [("status", .text "skipped_missing_capability"), ("capability", .text name)]
  | .missingProperty key =>
    [("status", .text "skipped_missing_config"), ("property", .text key)]

/-- The outcome of one attempt. -/
structure Outcome where
  channel : Channel
  implementation : String
  status : RegistrationStatus
  deriving DecidableEq, Repr

/-- An outcome in one line. -/
def Outcome.describe (o : Outcome) : String :=
  o.channel.name ++ "/" ++ o.implementation ++ ": " ++ o.status.describe

/-- An outcome as a document. -/
def Outcome.toJson (o : Outcome) : Value :=
  .object ([("channel", .text o.channel.name), ("implementation", .text o.implementation)]
    ++ o.status.members)

/-! ## Pipelines -/

/-- What a pipeline consists of: its layers from the outside in, and its implementations in the
order in which they are tried. -/
structure ChannelReport where
  layers : List LayerKind
  implementations : List String
  deriving DecidableEq, Repr

/-- A pipeline in lines. -/
def ChannelReport.lines (r : ChannelReport) (channel : Channel) : List String :=
  [channel.name ++ ": " ++ " -> ".intercalate (r.layers.map (·.name) ++ ["resolver"])]
    ++ (if r.implementations = [] then ["  (no implementations)"] else [])
    ++ r.implementations.mapIdx fun i name => "  " ++ toString (i + 1) ++ ". " ++ name

/-- A pipeline as a document. -/
def ChannelReport.toJson (r : ChannelReport) : Value :=
  .object [("layers", Value.texts (r.layers.map (·.key))),
    ("implementations", Value.texts r.implementations)]

/-! ## The whole -/

/-- All that assembly decided. -/
structure Report where
  registrations : List Outcome
  sms : Option ChannelReport
  email : Option ChannelReport
  deriving DecidableEq, Repr

namespace Report

/-- Nothing was put together. -/
def empty : Report := ⟨[], none, none⟩

/-- The outcomes of attempts that registered nothing. -/
def skipped (r : Report) : List Outcome := r.registrations.filter (·.status ≠ .registered)

/-- The lines on one channel. -/
def channelLines (channel : Channel) : Option ChannelReport → List String
  | none => [channel.name ++ ": disabled"]
  | some r => r.lines channel

/-- The report in words. -/
def describe (r : Report) : String :=
  String.join ((channelLines .sms r.sms ++ channelLines .email r.email
    ++ r.registrations.map (·.describe)).map (· ++ "\n"))

/-- The report as a document. -/
def toJson (r : Report) : Value :=
  let channel (r : Option ChannelReport) : Value :=
    match r with
    | none => .null
    | some r => r.toJson
  .object [("registrations", .list (r.registrations.map (·.toJson))), ("sms", channel r.sms),
    ("email", channel r.email)]

end Report

end Courier
