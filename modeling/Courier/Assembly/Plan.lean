/-
# Plans — a pipeline while it is put together

A plan has a resolver, layers, and the outcomes of the attempts to register implementations.  Two
implementations are known for every channel: the webhook, which needs the capability of HTTP and a
URL among the properties, and the log.  `Plan.build` wraps the resolver in the layers.

What assembly asks of the environment and what it logs is in its trace.
-/
import Courier.Assembly.Report
import Courier.Pipeline.Resolver
import Courier.Template
import Courier.Transport.Webhook

namespace Courier

/-! ## Errors and events -/

/-- Why a pipeline cannot be put together. -/
inductive AssemblyError where
  | invalidRules (role : Role) (reason : Rules.Invalid)
  | invalidUrl (key value : String) (reason : Url.Invalid)
  | templatesUnavailable
  deriving DecidableEq, Repr

/-- The wording of an assembly error. -/
def AssemblyError.message : AssemblyError → String
  | .invalidRules role reason =>
    "invalid " ++ role.name ++ " addressing rules: " ++ reason.message
  | .invalidUrl key value reason =>
    "property '" ++ key ++ "' is not a valid URL ('" ++ value ++ "'): " ++ reason.message
  | .templatesUnavailable =>
    "template translation requested but the 'templates' capability is unavailable"

/-- One thing that happens during assembly. -/
inductive Event where
  | lookup (l : Lookup)
  | log (r : LogRecord)

/-- What was asked during assembly, in order. -/
def Event.lookups (events : List Event) : List Lookup :=
  events.filterMap fun
    | .lookup l => some l
    | .log _ => none

/-- What was logged during assembly, in order. -/
def Event.records (events : List Event) : List LogRecord :=
  events.filterMap fun
    | .lookup _ => none
    | .log r => some r

/-- What lies outside of the program: files to read, and gateways to ask. -/
structure World where
  files : Files
  network : Http.Network

/-! ## Names of a channel -/

/-- The property with the URL of a channel's gateway. -/
def Channel.webhookUrlKey (c : Channel) : String := "herald." ++ c.name ++ ".webhook.url"

/-- The property with the token for a channel's gateway. -/
def Channel.webhookTokenKey (c : Channel) : String := "herald." ++ c.name ++ ".webhook.token"

/-- The name of a channel's webhook. -/
def Channel.webhookName (c : Channel) : String := c.name ++ "-webhook"

/-- The name of a channel's log transport. -/
def Channel.logName (c : Channel) : String := c.name ++ "-log"

/-! ## Plans -/

/-- A pipeline while it is put together. -/
structure Plan (M : Type) where
  resolver : Resolver M
  layers : Layers M
  outcomes : List Outcome

/-- A pipeline, what it consists of, and the outcomes of the attempts on the way to it. -/
structure Pipeline (M : Type) where
  sender : Sender M
  report : ChannelReport
  outcomes : List Outcome

namespace Plan

variable {M : Type}

/-- A plan with nothing in it. -/
def new (env : Environment) : Plan M := ⟨.new env, .empty, []⟩

/-- What the conditions of a plan see. -/
def env (p : Plan M) : Environment := p.resolver.env

/-! ### Implementations -/

/-- Notes an outcome. -/
def note [Message M] (p : Plan M) (implementation : String) (status : RegistrationStatus) :
    Plan M :=
  { p with outcomes := p.outcomes ++ [⟨Message.channel M, implementation, status⟩] }

/-- The plan with an implementation after the others. -/
def add [Message M] (p : Plan M) (condition : Condition M) (transport : Transport M) : Plan M :=
  { p.note transport.name .registered with
    resolver := p.resolver.register condition transport }

/-- Registers an implementation. -/
def register [Message M] (p : Plan M) (condition : Condition M) (transport : Transport M) :
    Traced Event (Plan M) :=
  .one (.log (Resolver.registered ⟨condition, transport⟩)) (p.add condition transport)

/-- The record of an attempt that registers nothing. -/
def skipping [Message M] (implementation : String) (status : RegistrationStatus) : LogRecord :=
  { level := .debug
    target := "herald::builder"
    message := "default implementation skipped"
    fields := [("channel", .text (Message.channel M).name),
      ("implementation", .text implementation), ("status", .text status.describe)] }

/-- Registers nothing, and notes why. -/
def skip [Message M] (p : Plan M) (implementation : String) (status : RegistrationStatus) :
    Traced Event (Plan M) :=
  .one (.log (skipping (M := M) implementation status)) (p.note implementation status)

/-- The condition of a channel's webhook. -/
def webhookCondition (c : Channel) : Condition M :=
  .all [.capability Capabilities.http, .property c.webhookUrlKey]

/-- Registers the webhook of the channel if HTTP and its URL are there. -/
def registerDefaults [Deliverable M] (p : Plan M) (network : Http.Network) :
    Traced Event (Except AssemblyError (Plan M)) := do
  let channel := Message.channel M
  if !(← (p.env.askCapability Capabilities.http).mapSteps .lookup) then
    return .ok (← p.skip channel.webhookName (.missingCapability Capabilities.http))
  else
    match ← (p.env.askProperty channel.webhookUrlKey).mapSteps .lookup with
    | none => return .ok (← p.skip channel.webhookName (.missingProperty channel.webhookUrlKey))
    | some value =>
      match Url.read value with
      | .error reason => return .error (.invalidUrl channel.webhookUrlKey value reason)
      | .ok url =>
        let token ← (p.env.askProperty channel.webhookTokenKey).mapSteps .lookup
        let webhook : Webhook := ⟨channel.webhookName, url, token⟩
        return .ok (← p.register (webhookCondition channel) (webhook.transport network))

/-- Registers the log for whatever nothing else takes. -/
def registerDryRun [Deliverable M] (p : Plan M) : Traced Event (Plan M) :=
  p.register .always (.log (Message.channel M).logName)

/-! ### Layers -/

/-- The plan with other layers. -/
def setLayers (p : Plan M) (layers : Layers M) : Plan M := { p with layers }

/-- The plan with a filler. -/
def withFiller (p : Plan M) (f : Filler M) : Plan M := p.setLayers (p.layers.setFiller f)

/-- The plan with a filler that takes properties under prefixes. -/
def withPropertyFilling [Message M] (p : Plan M) (prefixes : List String) : Plan M :=
  p.withFiller (.properties p.env prefixes)

/-- The plan with a filler that takes the properties of the channel. -/
def withAutoFilling [Message M] (p : Plan M) : Plan M :=
  p.withPropertyFilling (Message.channel M).prefixes

/-- The plan with a translator of bodies. -/
def withContentTranslator (p : Plan M) (t : ContentTranslator) : Plan M :=
  p.setLayers (p.layers.setContentTranslator t)

/-- The plan with templates, which need their capability. -/
def withTemplates (p : Plan M) (files : Files) (location : TemplateLocation) :
    Traced Event (Except AssemblyError (Plan M)) := do
  if ← (p.env.askCapability Capabilities.templates).mapSteps .lookup then
    return .ok (p.withContentTranslator (location.translator files))
  else return .error .templatesUnavailable

/-- The plan without a kind of layer. -/
def withoutLayer (p : Plan M) (kind : LayerKind) : Plan M := p.setLayers (p.layers.remove kind)

/-! ### Building -/

/-- What the pipeline of a plan consists of. -/
def report (p : Plan M) : ChannelReport := ⟨p.layers.kinds, p.resolver.names⟩

/-- The record of a pipeline. -/
def assembled [Message M] (r : ChannelReport) : LogRecord :=
  { level := .info
    target := "herald::builder"
    message := "pipeline assembled"
    fields := [("channel", .text (Message.channel M).name),
      ("layers", .text (Text.bracketed (r.layers.map (·.label)))),
      ("implementations", .text (Text.bracketed (r.implementations.map Text.quoted)))] }

/-- The pipeline of a plan: the resolver in the layers. -/
def pipeline [Message M] (p : Plan M) : Pipeline M :=
  ⟨p.layers.compose p.resolver.toSender, p.report, p.outcomes⟩

/-- Puts the pipeline together. -/
def build [Message M] (p : Plan M) : Traced Event (Pipeline M) :=
  .one (.log (assembled (M := M) p.report)) p.pipeline

/-- A plan in diagnostics. -/
def describe [Message M] (p : Plan M) : String :=
  "PipelineBuilder \x7b channel: " ++ Text.quoted (Message.channel M).name ++ ", resolver: "
    ++ p.resolver.describe ++ ", layers: " ++ p.layers.describe ++ " \x7d"

end Plan

/-- Checks both sets of rules, the ones for senders first. -/
def checkRules (sender recipient : Rules) : Except AssemblyError Unit := do
  sender.validate.mapError (.invalidRules .sender)
  recipient.validate.mapError (.invalidRules .recipient)

/-- The plan of a channel of texts, with a layer that turns numbers into addresses. -/
def Plan.withAddressing (p : Plan Sms) (sender recipient : Rules) :
    Except AssemblyError (Plan Sms) := do
  checkRules sender recipient
  return p.setLayers (p.layers.setAddressing (.ofRules sender recipient))

end Courier
