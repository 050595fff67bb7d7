/-
# Services — pipelines for all channels out of a configuration

`Assembly.ofConfig` makes a plan for every channel that is enabled; transports can then be
registered, which come before the ones that are known.  `Assembly.build` adds the known ones and
puts the pipelines together; the first error on the way ends it.
-/
import Courier.Assembly.Plan
import Courier.Config

namespace Courier

/-! ## Services -/

/-- The pipelines of the channels that have one. -/
structure Service where
  sms : Option (Sender Sms)
  email : Option (Sender Email)

namespace Service

/-- No pipeline at all. -/
def empty : Service := ⟨none, none⟩

/-- Sends a message through a pipeline, if there is one. -/
def sendThrough {M : Type} [Message M] (pipeline : Option (Sender M)) (m : M) :
    Traced (Step M) (Except SendError Unit) :=
  match pipeline with
  | some sender => sender.send m
  | none => pure (.error (.channelNotConfigured (Message.channel M)))

/-- Sends a text. -/
def sendSms (s : Service) (m : Sms) : Traced (Step Sms) (Except SendError Unit) :=
  sendThrough s.sms m

/-- Sends a letter. -/
def sendEmail (s : Service) (m : Email) : Traced (Step Email) (Except SendError Unit) :=
  sendThrough s.email m

/-- A service in diagnostics. -/
def describe (s : Service) : String :=
  "MessagingService \x7b sms: " ++ Text.optional Text.quoted (s.sms.map (·.name)) ++ ", email: "
    ++ Text.optional Text.quoted (s.email.map (·.name)) ++ " \x7d"

end Service

/-! ## Assembly -/

/-- Plans for the channels that are enabled. -/
structure Assembly where
  sms : Option (Plan Sms)
  email : Option (Plan Email)
  dryRun : Bool

/-- Where the templates of a channel are. -/
def TemplatesConfig.location (c : TemplatesConfig) (own : Option LocationConfig) :
    TemplateLocation :=
  let own := own.getD .standard
  ⟨own.before.getD c.before, own.after.getD c.after⟩

namespace Plan

/-- A plan with the filling and the templates that a configuration asks for. -/
def ofConfig {M : Type} [Message M] (env : Environment) (files : Files) (fill : Bool)
    (templates : TemplatesConfig) (own : Option LocationConfig) :
    Traced Event (Except AssemblyError (Plan M)) :=
  let p : Plan M := if fill then (new env).withAutoFilling else new env
  if templates.enabled then p.withTemplates files (templates.location own) else pure (.ok p)

/-- The plan for texts that a configuration asks for. -/
def smsOfConfig (c : Config) (env : Environment) (files : Files) :
    Traced Event (Except AssemblyError (Plan Sms)) := do
  match ← ofConfig env files c.sms.fill c.templates c.templates.sms with
  | .error e => return .error e
  | .ok p =>
    return if c.sms.addressing then p.withAddressing c.senderRules c.recipientRules else .ok p

/-- The plan for letters that a configuration asks for. -/
def emailOfConfig (c : Config) (env : Environment) (files : Files) :
    Traced Event (Except AssemblyError (Plan Email)) :=
  ofConfig env files c.email.fill c.templates c.templates.email

/-- Adds the known implementations and puts the pipeline together. -/
def finish {M : Type} [Deliverable M] (p : Plan M) (network : Http.Network) (dryRun : Bool) :
    Traced Event (Except AssemblyError (Pipeline M)) := do
  match ← p.registerDefaults network with
  | .error e => return .error e
  | .ok p =>
    let p ← if dryRun then p.registerDryRun else pure p
    return .ok (← p.build)

end Plan

namespace Assembly

/-- Goes on with something, if it is there. -/
def ifThere {α β : Type} (f : α → Traced Event (Except AssemblyError β)) :
    Option α → Traced Event (Except AssemblyError (Option β))
  | none => pure (.ok none)
  | some a => do return (← f a).map some

/-- The plans of a configuration. -/
def ofConfig (c : Config) (env : Environment) (files : Files) :
    Traced Event (Except AssemblyError Assembly) := do
  let sms ← ifThere (fun _ => Plan.smsOfConfig c env files) (if c.sms.enabled then some () else none)
  match sms with
  | .error e => return .error e
  | .ok sms =>
    let email ←
      ifThere (fun _ => Plan.emailOfConfig c env files) (if c.email.enabled then some () else none)
    match email with
    | .error e => return .error e
    | .ok email => return .ok ⟨sms, email, c.dryRun⟩

/-- The record of a registration on a channel that is not enabled. -/
def ignored (c : Channel) (implementation : String) : LogRecord :=
  { level := .warn
    target := "herald::builder::service"
    message := c.name ++ " disabled, registration ignored"
    fields := [("implementation", .text implementation)] }

/-- Registers an implementation with a plan, if there is one. -/
def registerWith {M : Type} [Message M] (plan : Option (Plan M)) (condition : Condition M)
    (transport : Transport M) : Traced Event (Option (Plan M)) :=
  match plan with
  | some p => do return some (← p.register condition transport)
  | none => .one (.log (ignored (Message.channel M) transport.name)) none

/-- Registers an implementation for texts. -/
def registerSms (a : Assembly) (condition : Condition Sms) (transport : Transport Sms) :
    Traced Event Assembly := do
  return { a with sms := ← registerWith a.sms condition transport }

/-- Registers an implementation for letters. -/
def registerEmail (a : Assembly) (condition : Condition Email) (transport : Transport Email) :
    Traced Event Assembly := do
  return { a with email := ← registerWith a.email condition transport }

/-- The outcomes of a pipeline, if there is one. -/
def outcomesOf {M : Type} : Option (Pipeline M) → List Outcome
  | none => []
  | some p => p.outcomes

/-- The report on pipelines. -/
def reportOf (sms : Option (Pipeline Sms)) (email : Option (Pipeline Email)) : Report :=
  ⟨outcomesOf sms ++ outcomesOf email, sms.map (·.report), email.map (·.report)⟩

/-- The record of a service. -/
def assembled (a : Assembly) (r : Report) : LogRecord :=
  { level := .info
    target := "herald::builder::service"
    message := "messaging service assembled"
    fields := [("sms", .bool r.sms.isSome), ("email", .bool r.email.isSome),
      ("skipped", .int r.skipped.length), ("dry_run", .bool a.dryRun)] }

/-- Puts the pipelines together. -/
def build (a : Assembly) (network : Http.Network) :
    Traced Event (Except AssemblyError (Service × Report)) := do
  match ← ifThere (Plan.finish · network a.dryRun) a.sms with
  | .error e => return .error e
  | .ok sms =>
    match ← ifThere (Plan.finish · network a.dryRun) a.email with
    | .error e => return .error e
    | .ok email =>
      let report := reportOf sms email
      Traced.step (.log (a.assembled report))
      return .ok (⟨sms.map (·.sender), email.map (·.sender)⟩, report)

/-- An assembly in diagnostics. -/
def describe (a : Assembly) : String :=
  "MessagingBuilder \x7b sms: " ++ Text.optional (·.describe) a.sms ++ ", email: "
    ++ Text.optional (·.describe) a.email ++ ", dry_run: " ++ toString a.dryRun ++ " \x7d"

end Assembly

end Courier
