/-
# Assembled — what a configuration and some registrations come to

Assembly asks and logs on its way; its value depends on the configuration, the environment and the
registrations alone, and `value_assemble` says how.  Either one of the checks of `Config.check`
fails, and the first that does is the error, or every channel that is enabled has a pipeline, in
which three kinds of implementation stand one after the other: the registered ones in the order of
their registration, the webhook if the environment has a gateway for the channel, and the log in a
dry run.

The registrations matter for no check, and those of a channel that is not enabled for nothing.
-/
import Courier.Assembly.Service
import Courier.Proofs.Passage

namespace Courier

variable {M : Type}

/-! ## Gateways -/

namespace Channel

/-- The gateway that an environment has for a channel: there is one if HTTP and its URL are there,
and a URL that cannot be read is an error. -/
def gateway (c : Channel) (env : Environment) : Except AssemblyError (Option Webhook) :=
  if env.capability Capabilities.http then
    match env.property c.webhookUrlKey with
    | none => .ok none
    | some value =>
      match Url.read value with
      | .error reason => .error (.invalidUrl c.webhookUrlKey value reason)
      | .ok url => .ok (some ⟨c.webhookName, url, env.property c.webhookTokenKey⟩)
  else .ok none

/-- The gateway of a channel, if there is one and it can be used. -/
def gateway? (c : Channel) (env : Environment) : Option Webhook :=
  match c.gateway env with
  | .ok w => w
  | .error _ => none

/-- What becomes of a channel's webhook when its gateway can be used. -/
def webhookStatus (c : Channel) (env : Environment) : RegistrationStatus :=
  if env.capability Capabilities.http then
    if (env.property c.webhookUrlKey).isSome then .registered
    else .missingProperty c.webhookUrlKey
  else .missingCapability Capabilities.http

theorem gateway?_of_gateway {c : Channel} {env : Environment} {w : Option Webhook}
    (h : c.gateway env = .ok w) : c.gateway? env = w := by
  rw [gateway?, h]

/-- When a gateway is no error, there is one exactly if HTTP and its URL are there. -/
theorem isSome_of_gateway {c : Channel} {env : Environment} {w : Option Webhook}
    (h : c.gateway env = .ok w) :
    w.isSome = (env.capability Capabilities.http && (env.property c.webhookUrlKey).isSome) := by
  unfold gateway at h
  split at h
  · rename_i http
    rw [http, Bool.true_and]
    split at h
    · rename_i none
      obtain rfl := Except.ok.inj h
      rw [none]; rfl
    · rename_i value some
      split at h
      · cases h
      · obtain rfl := Except.ok.inj h
        rw [some]; rfl
  · rename_i http
    obtain rfl := Except.ok.inj h
    rw [Bool.not_eq_true _ |>.mp http]; rfl

theorem name_of_gateway {c : Channel} {env : Environment} {w : Webhook}
    (h : c.gateway env = .ok (some w)) : w.name = c.webhookName := by
  unfold gateway at h
  split at h
  · split at h
    · cases h
    · split at h
      · cases h
      · obtain rfl := Option.some.inj (Except.ok.inj h)
        rfl
  · cases h

end Channel

/-! ## Plans that grow -/

/-- The outcome of a registration. -/
def Implementation.outcome [Message M] (i : Implementation M) : Outcome :=
  ⟨Message.channel M, i.transport.name, .registered⟩

/-- The webhook of a gateway as an implementation. -/
def Webhook.implementation [Deliverable M] (w : Webhook) (network : Http.Network) :
    Implementation M :=
  ⟨Plan.webhookCondition (Message.channel M), w.transport network⟩

/-- The log as an implementation. -/
def Implementation.log [Deliverable M] : Implementation M :=
  ⟨.always, .log (Message.channel M).logName⟩

namespace Plan

/-- The plan with implementations and outcomes after the others. -/
def extend (p : Plan M) (is : List (Implementation M)) (os : List Outcome) : Plan M :=
  { p with
    resolver := { p.resolver with implementations := p.resolver.implementations ++ is }
    outcomes := p.outcomes ++ os }

@[simp] theorem extend_nil (p : Plan M) : p.extend [] [] = p := by simp [extend]

@[simp] theorem extend_extend (p : Plan M) (is js : List (Implementation M))
    (os qs : List Outcome) :
    (p.extend is os).extend js qs = p.extend (is ++ js) (os ++ qs) := by
  simp [extend]

theorem note_eq_extend [Message M] (p : Plan M) (implementation : String)
    (status : RegistrationStatus) :
    p.note implementation status
      = p.extend [] [⟨Message.channel M, implementation, status⟩] := by
  simp [extend, note]

theorem add_eq_extend [Message M] (p : Plan M) (condition : Condition M)
    (transport : Transport M) :
    p.add condition transport
      = p.extend [⟨condition, transport⟩] [Implementation.outcome ⟨condition, transport⟩] := rfl

/-- The implementations that are known without registration. -/
def known [Deliverable M] (w : Option Webhook) (network : Http.Network) (dryRun : Bool) :
    List (Implementation M) :=
  w.toList.map (·.implementation network) ++ if dryRun then [.log] else []

/-- The outcomes of the attempts to register them. -/
def knownOutcomes (c : Channel) (env : Environment) (dryRun : Bool) : List Outcome :=
  ⟨c, c.webhookName, c.webhookStatus env⟩ ::
    if dryRun then [⟨c, c.logName, .registered⟩] else []

/-- The attempt to register the webhook adds it if there is a gateway, and its outcome. -/
theorem value_registerDefaults [Deliverable M] (p : Plan M) (network : Http.Network) :
    (p.registerDefaults network).value = ((Message.channel M).gateway p.env).map fun w =>
      p.extend (w.toList.map (·.implementation network))
        [⟨Message.channel M, (Message.channel M).webhookName,
          (Message.channel M).webhookStatus p.env⟩] := by
  unfold registerDefaults Channel.gateway Channel.webhookStatus
  cases http : p.env.capability Capabilities.http with
  | false => simp [Environment.askCapability, http, skip, note_eq_extend, Except.map]
  | true =>
    cases url : p.env.property (Message.channel M).webhookUrlKey with
    | none =>
      simp [Environment.askCapability, Environment.askProperty, http, url, skip, note_eq_extend,
        Except.map]
    | some value =>
      cases read : Url.read value with
      | error reason =>
        simp [Environment.askCapability, Environment.askProperty, http, url, read, Except.map]
      | ok u =>
        simp [Environment.askCapability, Environment.askProperty, http, url, read, register,
          add_eq_extend, Webhook.implementation, Implementation.outcome, Webhook.transport,
          Except.map]

/-- A finished plan has what is known after what it had. -/
theorem value_finish [Deliverable M] (p : Plan M) (network : Http.Network) (dryRun : Bool) :
    (p.finish network dryRun).value = ((Message.channel M).gateway p.env).map fun w =>
      (p.extend (known w network dryRun)
        (knownOutcomes (Message.channel M) p.env dryRun)).pipeline := by
  simp only [finish, Traced.value_bind, value_registerDefaults]
  cases (Message.channel M).gateway p.env with
  | error e => rfl
  | ok w =>
    cases dryRun <;>
      simp [Except.map, registerDryRun, register, build, add_eq_extend, known, knownOutcomes,
        Implementation.log, Implementation.outcome, Transport.log]

/-- The plan with registered implementations after the others. -/
def enroll [Message M] (p : Plan M) (is : List (Implementation M)) : Plan M :=
  p.extend is (is.map (·.outcome))

theorem enroll_enroll [Message M] (p : Plan M) (is js : List (Implementation M)) :
    (p.enroll is).enroll js = p.enroll (is ++ js) := by
  simp [enroll]

end Plan

/-! ## Registrations -/

/-- A registration after the configuration was read. -/
inductive Registration where
  | sms (i : Implementation Sms)
  | email (i : Implementation Email)

namespace Registration

/-- The implementation of a registration for texts. -/
def sms? : Registration → Option (Implementation Sms)
  | .sms i => some i
  | .email _ => none

/-- The implementation of a registration for letters. -/
def email? : Registration → Option (Implementation Email)
  | .sms _ => none
  | .email i => some i

end Registration

namespace Assembly

/-- Makes a registration. -/
def enter (a : Assembly) : Registration → Traced Event Assembly
  | .sms i => a.registerSms i.condition i.transport
  | .email i => a.registerEmail i.condition i.transport

/-- Makes registrations, one after the other. -/
def enterAll (a : Assembly) (rs : List Registration) : Traced Event Assembly := rs.foldlM enter a

theorem value_registerWith [Message M] (plan : Option (Plan M)) (i : Implementation M) :
    (registerWith plan i.condition i.transport).value = plan.map (·.enroll [i]) := by
  cases plan <;> rfl

/-- After some registrations, each plan has those of its own channel, in their order. -/
theorem value_enterAll (a : Assembly) (rs : List Registration) :
    (a.enterAll rs).value =
      { a with
        sms := a.sms.map (·.enroll (rs.filterMap (·.sms?)))
        email := a.email.map (·.enroll (rs.filterMap (·.email?))) } := by
  unfold enterAll
  induction rs generalizing a with
  | nil => simp [Plan.enroll]
  | cons r rs ih =>
    rw [List.foldlM_cons, Traced.value_bind, ih]
    -- The first registration adds to the plan of its channel, and the rest add after it.
    cases r with
    | sms i =>
      simp [enter, registerSms, value_registerWith, Registration.sms?, Registration.email?,
        Function.comp_def, Plan.enroll_enroll]
    | email i =>
      simp [enter, registerEmail, value_registerWith, Registration.sms?, Registration.email?,
        Function.comp_def, Plan.enroll_enroll]

/-- Reads a configuration, makes registrations and puts everything together. -/
def assemble (c : Config) (env : Environment) (world : World) (rs : List Registration) :
    Traced Event (Except AssemblyError (Service × Report)) := do
  match ← ofConfig c env world.files with
  | .error e => return .error e
  | .ok a => (← a.enterAll rs).build world.network

theorem value_ifThere {α β : Type} (f : α → Traced Event (Except AssemblyError β)) (o : Option α) :
    (ifThere f o).value = match o with
      | none => .ok none
      | some a => (f a).value.map some := by
  cases o <;> rfl

theorem value_build (a : Assembly) (network : Http.Network) :
    (a.build network).value = do
      let sms ← (ifThere (Plan.finish · network a.dryRun) a.sms).value
      let email ← (ifThere (Plan.finish · network a.dryRun) a.email).value
      return (⟨sms.map (·.sender), email.map (·.sender)⟩, reportOf sms email) := by
  simp only [build, Traced.value_bind]
  cases (ifThere (Plan.finish · network a.dryRun) a.sms).value with
  | error e => rfl
  | ok sms =>
    simp only [Traced.value_bind]
    cases (ifThere (Plan.finish · network a.dryRun) a.email).value <;> rfl

end Assembly

/-! ## What a configuration asks for -/

namespace Config

variable (c : Config) (env : Environment) (files : Files)

/-- The layer for filling, if it is asked for. -/
def filling [Message M] (fill : Bool) : Layers M :=
  if fill then Layers.empty.setFiller (.properties env (Message.channel M).prefixes) else .empty

/-- The layers for filling and for templates. -/
def ownLayers [Message M] (fill : Bool) (own : Option LocationConfig) : Layers M :=
  if c.templates.enabled then
    (filling env fill).setContentTranslator ((c.templates.location own).translator files)
  else filling env fill

/-- The layers for texts. -/
def smsLayers : Layers Sms :=
  let l := c.ownLayers env files c.sms.fill c.templates.sms
  if c.sms.addressing then l.setAddressing (.ofRules c.senderRules c.recipientRules) else l

/-- The layers for letters. -/
def emailLayers : Layers Email := c.ownLayers env files c.email.fill c.templates.email

/-- Templates need their capability. -/
def checkTemplates : Except AssemblyError Unit :=
  if c.templates.enabled && !env.capability Capabilities.templates then
    .error .templatesUnavailable
  else .ok ()

/-- Numbers become addresses by rules that are valid. -/
def checkAddressing : Except AssemblyError Unit :=
  if c.sms.addressing then checkRules c.senderRules c.recipientRules else .ok ()

/-- What the channel of texts needs. -/
def checkSms : Except AssemblyError Unit :=
  if c.sms.enabled then do
    c.checkTemplates env
    c.checkAddressing
  else .ok ()

/-- What the channel of letters needs. -/
def checkEmail : Except AssemblyError Unit :=
  if c.email.enabled then c.checkTemplates env else .ok ()

/-- The gateway of a channel that is enabled must be one that can be used. -/
def checkGateway (channel : Channel) (enabled : Bool) : Except AssemblyError Unit :=
  if enabled then (channel.gateway env).map fun _ => () else .ok ()

/-- All that is checked, in the order in which it is. -/
def check : Except AssemblyError Unit := do
  c.checkSms env
  c.checkEmail env
  checkGateway env .sms c.sms.enabled
  checkGateway env .email c.email.enabled

variable {c env}

/-- The gateways are among the things that are checked. -/
theorem checkGateway_of_check (h : c.check env = .ok ()) :
    checkGateway env .sms c.sms.enabled = .ok ()
      ∧ checkGateway env .email c.email.enabled = .ok () := by
  unfold check at h
  obtain ⟨_, -, h⟩ := bind_eq_ok_iff.1 h
  obtain ⟨_, -, h⟩ := bind_eq_ok_iff.1 h
  obtain ⟨_, hg, h⟩ := bind_eq_ok_iff.1 h
  exact ⟨hg, h⟩

end Config

namespace Plan

theorem value_withTemplates (p : Plan M) (files : Files) (location : TemplateLocation) :
    (p.withTemplates files location).value =
      if p.env.capability Capabilities.templates then
        .ok (p.withContentTranslator (location.translator files))
      else .error .templatesUnavailable := by
  cases h : p.env.capability Capabilities.templates <;>
    simp [withTemplates, Environment.askCapability, h]

theorem value_ofConfig [Message M] (c : Config) (env : Environment) (files : Files) (fill : Bool)
    (own : Option LocationConfig) :
    (ofConfig env files fill c.templates own : Traced Event (Except AssemblyError (Plan M))).value
      = do
        c.checkTemplates env
        return (new env).setLayers (c.ownLayers env files fill own) := by
  have start : (if fill then (new env).withAutoFilling else new env : Plan M)
      = (new env).setLayers (Config.filling env fill) := by
    cases fill <;> rfl
  unfold ofConfig Config.checkTemplates Config.ownLayers
  rw [start]
  cases c.templates.enabled with
  | false => rfl
  | true =>
    simp only [if_true, value_withTemplates, Bool.true_and]
    rw [show ((new env).setLayers (Config.filling (M := M) env fill)).env = env from rfl]
    cases env.capability Capabilities.templates <;> rfl

theorem value_smsOfConfig (c : Config) (env : Environment) (files : Files) :
    (smsOfConfig c env files).value = do
      c.checkTemplates env
      c.checkAddressing
      return (new env).setLayers (c.smsLayers env files) := by
  simp only [smsOfConfig, Traced.value_bind, value_ofConfig]
  cases c.checkTemplates env with
  | error e => rfl
  | ok _ =>
    unfold Config.checkAddressing Config.smsLayers
    cases c.sms.addressing with
    | false => rfl
    | true =>
      show withAddressing _ c.senderRules c.recipientRules = _
      unfold withAddressing
      cases checkRules c.senderRules c.recipientRules <;> rfl

/-- A plan with layers and registered implementations, and what is known. -/
def full [Deliverable M] (env : Environment) (l : Layers M) (is : List (Implementation M))
    (network : Http.Network) (dryRun : Bool) : Plan M :=
  (((new env).setLayers l).enroll is).extend
    (known ((Message.channel M).gateway? env) network dryRun)
    (knownOutcomes (Message.channel M) env dryRun)

theorem value_finish_enroll [Deliverable M] (env : Environment) (l : Layers M)
    (is : List (Implementation M)) (network : Http.Network) (dryRun : Bool) :
    ((((new env).setLayers l).enroll is).finish network dryRun).value
      = ((Message.channel M).gateway env).map fun _ => (full env l is network dryRun).pipeline := by
  rw [value_finish]
  show ((Message.channel M).gateway env).map _ = _
  cases h : (Message.channel M).gateway env with
  | error e => rfl
  | ok w => rw [full, Channel.gateway?_of_gateway h]; rfl

end Plan

/-! ## The whole -/

/-- The pipeline of a channel, if it is enabled. -/
def Pipeline.ofEnabled [Deliverable M] (enabled : Bool) (env : Environment) (l : Layers M)
    (is : List (Implementation M)) (network : Http.Network) (dryRun : Bool) :
    Option (Pipeline M) :=
  if enabled then some (Plan.full env l is network dryRun).pipeline else none

namespace Config

variable (c : Config) (env : Environment) (world : World) (rs : List Registration)

/-- The pipeline for texts, if they are enabled. -/
def smsPipeline? : Option (Pipeline Sms) :=
  Pipeline.ofEnabled c.sms.enabled env (c.smsLayers env world.files) (rs.filterMap (·.sms?))
    world.network c.dryRun

/-- The pipeline for letters, if they are enabled. -/
def emailPipeline? : Option (Pipeline Email) :=
  Pipeline.ofEnabled c.email.enabled env (c.emailLayers env world.files) (rs.filterMap (·.email?))
    world.network c.dryRun

end Config

namespace Assembly

/-- Plans are made of the channels that are enabled, and an error of making one is the error. -/
theorem value_ofConfig (c : Config) (env : Environment) (files : Files) :
    (ofConfig c env files).value = do
      c.checkSms env
      c.checkEmail env
      return {
        sms := if c.sms.enabled then some ((Plan.new env).setLayers (c.smsLayers env files))
          else none
        email := if c.email.enabled then some ((Plan.new env).setLayers (c.emailLayers env files))
          else none
        dryRun := c.dryRun } := by
  have stages : ofConfig c env files =
      (ifThere (fun _ => Plan.smsOfConfig c env files)
        (if c.sms.enabled then some () else none)).andThen fun sms =>
      (ifThere (fun _ => Plan.emailOfConfig c env files)
        (if c.email.enabled then some () else none)).andThen fun email =>
      pure (.ok ⟨sms, email, c.dryRun⟩) :=
    Traced.bind_eq_andThen (fun _ => rfl) fun _ =>
      Traced.bind_eq_andThen (fun _ => rfl) fun _ => rfl
  simp only [stages, Traced.value_andThen, value_ifThere, Config.checkSms, Config.checkEmail]
  -- With both switches known, each stage is its checks and then its plan.
  cases c.sms.enabled <;> cases c.email.enabled <;>
    simp only [if_true, Bool.false_eq_true, if_false, Plan.value_smsOfConfig, Plan.emailOfConfig,
      Plan.value_ofConfig] <;>
    cases c.checkTemplates env <;> cases c.checkAddressing <;> rfl

/-- Finishing the plan of a channel that is enabled needs a gateway that can be used, and gives its
full pipeline. -/
theorem value_finishEnabled [Deliverable M] (enabled : Bool) (env : Environment) (l : Layers M)
    (is : List (Implementation M)) (network : Http.Network) (dryRun : Bool) :
    (ifThere (Plan.finish · network dryRun)
      ((if enabled then some ((Plan.new env).setLayers l) else none).map (·.enroll is))).value = do
        Config.checkGateway env (Message.channel M) enabled
        return Pipeline.ofEnabled enabled env l is network dryRun := by
  unfold Config.checkGateway Pipeline.ofEnabled
  cases enabled with
  | false => rfl
  | true =>
    simp only [if_true, Option.map_some, value_ifThere, Plan.value_finish_enroll]
    cases (Message.channel M).gateway env <;> rfl

/-- **What assembly comes to.**  The first check that fails is the error; if none does, the service
and the report are those of the pipelines of the channels that are enabled. -/
theorem value_assemble (c : Config) (env : Environment) (world : World) (rs : List Registration) :
    (assemble c env world rs).value = do
      c.check env
      return (⟨(c.smsPipeline? env world rs).map (·.sender),
          (c.emailPipeline? env world rs).map (·.sender)⟩,
        reportOf (c.smsPipeline? env world rs) (c.emailPipeline? env world rs)) := by
  have stages : assemble c env world rs =
      (ofConfig c env world.files).andThen fun a => a.enterAll rs >>= (·.build world.network) :=
    Traced.bind_eq_andThen (fun _ => rfl) fun _ => rfl
  rw [stages]
  simp only [Traced.value_andThen, Traced.value_bind, value_ofConfig, value_enterAll, value_build,
    value_finishEnabled, Config.check, Config.smsPipeline?, Config.emailPipeline?, bind_assoc,
    pure_bind]
  rfl

/-- When assembly succeeds, no check failed. -/
theorem of_value_assemble {c : Config} {env : Environment} {world : World}
    {rs : List Registration} {service : Service} {report : Report}
    (h : (assemble c env world rs).value = .ok (service, report)) :
    c.check env = .ok ()
      ∧ service = ⟨(c.smsPipeline? env world rs).map (·.sender),
          (c.emailPipeline? env world rs).map (·.sender)⟩
      ∧ report = reportOf (c.smsPipeline? env world rs) (c.emailPipeline? env world rs) := by
  rw [value_assemble] at h
  generalize c.smsPipeline? env world rs = sms at h ⊢
  generalize c.emailPipeline? env world rs = email at h ⊢
  cases checked : c.check env with
  | error e => rw [checked] at h; cases h
  | ok _ =>
    rw [checked] at h
    obtain ⟨rfl, rfl⟩ := Prod.mk.inj (Except.ok.inj h)
    exact ⟨rfl, rfl, rfl⟩

end Assembly

end Courier
