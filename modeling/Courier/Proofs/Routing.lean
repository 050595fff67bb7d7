/-
# Routing — which implementation of a service gets a message

In a service that was put together, a message that the layers of its channel let through goes to
the first registered implementation whose condition holds of it, else to the webhook, else, in a
dry run, to the log (`Routed`).  Whether there is a webhook is decided during assembly, and what is
asked then is what its condition asks of every message: so the condition of a webhook that was
registered always holds, and nothing that stands behind it is ever tried.

A channel that is not enabled has no pipeline and no report, whatever was registered on it
(`Silent`).
-/
import Courier.Proofs.Assembled
import Courier.Proofs.Dispatch

namespace Courier

variable {M : Type}

/-! ## Known implementations -/

/-- The condition of a webhook asks what assembly asks. -/
theorem Plan.holds_webhookCondition (c : Channel) (env : Environment) (m : M) :
    (webhookCondition c : Condition M).holds env m
      = (env.capability Capabilities.http && (env.property c.webhookUrlKey).isSome) := by
  cases http : env.capability Capabilities.http <;>
    cases url : (env.property c.webhookUrlKey).isSome <;>
    simp [webhookCondition, Condition.holds, Condition.evaluate, Condition.evaluateAll,
      Environment.askCapability, Environment.askHasProperty, http, url]

/-- Of the known implementations, a webhook takes every message, and else the log does. -/
theorem Plan.find?_known [Deliverable M] {env : Environment} {w : Option Webhook}
    (h : (Message.channel M).gateway env = .ok w) (network : Http.Network) (dryRun : Bool) (m : M) :
    (known w network dryRun).find? (fun i => i.condition.holds env m)
      = (w.map (·.implementation network)).or (if dryRun then some .log else none) := by
  cases w with
  | some w =>
    -- There is a gateway, so what assembly asked was there, and the condition asks for no more.
    have ready := Channel.isSome_of_gateway h
    have taken : (w.implementation (M := M) network).condition.holds env m = true :=
      (holds_webhookCondition _ env m).trans ready.symm
    simp [known, taken]
  | none =>
    have taken : (Implementation.log (M := M)).condition.holds env m = true := rfl
    cases dryRun <;> simp [known, taken]

theorem Plan.names_known [Deliverable M] {env : Environment} {w : Option Webhook}
    (h : (Message.channel M).gateway env = .ok w) (network : Http.Network) (dryRun : Bool) :
    (known (M := M) w network dryRun).map (·.transport.name)
      = w.toList.map (fun _ => (Message.channel M).webhookName)
        ++ if dryRun then [(Message.channel M).logName] else [] := by
  have logged : (if dryRun then [Implementation.log (M := M)] else []).map (·.transport.name)
      = if dryRun then [(Message.channel M).logName] else [] := by
    cases dryRun <;> rfl
  rw [known, List.map_append, logged]
  cases w with
  | none => rfl
  | some w => exact congrArg (· :: _) (Channel.name_of_gateway h)

/-! ## Channels of a service -/

/-- What a channel does that is enabled: `is` are its registered implementations, `send` is its way
in, `report` its report and `outcomes` the outcomes on it. -/
structure Routed [Deliverable M] (env : Environment) (network : Http.Network) (dryRun : Bool)
    (l : Layers M) (is : List (Implementation M))
    (send : M → Traced (Step M) (Except SendError Unit)) (report : Option ChannelReport)
    (outcomes : List Outcome) : Prop where
  /-- There is a gateway to register if and only if HTTP and its URL are there. -/
  webhook : ((Message.channel M).gateway? env).isSome
    = (env.capability Capabilities.http && (env.property (Message.channel M).webhookUrlKey).isSome)
  report : report = some ⟨l.kinds, is.map (·.transport.name)
    ++ ((Message.channel M).gateway? env).toList.map (fun _ => (Message.channel M).webhookName)
    ++ if dryRun then [(Message.channel M).logName] else []⟩
  outcomes : outcomes = is.map (·.outcome) ++ Plan.knownOutcomes (Message.channel M) env dryRun
  routes : ∀ m m' : M, l.outcome m = .ok m' →
    match is.find? (fun i => i.condition.holds env m') with
    | some i => Delivers (send m) i.transport m'
    | none =>
      match (Message.channel M).gateway? env with
      | some w => Delivers (send m) (w.transport network) m'
      | none =>
        if dryRun then Delivers (send m) (.log (Message.channel M).logName) m'
        else Fails (send m) (.noMatchingImplementation (Message.channel M) (Message.summary m'))

/-- What a channel does that is not enabled: nothing is sent, and nothing is reported. -/
structure Silent (c : Channel) (send : M → Traced (Step M) (Except SendError Unit))
    (report : Option ChannelReport) (outcomes : List Outcome) : Prop where
  send : ∀ m, send m = ⟨.error (.channelNotConfigured c), []⟩
  report : report = none
  outcomes : outcomes = []

theorem Plan.implementations_full [Deliverable M] (env : Environment) (l : Layers M)
    (is : List (Implementation M)) (network : Http.Network) (dryRun : Bool) :
    (full env l is network dryRun).resolver.implementations
      = is ++ known ((Message.channel M).gateway? env) network dryRun := by
  simp [full, enroll, extend, setLayers, new, Resolver.new]

/-- A channel whose plan is full does what a channel does that is enabled. -/
theorem Plan.routed_full [Deliverable M] {env : Environment} {w : Option Webhook}
    (h : (Message.channel M).gateway env = .ok w) (l : Layers M) (is : List (Implementation M))
    (network : Http.Network) (dryRun : Bool) :
    Routed env network dryRun l is (full env l is network dryRun).pipeline.sender.send
      (some (full env l is network dryRun).pipeline.report)
      (full env l is network dryRun).pipeline.outcomes where
  webhook := by
    rw [Channel.gateway?_of_gateway h]
    exact Channel.isSome_of_gateway h
  report := by
    have names : (full env l is network dryRun).resolver.names = is.map (·.transport.name)
        ++ w.toList.map (fun _ => (Message.channel M).webhookName)
        ++ if dryRun then [(Message.channel M).logName] else [] := by
      rw [Resolver.names, implementations_full, Channel.gateway?_of_gateway h, List.map_append,
        names_known h, List.append_assoc]
    rw [Channel.gateway?_of_gateway h, ← names]
    rfl
  outcomes := by simp [pipeline, full, enroll, extend, setLayers, new]
  routes m m' passed := by
    have tried : (full env l is network dryRun).resolver.implementations.find?
          (fun i => i.condition.holds env m')
        = (is.find? (fun i => i.condition.holds env m')).or
          ((w.map (·.implementation network)).or (if dryRun then some .log else none)) := by
      rw [implementations_full, List.find?_append, Channel.gateway?_of_gateway h, find?_known h]
    rw [Channel.gateway?_of_gateway h]
    cases hi : is.find? (fun i => i.condition.holds env m') with
    | some i =>
      rw [hi] at tried
      exact send_of_match (p := full env l is network dryRun) passed tried
    | none =>
      rw [hi, Option.none_or] at tried
      cases w with
      | some w => exact send_of_match (p := full env l is network dryRun) passed tried
      | none =>
        cases dryRun with
        | true => exact send_of_match (p := full env l is network true) passed tried
        | false => exact send_of_no_match (p := full env l is network false) passed tried

/-- A channel is routed if it is enabled, and silent if it is not. -/
theorem Pipeline.settled_ofEnabled [Deliverable M] {enabled : Bool} {env : Environment}
    (h : Config.checkGateway env (Message.channel M) enabled = .ok ()) (l : Layers M)
    (is : List (Implementation M)) (network : Http.Network) (dryRun : Bool) :
    let p := ofEnabled enabled env l is network dryRun
    if enabled then
      Routed env network dryRun l is (Service.sendThrough (p.map (·.sender))) (p.map (·.report))
        (Assembly.outcomesOf p)
    else
      Silent (Message.channel M) (Service.sendThrough (p.map (·.sender))) (p.map (·.report))
        (Assembly.outcomesOf p) := by
  cases enabled with
  | false => exact ⟨fun _ => rfl, rfl, rfl⟩
  | true =>
    cases hg : (Message.channel M).gateway env with
    | error e => simp [Config.checkGateway, hg, Except.map] at h
    | ok w => exact Plan.routed_full hg l is network dryRun

/-- The outcomes of a pipeline are those of its channel. -/
theorem Pipeline.channel_of_mem_outcomes [Deliverable M] {enabled : Bool} {env : Environment}
    {l : Layers M} {is : List (Implementation M)} {network : Http.Network} {dryRun : Bool}
    {o : Outcome} (h : o ∈ Assembly.outcomesOf (ofEnabled enabled env l is network dryRun)) :
    o.channel = Message.channel M := by
  cases enabled with
  | false => cases h
  | true =>
    replace h : o ∈ [] ++ is.map (·.outcome)
      ++ Plan.knownOutcomes (Message.channel M) env dryRun := h
    rcases List.mem_append.1 h with h | h
    · obtain ⟨i, -, rfl⟩ := List.mem_map.1 h
      rfl
    · rcases List.mem_cons.1 h with rfl | h
      · rfl
      · cases dryRun with
        | false => cases h
        | true => exact List.mem_singleton.1 h ▸ rfl

/-- The outcomes on a channel are those of its pipeline. -/
theorem Assembly.filter_registrations {sms : Option (Pipeline Sms)}
    {email : Option (Pipeline Email)} (hs : ∀ o ∈ outcomesOf sms, o.channel = .sms)
    (he : ∀ o ∈ outcomesOf email, o.channel = .email) :
    (reportOf sms email).registrations.filter (·.channel = .sms) = outcomesOf sms
      ∧ (reportOf sms email).registrations.filter (·.channel = .email) = outcomesOf email := by
  constructor
  · rw [reportOf, List.filter_append, List.filter_eq_self.2 (by simpa using hs),
      List.filter_eq_nil_iff.2 fun o ho => by simp [he o ho], List.append_nil]
  · rw [reportOf, List.filter_append, List.filter_eq_nil_iff.2 fun o ho => by simp [hs o ho],
      List.filter_eq_self.2 (by simpa using he), List.nil_append]

/-- **Who gets a message of an assembled service.**  On a channel that is enabled, whatever the
layers let through goes to the first registered implementation whose condition holds of it, else to
the webhook, which is there if and only if HTTP and its URL are, else to the log of a dry run, and
else it has no implementation; on a channel that is not, nothing is sent or reported. -/
theorem Assembly.routed_of_assemble {c : Config} {env : Environment} {world : World}
    {rs : List Registration} {service : Service} {report : Report}
    (h : (assemble c env world rs).value = .ok (service, report)) :
    (if c.sms.enabled then
      Routed env world.network c.dryRun (c.smsLayers env world.files) (rs.filterMap (·.sms?))
        service.sendSms report.sms (report.registrations.filter (·.channel = .sms))
    else
      Silent .sms service.sendSms report.sms (report.registrations.filter (·.channel = .sms))) ∧
    (if c.email.enabled then
      Routed env world.network c.dryRun (c.emailLayers env world.files) (rs.filterMap (·.email?))
        service.sendEmail report.email (report.registrations.filter (·.channel = .email))
    else
      Silent .email service.sendEmail report.email
        (report.registrations.filter (·.channel = .email))) := by
  obtain ⟨checked, rfl, rfl⟩ := of_value_assemble h
  obtain ⟨sms, email⟩ := Config.checkGateway_of_check checked
  have ofSms : ∀ o ∈ outcomesOf (c.smsPipeline? env world rs), o.channel = .sms :=
    fun _ => Pipeline.channel_of_mem_outcomes (M := Sms)
  have ofEmail : ∀ o ∈ outcomesOf (c.emailPipeline? env world rs), o.channel = .email :=
    fun _ => Pipeline.channel_of_mem_outcomes (M := Email)
  obtain ⟨onSms, onEmail⟩ := filter_registrations ofSms ofEmail
  rw [onSms, onEmail]
  have settledSms := Pipeline.settled_ofEnabled (M := Sms) sms (c.smsLayers env world.files)
    (rs.filterMap (·.sms?)) world.network c.dryRun
  have settledEmail := Pipeline.settled_ofEnabled (M := Email) email (c.emailLayers env world.files)
    (rs.filterMap (·.email?)) world.network c.dryRun
  exact ⟨settledSms, settledEmail⟩

/-- A service for texts alone, with a gateway, a registration and one that is ignored. -/
theorem Assembly.routed_of_assemble_gateway :
    let c : Config :=
      { Config.standard with
        dryRun := true
        sms := { SmsConfig.standard with countryCode := some "49" }
        email := { EmailConfig.standard with enabled := false } }
    let env : Environment :=
      .of (.ofList [("herald.sms.webhook.url", "http://localhost/sms")]) .detect
    let few : Implementation Sms := ⟨.matching fun m => m.recipients.length < 3, .memory "few" none⟩
    let lost : Implementation Email := ⟨.always, .memory "lost" none⟩
    ∃ service report,
      (assemble c env ⟨⟨[], []⟩, .silent⟩ [.sms few, .email lost]).value = .ok (service, report)
        ∧ Routed env .silent true (c.smsLayers env ⟨[], []⟩) [few] service.sendSms report.sms
            (report.registrations.filter (·.channel = .sms))
        ∧ Silent .email service.sendEmail report.email
            (report.registrations.filter (·.channel = .email)) := by
  intro c env few lost
  have checked : c.check env = .ok () := by decide +kernel
  have assembled := value_assemble c env ⟨⟨[], []⟩, .silent⟩ [.sms few, .email lost]
  rw [checked] at assembled
  have settled := routed_of_assemble assembled
  exact ⟨_, _, assembled, settled⟩

end Courier
