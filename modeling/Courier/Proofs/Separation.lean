/-
# Separation — what belongs to one channel does not reach the other

A condition depends on the environment in no more than what it requires
(`Condition.evaluate_congr`), filling in no more than the fields under its prefixes
(`Filler.properties_congr`), and the webhook in no more than the keys of its channel.  So two
configurations that agree on a channel have the same layers there and implementations that are tried
alike, and the channel becomes one and the same pipeline in both (`Config.AgreeOn.ofEnabled`),
whatever the other channel is set to.

What is proved equal of the two ways to send are all steps, and not the answer alone.
-/
import Courier.Proofs.Ownership
import Courier.Proofs.Routing

namespace Courier

variable {M : Type}

/-! ## What is read of the environment -/

/-- Two environments are the same in all that a condition requires. -/
structure Condition.AgreeOn (c : Condition M) (env env' : Environment) : Prop where
  properties : ∀ key ∈ c.requiredProperties, env.property key = env'.property key
  capabilities : ∀ name ∈ c.requiredCapabilities, env.capability name = env'.capability name

namespace Condition

variable {env env' : Environment} {m : M}

mutual
/-- What a condition does not require does not matter for it. -/
theorem evaluate_congr : ∀ c : Condition M, c.AgreeOn env env' →
    c.evaluate env m = c.evaluate env' m
  | .fixed _, _ => rfl
  | .property key, h => by
    have same := h.properties key List.mem_cons_self
    simp only [evaluate, Environment.askHasProperty, same]
  | .capability name, h => by
    have same := h.capabilities name List.mem_cons_self
    simp only [evaluate, Environment.askCapability, same]
  | .all cs, h => evaluateAll_congr cs h.properties h.capabilities
  | .matching _, _ => rfl

theorem evaluateAll_congr : ∀ cs : List (Condition M),
    (∀ key ∈ requiredPropertiesAll cs, env.property key = env'.property key) →
    (∀ name ∈ requiredCapabilitiesAll cs, env.capability name = env'.capability name) →
    evaluateAll env m cs = evaluateAll env' m cs
  | [], _, _ => rfl
  | c :: cs, properties, capabilities => by
    have first := evaluate_congr c
      ⟨fun key hk => properties key (List.mem_append_left _ hk),
        fun name hn => capabilities name (List.mem_append_left _ hn)⟩
    have rest := evaluateAll_congr cs
      (fun key hk => properties key (List.mem_append_right _ hk))
      (fun name hn => capabilities name (List.mem_append_right _ hn))
    simp only [evaluateAll, first, rest]
end

end Condition

namespace Resolver

variable {env env' : Environment} {is : List (Implementation M)}

theorem firstMatch_congr (h : ∀ i ∈ is, i.condition.AgreeOn env env') (m : M) :
    firstMatch env m is = firstMatch env' m is := by
  induction is with
  | nil => rfl
  | cons i is ih =>
    have first := Condition.evaluate_congr (m := m) i.condition (h i List.mem_cons_self)
    have rest := ih fun j hj => h j (List.mem_cons_of_mem i hj)
    simp only [firstMatch, first, rest]

/-- Environments that agree on all conditions of a resolver are the same to it. -/
theorem toSender_congr [Message M] (h : ∀ i ∈ is, i.condition.AgreeOn env env') :
    (⟨env, is⟩ : Resolver M).toSender = (⟨env', is⟩ : Resolver M).toSender := by
  have same : ∀ m, (⟨env, is⟩ : Resolver M).send m = (⟨env', is⟩ : Resolver M).send m := by
    intro m
    simp only [send, choose, firstMatch_congr h m]
    rfl
  exact congrArg (Sender.mk _) (funext same)

end Resolver

namespace Filler

variable {env env' : Environment}

theorem firstProperty_congr {field : String} {prefixes : List String}
    (h : ∀ p ∈ prefixes, env.property (p ++ "." ++ field) = env'.property (p ++ "." ++ field)) :
    firstProperty env field prefixes = firstProperty env' field prefixes := by
  induction prefixes with
  | nil => rfl
  | cons p ps ih =>
    have first := h p List.mem_cons_self
    have rest := ih fun q hq => h q (List.mem_cons_of_mem p hq)
    simp only [firstProperty, Environment.askProperty, first, rest]

/-- Filling depends on the fields under its prefixes alone. -/
theorem properties_congr [Message M] {prefixes : List String}
    (h : ∀ p ∈ prefixes, ∀ field, env.property (p ++ "." ++ field)
      = env'.property (p ++ "." ++ field)) :
    (properties env prefixes : Filler M) = properties env' prefixes := by
  have looked : ∀ field, firstProperty env field prefixes = firstProperty env' field prefixes :=
    fun field => firstProperty_congr fun p hp => h p hp field
  simp only [properties, propertySource, looked]

end Filler

/-! ## The same pipeline -/

/-- Plans are the same pipeline if they differ in their environments alone, and these agree on all
conditions. -/
theorem Plan.pipeline_congr [Message M] {p p' : Plan M}
    (implementations : p.resolver.implementations = p'.resolver.implementations)
    (layers : p.layers = p'.layers) (outcomes : p.outcomes = p'.outcomes)
    (alike : ∀ i ∈ p.resolver.implementations, i.condition.AgreeOn p.env p'.env) :
    p.pipeline = p'.pipeline := by
  obtain ⟨⟨env, is⟩, l, os⟩ := p
  obtain ⟨⟨env', is'⟩, l', os'⟩ := p'
  obtain rfl : is = is' := implementations
  obtain rfl : l = l' := layers
  obtain rfl : os = os' := outcomes
  have sender : (⟨env, is⟩ : Resolver M).toSender = (⟨env', is⟩ : Resolver M).toSender :=
    Resolver.toSender_congr alike
  rw [pipeline, pipeline, sender]
  rfl

namespace Config.AgreeOn

variable {c c' : Config} {env env' : Environment}

/-- A condition that requires no property in which they differ is the same in both. -/
theorem condition {channel : Channel} (h : AgreeOn channel c c' env env') {condition : Condition M}
    (own : ∀ key ∈ condition.requiredProperties, env.property key = env'.property key) :
    condition.AgreeOn env env' :=
  ⟨own, fun name _ => congrFun h.capability name⟩

section Pipelines

variable [Deliverable M]

/-- The conditions of the known implementations require what belongs to their channel. -/
theorem known (h : AgreeOn (Message.channel M) c c' env env') {w : Option Webhook}
    {network : Http.Network} {dryRun : Bool} :
    ∀ i ∈ Plan.known (M := M) w network dryRun, i.condition.AgreeOn env env' := by
  intro i hi
  refine h.condition fun key hk => ?_
  rcases List.mem_append.1 hi with hi | hi
  · obtain ⟨w, -, rfl⟩ := List.mem_map.1 hi
    obtain rfl : key = (Message.channel M).webhookUrlKey := List.mem_singleton.1 hk
    exact h.owned (Message.channel M).owns_webhookUrlKey
  · cases dryRun with
    | false => cases hi
    | true =>
      obtain rfl := List.mem_singleton.1 hi
      cases hk

/-- With the same layers and registrations, they have the same pipeline. -/
theorem ofEnabled (h : AgreeOn (Message.channel M) c c' env env') (enabled : Bool) (l : Layers M)
    {is : List (Implementation M)}
    (own : ∀ i ∈ is, ∀ key ∈ i.condition.requiredProperties, env.property key = env'.property key)
    (network : Http.Network) (dryRun : Bool) :
    Pipeline.ofEnabled enabled env l is network dryRun
      = Pipeline.ofEnabled enabled env' l is network dryRun := by
  have gateway : (Message.channel M).gateway? env = (Message.channel M).gateway? env' := by
    rw [Channel.gateway?, Channel.gateway?, h.gateway]
  have same : (Plan.full env l is network dryRun).pipeline
      = (Plan.full env' l is network dryRun).pipeline := by
    refine Plan.pipeline_congr ?_ rfl ?_ ?_
    · rw [Plan.implementations_full, Plan.implementations_full, gateway]
    · show _ ++ Plan.knownOutcomes _ env dryRun = _ ++ Plan.knownOutcomes _ env' dryRun
      rw [Plan.knownOutcomes, Plan.knownOutcomes, h.webhookStatus]
      rfl
    · rw [Plan.implementations_full]
      intro i hi
      rcases List.mem_append.1 hi with hi | hi
      · exact h.condition (own i hi)
      · exact h.known i hi
  rw [Pipeline.ofEnabled, Pipeline.ofEnabled, same]

/-- They have the same layers for filling and for templates. -/
theorem ownLayers (h : AgreeOn (Message.channel M) c c' env env') (files : Files) (fill : Bool) :
    (c.ownLayers env files fill (c.templates.own (Message.channel M)) : Layers M)
      = c'.ownLayers env' files fill (c'.templates.own (Message.channel M)) := by
  have filling : (Config.filling env fill : Layers M) = Config.filling env' fill := by
    have filler := Filler.properties_congr (M := M) fun p hp field =>
      h.owned (Channel.owns_field hp field)
    rw [Config.filling, Config.filling, filler]
  have location : c.templates.location (c.templates.own (Message.channel M))
      = c'.templates.location (c'.templates.own (Message.channel M)) := by
    rw [TemplatesConfig.location, TemplatesConfig.location, h.before, h.after, h.own]
  rw [Config.ownLayers, Config.ownLayers, h.templates, filling, location]

end Pipelines

variable {world : World} {rs rs' : List Registration}

theorem smsLayers (h : AgreeOn .sms c c' env env') (files : Files) :
    c.smsLayers env files = c'.smsLayers env' files := by
  have settings : c.sms = c'.sms := Sum.inl.inj h.settings
  have layers : c.ownLayers env files c.sms.fill c.templates.sms
      = c'.ownLayers env' files c.sms.fill c'.templates.sms :=
    ownLayers (M := Sms) h files c.sms.fill
  rw [Config.smsLayers, Config.smsLayers, senderRules, senderRules, recipientRules, recipientRules,
    layers, settings]

theorem emailLayers (h : AgreeOn .email c c' env env') (files : Files) :
    c.emailLayers env files = c'.emailLayers env' files := by
  have settings : c.email = c'.email := Sum.inr.inj h.settings
  have layers : c.ownLayers env files c.email.fill c.templates.email
      = c'.ownLayers env' files c.email.fill c'.templates.email :=
    ownLayers (M := Email) h files c.email.fill
  rw [Config.emailLayers, Config.emailLayers, layers, settings]

/-- Texts have one pipeline if two configurations agree on them. -/
theorem smsPipeline? (h : AgreeOn .sms c c' env env')
    (same : rs.filterMap (·.sms?) = rs'.filterMap (·.sms?))
    (own : ∀ i ∈ rs.filterMap (·.sms?), ∀ key ∈ i.condition.requiredProperties,
      env.property key = env'.property key) :
    c.smsPipeline? env world rs = c'.smsPipeline? env' world rs' := by
  have enabled : c.sms.enabled = c'.sms.enabled := h.enabled
  rw [Config.smsPipeline?, Config.smsPipeline?, ← enabled, ← h.smsLayers, ← same, ← h.dryRun]
  exact ofEnabled (M := Sms) h _ _ own _ _

/-- Letters have one pipeline if two configurations agree on them. -/
theorem emailPipeline? (h : AgreeOn .email c c' env env')
    (same : rs.filterMap (·.email?) = rs'.filterMap (·.email?))
    (own : ∀ i ∈ rs.filterMap (·.email?), ∀ key ∈ i.condition.requiredProperties,
      env.property key = env'.property key) :
    c.emailPipeline? env world rs = c'.emailPipeline? env' world rs' := by
  have enabled : c.email.enabled = c'.email.enabled := h.enabled
  rw [Config.emailPipeline?, Config.emailPipeline?, ← enabled, ← h.emailLayers, ← same, ← h.dryRun]
  exact ofEnabled (M := Email) h _ _ own _ _

end Config.AgreeOn

/-! ## Services -/

/-- Two channels are the same to whoever sends and whoever reads the report. -/
structure Alike (send send' : M → Traced (Step M) (Except SendError Unit))
    (report report' : Option ChannelReport) (outcomes outcomes' : List Outcome) : Prop where
  /-- The same steps and the same answer. -/
  send : ∀ m, send m = send' m
  report : report = report'
  outcomes : outcomes = outcomes'

/-- In the report of a configuration, the outcomes on a channel are those of its pipeline. -/
theorem Config.filter_registrations (c : Config) (env : Environment) (world : World)
    (rs : List Registration) :
    let sms := c.smsPipeline? env world rs
    let email := c.emailPipeline? env world rs
    (Assembly.reportOf sms email).registrations.filter (·.channel = .sms) = Assembly.outcomesOf sms
      ∧ (Assembly.reportOf sms email).registrations.filter (·.channel = .email)
        = Assembly.outcomesOf email :=
  Assembly.filter_registrations (fun _ => Pipeline.channel_of_mem_outcomes (M := Sms))
    fun _ => Pipeline.channel_of_mem_outcomes (M := Email)

/-- **Channels do not touch one another.**  If two configurations that can both be put together
agree on a channel, with the same registrations on it that require no property in which they
differ, then every message of this channel takes the same steps in both services and has the same
answer, and the channel has the same report and the same outcomes. -/
theorem Assembly.alike_of_agreeOn {c c' : Config} {env env' : Environment} {world : World}
    {rs rs' : List Registration} {service service' : Service} {report report' : Report}
    (h : (assemble c env world rs).value = .ok (service, report))
    (h' : (assemble c' env' world rs').value = .ok (service', report')) :
    (Config.AgreeOn .sms c c' env env' →
      rs.filterMap (·.sms?) = rs'.filterMap (·.sms?) →
      (∀ i ∈ rs.filterMap (·.sms?), ∀ key ∈ i.condition.requiredProperties,
        env.property key = env'.property key) →
      Alike service.sendSms service'.sendSms report.sms report'.sms
        (report.registrations.filter (·.channel = .sms))
        (report'.registrations.filter (·.channel = .sms))) ∧
    (Config.AgreeOn .email c c' env env' →
      rs.filterMap (·.email?) = rs'.filterMap (·.email?) →
      (∀ i ∈ rs.filterMap (·.email?), ∀ key ∈ i.condition.requiredProperties,
        env.property key = env'.property key) →
      Alike service.sendEmail service'.sendEmail report.email report'.email
        (report.registrations.filter (·.channel = .email))
        (report'.registrations.filter (·.channel = .email))) := by
  obtain ⟨-, rfl, rfl⟩ := of_value_assemble h
  obtain ⟨-, rfl, rfl⟩ := of_value_assemble h'
  obtain ⟨onSms, onEmail⟩ := c.filter_registrations env world rs
  obtain ⟨onSms', onEmail'⟩ := c'.filter_registrations env' world rs'
  rw [onSms, onEmail, onSms', onEmail']
  constructor
  · intro agree same own
    have pipeline : c.smsPipeline? env world rs = c'.smsPipeline? env' world rs' :=
      agree.smsPipeline? same own
    rw [pipeline]
    exact ⟨fun _ => rfl, rfl, rfl⟩
  · intro agree same own
    have pipeline : c.emailPipeline? env world rs = c'.emailPipeline? env' world rs' :=
      agree.emailPipeline? same own
    rw [pipeline]
    exact ⟨fun _ => rfl, rfl, rfl⟩

/-- A second service that has no letters, and no properties for them. -/
theorem Assembly.alike_of_agreeOn_without_email :
    let sms : SmsConfig := { SmsConfig.standard with countryCode := some "49" }
    let c : Config :=
      { Config.standard with
        sms
        templates := { TemplatesConfig.standard with email := some ⟨some "letters/", none⟩ } }
    let c' : Config :=
      { Config.standard with sms, email := { EmailConfig.standard with enabled := false } }
    let texts : Properties := .ofList [("sms.from", "4915112345678")]
    let both : Properties := .ofList [("sms.from", "4915112345678"), ("email.from", "a@b.org")]
    let first : Implementation Sms := ⟨.property "sms.from", .memory "first" none⟩
    let lost : Implementation Email := ⟨.always, .memory "lost" none⟩
    ∃ service service' report report',
      (assemble c (.of both .detect) ⟨⟨[], []⟩, .silent⟩ [.email lost, .sms first]).value
          = .ok (service, report)
        ∧ (assemble c' (.of texts .detect) ⟨⟨[], []⟩, .silent⟩ [.sms first]).value
          = .ok (service', report')
        ∧ report.email ≠ report'.email
        ∧ Alike service.sendSms service'.sendSms report.sms report'.sms
            (report.registrations.filter (·.channel = .sms))
            (report'.registrations.filter (·.channel = .sms)) := by
  intro sms c c' texts both first lost
  have checked : c.check (.of both .detect) = .ok () := by decide +kernel
  have checked' : c'.check (.of texts .detect) = .ok () := by decide +kernel
  have assembled := value_assemble c (.of both .detect) ⟨⟨[], []⟩, .silent⟩
    [.email lost, .sms first]
  have assembled' := value_assemble c' (.of texts .detect) ⟨⟨[], []⟩, .silent⟩ [.sms first]
  rw [checked] at assembled
  rw [checked'] at assembled'
  -- The keys of the two environments differ in one that belongs to letters.
  have property : ∀ key, ¬ Channel.email.Owns key → both.get? key = texts.get? key := by
    intro key foreign
    have other : key ≠ "email.from" := by
      rintro rfl
      exact foreign (Channel.owns_field (p := "email") (by decide) "from")
    exact Entries.find?_insert_ne other _ _
  have agree : Config.AgreeOn .sms c c' (.of both .detect) (.of texts .detect) :=
    ⟨rfl, property, rfl, rfl, rfl, rfl, rfl, rfl⟩
  refine ⟨_, _, _, _, assembled, assembled', by decide +kernel, ?_⟩
  refine (alike_of_agreeOn assembled assembled').1 agree rfl fun i hi key hk => ?_
  obtain rfl := List.mem_singleton.1 hi
  obtain rfl := List.mem_singleton.1 hk
  rfl

end Courier
