/-
# Discretion — what assembly shows of the properties

The values of the properties are secrets: URLs of gateways, tokens, numbers.  Assembly reads some of
them, and shows texts about what it made of them.  It shows no more than which keys there are:
`Assembly.diagnose` collects all that is shown, and for environments with the same keys it is one
and the same (`Assembly.diagnose_congr`).

The reason is that a value comes into a plan in three ways only, and each shows its presence alone:
as a layer, of which the kind is shown; as a transport, of which the name is shown; and in the
status of the webhook, which asks whether the key is there.
-/
import Courier.Proofs.Routing
import Courier.Proofs.Stacking
import Mathlib.Data.List.Sort

namespace Courier

variable {M : Type}

/-! ## Keys -/

namespace Properties

theorem has_iff_mem_keys (p : Properties) (key : String) : p.has key = true ↔ key ∈ p.keys :=
  Entries.isSome_find? key p.entries

/-- Properties have the same keys in order if they have the same keys. -/
theorem keys_eq_iff {p p' : Properties} :
    p.keys = p'.keys ↔ ∀ key, p.has key = p'.has key := by
  constructor
  · intro h key
    rw [Bool.eq_iff_iff, has_iff_mem_keys, has_iff_mem_keys, h]
  · intro h
    have sorted (p : Properties) : p.keys.Pairwise (· < ·) := List.pairwise_map.2 p.sorted
    refine (sorted p).eq_of_mem_iff (sorted p') fun key => ?_
    rw [← has_iff_mem_keys, ← has_iff_mem_keys, h]

end Properties

/-- Two environments differ at most in the values of the properties. -/
structure Environment.SameKeys (env env' : Environment) : Prop where
  capability : env.capability = env'.capability
  has : ∀ key, (env.property key).isSome = (env'.property key).isSome

theorem Environment.SameKeys.of {p p' : Properties} (h : ∀ key, p.has key = p'.has key)
    (caps : Capabilities) : SameKeys (.of p caps) (.of p' caps) :=
  ⟨rfl, h⟩

/-! ## Layers -/

namespace Layers

/-- The outermost layer gives its name to the whole. -/
theorem name_compose [Message M] (l : Layers M) (base : Sender M) :
    (l.compose base).name = ((l.kinds.map (·.name)).head?).getD base.name := by
  obtain ⟨entries, _⟩ := l
  cases entries with
  | nil => rfl
  | cons x xs => cases x <;> rfl

theorem isSome_get? (l : Layers M) (k : LayerKind) : (l.get? k).isSome = decide (k ∈ l.kinds) := by
  rw [Bool.eq_iff_iff, decide_eq_true_iff, get?, List.find?_isSome, kinds, List.mem_map]
  simp only [decide_eq_true_eq]

theorem kinds_set (l : Layers M) (x : Layer M) :
    (l.set x).kinds = LayerKind.all.filter fun k => k = x.kind ∨ k ∈ l.kinds := by
  rw [kinds_eq]
  refine List.filter_congr fun k _ => ?_
  by_cases h : x.kind = k
  · subst h
    simp
  · simp [get?_set_ne l h, isSome_get?, Ne.symm h]

end Layers

namespace Config

variable (c : Config) (env : Environment) (files : Files)

/-- Which layers fill in and make final is settled by the configuration. -/
theorem kinds_ownLayers [Message M] (fill : Bool) (own : Option LocationConfig) :
    (c.ownLayers env files fill own : Layers M).kinds
      = (if fill then [.filler] else [])
        ++ if c.templates.enabled then [.contentTranslator] else [] := by
  unfold ownLayers filling
  cases fill <;> cases c.templates.enabled <;> rfl

theorem kinds_smsLayers : (c.smsLayers env files).kinds
    = (if c.sms.fill then [.filler] else [])
      ++ (if c.templates.enabled then [.contentTranslator] else [])
      ++ if c.sms.addressing then [.phoneNumberTranslator] else [] := by
  unfold smsLayers
  cases c.sms.addressing with
  | false => simp [kinds_ownLayers]
  | true =>
    simp only [if_true, Layers.setAddressing, Layers.setNumberTranslator, Layers.kinds_set,
      kinds_ownLayers, Layer.kind]
    cases c.sms.fill <;> cases c.templates.enabled <;> decide

theorem kinds_emailLayers : (c.emailLayers env files).kinds
    = (if c.email.fill then [.filler] else [])
      ++ if c.templates.enabled then [.contentTranslator] else [] :=
  c.kinds_ownLayers env files c.email.fill c.templates.email

end Config

/-! ## Plans and pipelines -/

theorem Text.optional_congr {α : Type} {write : α → String} {o o' : Option α}
    (h : o.map write = o'.map write) : optional write o = optional write o' := by
  cases o with
  | none =>
    cases o' with
    | none => rfl
    | some a' => cases h
  | some a =>
    cases o' with
    | none => cases h
    | some a' =>
      unfold optional
      simp only [Option.some.inj h]

/-- A plan shows its implementations and the kinds of its layers. -/
theorem Plan.describe_congr [Message M] {p p' : Plan M}
    (implementations : p.resolver.implementations.map (·.describe)
      = p'.resolver.implementations.map (·.describe))
    (kinds : p.layers.kinds = p'.layers.kinds) : p.describe = p'.describe := by
  have resolver : p.resolver.describe = p'.resolver.describe := by
    unfold Resolver.describe
    rw [implementations]
  have layers : p.layers.describe = p'.layers.describe := by
    unfold Layers.describe
    rw [kinds]
  unfold describe
  rw [resolver, layers]

/-- Before it is built, a plan shows nothing of its environment. -/
theorem Plan.map_describe [Message M] (enabled : Bool) (env env' : Environment)
    {l l' : Layers M} (kinds : l.kinds = l'.kinds) (is : List (Implementation M)) :
    ((if enabled then some ((new env).setLayers l) else none).map (·.enroll is)).map (·.describe)
      = ((if enabled then some ((new env').setLayers l') else none).map (·.enroll is)).map
        (·.describe) := by
  cases enabled with
  | false => rfl
  | true => exact congrArg some (describe_congr rfl kinds)

/-- Two pipelines, if there are any, show the same. -/
structure Pipeline.SameView (p p' : Option (Pipeline M)) : Prop where
  sender : (p.map (·.sender)).map (·.name) = (p'.map (·.sender)).map (·.name)
  report : p.map (·.report) = p'.map (·.report)
  outcomes : Assembly.outcomesOf p = Assembly.outcomesOf p'

namespace Environment.SameKeys

variable {env env' : Environment}

/-- The same becomes of a webhook. -/
theorem webhookStatus (h : SameKeys env env') (channel : Channel) :
    channel.webhookStatus env = channel.webhookStatus env' := by
  unfold Channel.webhookStatus
  rw [h.capability, h.has]

/-- A channel has a gateway in both or in none, so one value for each gateway makes the same
list. -/
theorem map_gateway (h : SameKeys env env') {channel : Channel} {w w' : Option Webhook}
    (hw : channel.gateway env = .ok w) (hw' : channel.gateway env' = .ok w') {α : Type} (a : α) :
    w.toList.map (fun _ => a) = w'.toList.map fun _ => a := by
  have there : w.isSome = w'.isSome := by
    rw [Channel.isSome_of_gateway hw, Channel.isSome_of_gateway hw', h.capability, h.has]
  cases w with
  | none => cases w' with
    | none => rfl
    | some w' => cases there
  | some w => cases w' with
    | none => cases there
    | some w' => rfl

end Environment.SameKeys

/-- A channel that is enabled has passed its check with a gateway that can be used. -/
theorem Config.gateway_of_checkGateway {env : Environment} {channel : Channel}
    (h : checkGateway env channel true = .ok ()) : ∃ w, channel.gateway env = .ok w := by
  cases hw : channel.gateway env with
  | error e => simp [checkGateway, hw, Except.map] at h
  | ok w => exact ⟨w, rfl⟩

/-- What a channel has that is enabled shows the same, whatever the gateways are. -/
theorem Pipeline.sameView_ofEnabled [Deliverable M] {env env' : Environment}
    (h : env.SameKeys env') {enabled : Bool}
    (checked : Config.checkGateway env (Message.channel M) enabled = .ok ())
    (checked' : Config.checkGateway env' (Message.channel M) enabled = .ok ()) {l l' : Layers M}
    (kinds : l.kinds = l'.kinds) (is : List (Implementation M)) (network : Http.Network)
    (dryRun : Bool) :
    SameView (ofEnabled enabled env l is network dryRun)
      (ofEnabled enabled env' l' is network dryRun) := by
  cases enabled with
  | false => exact ⟨rfl, rfl, rfl⟩
  | true =>
    obtain ⟨w, hw⟩ := Config.gateway_of_checkGateway checked
    obtain ⟨w', hw'⟩ := Config.gateway_of_checkGateway checked'
    have routed := Plan.routed_full hw l is network dryRun
    have routed' := Plan.routed_full hw' l' is network dryRun
    have webhook : w.toList.map (fun _ => (Message.channel M).webhookName)
        = w'.toList.map fun _ => (Message.channel M).webhookName :=
      h.map_gateway hw hw' _
    refine ⟨congrArg some ?_, ?_, ?_⟩
    · show (l.compose _).name = (l'.compose _).name
      rw [Layers.name_compose, Layers.name_compose, kinds]
      rfl
    · refine routed.report.trans (Eq.trans ?_ routed'.report.symm)
      rw [Channel.gateway?_of_gateway hw, Channel.gateway?_of_gateway hw', webhook, kinds]
    · refine routed.outcomes.trans (Eq.trans ?_ routed'.outcomes.symm)
      rw [Plan.knownOutcomes, Plan.knownOutcomes, h.webhookStatus]

/-! ## Diagnostics -/

/-- All that assembly shows. -/
structure Diagnostics where
  properties : String
  /-- The plans, after the registrations and before they are built. -/
  assembly : String
  service : String
  report : Report
  /-- The report in words. -/
  text : String
  skipped : List Outcome
  deriving DecidableEq, Repr

namespace Diagnostics

/-- What is shown of properties, of plans, and of the service and the report that they become. -/
def of (p : Properties) (a : Assembly) (s : Service) (r : Report) : Diagnostics where
  properties := p.describe
  assembly := a.describe
  service := s.describe
  report := r
  text := r.describe
  skipped := r.skipped

theorem of_congr {p p' : Properties} {a a' : Assembly} {s s' : Service} {r r' : Report}
    (properties : p.describe = p'.describe) (assembly : a.describe = a'.describe)
    (service : s.describe = s'.describe) (report : r = r') : of p a s r = of p' a' s' r' := by
  rw [of, of, properties, assembly, service, report]

end Diagnostics

namespace Assembly

/-- Puts a service together, and collects what is shown on the way. -/
def diagnose (c : Config) (p : Properties) (caps : Capabilities) (world : World)
    (rs : List Registration) : Except AssemblyError Diagnostics := do
  let a ← (ofConfig c (.of p caps) world.files).value
  let a := (a.enterAll rs).value
  let (service, report) ← (a.build world.network).value
  return .of p a service report

/-- The plans of a configuration, after some registrations. -/
def planned (c : Config) (env : Environment) (world : World) (rs : List Registration) :
    Assembly where
  sms := (if c.sms.enabled then some ((Plan.new env).setLayers (c.smsLayers env world.files))
    else none).map (·.enroll (rs.filterMap (·.sms?)))
  email := (if c.email.enabled then some ((Plan.new env).setLayers (c.emailLayers env world.files))
    else none).map (·.enroll (rs.filterMap (·.email?)))
  dryRun := c.dryRun

/-- What is shown of the plans of a configuration, and of the pipelines that they become. -/
def shown (c : Config) (p : Properties) (caps : Capabilities) (world : World)
    (rs : List Registration) : Diagnostics :=
  .of p (planned c (.of p caps) world rs)
    ⟨(c.smsPipeline? (.of p caps) world rs).map (·.sender),
      (c.emailPipeline? (.of p caps) world rs).map (·.sender)⟩
    (reportOf (c.smsPipeline? (.of p caps) world rs) (c.emailPipeline? (.of p caps) world rs))

/-- If no check fails, the plans and the pipelines of the configuration are shown. -/
theorem diagnose_eq (c : Config) (p : Properties) (caps : Capabilities) (world : World)
    (rs : List Registration) :
    diagnose c p caps world rs = do
      c.check (.of p caps)
      return shown c p caps world rs := by
  simp only [diagnose, value_ofConfig, value_enterAll, value_build, value_finishEnabled,
    Config.check, bind_assoc, pure_bind]
  rfl

theorem of_diagnose {c : Config} {p : Properties} {caps : Capabilities} {world : World}
    {rs : List Registration} {d : Diagnostics} (h : diagnose c p caps world rs = .ok d) :
    c.check (.of p caps) = .ok () ∧ d = shown c p caps world rs := by
  rw [diagnose_eq] at h
  cases checked : c.check (.of p caps) with
  | error e => rw [checked] at h; cases h
  | ok _ =>
    rw [checked] at h
    exact ⟨rfl, (Except.ok.inj h).symm⟩

/-- The plans of a configuration show nothing of the environment. -/
theorem describe_planned (c : Config) (env env' : Environment) (world : World)
    (rs : List Registration) :
    (planned c env world rs).describe = (planned c env' world rs).describe := by
  have sms := Text.optional_congr (Plan.map_describe c.sms.enabled env env'
    ((c.kinds_smsLayers env world.files).trans (c.kinds_smsLayers env' world.files).symm)
    (rs.filterMap (·.sms?)))
  have email := Text.optional_congr (Plan.map_describe c.email.enabled env env'
    ((c.kinds_emailLayers env world.files).trans (c.kinds_emailLayers env' world.files).symm)
    (rs.filterMap (·.email?)))
  unfold describe planned
  rw [sms, email]

/-- **Diagnostics tell no value.**  Two environments that have the same keys and capabilities give,
under one configuration with the same registrations, the same diagnostics whenever both can be put
together, whatever the values are: the properties, the plans, the service, the report, its words and
what it skipped. -/
theorem diagnose_congr {c : Config} {p p' : Properties} {caps : Capabilities} {world : World}
    {rs : List Registration} {d d' : Diagnostics} (table : Toml.Table)
    (keys : ∀ key, p.has key = p'.has key) (h : diagnose c p caps world rs = .ok d)
    (h' : diagnose { c with properties := table } p' caps world rs = .ok d') : d = d' := by
  obtain ⟨checked, rfl⟩ := of_diagnose h
  obtain ⟨checked', rfl⟩ := of_diagnose h'
  have same : Environment.SameKeys (.of p caps) (.of p' caps) := .of keys caps
  have gateways := Config.checkGateway_of_check checked
  have gateways' := Config.checkGateway_of_check checked'
  have sms : Pipeline.SameView (c.smsPipeline? (.of p caps) world rs)
      (c.smsPipeline? (.of p' caps) world rs) :=
    Pipeline.sameView_ofEnabled (M := Sms) same gateways.1 gateways'.1
      ((c.kinds_smsLayers _ world.files).trans (c.kinds_smsLayers _ world.files).symm) _ _ _
  have email : Pipeline.SameView (c.emailPipeline? (.of p caps) world rs)
      (c.emailPipeline? (.of p' caps) world rs) :=
    Pipeline.sameView_ofEnabled (M := Email) same gateways.2 gateways'.2
      ((c.kinds_emailLayers _ world.files).trans (c.kinds_emailLayers _ world.files).symm) _ _ _
  have properties : p.describe = p'.describe := by
    unfold Properties.describe
    rw [Properties.keys_eq_iff.2 keys]
  have assembly := describe_planned c (.of p caps) (.of p' caps) world rs
  have report : reportOf (c.smsPipeline? (.of p caps) world rs)
        (c.emailPipeline? (.of p caps) world rs)
      = reportOf (c.smsPipeline? (.of p' caps) world rs)
        (c.emailPipeline? (.of p' caps) world rs) := by
    rw [reportOf, reportOf, sms.outcomes, email.outcomes, sms.report, email.report]
  have service : (Service.mk ((c.smsPipeline? (.of p caps) world rs).map (·.sender))
        ((c.emailPipeline? (.of p caps) world rs).map (·.sender))).describe
      = (Service.mk ((c.smsPipeline? (.of p' caps) world rs).map (·.sender))
        ((c.emailPipeline? (.of p' caps) world rs).map (·.sender))).describe := by
    unfold Service.describe
    rw [sms.sender, email.sender]
  exact Diagnostics.of_congr properties assembly service report

/-- A gateway with a token, and another one: both are shown as one webhook. -/
theorem diagnose_congr_gateways :
    let c : Config :=
      { Config.standard with sms := { SmsConfig.standard with countryCode := some "49" } }
    let c' : Config := { c with properties := [("token", .text "rose")] }
    let world : World := ⟨⟨[], []⟩, .silent⟩
    let own : Implementation Sms := ⟨.property "own", .memory "own" none⟩
    let p : Properties := .ofList [("herald.sms.webhook.url", "http://localhost/sms"),
      ("herald.sms.webhook.token", "tulip"), ("sms.from", "4915112345678")]
    let p' : Properties := .ofList [("herald.sms.webhook.url", "http://127.0.0.1:9/in?key=1"),
      ("herald.sms.webhook.token", "rose"), ("sms.from", "Garden")]
    ∃ d, diagnose c p .detect world [.sms own] = .ok d
      ∧ diagnose c' p' .detect world [.sms own] = .ok d
      ∧ p.get? "herald.sms.webhook.token" ≠ p'.get? "herald.sms.webhook.token"
      ∧ d.report.sms = some ⟨LayerKind.all, ["own", "sms-webhook"]⟩ := by
  intro c c' world own p p'
  have keys : ∀ key, p.has key = p'.has key := Properties.keys_eq_iff.1 (by decide +kernel)
  have checked : c.check (.of p .detect) = .ok () := by decide +kernel
  have checked' : c'.check (.of p' .detect) = .ok () := by decide +kernel
  have first := diagnose_eq c p .detect world [.sms own]
  have second := diagnose_eq c' p' .detect world [.sms own]
  rw [checked] at first
  rw [checked'] at second
  have same := diagnose_congr c'.properties keys first second
  exact ⟨_, first, same ▸ second, by decide +kernel, by decide +kernel⟩

end Assembly

end Courier
