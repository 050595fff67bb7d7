/-
# The ledger — the outcomes and the resolver of a plan stay in step

A plan keeps two lists of what was registered: the implementations of its resolver, and its
outcomes, among which are the attempts that registered nothing.  Whatever is done to a plan is one
of four things (`Plan.Move`): an implementation comes in with its outcome, an outcome comes in
without an implementation, a call changes the layers, or nothing happens.  So the two lists tell the
same after any steps (`Plan.Ledger`), the attempts that fail included, and so does the report of the
pipeline in the end.

A step is given in the form in which a plan is changed in place: the plan that it leaves is there
even when its answer is an error, unless the step takes the plan and gives none back.
-/
import Courier.Proofs.Routing
import Courier.Proofs.Stacking

namespace Courier

variable {M : Type}

/-! ## The order of evaluation -/

namespace Resolver

/-- The conditions are tried from the first one on. -/
theorem tried_prefix (env : Environment) (m : M) (is : List (Implementation M)) :
    tried env m is <+: is := by
  induction is with
  | nil => exact List.prefix_rfl
  | cons i is ih =>
    cases h : i.condition.holds env m with
    | true => simp [tried, h]
    | false => simpa [tried, h] using ih

/-- A resolver tries the conditions of its implementations, and no others. -/
theorem evaluations_send [Message M] (r : Resolver M) (m : M) :
    Step.evaluations (r.send m).trace
      = (tried r.env m r.implementations).map fun i => (i.condition, m) := by
  cases h : r.implementations.find? fun i => i.condition.holds r.env m with
  | some i => exact evaluations_send_of_some h
  | none =>
    rw [send_eq_of_none h, Step.evaluations, List.filterMap_append]
    exact (List.append_nil _).trans (evaluations_firstMatch r.env m r.implementations)

end Resolver

/-! ## Attempts in place -/

namespace Plan

/-- Work on a plan in place: whatever its answer is, there is a plan after it. -/
abbrev Work (M α : Type) := StateT (Plan M) (Traced Event) α

namespace Work

/-- Asks the environment. -/
def ask {α : Type} (question : Traced Lookup α) : Work M α :=
  fun p => (·, p) <$> question.mapSteps .lookup

/-- Puts another plan in the place of the one that there is. -/
def change (f : Plan M → Traced Event (Plan M)) : Work M Unit := fun p => ((), ·) <$> f p

@[simp] theorem run_ask {α : Type} (question : Traced Lookup α) (p : Plan M) :
    (ask question).run p = (·, p) <$> question.mapSteps .lookup := rfl

@[simp] theorem run_change (f : Plan M → Traced Event (Plan M)) (p : Plan M) :
    (change f).run p = ((), ·) <$> f p := rfl

end Work

/-- Registers the webhook of the channel if HTTP and its URL are there, in place. -/
def attemptDefaults [Deliverable M] (network : Http.Network) :
    Work M (Except AssemblyError Unit) := do
  let channel := Message.channel M
  let env := (← get).env
  if !(← Work.ask (env.askCapability Capabilities.http)) then
    Work.change (·.skip channel.webhookName (.missingCapability Capabilities.http))
    return .ok ()
  else
    match ← Work.ask (env.askProperty channel.webhookUrlKey) with
    | none =>
      Work.change (·.skip channel.webhookName (.missingProperty channel.webhookUrlKey))
      return .ok ()
    | some value =>
      match Url.read value with
      | .error reason => return .error (.invalidUrl channel.webhookUrlKey value reason)
      | .ok url =>
        let token ← Work.ask (env.askProperty channel.webhookTokenKey)
        let webhook : Webhook := ⟨channel.webhookName, url, token⟩
        Work.change (·.register (webhookCondition channel) (webhook.transport network))
        return .ok ()

/-- In place, an attempt that fails takes the same steps, and leaves the plan as it was. -/
theorem run_attemptDefaults [Deliverable M] (p : Plan M) (network : Http.Network) :
    (attemptDefaults network).run p = (fun
      | .ok p' => (.ok (), p')
      | .error e => (.error e, p)) <$> p.registerDefaults network := by
  simp only [attemptDefaults, registerDefaults, StateT.run_bind, StateT.run_get, pure_bind,
    Work.run_ask, bind_map_left, map_bind]
  refine bind_congr fun http => ?_
  cases http with
  | false => simp
  | true =>
    simp only [Bool.not_true, Bool.false_eq_true, if_false, StateT.run_bind, Work.run_ask,
      bind_map_left, map_bind]
    refine bind_congr fun url => ?_
    cases url with
    | none => simp
    | some value =>
      cases h : Url.read value with
      | error reason => simp [h]
      | ok u => simp [h]

/-- What an attempt comes to: its only error is a URL that cannot be read, and else it adds one
outcome, that of the webhook, and the webhook if there is a gateway. -/
theorem value_attemptDefaults [Deliverable M] (p : Plan M) (network : Http.Network) :
    ((attemptDefaults network).run p).value = match (Message.channel M).gateway p.env with
      | .error e => (.error e, p)
      | .ok w => (.ok (), p.extend (w.toList.map (·.implementation network))
          [⟨Message.channel M, (Message.channel M).webhookName,
            (Message.channel M).webhookStatus p.env⟩]) := by
  rw [run_attemptDefaults, Traced.value_map, value_registerDefaults]
  cases (Message.channel M).gateway p.env <;> rfl

end Plan

theorem Channel.invalidUrl_of_gateway {c : Channel} {env : Environment} {e : AssemblyError}
    (h : c.gateway env = .error e) :
    ∃ value reason, e = .invalidUrl c.webhookUrlKey value reason := by
  unfold gateway at h
  split at h
  · split at h
    · cases h
    · split at h
      · exact ⟨_, _, (Except.error.inj h).symm⟩
      · cases h
  · cases h

/-- A webhook is registered exactly if there is a gateway. -/
theorem Channel.registered_iff_of_gateway {c : Channel} {env : Environment} {w : Option Webhook}
    (h : c.gateway env = .ok w) : c.webhookStatus env = .registered ↔ w.isSome = true := by
  rw [isSome_of_gateway h]
  unfold webhookStatus
  cases env.capability Capabilities.http <;> cases (env.property c.webhookUrlKey).isSome <;> simp

/-! ## Steps -/

/-- One step in putting a pipeline together. -/
inductive PlanStep : Type → Type 1 where
  | register {M : Type} (condition : Condition M) (transport : Transport M) : PlanStep M
  | defaults {M : Type} : PlanStep M
  | dryRun {M : Type} : PlanStep M
  | filler {M : Type} (f : Filler M) : PlanStep M
  | propertyFilling {M : Type} (prefixes : List String) : PlanStep M
  | autoFilling {M : Type} : PlanStep M
  | contentTranslator {M : Type} (t : ContentTranslator) : PlanStep M
  | templates {M : Type} (location : TemplateLocation) : PlanStep M
  | addressing (sender recipient : Rules) : PlanStep Sms
  | without {M : Type} (kind : LayerKind) : PlanStep M

namespace PlanStep

/-- The answer to a call that takes a plan and gives back another or an error. -/
def taking (result : Except AssemblyError (Plan M)) : Except AssemblyError Unit × Option (Plan M) :=
  (result.map fun _ => (), result.toOption)

/-- Takes a step: the answer, and the plan that is left.  The attempt at the known implementations
works in place; every other step takes the plan, and gives back none if it fails. -/
def run (world : World) : {M : Type} → [Deliverable M] → Plan M → PlanStep M →
    Traced Event (Except AssemblyError Unit × Option (Plan M))
  | _, _, p, .register condition transport => (taking ∘ .ok) <$> p.register condition transport
  | _, _, p, .defaults => Prod.map id some <$> (Plan.attemptDefaults world.network).run p
  | _, _, p, .dryRun => (taking ∘ .ok) <$> p.registerDryRun
  | _, _, p, .filler f => pure (taking (.ok (p.withFiller f)))
  | _, _, p, .propertyFilling prefixes => pure (taking (.ok (p.withPropertyFilling prefixes)))
  | _, _, p, .autoFilling => pure (taking (.ok p.withAutoFilling))
  | _, _, p, .contentTranslator t => pure (taking (.ok (p.withContentTranslator t)))
  | _, _, p, .templates location => taking <$> p.withTemplates world.files location
  | _, _, p, .addressing sender recipient => pure (taking (p.withAddressing sender recipient))
  | _, _, p, .without kind => pure (taking (.ok (p.withoutLayer kind)))

/-- The call that a step makes on the layers, if it makes one. -/
def call? (env : Environment) (files : Files) :
    {M : Type} → [Message M] → PlanStep M → Option (LayerCall M)
  | _, _, .register _ _ => none
  | _, _, .defaults => none
  | _, _, .dryRun => none
  | _, _, .filler f => some (.setFiller f)
  | _, _, .propertyFilling prefixes => some (.setFiller (.properties env prefixes))
  | M, _, .autoFilling => some (.setFiller (.properties env (Message.channel M).prefixes))
  | _, _, .contentTranslator t => some (.setContentTranslator t)
  | _, _, .templates location => some (.setContentTranslator (location.translator files))
  | _, _, .addressing sender recipient =>
    some (.setNumberTranslator ⟨(Addressing.ofRules sender recipient).translateSms⟩)
  | _, _, .without kind => some (.remove kind)

end PlanStep

namespace Plan

/-- The plan after some steps, if every step left one. -/
def after [Deliverable M] (world : World) (p : Plan M) (steps : List (PlanStep M)) :
    Option (Plan M) :=
  steps.foldlM (fun p s => (s.run world p).value.2) p

/-- What a step can make of a plan, and the call that it makes on the layers. -/
inductive Move [Message M] (p : Plan M) : Option (LayerCall M) → Plan M → Prop
  | enrolled (i : Implementation M) : Move p none (p.enroll [i])
  | skipped (name : String) {status : RegistrationStatus} (h : status ≠ .registered) :
    Move p none (p.extend [] [⟨Message.channel M, name, status⟩])
  | layered (call : LayerCall M) : Move p (some call) (p.setLayers (p.layers.apply call))
  | refused : Move p none p

/-- An attempt at the known implementations makes one of three moves. -/
theorem move_attemptDefaults [Deliverable M] (p : Plan M) (network : Http.Network) :
    p.Move none ((attemptDefaults network).run p).value.2 := by
  rw [value_attemptDefaults]
  cases h : (Message.channel M).gateway p.env with
  | error e => exact .refused
  | ok w =>
    have registered := Channel.registered_iff_of_gateway h
    cases w with
    | none => exact .skipped _ fun status => by simpa using registered.1 status
    | some w =>
      have enrolled := Move.enrolled (p := p) (w.implementation network)
      rw [enroll, List.map_singleton, Implementation.outcome] at enrolled
      rw [registered.2 rfl]
      rwa [show (w.implementation (M := M) network).transport.name = _ from
        Channel.name_of_gateway h] at enrolled

/-- Every step makes one of the moves, with the call that it makes on the layers. -/
theorem move_of_run [channel : Deliverable M] {world : World} {p p' : Plan M} (s : PlanStep M)
    (h : (s.run world p).value.2 = some p') : p.Move (s.call? p.env world.files) p' := by
  cases s with
  | register condition transport =>
    obtain rfl := Option.some.inj h
    exact .enrolled ⟨condition, transport⟩
  | defaults =>
    obtain rfl := Option.some.inj h
    exact p.move_attemptDefaults world.network
  | dryRun =>
    obtain rfl := Option.some.inj h
    exact .enrolled .log
  | filler f =>
    obtain rfl := Option.some.inj h
    exact .layered (.setFiller f)
  | propertyFilling prefixes =>
    obtain rfl := Option.some.inj h
    exact .layered (.setFiller (.properties p.env prefixes))
  | autoFilling =>
    obtain rfl := Option.some.inj h
    exact .layered (.setFiller (.properties p.env (Message.channel M).prefixes))
  | contentTranslator t =>
    obtain rfl := Option.some.inj h
    exact .layered (.setContentTranslator t)
  | templates location =>
    simp only [PlanStep.run, Traced.value_map, value_withTemplates] at h
    split at h
    · obtain rfl := Option.some.inj h
      exact .layered (.setContentTranslator (location.translator world.files))
    · cases h
  | addressing sender recipient =>
    simp only [PlanStep.run, Traced.value_pure, withAddressing] at h
    cases checked : checkRules sender recipient with
    | error e => rw [checked] at h; cases h
    | ok _ =>
      rw [checked] at h
      obtain rfl := Option.some.inj h
      -- texts stand here as a channel like any other, so its instance is the one that is given
      exact @Move.layered Sms channel.toMessage p
        (.setNumberTranslator ⟨(Addressing.ofRules sender recipient).translateSms⟩)
  | without kind =>
    obtain rfl := Option.some.inj h
    exact .layered (.remove kind)

/-! ## The ledger -/

/-- The outcomes of a plan are those of its channel, the ones that are registered name the
implementations of its resolver, and its layers are those of some calls. -/
structure Ledger [Message M] (p : Plan M) (env : Environment) (calls : List (LayerCall M)) :
    Prop where
  env : p.env = env
  channel : ∀ o ∈ p.outcomes, o.channel = Message.channel M
  registered : (p.outcomes.filter (·.status = .registered)).map (·.implementation)
    = p.resolver.names
  layers : p.layers = Layers.ofCalls calls

theorem ledger_new [Message M] (env : Environment) : (new env : Plan M).Ledger env [] where
  env := rfl
  channel := List.forall_mem_nil _
  registered := rfl
  layers := rfl

/-- Implementations and outcomes that come in together keep the ledger if they are in step. -/
theorem Ledger.extend [Message M] {p : Plan M} {env : Environment} {calls : List (LayerCall M)}
    (h : p.Ledger env calls) {is : List (Implementation M)} {os : List Outcome}
    (channel : ∀ o ∈ os, o.channel = Message.channel M)
    (registered : (os.filter (·.status = .registered)).map (·.implementation)
      = is.map (·.transport.name)) :
    (p.extend is os).Ledger env calls where
  env := h.env
  channel o ho := (List.mem_append.1 ho).elim (h.channel o) (channel o)
  registered := by
    show ((p.outcomes ++ os).filter _).map _ = (p.resolver.implementations ++ is).map _
    rw [List.filter_append, List.map_append, List.map_append, h.registered, registered]
    rfl
  layers := h.layers

/-- Every move keeps the ledger, with the call that it makes after the others. -/
theorem Ledger.move [Message M] {p p' : Plan M} {env : Environment} {calls : List (LayerCall M)}
    {call : Option (LayerCall M)} (h : p.Ledger env calls) (move : p.Move call p') :
    p'.Ledger env (calls ++ call.toList) := by
  cases move with
  | enrolled i =>
    rw [Option.toList_none, List.append_nil]
    exact h.extend (List.forall_mem_singleton.2 rfl) rfl
  | skipped name unregistered =>
    rw [Option.toList_none, List.append_nil]
    exact h.extend (List.forall_mem_singleton.2 rfl) (by simp [unregistered])
  | layered call =>
    refine ⟨h.env, h.channel, h.registered, ?_⟩
    show p.layers.apply call = Layers.ofCalls (calls ++ [call])
    rw [h.layers, Layers.ofCalls, Layers.ofCalls, List.foldl_append]
    rfl
  | refused =>
    rw [Option.toList_none, List.append_nil]
    exact h

/-- Steps keep the ledger, whether they succeed or fail, as long as they leave a plan. -/
theorem Ledger.after [Deliverable M] {world : World} {env : Environment}
    {steps : List (PlanStep M)} : ∀ {p p' : Plan M} {calls : List (LayerCall M)},
      p.Ledger env calls → p.after world steps = some p' →
      p'.Ledger env (calls ++ steps.filterMap (·.call? env world.files)) := by
  induction steps with
  | nil =>
    intro p p' calls h left
    obtain rfl := Option.some.inj left
    rwa [List.filterMap_nil, List.append_nil]
  | cons s steps ih =>
    intro p p' calls h left
    obtain ⟨q, first, rest⟩ := Option.bind_eq_some_iff.1 left
    have move := move_of_run s first
    rw [h.env] at move
    have made : (s :: steps).filterMap (·.call? env world.files)
        = (s.call? env world.files).toList ++ steps.filterMap (·.call? env world.files) := by
      cases call : s.call? env world.files <;> simp [call]
    rw [made, ← List.append_assoc]
    exact ih (h.move move) rest

end Plan

/-! ## Pipelines -/

/-- The layers that some calls leave, the outermost first. -/
def LayerCall.stack (calls : List (LayerCall M)) : List (Layer M) :=
  LayerKind.all.filterMap fun k => standing k calls

theorem Layers.entries_ofCalls (calls : List (LayerCall M)) :
    (ofCalls calls).entries = LayerCall.stack calls := by
  rw [entries_eq, LayerCall.stack]
  exact List.filterMap_congr fun k _ => get?_ofCalls calls k

/-- What a pipeline says about itself is so: `r` is its resolver, and `calls` are the calls that
were made on its layers. -/
structure Pipeline.Accounted [Message M] (built : Pipeline M) (r : Resolver M)
    (calls : List (LayerCall M)) : Prop where
  /-- The outcomes that are registered name the implementations of the report. -/
  registered : (built.outcomes.filter (·.status = .registered)).map (·.implementation)
    = built.report.implementations
  /-- These are the implementations of the resolver. -/
  implementations : built.report.implementations = r.implementations.map (·.transport.name)
  /-- They are evaluated in this order, from the first one on and up to the first that holds. -/
  order : ∀ m, Resolver.tried r.env m r.implementations <+: r.implementations
  evaluated : ∀ m, Step.evaluations (r.send m).trace
    = (Resolver.tried r.env m r.implementations).map fun i => (i.condition, m)
  channel : ∀ o ∈ built.outcomes, o.channel = Message.channel M
  /-- The report has the kinds of the layers. -/
  layers : built.report.layers = (LayerCall.stack calls).map (·.kind)
  /-- These are the layers around the resolver, the first one outermost. -/
  sender : built.sender = (LayerCall.stack calls).foldr Layer.around r.toSender

theorem Plan.Ledger.accounted [Message M] {p : Plan M} {env : Environment}
    {calls : List (LayerCall M)} (h : p.Ledger env calls) :
    p.build.value.Accounted p.resolver calls where
  registered := h.registered
  implementations := rfl
  order m := Resolver.tried_prefix p.resolver.env m p.resolver.implementations
  evaluated := p.resolver.evaluations_send
  channel := h.channel
  layers := by
    rw [← Layers.entries_ofCalls, ← h.layers]
    rfl
  sender := by
    rw [← Layers.entries_ofCalls, ← h.layers]
    rfl

theorem Pipeline.outcomesOf_ofEnabled [Deliverable M] (enabled : Bool) (env : Environment)
    (l : Layers M) (is : List (Implementation M)) (network : Http.Network) (dryRun : Bool) :
    Assembly.outcomesOf (ofEnabled enabled env l is network dryRun)
      = if enabled then
          is.map (·.outcome) ++ Plan.knownOutcomes (Message.channel M) env dryRun
        else [] := by
  cases enabled <;> rfl

/-- **The outcomes, the resolver and the report tell the same.**  After any steps that leave a plan,
those that fail in place included, the outcomes that are registered name the implementations of the
report and of the resolver, in the order in which they are evaluated, all outcomes are of the
channel, and the report has the layers that are around the resolver.  An attempt at the known
implementations leaves the plan as it was if the URL cannot be read, and else adds one outcome.

The registrations of a service that was put together are those on texts and then those on letters;
on each channel that is enabled the registered ones in their order, one of the webhook, and in a dry
run one of the log. -/
theorem Assembly.accounted_of_steps :
    (∀ {M : Type} [Deliverable M] (env : Environment) (world : World) (steps : List (PlanStep M))
      (p : Plan M), (Plan.new env).after world steps = some p →
      p.build.value.Accounted p.resolver (steps.filterMap (·.call? env world.files))) ∧
    (∀ {M : Type} [Deliverable M] (world : World) (p : Plan M),
      match (PlanStep.defaults.run world p).value with
      | (.error e, left) => left = some p
          ∧ ∃ value reason, e = .invalidUrl (Message.channel M).webhookUrlKey value reason
      | (.ok _, left) => ∃ is, left = some (p.extend is [⟨Message.channel M,
          (Message.channel M).webhookName, (Message.channel M).webhookStatus p.env⟩])) ∧
    ∀ (c : Config) (env : Environment) (world : World) (rs : List Registration) (service : Service)
      (report : Report), (assemble c env world rs).value = .ok (service, report) →
      report.registrations
        = (if c.sms.enabled then
            (rs.filterMap (·.sms?)).map (·.outcome) ++ Plan.knownOutcomes .sms env c.dryRun
          else [])
        ++ if c.email.enabled then
            (rs.filterMap (·.email?)).map (·.outcome) ++ Plan.knownOutcomes .email env c.dryRun
          else [] := by
  refine ⟨?_, ?_, ?_⟩
  · intro M _ env world steps p left
    have ledger := (Plan.ledger_new env).after left
    exact ledger.accounted
  · intro M _ world p
    simp only [PlanStep.run, Traced.value_map, Plan.value_attemptDefaults]
    cases h : (Message.channel M).gateway p.env with
    | error e => exact ⟨rfl, Channel.invalidUrl_of_gateway h⟩
    | ok w => exact ⟨_, rfl⟩
  · intro c env world rs service report h
    obtain ⟨-, -, rfl⟩ := of_value_assemble h
    have sms := Pipeline.outcomesOf_ofEnabled c.sms.enabled env (c.smsLayers env world.files)
      (rs.filterMap (·.sms?)) world.network c.dryRun
    have email := Pipeline.outcomesOf_ofEnabled c.email.enabled env (c.emailLayers env world.files)
      (rs.filterMap (·.email?)) world.network c.dryRun
    exact congrArg₂ (· ++ ·) sms email

/-- A plan with a URL that cannot be read, and a service for both channels. -/
theorem Assembly.accounted_of_steps_unreadable :
    let world : World := ⟨⟨[], []⟩, .silent⟩
    let own : Implementation Sms := ⟨.property "own", .memory "own" none⟩
    let env : Environment := .of (.ofList [("herald.sms.webhook.url", "nowhere")]) .detect
    let steps : List (PlanStep Sms) :=
      [.autoFilling, .defaults, .register own.condition own.transport, .templates ⟨"", ""⟩,
        .defaults, .dryRun, .without .filler]
    let c : Config :=
      { Config.standard with
        dryRun := true, sms := { SmsConfig.standard with countryCode := some "49" } }
    (∃ p, (Plan.new env).after world steps = some p
      ∧ p.build.value.Accounted p.resolver (steps.filterMap (·.call? env world.files))
      ∧ p.outcomes = [⟨.sms, "own", .registered⟩, ⟨.sms, "sms-log", .registered⟩]) ∧
    ∃ service report, (assemble c .standard world [.sms own]).value = .ok (service, report)
      ∧ report.registrations =
        [⟨.sms, "own", .registered⟩,
          ⟨.sms, "sms-webhook", .missingProperty "herald.sms.webhook.url"⟩,
          ⟨.sms, "sms-log", .registered⟩,
          ⟨.email, "email-webhook", .missingProperty "herald.email.webhook.url"⟩,
          ⟨.email, "email-log", .registered⟩] := by
  intro world own env steps c
  constructor
  · have kept : ((Plan.new env).after world steps).map (·.outcomes)
        = some [⟨.sms, "own", .registered⟩, ⟨.sms, "sms-log", .registered⟩] := by decide +kernel
    obtain ⟨p, left, outcomes⟩ := Option.map_eq_some_iff.1 kept
    exact ⟨p, left, accounted_of_steps.1 env world steps p left, outcomes⟩
  · have checked : c.check .standard = .ok () := by decide +kernel
    have assembled := value_assemble c .standard world [.sms own]
    rw [checked] at assembled
    have registrations := accounted_of_steps.2.2 c .standard world [.sms own] _ _ assembled
    refine ⟨_, _, assembled, registrations.trans ?_⟩
    decide +kernel

end Courier
