/-
# Checked — when assembly fails, and with which error

Assembly makes six checks, in the order of `Check.all`.  `Config.Fault c env k e` says that check
`k` fails with error `e`; each constructor names all that a fault takes, and that is always a
channel that is enabled.  The check of a configuration is the checks one after the other
(`Config.check_eq_forM`), so the error of assembly is that of the first fault (`Config.FirstFault`),
and without a fault assembly succeeds.

Nothing that belongs to a channel that is not enabled matters for this, which is a statement about
two assemblies that agree on the other channel.
-/
import Courier.Proofs.Ownership

namespace Courier

/-! ## Faults -/

/-- What assembly checks. -/
inductive Check where
  | templates (channel : Channel)
  | rules (role : Role)
  | gateway (channel : Channel)
  deriving DecidableEq, Repr

/-- All checks, in the order in which assembly makes them. -/
def Check.all : List Check :=
  [.templates .sms, .rules .sender, .rules .recipient, .templates .email, .gateway .sms,
    .gateway .email]

theorem Check.mem_all (k : Check) : k ∈ all := by
  rcases k with c | r | c <;> first | (cases c <;> decide) | (cases r <;> decide)

namespace Config

/-- The rules for one part of a text. -/
def rulesOf (c : Config) : Role → Rules
  | .sender => c.senderRules
  | .recipient => c.recipientRules

/-- A check fails, and with which error. -/
inductive Fault (c : Config) (env : Environment) : Check → AssemblyError → Prop
  | templates {channel : Channel} (enabled : c.enabled channel = true)
      (wanted : c.templates.enabled = true)
      (missing : env.capability Capabilities.templates = false) :
      Fault c env (.templates channel) .templatesUnavailable
  | rules {role : Role} {reason : Rules.Invalid} (enabled : c.sms.enabled = true)
      (wanted : c.sms.addressing = true)
      (invalid : (c.rulesOf role).validate = .error reason) :
      Fault c env (.rules role) (.invalidRules role reason)
  | gateway {channel : Channel} {value : String} {reason : Url.Invalid}
      (enabled : c.enabled channel = true) (http : env.capability Capabilities.http = true)
      (url : env.property channel.webhookUrlKey = some value)
      (malformed : Url.read value = .error reason) :
      Fault c env (.gateway channel) (.invalidUrl channel.webhookUrlKey value reason)

/-- A check fails with an error, and none before it does. -/
def FirstFault (c : Config) (env : Environment) (e : AssemblyError) : Prop :=
  ∃ before k after, Check.all = before ++ k :: after ∧ c.Fault env k e
    ∧ ∀ j ∈ before, ∀ e', ¬ c.Fault env j e'

/-- Makes one check. -/
def verdict (c : Config) (env : Environment) : Check → Except AssemblyError Unit
  | .templates channel => if c.enabled channel then c.checkTemplates env else .ok ()
  | .rules role =>
    if c.sms.enabled && c.sms.addressing then
      (c.rulesOf role).validate.mapError (.invalidRules role)
    else .ok ()
  | .gateway channel => checkGateway env channel (c.enabled channel)

variable {c : Config} {env : Environment}

theorem verdict_templates_eq_error_iff {channel : Channel} {e : AssemblyError} :
    c.verdict env (.templates channel) = .error e ↔ c.Fault env (.templates channel) e := by
  simp only [verdict, checkTemplates]
  constructor
  · intro h
    split at h
    · rename_i enabled
      split at h
      · rename_i wanted
        obtain ⟨wanted, missing⟩ := Bool.and_eq_true_iff.1 wanted
        obtain rfl := Except.error.inj h
        exact .templates enabled wanted (by simpa using missing)
      · cases h
    · cases h
  · rintro ⟨enabled, wanted, missing⟩
    simp [enabled, wanted, missing]

theorem verdict_rules_eq_error_iff {role : Role} {e : AssemblyError} :
    c.verdict env (.rules role) = .error e ↔ c.Fault env (.rules role) e := by
  simp only [verdict]
  constructor
  · intro h
    split at h
    · rename_i on
      obtain ⟨enabled, wanted⟩ := Bool.and_eq_true_iff.1 on
      obtain ⟨reason, invalid, rfl⟩ := mapError_eq_error_iff.1 h
      exact .rules enabled wanted invalid
    · cases h
  · intro fault
    cases fault with
    | rules enabled wanted invalid => simp [enabled, wanted, invalid, Except.mapError]

theorem verdict_gateway_eq_error_iff {channel : Channel} {e : AssemblyError} :
    c.verdict env (.gateway channel) = .error e ↔ c.Fault env (.gateway channel) e := by
  simp only [verdict, checkGateway, Channel.gateway]
  constructor
  · intro h
    split at h
    · rename_i enabled
      split at h
      · rename_i http
        split at h
        · cases h
        · rename_i value url
          cases read : Url.read value with
          | ok u => rw [read] at h; cases h
          | error reason =>
            rw [read] at h
            obtain rfl := Except.error.inj h
            exact .gateway enabled http url read
      · cases h
    · cases h
  · intro fault
    cases fault with
    | gateway enabled http url malformed =>
      simp [enabled, http, url, malformed, Except.map]

/-- The faults are what the checks give. -/
theorem verdict_eq_error_iff {k : Check} {e : AssemblyError} :
    c.verdict env k = .error e ↔ c.Fault env k e := by
  cases k with
  | templates channel => exact verdict_templates_eq_error_iff
  | rules role => exact verdict_rules_eq_error_iff
  | gateway channel => exact verdict_gateway_eq_error_iff

theorem verdict_eq_ok_iff {k : Check} : c.verdict env k = .ok () ↔ ∀ e, ¬ c.Fault env k e := by
  simp only [← verdict_eq_error_iff]
  cases c.verdict env k with
  | error e => exact ⟨fun h => (by cases h), fun h => absurd rfl (h e)⟩
  | ok _ => exact ⟨fun _ _ h => (by cases h), fun _ => rfl⟩

theorem checkSms_eq :
    c.checkSms env = (do
      c.verdict env (.templates .sms)
      c.verdict env (.rules .sender)
      c.verdict env (.rules .recipient)) := by
  simp only [checkSms, checkAddressing, checkRules, verdict, enabled, rulesOf]
  by_cases on : c.sms.enabled = true
  · by_cases wanted : c.sms.addressing = true
    · simp [on, wanted]
    · simp only [on, wanted, if_true, Bool.true_and]
      cases c.checkTemplates env <;> rfl
  · simp only [on, if_false, Bool.false_and, Bool.false_eq_true]
    rfl

/-- The check of a configuration is its checks, one after the other. -/
theorem check_eq_forM : c.check env = forM Check.all (c.verdict env) := by
  rw [check, checkSms_eq]
  simp only [Check.all, List.forM_cons, List.forM_nil, bind_assoc, bind_pure_unit]
  rfl

theorem check_eq_error_iff {e : AssemblyError} : c.check env = .error e ↔ c.FirstFault env e := by
  simp only [check_eq_forM, forM_eq_error_iff, verdict_eq_error_iff, verdict_eq_ok_iff, FirstFault]

theorem check_eq_ok_iff : c.check env = .ok () ↔ ∀ k e, ¬ c.Fault env k e := by
  rw [check_eq_forM, forM_eq_ok_iff]
  exact ⟨fun h k => verdict_eq_ok_iff.1 (h k k.mem_all), fun h k _ => verdict_eq_ok_iff.2 (h k)⟩

/-! ### Channels that are not enabled -/

variable {channel : Channel} {c' : Config} {env' : Environment}

/-- A check gives the same in two configurations that agree on one channel, if the other one is
enabled in neither. -/
theorem verdict_congr (agree : AgreeOn channel c c' env env')
    (off : c.enabled channel.other = false) (off' : c'.enabled channel.other = false) (k : Check) :
    c.verdict env k = c'.verdict env' k := by
  cases k with
  | templates d =>
    rcases Channel.eq_or_eq_other channel d with rfl | rfl
    · simp only [verdict, checkTemplates, agree.enabled, agree.templates, agree.capability]
    · simp [verdict, off, off']
  | rules role =>
    cases channel with
    | sms =>
      -- The rules are part of the section on which both agree.
      have section_eq : c.sms = c'.sms := Sum.inl.inj agree.settings
      cases role <;>
        simp only [verdict, rulesOf, senderRules, recipientRules, section_eq]
    | email =>
      have smsOff : c.sms.enabled = false := off
      have smsOff' : c'.sms.enabled = false := off'
      simp [verdict, smsOff, smsOff']
  | gateway d =>
    rcases Channel.eq_or_eq_other channel d with rfl | rfl
    · simp only [verdict, checkGateway, agree.enabled, agree.gateway]
    · simp [verdict, checkGateway, off, off']

theorem check_congr (agree : AgreeOn channel c c' env env')
    (off : c.enabled channel.other = false) (off' : c'.enabled channel.other = false) :
    c.check env = c'.check env' := by
  rw [check_eq_forM, check_eq_forM, funext (verdict_congr agree off off')]

end Config

/-! ## Assembly -/

theorem Pipeline.isSome_ofEnabled {M : Type} [Deliverable M] (enabled : Bool) (env : Environment)
    (l : Layers M) (is : List (Implementation M)) (network : Http.Network) (dryRun : Bool) :
    (ofEnabled enabled env l is network dryRun).isSome = enabled := by
  cases enabled <;> rfl

namespace Assembly

theorem value_assemble_eq_error_iff {c : Config} {env : Environment} {world : World}
    {rs : List Registration} {e : AssemblyError} :
    (assemble c env world rs).value = .error e ↔ c.check env = .error e := by
  rw [value_assemble]
  cases c.check env with
  | error e' =>
    constructor
    · intro h
      exact congrArg _ (Except.error.inj h)
    · intro h
      exact congrArg _ (Except.error.inj h)
  | ok _ => exact ⟨fun h => (by cases h), fun h => (by cases h)⟩

/-- **When assembly fails, and with which error.**  Assembly fails exactly if there is a fault, and
its error is that of the first one; without a fault it succeeds, and the channels that have a
pipeline are those that are enabled.  What belongs to a channel that is not enabled makes no
difference to whether and how it fails. -/
theorem value_assemble_of_faults (c : Config) (env : Environment) (world : World)
    (rs : List Registration) :
    ((∃ e, (assemble c env world rs).value = .error e) ↔ ∃ k e, c.Fault env k e)
      ∧ (∀ e, (assemble c env world rs).value = .error e ↔ c.FirstFault env e)
      ∧ ((∀ k e, ¬ c.Fault env k e) → ∃ service report,
          (assemble c env world rs).value = .ok (service, report)
            ∧ service.sms.isSome = c.sms.enabled ∧ service.email.isSome = c.email.enabled)
      ∧ ∀ (channel : Channel) (c' : Config) (env' : Environment) (world' : World)
          (rs' : List Registration),
          c.enabled channel.other = false → c'.enabled channel.other = false →
          Config.AgreeOn channel c c' env env' →
          ∀ e, (assemble c env world rs).value = .error e
            ↔ (assemble c' env' world' rs').value = .error e := by
  refine ⟨?_, fun e => ?_, fun none => ?_, fun channel c' env' world' rs' off off' agree e => ?_⟩
  · constructor
    · rintro ⟨e, failed⟩
      obtain ⟨before, k, after, -, fault, -⟩ :=
        Config.check_eq_error_iff.1 (value_assemble_eq_error_iff.1 failed)
      exact ⟨k, e, fault⟩
    · rintro ⟨k, e, fault⟩
      cases failed : c.check env with
      | error e' => exact ⟨e', value_assemble_eq_error_iff.2 failed⟩
      | ok _ => exact absurd fault (Config.check_eq_ok_iff.1 failed k e)
  · exact value_assemble_eq_error_iff.trans Config.check_eq_error_iff
  · have assembled := value_assemble c env world rs
    rw [Config.check_eq_ok_iff.2 none] at assembled
    refine ⟨_, _, assembled, ?_, ?_⟩
    · exact Option.isSome_map.trans (Pipeline.isSome_ofEnabled ..)
    · exact Option.isSome_map.trans (Pipeline.isSome_ofEnabled ..)
  · rw [value_assemble_eq_error_iff, value_assemble_eq_error_iff,
      Config.check_congr agree off off']

end Assembly

end Courier
