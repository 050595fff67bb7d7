/-
# Ownership — what belongs to one channel alone

A property belongs to a channel if its key begins with one of the channel's prefixes and a dot
(`Channel.Owns`).  All keys that the way of a message reads by itself are of this kind: those that
fields are filled in from, and those of the gateway.  No key belongs to both channels.

Two configurations in their environments agree on a channel (`Config.AgreeOn`) if they differ at
most in what belongs to the other one: its section, where its templates are, and its properties.
-/
import Courier.Proofs.Assembled

namespace Courier

/-! ## Keys -/

namespace Channel

/-- The channel that is not this one. -/
def other : Channel → Channel
  | .sms => .email
  | .email => .sms

/-- A key that begins with a prefix of the channel and a dot. -/
def Owns (c : Channel) (key : String) : Prop := ∃ p ∈ c.prefixes, (p ++ ".").toList <+: key.toList

theorem owns_field {c : Channel} {p : String} (h : p ∈ c.prefixes) (field : String) :
    c.Owns (p ++ "." ++ field) :=
  ⟨p, h, field.toList, String.toList_append.symm⟩

theorem owns_webhookUrlKey (c : Channel) : c.Owns c.webhookUrlKey := by
  have spelled : c.webhookUrlKey = "herald." ++ c.name ++ "." ++ "webhook.url" := by
    cases c <;> rfl
  rw [spelled]
  exact owns_field List.mem_cons_self _

theorem owns_webhookTokenKey (c : Channel) : c.Owns c.webhookTokenKey := by
  have spelled : c.webhookTokenKey = "herald." ++ c.name ++ "." ++ "webhook.token" := by
    cases c <;> rfl
  rw [spelled]
  exact owns_field List.mem_cons_self _

/-- No prefix of one channel begins with a prefix of the other. -/
theorem not_prefix_other (c : Channel) : ∀ p ∈ c.prefixes, ∀ q ∈ c.other.prefixes,
    ¬ (p ++ ".").toList <+: (q ++ ".").toList := by
  cases c <;> decide

theorem eq_or_eq_other (c d : Channel) : d = c ∨ d = c.other := by
  cases c <;> cases d <;> decide

theorem other_other (c : Channel) : c.other.other = c := by
  cases c <;> rfl

/-- No key belongs to both channels. -/
theorem not_owns_other {c : Channel} {key : String} (h : c.Owns key) : ¬ c.other.Owns key := by
  rintro ⟨q, hq, ofOther⟩
  obtain ⟨p, hp, ofOwn⟩ := h
  -- Of two beginnings of one key, one begins with the other.
  rcases List.prefix_or_prefix_of_prefix ofOwn ofOther with h | h
  · exact not_prefix_other c p hp q hq h
  · exact not_prefix_other c.other q hq p (c.other_other.symm ▸ hp) h

end Channel

/-! ## Settings -/

/-- Whether a channel is enabled. -/
def Config.enabled (c : Config) : Channel → Bool
  | .sms => c.sms.enabled
  | .email => c.email.enabled

/-- The section of a channel. -/
def Config.ofChannel (c : Config) : Channel → SmsConfig ⊕ EmailConfig
  | .sms => .inl c.sms
  | .email => .inr c.email

/-- Where the templates of a channel are, as far as it differs. -/
def TemplatesConfig.own (c : TemplatesConfig) : Channel → Option LocationConfig
  | .sms => c.sms
  | .email => c.email

/-- Two configurations in their environments differ at most in what belongs to the other channel. -/
structure Config.AgreeOn (channel : Channel) (c c' : Config) (env env' : Environment) : Prop where
  capability : env.capability = env'.capability
  property : ∀ key, ¬ channel.other.Owns key → env.property key = env'.property key
  dryRun : c.dryRun = c'.dryRun
  settings : c.ofChannel channel = c'.ofChannel channel
  templates : c.templates.enabled = c'.templates.enabled
  before : c.templates.before = c'.templates.before
  after : c.templates.after = c'.templates.after
  own : c.templates.own channel = c'.templates.own channel

namespace Config.AgreeOn

variable {channel : Channel} {c c' : Config} {env env' : Environment}

theorem owned (h : AgreeOn channel c c' env env') {key : String} (own : channel.Owns key) :
    env.property key = env'.property key :=
  h.property key (Channel.not_owns_other own)

theorem enabled (h : AgreeOn channel c c' env env') : c.enabled channel = c'.enabled channel := by
  cases channel with
  | sms => exact congrArg SmsConfig.enabled (Sum.inl.inj h.settings)
  | email => exact congrArg EmailConfig.enabled (Sum.inr.inj h.settings)

/-- A channel on which they agree has one gateway in both. -/
theorem gateway (h : AgreeOn channel c c' env env') :
    channel.gateway env = channel.gateway env' := by
  unfold Channel.gateway
  rw [h.capability, h.owned channel.owns_webhookUrlKey, h.owned channel.owns_webhookTokenKey]

/-- And the same becomes of its webhook. -/
theorem webhookStatus (h : AgreeOn channel c c' env env') :
    channel.webhookStatus env = channel.webhookStatus env' := by
  unfold Channel.webhookStatus
  rw [h.capability, h.owned channel.owns_webhookUrlKey]

end Config.AgreeOn

end Courier
