/-
# Finality — a body is final behind templates, and refused by its transport without them

Templates make every body a final text, whatever the engine makes of it, and turning numbers into
addresses does not touch a body.  So behind them conditions and transports see final texts alone
(`Plan.Finalizes`), the transports that are known never answer that a body is still a template, and
a text that was submitted is the text that arrives.

Without a translator of bodies, a template is still the same template when it gets to the resolver
(`Plan.KeepsTemplates`), and a transport that is known answers with the one error that there is for
it, and does nothing else.

The filler may be of any kind as long as it leaves bodies alone, and all fillers that there are do:
a body is no field that nobody set.
-/
import Courier.Proofs.Resubmission

namespace Courier

variable {M : Type}

/-! ## Bodies that are still templates -/

/-- The error that a body is still a template. -/
def DeliveryError.unresolved (transport : String) : DeliveryError :=
  ⟨transport, "content is an unresolved template; enable template translation"⟩

/-- A failure whose reason begins with another letter is not that a body is still a template. -/
theorem DeliveryError.ne_unresolved {e : DeliveryError} (h : e.reason.toList.head? ≠ some 'c')
    (transport : String) : e ≠ .unresolved transport := by
  rintro rfl
  exact h (by simp [DeliveryError.unresolved])

/-- What finality relies on in a message: filling leaves the body alone, and a payload is written
out of the final text alone. -/
class LawfulBody (M : Type) [Deliverable M] : Prop where
  content_fill : ∀ source (m : M),
    Message.content (Message.fill source m).value = Message.content m
  content_withSender : ∀ (m : M) s, Message.content (Message.withSender m s) = Message.content m
  payloadText_eq : ∀ (transport : String) (m : M), ∃ write : String → String,
    Deliverable.payloadText transport m = ((Message.content m).finalText transport).map write

instance : LawfulBody Sms where
  content_fill _ _ := rfl
  content_withSender m _ := by
    obtain ⟨content, sender, recipients⟩ := m
    cases sender <;> rfl
  payloadText_eq transport m := by
    refine ⟨fun text => (SmsPayload.mk (m.sender.map (·.toWire)) (m.recipients.map (·.toWire))
      text).toJson.write, ?_⟩
    show (m.payload transport).map _ = (m.content.finalText transport).map _
    unfold Sms.payload
    cases m.content.finalText transport <;> rfl

instance : LawfulBody Email where
  content_fill _ _ := rfl
  content_withSender m _ := by
    obtain ⟨content, subject, sender, recipients, cc, bcc⟩ := m
    cases sender <;> rfl
  payloadText_eq transport m := by
    refine ⟨fun body => (EmailPayload.mk m.sender m.recipients m.cc m.bcc m.subject
      body).toJson.write, ?_⟩
    show (m.payload transport).map _ = (m.content.finalText transport).map _
    unfold Email.payload
    cases m.content.finalText transport <;> rfl

/-! ## The transports that are known -/

/-- The transports that are known: the log, and a webhook. -/
inductive Transport.Known [Deliverable M] : Transport M → Prop
  | log (name : String) : Known (.log name)
  | webhook (w : Webhook) (network : Http.Network) : Known (w.transport network)

namespace Webhook

/-- No answer of a gateway says that a body is still a template. -/
theorem check_ne_unresolved (r : Http.Response) (name transport : String) :
    r.check name ≠ .error (.unresolved transport) := by
  intro h
  unfold Http.Response.check at h
  split at h
  · exact DeliveryError.ne_unresolved (by simp) transport (Except.error.inj h)
  · dsimp only at h
    split at h
    · cases h
    · exact DeliveryError.ne_unresolved (by simp) transport (Except.error.inj h)

theorem post_ne_unresolved (w : Webhook) (network : Http.Network) (payload transport : String) :
    (w.post network payload).result ≠ .error (.delivery (.unresolved transport)) := by
  intro h
  unfold post at h
  dsimp only at h
  split at h
  · exact DeliveryError.ne_unresolved (by simp) transport
      (SendError.delivery.inj (Except.error.inj h))
  · split at h
    · rename_i e refused
      obtain rfl := SendError.delivery.inj (Except.error.inj h)
      exact check_ne_unresolved _ _ _ refused
    · cases h

end Webhook

namespace Transport.Known

variable [Deliverable M] {t : Transport M} {m : M}

/-- A transport that is known never answers that a final text is still a template. -/
theorem result_ne_unresolved [LawfulBody M] (known : t.Known) {s : String}
    (h : Message.content m = .text s) (transport : String) :
    (t.deliver m).result ≠ .error (.delivery (.unresolved transport)) := by
  cases known with
  | log name =>
    intro answer
    rw [Transport.log] at answer
    simp only [h, Content.finalText] at answer
    cases answer
  | webhook w network =>
    obtain ⟨write, written⟩ := LawfulBody.payloadText_eq w.name m
    have payload : Deliverable.payloadText w.name m = .ok (write s) := by rw [written, h]; rfl
    simp only [Webhook.transport, payload]
    exact w.post_ne_unresolved network (write s) transport

/-- To a template it answers with its own name, and does nothing else. -/
theorem deliver_template [LawfulBody M] (known : t.Known) {template : Template}
    (h : Message.content m = .template template) :
    t.deliver m = ⟨.error (.delivery (.unresolved t.name)), []⟩ := by
  cases known with
  | log name =>
    simp only [Transport.log, h, Content.finalText]
    rfl
  | webhook w network =>
    obtain ⟨write, written⟩ := LawfulBody.payloadText_eq w.name m
    have payload : Deliverable.payloadText w.name m = .error (.unresolved w.name) := by
      rw [written, h]
      rfl
    simp only [Webhook.transport, payload]

end Transport.Known

/-- Where transports do nothing with what they get, nothing is logged by them or asked of a
gateway. -/
theorem Step.silent_of_deliveries {steps : List (Step M)}
    (h : ∀ d ∈ deliveries steps, d.2.2 = []) : delivered steps = [] ∧ requests steps = [] := by
  have idle : ∀ name m effects, Step.handed name m effects ∈ steps → effects = [] :=
    fun name m effects hs => h (name, m, effects) (List.mem_filterMap.2 ⟨_, hs, rfl⟩)
  constructor <;> refine List.flatMap_eq_nil_iff.2 fun s hs => ?_ <;> cases s with
  | handed name m effects =>
    obtain rfl := idle name m effects hs
    rfl
  | _ => rfl

/-! ## Bodies on their way through the layers -/

/-- A filler that leaves bodies alone. -/
def Filler.KeepsBody [Message M] (f : Filler M) : Prop :=
  ∀ m, Message.content (f.fill m).value = Message.content m

/-- A translator of numbers that leaves bodies alone. -/
def NumberTranslator.KeepsBody [Message M] (t : NumberTranslator M) : Prop :=
  ∀ m m', (t.translate m).value = .ok m' → Message.content m' = Message.content m

theorem Filler.Stock.keepsBody [Deliverable M] [LawfulBody M] {filler : Option (Filler M)}
    (stock : Stock filler) : ∀ f ∈ filler, f.KeepsBody := by
  intro f hf
  cases stock with
  | absent => cases hf
  | fixedSender s =>
    obtain rfl := Option.some.inj hf
    exact fun m => LawfulBody.content_withSender m s
  | properties env prefixes =>
    obtain rfl := Option.some.inj hf
    exact fun m => LawfulBody.content_fill _ m

theorem NumberTranslator.Stock.keepsBody {numbers : Option (NumberTranslator Sms)}
    (stock : Stock numbers) : ∀ t ∈ numbers, t.KeepsBody := by
  intro t ht
  cases stock with
  | absent => cases ht
  | rules sender recipient =>
    obtain rfl := Option.some.inj ht
    exact fun m m' h => (Addressing.makes_of_value_translateSms h).content

namespace Layers

variable [Message M] {l : Layers M} {m m' : M}

theorem content_filled (keeps : ∀ f ∈ l.filler?, f.KeepsBody) (m : M) :
    Message.content (l.filled m) = Message.content m := by
  unfold filled
  split
  · rename_i f hf
    exact keeps f hf m
  · rfl

theorem content_addressed (keeps : ∀ t ∈ l.numbers?, t.KeepsBody) (h : l.addressed m = .ok m') :
    Message.content m' = Message.content m := by
  unfold addressed at h
  split at h
  · rename_i t ht
    exact keeps t ht m m' h
  · obtain rfl := Except.ok.inj h
    rfl

/-- Without a translator of bodies, a body gets through as it was filled in. -/
theorem content_of_outcome (absent : l.content? = none)
    (numbers : ∀ t ∈ l.numbers?, t.KeepsBody) (h : l.outcome m = .ok m') :
    Message.content m' = Message.content (l.filled m) := by
  obtain ⟨m₂, translated, addressed⟩ := outcome_eq_ok h
  rw [Layers.translated, absent] at translated
  obtain rfl := Except.ok.inj translated
  exact content_addressed numbers addressed

/-- A text gets through as it was submitted. -/
theorem text_of_outcome [LawfulMessage M] (stock : ContentTranslator.Stock l.content?)
    (fills : ∀ f ∈ l.filler?, f.KeepsBody) (numbers : ∀ t ∈ l.numbers?, t.KeepsBody) {s : String}
    (submitted : Message.content m = .text s) (h : l.outcome m = .ok m') :
    Message.content m' = .text s := by
  obtain ⟨m₂, translated, addressed⟩ := outcome_eq_ok h
  have filled : Message.content (l.filled m) = .text s := (content_filled fills m).trans submitted
  -- The body is final already, so the translator leaves the filled message as it is.
  rw [translated_of_final stock (.inr ⟨s, filled⟩)] at translated
  obtain rfl := Except.ok.inj translated
  exact (content_addressed numbers addressed).trans filled

end Layers

/-! ## Pipelines -/

namespace Plan

/-- The layers let a message through, and an implementation is the first whose condition holds of
it. -/
structure Selects [Message M] (p : Plan M) (m m' : M) (i : Implementation M) : Prop where
  passed : p.layers.outcome m = .ok m'
  first : p.resolver.implementations.find? (fun i => i.condition.holds p.env m') = some i

theorem Selects.delivers [Message M] {p : Plan M} {m m' : M} {i : Implementation M}
    (h : p.Selects m m' i) : Delivers (p.build.value.sender.send m) i.transport m' :=
  send_of_match h.passed h.first

/-- Bodies are final by the time conditions and transports see them. -/
structure Finalizes [Deliverable M] (p : Plan M) : Prop where
  seen : ∀ m, ∀ m' ∈ Step.seen (p.build.value.sender.send m).trace,
    ∃ s, Message.content m' = .text s
  /-- No transport that is known complains of a template. -/
  resolved : ∀ m m' i, p.Selects m m' i → i.transport.Known → ∀ transport,
    (p.build.value.sender.send m).value ≠ .error (.delivery (.unresolved transport))
  /-- A text stays the text that it is, whatever it looks like. -/
  kept : (∀ f ∈ p.layers.filler?, f.KeepsBody) → ∀ m s, Message.content m = .text s →
    ∀ m' ∈ Step.seen (p.build.value.sender.send m).trace, Message.content m' = .text s

/-- Templates get to the resolver, and no further than to a transport that is known. -/
structure KeepsTemplates [Deliverable M] (p : Plan M) : Prop where
  /-- What is left of a send, once the layers are passed, is the resolver's. -/
  reaches : ∀ m m' t, Message.content m = .template t → p.layers.outcome m = .ok m' →
    Message.content m' = .template t ∧ ∃ before, (∀ s ∈ before, s.IsInternal) ∧
      p.build.value.sender.send m
        = ⟨(p.resolver.send m').value, before ++ (p.resolver.send m').trace⟩
  /-- The transport gets the template and does nothing but answer. -/
  refused : ∀ m m' i t, Message.content m = .template t → p.Selects m m' i → i.transport.Known →
    (p.build.value.sender.send m).value = .error (.delivery (.unresolved i.transport.name))
      ∧ Step.deliveries (p.build.value.sender.send m).trace = [(i.transport.name, m', [])]
      ∧ Step.delivered (p.build.value.sender.send m).trace = []
      ∧ Step.requests (p.build.value.sender.send m).trace = []

variable [Deliverable M] {p : Plan M}

/-- Behind templates, what leaves the layers has a final body. -/
theorem text_of_outcome [LawfulMessage M] {engine : TemplateLocation.Engine}
    {location : TemplateLocation} {files : Files}
    (templates : p.layers.content? = some (location.translatorBy engine files))
    (numbers : ∀ t ∈ p.layers.numbers?, t.KeepsBody) {m m' : M}
    (h : p.layers.outcome m = .ok m') : ∃ s, Message.content m' = .text s := by
  obtain ⟨m₂, translated, addressed⟩ := Layers.outcome_eq_ok h
  have stock : ContentTranslator.Stock p.layers.content? := templates ▸ .templates _ _ _
  have final := (Layers.final_of_translated stock translated).resolve_left (by simp [templates])
  rw [Layers.content_addressed numbers addressed]
  exact final

theorem finalizes_of_templates [LawfulMessage M] [LawfulBody M]
    {engine : TemplateLocation.Engine} {location : TemplateLocation} {files : Files}
    (templates : p.layers.content? = some (location.translatorBy engine files))
    (numbers : ∀ t ∈ p.layers.numbers?, t.KeepsBody) : p.Finalizes where
  seen _ _ shown := text_of_outcome templates numbers (outcome_of_seen shown)
  resolved m m' i selected known transport := by
    obtain ⟨s, final⟩ := text_of_outcome templates numbers selected.passed
    rw [selected.delivers.answer]
    exact known.result_ne_unresolved final transport
  kept fills m s submitted m' shown := by
    have stock : ContentTranslator.Stock p.layers.content? := templates ▸ .templates _ _ _
    exact Layers.text_of_outcome stock fills numbers submitted (outcome_of_seen shown)

theorem keepsTemplates_of_absent [LawfulBody M] (absent : p.layers.content? = none)
    (fills : ∀ f ∈ p.layers.filler?, f.KeepsBody)
    (numbers : ∀ t ∈ p.layers.numbers?, t.KeepsBody) : p.KeepsTemplates := by
  have same : ∀ {m m' : M}, p.layers.outcome m = .ok m' →
      Message.content m' = Message.content m := fun {m m'} passed =>
    (Layers.content_of_outcome absent numbers passed).trans (Layers.content_filled fills m)
  refine ⟨fun m m' t submitted passed => ⟨(same passed).trans submitted, ?_⟩,
    fun m m' i t submitted selected known => ?_⟩
  · refine ⟨(p.layers.pass m).trace, p.layers.pass_quiet m, ?_⟩
    exact (p.layers.compose_send p.resolver.toSender m).trans
      (Traced.andThen_of_ok ((p.layers.value_pass m).trans passed) _)
  · obtain ⟨answer, deliveries⟩ := selected.delivers
    rw [known.deliver_template ((same selected.passed).trans submitted)] at answer deliveries
    refine ⟨answer, deliveries, Step.silent_of_deliveries fun d hd => ?_⟩
    rw [deliveries] at hd
    obtain rfl := List.mem_singleton.1 hd
    rfl

end Plan

/-- **Final behind templates, refused without them.**  In a pipeline with templates, whatever their
engine and whatever its other layers are, conditions and transports see final texts alone, no known
transport complains of a template, and a text that is submitted stays as it is.  In a pipeline
without a translator of bodies, a template that the layers let through gets to the resolver as it
is, and a known transport refuses it by name without a record or a request.  All fillers that there
are leave bodies alone. -/
theorem Plan.final_or_refused :
    (∀ p : Plan Sms, NumberTranslator.Stock p.layers.numbers? →
      (∀ engine location files,
        p.layers.content? = some (TemplateLocation.translatorBy engine location files) →
        p.Finalizes)
      ∧ (p.layers.content? = none → (∀ f ∈ p.layers.filler?, f.KeepsBody) → p.KeepsTemplates))
    ∧ (∀ p : Plan Email, p.layers.numbers? = none →
      (∀ engine location files,
        p.layers.content? = some (TemplateLocation.translatorBy engine location files) →
        p.Finalizes)
      ∧ (p.layers.content? = none → (∀ f ∈ p.layers.filler?, f.KeepsBody) → p.KeepsTemplates))
    ∧ (∀ filler : Option (Filler Sms), Filler.Stock filler → ∀ f ∈ filler, f.KeepsBody)
    ∧ ∀ filler : Option (Filler Email), Filler.Stock filler → ∀ f ∈ filler, f.KeepsBody := by
  refine ⟨fun p stock => ?_, fun p absent => ?_, fun _ => Filler.Stock.keepsBody,
    fun _ => Filler.Stock.keepsBody⟩
  · exact ⟨fun _ _ _ templates => finalizes_of_templates templates stock.keepsBody,
      fun absent fills => keepsTemplates_of_absent absent fills stock.keepsBody⟩
  · have none : ∀ t ∈ p.layers.numbers?, t.KeepsBody := by simp [absent]
    exact ⟨fun _ _ _ templates => finalizes_of_templates templates none,
      fun absent fills => keepsTemplates_of_absent absent fills none⟩

/-- A text that looks like a template, sent through templates whose engine fails, and a template for
letters, sent through a log without any. -/
theorem Plan.final_or_refused_order :
    let bodies := TemplateLocation.standard.translatorBy (fun source _ => .error source) ⟨[], []⟩
    let layers : Layers Sms :=
      ((Layers.empty.setFiller (.fixedSender "Shop")).setContentTranslator bodies).setAddressing
        (.ofRules .sender (.recipient "49"))
    let texts : Plan Sms := ((Plan.new .standard).setLayers layers).add .always (.log "texts")
    let letters : Plan Email := (Plan.new .standard).add .always (.log "letters")
    let order : Sms := ⟨.text "{{ code }}", none, [.raw "0171-3"]⟩
    let welcome : Email := ⟨.template ⟨.path "welcome", []⟩, none, none, ["a@b.org"], [], []⟩
    (∀ m' ∈ Step.seen (texts.build.value.sender.send order).trace,
        Message.content m' = .text "{{ code }}")
      ∧ (letters.build.value.sender.send welcome).value
        = .error (.delivery (.unresolved "letters"))
      ∧ Step.delivered (letters.build.value.sender.send welcome).trace = [] := by
  intro bodies layers texts letters order welcome
  have final : texts.Finalizes := (final_or_refused.1 texts (.rules _ _)).1 _ _ _ rfl
  have kept : letters.KeepsTemplates := (final_or_refused.2.1 letters rfl).2 rfl nofun
  have selected : letters.Selects welcome welcome ⟨.always, .log "letters"⟩ := ⟨rfl, rfl⟩
  obtain ⟨answer, -, silent, -⟩ := kept.refused _ _ _ _ rfl selected (.log "letters")
  exact ⟨final.kept (Filler.Stock.keepsBody (.fixedSender "Shop")) order _ rfl, answer, silent⟩

end Courier
