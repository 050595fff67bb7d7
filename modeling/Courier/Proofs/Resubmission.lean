/-
# Resubmission — what was delivered once is delivered unchanged again

A message that a transport gets is left alone by every layer when it is submitted once more
(`Layers.Fixes`).  Each stage leaves messages of some form as they are and brings messages into this
form, and the stages behind it keep it:

* filling leaves a message whose open fields have nothing to take, and neither a final body nor an
  address opens a field or closes one (`LawfulMessage.gaps`);
* a body that is final stays (`Layers.Final`), and addresses do not touch it;
* an address that was let through is let through as it is (`AddressTranslator.Makes.self`).

So the layers let the message through unchanged, the same condition is the first that holds of it,
and the transport of the same implementation gets it (`Plan.Resubmits`).
-/
import Courier.Proofs.Addressed
import Courier.Template

namespace Courier

/-! ## Laws of messages -/

/-- What the layers rely on in a message. -/
class LawfulMessage (M : Type) [Message M] where
  /-- Which of the fields that can be filled in are open. -/
  gaps : M → List Bool
  gaps_withContent : ∀ (m : M) c, gaps (Message.withContent m c) = gaps m
  content_withContent : ∀ (m : M) c, Message.content (Message.withContent m c) = c
  withContent_content : ∀ m : M, Message.withContent m (Message.content m) = m
  withContent_withContent : ∀ (m : M) c d,
    Message.withContent (Message.withContent m c) d = Message.withContent m d
  /-- Filling once more changes nothing. -/
  fill_fill : ∀ source (m : M),
    (Message.fill source (Message.fill source m).value).value = (Message.fill source m).value
  /-- Whether filling leaves a message as it is depends on which fields are open. -/
  fill_of_gaps : ∀ {source} {m m' : M}, gaps m' = gaps m →
    (Message.fill source m).value = m → (Message.fill source m').value = m'
  withSender_withSender : ∀ (m : M) s,
    Message.withSender (Message.withSender m s) s = Message.withSender m s
  withSender_of_gaps : ∀ {m m' : M} {s}, gaps m' = gaps m →
    Message.withSender m s = m → Message.withSender m' s = m'

theorem value_orAsk_eq_self_iff {α : Type} {ask : Traced Lookup (Option α)} {o : Option α} :
    (orAsk ask o).value = o ↔ (o.isNone → ask.value = none) := by
  cases o with
  | none => exact ⟨fun h _ => h, fun h => h rfl⟩
  | some a => exact ⟨fun _ h => (by cases h), fun _ => rfl⟩

theorem value_orAskList_eq_self_iff {α : Type} {ask : Traced Lookup (List α)} {xs : List α} :
    (orAskList ask xs).value = xs ↔ (xs.isEmpty → ask.value = []) := by
  cases xs with
  | nil => exact ⟨fun h _ => h, fun h => h rfl⟩
  | cons x xs => exact ⟨fun _ h => (by cases h), fun _ => rfl⟩

/-- Asking once more gives nothing else. -/
theorem value_orAsk_orAsk {α : Type} (ask : Traced Lookup (Option α)) (o : Option α) :
    (orAsk ask (orAsk ask o).value).value = (orAsk ask o).value := by
  refine value_orAsk_eq_self_iff.2 fun gap => ?_
  rw [value_orAsk, Option.isNone_iff_eq_none, Option.or_eq_none_iff] at gap
  exact gap.2

theorem value_orAskList_orAskList {α : Type} (ask : Traced Lookup (List α)) (xs : List α) :
    (orAskList ask (orAskList ask xs).value).value = (orAskList ask xs).value := by
  refine value_orAskList_eq_self_iff.2 fun gap => ?_
  cases xs with
  | nil => exact List.isEmpty_iff.1 gap
  | cons x xs => cases gap

namespace Sms

theorem value_fill (source : FieldSource) (m : Sms) :
    (Message.fill source m).value = { m with
      sender := (orAsk ((·.map .raw) <$> source.value "from") m.sender).value
      recipients := (orAskList ((·.map .raw) <$> source.list "to") m.recipients).value } := rfl

instance : LawfulMessage Sms where
  gaps m := [m.sender.isNone, m.recipients.isEmpty]
  gaps_withContent _ _ := rfl
  content_withContent _ _ := rfl
  withContent_content _ := rfl
  withContent_withContent _ _ _ := rfl
  fill_fill source m := by
    simp only [value_fill, value_orAsk_orAsk, value_orAskList_orAskList]
  fill_of_gaps := by
    intro source m m' gaps filled
    obtain ⟨senders, rest⟩ := List.cons.inj gaps
    obtain ⟨recipients, -⟩ := List.cons.inj rest
    have sender := value_orAsk_eq_self_iff.1 (congrArg Sms.sender filled)
    have others := value_orAskList_eq_self_iff.1 (congrArg Sms.recipients filled)
    rw [value_fill, value_orAsk_eq_self_iff.2 (senders ▸ sender),
      value_orAskList_eq_self_iff.2 (recipients ▸ others)]
  withSender_withSender m s := by
    obtain ⟨content, sender, recipients⟩ := m
    cases sender <;> rfl
  withSender_of_gaps := by
    intro ⟨_, sender, _⟩ ⟨_, sender', _⟩ s gaps kept
    cases sender' with
    | some p => rfl
    | none =>
      cases sender with
      | some p => cases (List.cons.inj gaps).1
      | none => cases kept

end Sms

namespace Email

theorem value_fill (source : FieldSource) (m : Email) :
    (Message.fill source m).value = { m with
      sender := (orAsk (source.value "from") m.sender).value
      subject := (orAsk (source.value "subject") m.subject).value
      recipients := (orAskList (source.list "to") m.recipients).value } := rfl

instance : LawfulMessage Email where
  gaps m := [m.sender.isNone, m.subject.isNone, m.recipients.isEmpty]
  gaps_withContent _ _ := rfl
  content_withContent _ _ := rfl
  withContent_content _ := rfl
  withContent_withContent _ _ _ := rfl
  fill_fill source m := by
    simp only [value_fill, value_orAsk_orAsk, value_orAskList_orAskList]
  fill_of_gaps := by
    intro source m m' gaps filled
    obtain ⟨senders, rest⟩ := List.cons.inj gaps
    obtain ⟨subjects, rest⟩ := List.cons.inj rest
    obtain ⟨recipients, -⟩ := List.cons.inj rest
    have sender := value_orAsk_eq_self_iff.1 (congrArg Email.sender filled)
    have subject := value_orAsk_eq_self_iff.1 (congrArg Email.subject filled)
    have others := value_orAskList_eq_self_iff.1 (congrArg Email.recipients filled)
    rw [value_fill, value_orAsk_eq_self_iff.2 (subjects ▸ subject),
      value_orAsk_eq_self_iff.2 (senders ▸ sender),
      value_orAskList_eq_self_iff.2 (recipients ▸ others)]
  withSender_withSender m s := by
    obtain ⟨content, subject, sender, recipients, cc, bcc⟩ := m
    cases sender <;> rfl
  withSender_of_gaps := by
    intro ⟨_, _, sender, _, _, _⟩ ⟨_, _, sender', _, _, _⟩ s gaps kept
    cases sender' with
    | some p => rfl
    | none =>
      cases sender with
      | some p => cases (List.cons.inj gaps).1
      | none => cases kept

end Email

/-! ## Stages -/

/-- The translators of bodies there are, with any engine, or none. -/
inductive ContentTranslator.Stock : Option ContentTranslator → Prop
  | absent : Stock none
  | templates (engine : TemplateLocation.Engine) (location : TemplateLocation) (files : Files) :
      Stock (some (location.translatorBy engine files))

/-- The translators of the numbers of a text there are, by any rules, or none. -/
inductive NumberTranslator.Stock : Option (NumberTranslator Sms) → Prop
  | absent : Stock none
  | rules (sender recipient : Rules) :
      Stock (some ⟨(Addressing.ofRules sender recipient).translateSms⟩)

/-- Whatever the engine, a body is a final text once it is translated. -/
theorem TemplateLocation.text_of_translatorBy {engine : Engine} {location : TemplateLocation}
    {files : Files} {content body : Content}
    (h : ((location.translatorBy engine files).translate content).value = .ok body) :
    ∃ s, body = .text s := by
  cases content with
  | text s => exact ⟨s, (Except.ok.inj h).symm⟩
  | template t =>
    simp only [translatorBy, Traced.value_bind] at h
    cases hl : (location.load files t.source).value with
    | error cause => rw [hl] at h; cases h
    | ok source =>
      rw [hl] at h
      simp only [Traced.value_pure] at h
      cases he : engine source t.bindings with
      | error reason => rw [he] at h; cases h
      | ok s =>
        rw [he] at h
        exact ⟨s, (Except.ok.inj h).symm⟩

namespace Layers

variable {M : Type} [Message M]

/-- No stage changes a message or refuses it. -/
structure Fixes (l : Layers M) (m : M) : Prop where
  filled : l.filled m = m
  translated : l.translated m = .ok m
  addressed : l.addressed m = .ok m

theorem Fixes.outcome {l : Layers M} {m : M} (h : l.Fixes m) : l.outcome m = .ok m := by
  rw [Layers.outcome, h.filled, h.translated]
  show (l.addressed m).mapError _ = _
  rw [h.addressed]
  rfl

/-- No body of a message is left to be made final. -/
def Final (l : Layers M) (m : M) : Prop := l.content? = none ∨ ∃ s, Message.content m = .text s

theorem final_of_content {l : Layers M} {m m' : M}
    (same : Message.content m' = Message.content m) (h : l.Final m) : l.Final m' :=
  h.imp id fun ⟨s, hs⟩ => ⟨s, same.trans hs⟩

variable [LawfulMessage M] {l : Layers M}

theorem filled_filled (stock : Filler.Stock l.filler?) (m : M) :
    l.filled (l.filled m) = l.filled m := by
  unfold filled
  generalize l.filler? = filler at stock
  cases stock with
  | absent => rfl
  | fixedSender s => exact LawfulMessage.withSender_withSender m s
  | properties env prefixes => exact LawfulMessage.fill_fill _ m

theorem filled_of_gaps (stock : Filler.Stock l.filler?) {m m' : M}
    (gaps : LawfulMessage.gaps m' = LawfulMessage.gaps m) (h : l.filled m = m) :
    l.filled m' = m' := by
  unfold filled at h ⊢
  generalize l.filler? = filler at stock h
  cases stock with
  | absent => rfl
  | fixedSender s => exact LawfulMessage.withSender_of_gaps gaps h
  | properties env prefixes => exact LawfulMessage.fill_of_gaps gaps h

/-- A translator of bodies puts in a body and does nothing else. -/
theorem exists_withContent_of_translated {m m' : M} (h : l.translated m = .ok m') :
    ∃ c, m' = Message.withContent m c := by
  unfold translated at h
  split at h
  · rename_i t _
    cases body : (t.translate ((Message.content m).withMessage (Message.fields m))).value with
    | error e => rw [body] at h; cases h
    | ok c =>
      rw [body] at h
      exact ⟨c, (Except.ok.inj h).symm⟩
  · obtain rfl := Except.ok.inj h
    exact ⟨Message.content m, (LawfulMessage.withContent_content m).symm⟩

/-- A translated message has the same fields open. -/
theorem gaps_of_translated {m m' : M} (h : l.translated m = .ok m') :
    LawfulMessage.gaps m' = LawfulMessage.gaps m := by
  obtain ⟨c, rfl⟩ := exists_withContent_of_translated h
  exact LawfulMessage.gaps_withContent m c

/-- The body of a translated message is final. -/
theorem final_of_translated (stock : ContentTranslator.Stock l.content?) {m m' : M}
    (h : l.translated m = .ok m') : l.Final m' := by
  unfold translated at h
  unfold Final
  generalize l.content? = content at stock h ⊢
  cases stock with
  | absent => exact .inl rfl
  | templates engine location files =>
    dsimp only at h
    generalize hv : ((location.translatorBy engine files).translate _).value = value at h
    cases value with
    | error e => cases h
    | ok body =>
      obtain rfl := Except.ok.inj h
      obtain ⟨s, rfl⟩ := TemplateLocation.text_of_translatorBy hv
      exact .inr ⟨s, LawfulMessage.content_withContent m _⟩

/-- A message whose body is final stays as it is. -/
theorem translated_of_final (stock : ContentTranslator.Stock l.content?) {m : M}
    (h : l.Final m) : l.translated m = .ok m := by
  unfold translated
  unfold Final at h
  generalize l.content? = content at stock h
  cases stock with
  | absent => rfl
  | templates engine location files =>
    obtain ⟨s, hs⟩ := h.resolve_left (by simp)
    have same : Message.withContent m (.text s) = m :=
      hs ▸ LawfulMessage.withContent_content m
    simp only [hs, Content.withMessage, TemplateLocation.translatorBy]
    exact congrArg _ same

/-- What the last stage lets through must be let through unchanged, with the body that it had and
the same fields open; then nothing that passes is changed once more. -/
theorem fixes_of_outcome (filler : Filler.Stock l.filler?)
    (content : ContentTranslator.Stock l.content?)
    (numbers : ∀ {m m' : M}, l.addressed m = .ok m' → l.addressed m' = .ok m'
      ∧ Message.content m' = Message.content m ∧ LawfulMessage.gaps m' = LawfulMessage.gaps m)
    {m m' : M} (h : l.outcome m = .ok m') : l.Fixes m' := by
  obtain ⟨m₂, translated, addressed⟩ := outcome_eq_ok h
  obtain ⟨again, body, gaps⟩ := numbers addressed
  refine ⟨?_, ?_, again⟩
  · exact filled_of_gaps filler (gaps.trans (gaps_of_translated translated))
      (filled_filled filler m)
  · exact translated_of_final content
      (final_of_content body (final_of_translated content translated))

end Layers

/-! ## Addresses -/

namespace AddressTranslator

/-- An address that passes the check is what any number becomes that becomes it. -/
theorem check_of_translate {t : AddressTranslator} {p : PhoneNumber} {a : Address}
    (h : t.translate p = .ok a) : t.check a = .ok a := by
  have checked : ∀ {b : Address}, t.check b = .ok a → t.check a = .ok a := by
    intro b hb
    obtain ⟨-, rfl⟩ := check_eq_ok_iff.1 hb
    exact hb
  cases p with
  | addressed b => exact checked h
  | raw s => exact checked (translateRaw_eq_ok_iff.1 h).2

/-- An address that was let through is let through as it is. -/
theorem Makes.self {t : AddressTranslator} {p q : PhoneNumber} (h : t.Makes p q) : t.Makes q q := by
  obtain ⟨a, made, rfl⟩ := h
  exact ⟨a, check_of_translate made, rfl⟩

theorem rel_makes_self {t : AddressTranslator} {p q : Option PhoneNumber}
    (h : Option.Rel t.Makes p q) : Option.Rel t.Makes q q := by
  cases h with
  | none => exact .none
  | some made => exact .some made.self

theorem forall₂_makes_self {t : AddressTranslator} {ps qs : List PhoneNumber}
    (h : List.Forall₂ t.Makes ps qs) : List.Forall₂ t.Makes qs qs := by
  induction h with
  | nil => exact .nil
  | cons made _ ih => exact .cons made.self ih

/-- A list of numbers that all become addresses is let through. -/
theorem value_runAll_of_forall₂ {t : AddressTranslator} {ps qs : List PhoneNumber}
    (h : List.Forall₂ t.Makes ps qs) :
    ∃ as, (t.runAll ps).value = .ok as ∧ qs = as.map .addressed := by
  induction h with
  | nil => exact ⟨[], rfl, rfl⟩
  | @cons p q ps qs made _ ih =>
    obtain ⟨a, ha, rfl⟩ := made
    obtain ⟨as, has, rfl⟩ := ih
    refine ⟨a :: as, ?_, rfl⟩
    rw [value_runAll_cons, ha, has]
    rfl

end AddressTranslator

namespace Addressing

theorem value_runSender_of_rel {a : Addressing} {p q : Option PhoneNumber}
    (h : Option.Rel a.sender.Makes p q) : (a.runSender p).value = .ok q := by
  cases h with
  | none => rfl
  | some made =>
    obtain ⟨b, hb, rfl⟩ := made
    rw [value_runSender_some, hb]
    rfl

theorem value_translateSms_of_makes {a : Addressing} {m m' : Sms} (h : a.Makes m m') :
    (a.translateSms m).value = .ok m' := by
  obtain ⟨someone, body, sender, recipients⟩ := h
  obtain ⟨as, run, others⟩ := AddressTranslator.value_runAll_of_forall₂ recipients
  obtain ⟨content, sender', recipients'⟩ := m'
  obtain rfl : recipients' = as.map .addressed := others
  obtain rfl : content = m.content := body
  rw [value_translateSms someone, value_runSender_of_rel sender, run]
  rfl

/-- A text whose numbers are addresses that were let through becomes itself. -/
theorem Makes.self {a : Addressing} {m m' : Sms} (h : a.Makes m m') : a.Makes m' m' where
  someone none := by
    have recipients := h.recipients
    rw [none, List.forall₂_nil_right_iff] at recipients
    exact h.someone recipients
  content := rfl
  sender := AddressTranslator.rel_makes_self h.sender
  recipients := AddressTranslator.forall₂_makes_self h.recipients

/-- Addresses open no field and close none. -/
theorem Makes.gaps {a : Addressing} {m m' : Sms} (h : a.Makes m m') :
    LawfulMessage.gaps m' = LawfulMessage.gaps m := by
  have sender : m'.sender.isNone = m.sender.isNone := by
    have made := h.sender
    generalize m.sender = before at made
    generalize m'.sender = after at made
    cases made <;> rfl
  have recipients : m'.recipients.isEmpty = m.recipients.isEmpty := by
    have made := h.recipients
    generalize m.recipients = before at made
    generalize m'.recipients = after at made
    cases made <;> rfl
  exact congrArg₂ (fun a b => [a, b]) sender recipients

end Addressing

namespace Layers

/-- Addresses are let through unchanged, and change neither body nor gaps. -/
theorem addressed_again {l : Layers Sms} (stock : NumberTranslator.Stock l.numbers?) {m m' : Sms}
    (h : l.addressed m = .ok m') : l.addressed m' = .ok m'
      ∧ Message.content m' = Message.content m ∧ LawfulMessage.gaps m' = LawfulMessage.gaps m := by
  unfold addressed at h ⊢
  generalize l.numbers? = numbers at stock h ⊢
  cases stock with
  | absent =>
    obtain rfl := Except.ok.inj h
    exact ⟨rfl, rfl, rfl⟩
  | rules sender recipient =>
    have made := Addressing.makes_of_value_translateSms h
    exact ⟨Addressing.value_translateSms_of_makes made.self, made.content, made.gaps⟩

end Layers

/-! ## Resubmission -/

namespace Plan

variable {M : Type} [Message M]

/-- A transport is reached: the conditions up to that of its implementation are tried on the message
that it gets, no other transport gets any, and its answer is the answer. -/
structure Reaches (p : Plan M) (m : M) (k : Fin p.resolver.implementations.length) (m' : M) :
    Prop where
  tried : Step.evaluations (p.build.value.sender.send m).trace
    = (p.resolver.implementations.take (k + 1)).map fun i => (i.condition, m')
  delivers : Delivers (p.build.value.sender.send m) p.resolver.implementations[k].transport m'

/-- Whatever a transport gets can be sent once more, and leads to the same transport unchanged. -/
structure Resubmits (p : Plan M) : Prop where
  /-- A transport that gets something is that of an implementation. -/
  reached : ∀ m, ∀ d ∈ Step.deliveries (p.build.value.sender.send m).trace,
    ∃ k, p.Reaches m k d.2.1
  again : ∀ m k m', p.Reaches m k m' → p.Reaches m' k m'
  fixed : ∀ m k m', p.Reaches m k m' → p.layers.Fixes m'

variable {p : Plan M}

theorem outcome_of_reaches {m m' : M} {k : Fin p.resolver.implementations.length}
    (h : p.Reaches m k m') : p.layers.outcome m = .ok m' := by
  have single := h.delivers.deliveries
  have received : _ ∈ Step.deliveries (p.build.value.sender.send m).trace :=
    single ▸ List.mem_singleton_self _
  exact outcome_of_mem_deliveries received

/-- Messages that leave the layers alike reach the same. -/
theorem Reaches.of_outcome {m₁ m₂ m m' : M} {k : Fin p.resolver.implementations.length}
    (h₁ : p.layers.outcome m₁ = .ok m) (h₂ : p.layers.outcome m₂ = .ok m)
    (h : p.Reaches m₁ k m') : p.Reaches m₂ k m' := by
  have view : ∀ {β : Type} {view : Step M → Option β},
      (∀ s : Step M, s.IsInternal → view s = none) →
      (p.build.value.sender.send m₂).trace.filterMap view
        = (p.build.value.sender.send m₁).trace.filterMap view := by
    intro β view hview
    exact (Layers.filterMap_send_of_ok hview h₂ _).trans
      (Layers.filterMap_send_of_ok hview h₁ _).symm
  have answer : (p.build.value.sender.send m₂).value = (p.build.value.sender.send m₁).value :=
    (Layers.value_send_of_ok h₂ _).trans (Layers.value_send_of_ok h₁ _).symm
  exact ⟨(view Step.evaluation?_of_internal).trans h.tried,
    answer.trans h.delivers.answer, (view Step.delivery?_of_internal).trans h.delivers.deliveries⟩

theorem reaches_of_mem_deliveries {m : M} {d : String × M × List Effect}
    (h : d ∈ Step.deliveries (p.build.value.sender.send m).trace) : ∃ k, p.Reaches m k d.2.1 := by
  have passed : p.layers.outcome m = .ok d.2.1 := outcome_of_mem_deliveries h
  cases found : p.resolver.implementations.find? (fun i => i.condition.holds p.env d.2.1) with
  | none =>
    have nothing := (send_of_no_match passed found).deliveries
    rw [show p.build.value = p.pipeline from rfl, nothing] at h
    cases h
  | some i =>
    obtain ⟨k, rfl, take⟩ := Resolver.tried_eq_take found
    refine ⟨k, ?_, send_of_match passed found⟩
    have inside := (Resolver.evaluations_send_of_some (r := p.resolver) found).trans
      (congrArg _ take)
    exact (Layers.filterMap_send_of_ok Step.evaluation?_of_internal passed _).trans inside

/-- If the layers leave alone what they let through, it can be sent once more. -/
theorem resubmits_of_fixes (h : ∀ {m m' : M}, p.layers.outcome m = .ok m' → p.layers.Fixes m') :
    p.Resubmits where
  reached _ _ := reaches_of_mem_deliveries
  again _ _ _ reached :=
    have passed := outcome_of_reaches reached
    reached.of_outcome passed (h passed).outcome
  fixed _ _ _ reached := h (outcome_of_reaches reached)

/-- **What was delivered once is delivered unchanged again.**  In a pipeline that fills in from
properties, with a fixed sender or not at all, whose bodies are made final by templates or not at
all, and whose numbers become addresses by any rules or not at all, a message that a transport gets,
if it is sent once more, is left alone by every layer and leads to the transport of the same
implementation. -/
theorem resubmits_of_stock :
    (∀ p : Plan Sms, Filler.Stock p.layers.filler? → ContentTranslator.Stock p.layers.content? →
      NumberTranslator.Stock p.layers.numbers? → p.Resubmits)
    ∧ ∀ p : Plan Email, Filler.Stock p.layers.filler? →
      ContentTranslator.Stock p.layers.content? → p.layers.numbers? = none → p.Resubmits := by
  constructor
  · intro p filler content numbers
    exact resubmits_of_fixes (Layers.fixes_of_outcome filler content
      (Layers.addressed_again numbers))
  · intro p filler content numbers
    refine resubmits_of_fixes (Layers.fixes_of_outcome filler content fun {m m'} h => ?_)
    unfold Layers.addressed at h ⊢
    rw [numbers] at h ⊢
    obtain rfl := Except.ok.inj h
    exact ⟨rfl, rfl, rfl⟩

/-- An order without a sender, with a template and a number to expand, sent twice. -/
theorem resubmits_of_stock_order :
    let filler : Filler Sms := .properties (.of (.ofList [("sms.from", "Shop")]) .detect) ["sms"]
    let bodies := TemplateLocation.standard.translatorBy (fun source _ => .ok source) ⟨[], []⟩
    let layers : Layers Sms :=
      ((Layers.empty.setFiller filler).setContentTranslator bodies).setAddressing
        (.ofRules .sender (.recipient "49"))
    let p : Plan Sms := ((new .standard).setLayers layers).add .always (.memory "kept" none)
    let order : Sms := ⟨.template ⟨.inline "ready", []⟩, none, [.raw "0171-3"]⟩
    let sent : Sms := ⟨.text "ready", some (.addressed ⟨"Shop", .alphanumeric, .unknown⟩),
      [.addressed ⟨"491713", .international, .isdn⟩]⟩
    ∃ k, p.Reaches order k sent ∧ p.Reaches sent k sent := by
  intro filler bodies layers p order sent
  have stable : p.Resubmits :=
    resubmits_of_stock.1 p (.properties _ _) (.templates _ _ _) (.rules _ _)
  have handed : Step.deliveries (p.build.value.sender.send order).trace
      = [("kept", sent, [.kept])] := rfl
  obtain ⟨k, reached⟩ := stable.reached order ("kept", sent, [.kept])
    (handed ▸ List.mem_singleton_self _)
  exact ⟨k, reached, stable.again order k sent reached⟩

end Plan

end Courier
