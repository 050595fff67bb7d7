/-
# Addressed — behind the layers no number is raw

A text whose numbers are all raw can be filled in, and its body made final, without any number
becoming an address (`Sms.Unaddressed`).  So the layer that turns numbers into addresses gets raw
numbers alone, and classifies every one of them: what it lets through has as many recipients, in
the same order, each of them classified by the rules for recipients and of a shape that these rules
allow, and the same goes for the sender and its own rules (`Sms.Classified`).

Conditions and transports see a text only after that layer, which makes this true of all they see.
-/
import Courier.Proofs.Dispatch
import Courier.Proofs.Shapes
import Mathlib.Data.List.Forall2

namespace Courier

/-! ## Translating numbers -/

namespace AddressTranslator

/-- A number is let through, and becomes its address. -/
def Makes (t : AddressTranslator) (before after : PhoneNumber) : Prop :=
  ∃ a, t.translate before = .ok a ∧ after = .addressed a

theorem value_run (t : AddressTranslator) (p : PhoneNumber) : (t.run p).value = t.translate p := by
  unfold run
  cases t.translate p <;> rfl

theorem value_runAll_cons (t : AddressTranslator) (p : PhoneNumber) (ps : List PhoneNumber) :
    (t.runAll (p :: ps)).value = do return (← t.translate p) :: (← (t.runAll ps).value) := by
  simp only [runAll, Traced.value_bind, value_run]
  cases t.translate p with
  | error e => rfl
  | ok a =>
    simp only [Traced.value_bind]
    cases (t.runAll ps).value <;> rfl

/-- A list that is let through becomes the addresses of its numbers, in their order. -/
theorem forall₂_of_value_runAll {t : AddressTranslator} {ps : List PhoneNumber}
    {as : List Address} (h : (t.runAll ps).value = .ok as) :
    List.Forall₂ t.Makes ps (as.map .addressed) := by
  induction ps generalizing as with
  | nil =>
    obtain rfl := Except.ok.inj h
    exact .nil
  | cons p ps ih =>
    rw [value_runAll_cons] at h
    obtain ⟨a, hp, h⟩ := bind_eq_ok_iff.1 h
    obtain ⟨rest, hps, h⟩ := bind_eq_ok_iff.1 h
    obtain rfl := Except.ok.inj h
    exact .cons ⟨a, hp, rfl⟩ (ih hps)

end AddressTranslator

namespace Addressing

theorem value_runSender_some (a : Addressing) (p : PhoneNumber) :
    (a.runSender (some p)).value = do return some (.addressed (← a.sender.translate p)) := by
  simp only [runSender, Traced.value_bind, Traced.value_pure, AddressTranslator.value_run]
  cases a.sender.translate p <;> rfl

theorem value_translateSms {a : Addressing} {m : Sms} (someone : m.recipients ≠ []) :
    (a.translateSms m).value = do
      let sender ← (a.runSender m.sender).value
      let recipients ← (a.recipient.runAll m.recipients).value
      return { m with sender, recipients := recipients.map .addressed } := by
  simp only [translateSms, if_neg someone, Traced.value_bind]
  cases (a.runSender m.sender).value with
  | error e => rfl
  | ok sender =>
    simp only [Traced.value_bind]
    cases (a.recipient.runAll m.recipients).value <;> rfl

/-- A sender that is let through was not set, or becomes its address. -/
theorem rel_of_value_runSender {a : Addressing} {p q : Option PhoneNumber}
    (h : (a.runSender p).value = .ok q) : Option.Rel a.sender.Makes p q := by
  cases p with
  | none =>
    obtain rfl := Except.ok.inj h
    exact .none
  | some p =>
    rw [value_runSender_some] at h
    obtain ⟨x, hp, h⟩ := bind_eq_ok_iff.1 h
    obtain rfl := Except.ok.inj h
    exact .some ⟨x, hp, rfl⟩

/-- A text has recipients, and becomes one whose numbers are the addresses of its own. -/
structure Makes (a : Addressing) (m m' : Sms) : Prop where
  someone : m.recipients ≠ []
  content : m'.content = m.content
  sender : Option.Rel a.sender.Makes m.sender m'.sender
  recipients : List.Forall₂ a.recipient.Makes m.recipients m'.recipients

theorem makes_of_value_translateSms {a : Addressing} {m m' : Sms}
    (h : (a.translateSms m).value = .ok m') : a.Makes m m' := by
  have someone : m.recipients ≠ [] := by
    intro nobody
    rw [translateSms, if_pos nobody] at h
    cases h
  rw [value_translateSms someone] at h
  obtain ⟨sender, hs, h⟩ := bind_eq_ok_iff.1 h
  obtain ⟨as, hr, h⟩ := bind_eq_ok_iff.1 h
  obtain rfl := Except.ok.inj h
  exact ⟨someone, rfl, rel_of_value_runSender hs, AddressTranslator.forall₂_of_value_runAll hr⟩

end Addressing

/-! ## Raw numbers -/

/-- Neither the sender nor a recipient is an address yet. -/
structure Sms.Unaddressed (m : Sms) : Prop where
  sender : ∀ p ∈ m.sender, p.address? = none
  recipients : ∀ p ∈ m.recipients, p.address? = none

/-- The fillers there are, or none. -/
inductive Filler.Stock {M : Type} [Message M] : Option (Filler M) → Prop
  | absent : Stock none
  | fixedSender (sender : String) : Stock (some (.fixedSender sender))
  | properties (env : Environment) (prefixes : List String) :
      Stock (some (.properties env prefixes))

theorem value_orAsk {α : Type} (ask : Traced Lookup (Option α)) (o : Option α) :
    (orAsk ask o).value = o.or ask.value := by
  cases o <;> rfl

theorem value_orAskList {α : Type} (ask : Traced Lookup (List α)) (xs : List α) :
    (orAskList ask xs).value = xs ∨ (orAskList ask xs).value = ask.value := by
  cases xs with
  | nil => exact .inr rfl
  | cons x xs => exact .inl rfl

namespace Sms.Unaddressed

variable {m : Sms}

theorem withSender (h : m.Unaddressed) (s : String) : (Message.withSender m s).Unaddressed := by
  obtain ⟨content, sender, recipients⟩ := m
  cases sender with
  | none => exact ⟨by rintro p ⟨⟩; rfl, h.recipients⟩
  | some p => exact h

/-- What is asked for is raw. -/
theorem fill (h : m.Unaddressed) (source : FieldSource) : (m.fill source).value.Unaddressed where
  sender p hp := by
    replace hp : p ∈ (orAsk ((·.map .raw) <$> source.value "from") m.sender).value := hp
    rw [value_orAsk, Traced.value_map] at hp
    cases hs : m.sender with
    | some q => rw [hs] at hp; exact h.sender p (hs ▸ hp)
    | none =>
      rw [hs, Option.none_or] at hp
      obtain ⟨s, -, rfl⟩ := Option.map_eq_some_iff.1 hp
      rfl
  recipients p hp := by
    replace hp : p ∈ (orAskList ((·.map .raw) <$> source.list "to") m.recipients).value := hp
    rcases value_orAskList ((·.map .raw) <$> source.list "to") m.recipients with kept | asked
    · exact h.recipients p (kept ▸ hp)
    · rw [asked, Traced.value_map] at hp
      obtain ⟨s, -, rfl⟩ := List.mem_map.1 hp
      rfl

theorem filled {l : Layers Sms} (h : m.Unaddressed) (stock : Filler.Stock l.filler?) :
    (l.filled m).Unaddressed := by
  unfold Layers.filled
  generalize l.filler? = filler at stock ⊢
  cases stock with
  | absent => exact h
  | fixedSender s => exact h.withSender s
  | properties env prefixes => exact h.fill _

end Sms.Unaddressed

/-- A translator of bodies leaves the numbers as they are. -/
theorem Layers.numbers_of_translated {l : Layers Sms} {m m' : Sms} (h : l.translated m = .ok m') :
    m'.sender = m.sender ∧ m'.recipients = m.recipients := by
  unfold translated at h
  cases hc : l.content? with
  | none =>
    rw [hc] at h
    obtain rfl := Except.ok.inj h
    exact ⟨rfl, rfl⟩
  | some t =>
    rw [hc] at h
    dsimp only at h
    cases hv : (t.translate ((Message.content m).withMessage (Message.fields m))).value with
    | error e => rw [hv] at h; cases h
    | ok body =>
      rw [hv] at h
      obtain rfl := Except.ok.inj h
      exact ⟨rfl, rfl⟩

/-! ## What conditions and transports see -/

/-- A raw number and the address that it is by some rules, of a shape that they allow. -/
structure PhoneNumber.Classified (rules : Rules) (before after : PhoneNumber) : Prop where
  addressed : ∃ raw, before = .raw raw ∧ after = .addressed (rules.classify raw)
  shaped : WireAddress.Shaped rules after.toWire

theorem PhoneNumber.classified_of_makes {t : AddressTranslator}
    (valid : t.rules.validate = .ok ()) {p q : PhoneNumber} (raw : p.address? = none)
    (made : t.Makes p q) : Classified t.rules p q := by
  obtain ⟨a, h, rfl⟩ := made
  cases p with
  | addressed b => cases raw
  | raw s =>
    obtain ⟨rfl, shaped⟩ := AddressTranslator.shaped_of_translateRaw valid h
    exact ⟨⟨s, rfl, rfl⟩, shaped⟩

/-- Each number of a text stands where the number was of which it is the address, and there are
recipients. -/
structure Sms.Classified (sender recipient : Rules) (before after : Sms) : Prop where
  nonempty : after.recipients ≠ []
  recipients : List.Forall₂ (PhoneNumber.Classified recipient) before.recipients after.recipients
  sender : Option.Rel (PhoneNumber.Classified sender) before.sender after.sender

/-- Of raw numbers, the layer that turns numbers into addresses lets through what is classified. -/
theorem Sms.classified_of_translateSms {sender recipient : Rules} (vs : sender.validate = .ok ())
    (vr : recipient.validate = .ok ()) {m m' : Sms} (raw : m.Unaddressed)
    (h : ((Addressing.ofRules sender recipient).translateSms m).value = .ok m') :
    Classified sender recipient m m' := by
  obtain ⟨someone, -, madeSender, made⟩ := Addressing.makes_of_value_translateSms h
  refine ⟨fun none => ?_, ?_, ?_⟩
  · rw [none, List.forall₂_nil_right_iff] at made
    exact someone made
  · -- Each recipient was raw and was let through, which is all that classification needs.
    have rawMade := (List.forall₂_and_left _ _).2 ⟨raw.recipients, made⟩
    exact rawMade.imp fun p q h => PhoneNumber.classified_of_makes vr h.1 h.2
  · have rawSender := raw.sender
    generalize m.sender = before at madeSender rawSender ⊢
    generalize m'.sender = after at madeSender ⊢
    cases madeSender with
    | none => exact .none
    | some made => exact .some (PhoneNumber.classified_of_makes vs (rawSender _ rfl) made)

/-- **No raw number gets behind the layers.**  In a pipeline that turns numbers into addresses, by
rules that are valid, and fills in from properties, with a fixed sender or not at all, a text whose
numbers are all raw is shown to conditions and to transports only with recipients, as many as it
had when it was filled in and in that order, and with every number classified by the rules of its
part and of a shape that these allow. -/
theorem Plan.classified_of_seen {p : Plan Sms} {sender recipient : Rules}
    (hl : p.layers.numbers? = some ⟨(Addressing.ofRules sender recipient).translateSms⟩)
    (vs : sender.validate = .ok ()) (vr : recipient.validate = .ok ())
    (stock : Filler.Stock p.layers.filler?) {m : Sms} (raw : m.Unaddressed) {m' : Sms}
    (seen : m' ∈ Step.seen (p.build.value.sender.send m).trace) :
    Sms.Classified sender recipient (p.layers.filled m) m' := by
  obtain ⟨m₂, translated, addressed⟩ := Layers.outcome_eq_ok (outcome_of_seen seen)
  obtain ⟨sameSender, sameRecipients⟩ := Layers.numbers_of_translated translated
  have rawFilled := raw.filled stock
  have rawTranslated : m₂.Unaddressed :=
    ⟨sameSender ▸ rawFilled.sender, sameRecipients ▸ rawFilled.recipients⟩
  unfold Layers.addressed at addressed
  rw [hl] at addressed
  have classified := Sms.classified_of_translateSms vs vr rawTranslated addressed
  exact ⟨classified.nonempty, sameRecipients ▸ classified.recipients,
    sameSender ▸ classified.sender⟩

/-- A name that is filled in as the sender, a number with separators, and one to be expanded. -/
theorem Plan.classified_of_seen_two :
    let layers : Layers Sms :=
      (Layers.empty.setFiller (.fixedSender "Acme 24")).setAddressing
        (.ofRules .sender (.recipient "49"))
    let p : Plan Sms := ((Plan.new .standard).setLayers layers).add .always (.memory "kept" none)
    let m : Sms := ⟨.text "hi", none, [.raw "+49 (170) 12", .raw "0171-3"]⟩
    Sms.Classified .sender (.recipient "49") (p.layers.filled m)
      ⟨.text "hi", some (.addressed ⟨"Acme 24", .alphanumeric, .unknown⟩),
        [.addressed ⟨"4917012", .international, .isdn⟩,
          .addressed ⟨"491713", .international, .isdn⟩]⟩ := by
  intro layers p m
  have raw : m.Unaddressed :=
    ⟨fun _ h => (Option.not_mem_none _ h).elim, by simp [m, PhoneNumber.address?]⟩
  exact classified_of_seen (p := p) rfl rfl rfl (.fixedSender _) raw
    (List.mem_of_getElem? (i := 0) rfl)

end Courier
