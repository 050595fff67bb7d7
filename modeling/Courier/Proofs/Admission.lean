/-
# Admission — which recipients the layer for numbers lets through

A layer hands a message on to the sender inside, or refuses it, and this can be told from outside:
what it hands on is what every sender inside gets (`Layer.HandsOn`), and what it refuses reaches
none (`Layer.Refuses`).

By the rules for recipients in a country, a raw recipient goes one of three ways.  A blank text and
a name are refused; digits with spaces between them count as a name while they are few.  A number is
let through, as digits.  Any other text is *malformed*, and it is let through as well, as it stands
but without its outer blanks and with its type unknown: the check asks for the type of an address,
and no type says that a text is no number.  A name that is too long for a name is such a text.
-/
import Courier.Proofs.Reclassification
import Courier.Proofs.Resubmission

namespace Courier

open Courier.Text (trimChars)

/-! ## What a layer does with a message -/

namespace Layer

variable {M : Type} [Message M] {x : Layer M} {m m' : M}

/-- Every sender inside a layer gets a message, after steps of the layer that hand nothing over. -/
def HandsOn (x : Layer M) (m m' : M) : Prop :=
  ∃ before : List (Step M), (∀ s ∈ before, s.IsInternal) ∧ ∀ inner : Sender M,
    (x.around inner).send m = ⟨(inner.send m').value, before ++ (inner.send m').trace⟩

/-- No sender inside a layer gets anything, and the answer is an error. -/
def Refuses (x : Layer M) (m : M) (e : SendError) : Prop :=
  ∃ before : List (Step M), (∀ s ∈ before, s.IsInternal) ∧ ∀ inner : Sender M,
    (x.around inner).send m = ⟨.error e, before⟩

theorem handsOn_iff : x.HandsOn m m' ↔ (x.pass m).value = .ok m' := by
  constructor
  · rintro ⟨before, -, same⟩
    -- A sender that succeeds and writes down what it gets shows which message that is.
    let keeper : Sender M := ⟨"", fun m => ⟨.ok (), [.handed "" m []]⟩⟩
    have sent := same keeper
    rw [around_send] at sent
    cases value : (x.pass m).value with
    | error e =>
      rw [Traced.andThen_of_error value] at sent
      cases congrArg Traced.value sent
    | ok m₂ =>
      rw [Traced.andThen_of_ok value] at sent
      have last := List.append_inj_right' (congrArg Traced.trace sent) rfl
      obtain ⟨-, rfl, -⟩ := Step.handed.inj (List.head_eq_of_cons_eq last)
      rfl
  · intro h
    refine ⟨(x.pass m).trace, pass_quiet x m, fun inner => ?_⟩
    rw [around_send, Traced.andThen_of_ok h]

theorem refuses_iff {e : SendError} : x.Refuses m e ↔ (x.pass m).value = .error e := by
  constructor
  · rintro ⟨before, -, same⟩
    -- A sender that succeeds cannot be what the error comes from.
    have sent := congrArg Traced.value (same ⟨"", fun _ => ⟨.ok (), []⟩⟩)
    rw [around_send] at sent
    cases value : (x.pass m).value with
    | error e' =>
      rw [Traced.andThen_of_error value] at sent
      rw [Except.error.inj sent]
    | ok m₂ =>
      rw [Traced.andThen_of_ok value] at sent
      cases sent
  · intro h
    refine ⟨(x.pass m).trace, pass_quiet x m, fun inner => ?_⟩
    rw [around_send, Traced.andThen_of_error h]

theorem value_pass_numbers (t : NumberTranslator M) (m : M) :
    ((numbers t).pass m).value = (t.translate m).value.mapError .invalidAddress := by
  cases h : (t.translate m).value <;> simp [Layer.pass, h, Except.mapError]

theorem handsOn_numbers_iff {t : NumberTranslator M} :
    (numbers t).HandsOn m m' ↔ (t.translate m).value = .ok m' := by
  rw [handsOn_iff, value_pass_numbers, mapError_eq_ok_iff]

/-- The errors of the layer for numbers are those of its translator. -/
theorem refuses_numbers_iff {t : NumberTranslator M} {e : SendError} :
    (numbers t).Refuses m e
      ↔ ∃ cause, (t.translate m).value = .error cause ∧ e = .invalidAddress cause := by
  rw [refuses_iff, value_pass_numbers, mapError_eq_error_iff]

theorem refuses_numbers {t : NumberTranslator M} {e : AddressingError}
    (h : (t.translate m).value = .error e) : (numbers t).Refuses m (.invalidAddress e) :=
  refuses_numbers_iff.2 ⟨e, h, rfl⟩

end Layer

/-! ## Texts by the rules for recipients -/

/-- A text that is no address of a recipient: it is blank, or a name of up to eleven characters. -/
def Undeliverable (raw : String) : Prop :=
  Text.isBlankText raw = true ∨ SpellsName 11 (trimChars raw.toList)

/-- A raw recipient that is let through, and what it becomes. -/
inductive PhoneNumber.Admitted : PhoneNumber → PhoneNumber → Prop
  | number {raw : String} {a : Address} (spelled : SpellsNumber (trimChars raw.toList))
      (digits : Rules.isDigits a.number = true) : Admitted (.raw raw) (.addressed a)
  /-- No number, but not one of the texts that are refused either. -/
  | malformed {raw : String} (noNumber : ¬ SpellsNumber (trimChars raw.toList))
      (deliverable : ¬ Undeliverable raw) :
      Admitted (.raw raw) (.addressed ⟨Text.trim raw, .unknown, .unknown⟩)

namespace Rules

variable {rules : Rules} {cs : List Char}

theorem isDigits_classifyDigits (valid : rules.validate = .ok ())
    (h : isDigits (String.ofList cs) = true) :
    isDigits (rules.classifyDigits cs).number = true := by
  rcases rules.classifyDigits_cases cs with ⟨type, plan, -, kept⟩ | ⟨number, expands, made⟩
  · rw [kept]
    exact h
  · rw [made]
    exact expands.isDigits valid h

/-- Rules for recipients are valid as soon as the country code consists of digits. -/
theorem validate_recipient {code : String} (h : isDigits code = true) :
    (recipient code).validate = .ok () := by
  show (if isDigits code = true then _ else _) = _
  rw [if_pos h]

end Rules

/-! ## Recipients -/

namespace AddressTranslator

variable {code raw : String} (role : Role)

theorem translateRaw_of_undeliverable (h : Undeliverable raw) :
    ∃ e, (AddressTranslator.mk role (.recipient code)).translateRaw raw = .error e := by
  unfold translateRaw
  by_cases blank : Text.isBlankText raw = true
  · rw [if_pos blank]
    exact ⟨_, rfl⟩
  · have name : (Rules.recipient code).isName (trimChars raw.toList) = true :=
      Rules.isName_iff.2 (h.resolve_left blank)
    rw [if_neg blank, check, Rules.classify, Rules.classifyTrimmed_of_name name]
    exact ⟨_, rfl⟩

theorem translateRaw_of_deliverable (digits : Rules.isDigits code = true)
    (h : ¬ Undeliverable raw) :
    ∃ a, (AddressTranslator.mk role (.recipient code)).translateRaw raw = .ok a
      ∧ PhoneNumber.Admitted (.raw raw) (.addressed a) := by
  have valid := Rules.validate_recipient digits
  obtain ⟨notBlank, notName⟩ := not_or.1 h
  have noName : (Rules.recipient code).isName (trimChars raw.toList) = false := by
    rw [Bool.eq_false_iff]
    intro name
    exact notName (Rules.isName_iff.1 name)
  -- Whatever is no name has another type, and passes the check.
  have passes : ∀ a : Address, a.type ≠ .alphanumeric →
      (AddressTranslator.mk role (.recipient code)).check a = .ok a := by
    intro a other
    exact check_eq_ok_iff.2 ⟨fun name => absurd name other, rfl⟩
  unfold translateRaw
  rw [if_neg notBlank]
  show ∃ a, check _ ((Rules.recipient code).classifyTrimmed (trimChars raw.toList)) = .ok a ∧ _
  rcases Rules.classifyTrimmed_of_not_name noName with
    ⟨spelled, number, hn, made | made⟩ | ⟨noNumber, made⟩
  · rw [made, passes _ (by simp)]
    exact ⟨_, rfl, .number spelled hn⟩
  · rw [made, passes _ (Rules.type_classifyDigits _ _)]
    exact ⟨_, rfl, .number spelled (Rules.isDigits_classifyDigits valid hn)⟩
  · rw [made, passes _ (by simp [Rules.malformed])]
    exact ⟨_, rfl, .malformed noNumber h⟩

/-- What is not refused was no blank text and no name. -/
theorem admitted_of_makes (digits : Rules.isDigits code = true) {p q : PhoneNumber}
    (raw : p.address? = none) (h : (AddressTranslator.mk role (.recipient code)).Makes p q) :
    PhoneNumber.Admitted p q := by
  obtain ⟨a, made, rfl⟩ := h
  cases p with
  | addressed b => cases raw
  | raw s =>
    replace made : (AddressTranslator.mk role (.recipient code)).translateRaw s = .ok a := made
    have deliverable : ¬ Undeliverable s := by
      intro undeliverable
      obtain ⟨e, refused⟩ := translateRaw_of_undeliverable role undeliverable
      rw [refused] at made
      cases made
    obtain ⟨b, same, admitted⟩ := translateRaw_of_deliverable role digits deliverable
    obtain rfl := Except.ok.inj (made.symm.trans same)
    exact admitted

/-- Numbers each of which is let through are let through together. -/
theorem exists_forall₂_makes {t : AddressTranslator} {ps : List PhoneNumber}
    (h : ∀ p ∈ ps, ∃ a, t.translate p = .ok a) : ∃ qs, List.Forall₂ t.Makes ps qs := by
  induction ps with
  | nil => exact ⟨[], .nil⟩
  | cons p ps ih =>
    obtain ⟨a, made⟩ := h p List.mem_cons_self
    obtain ⟨qs, others⟩ := ih fun q hq => h q (List.mem_cons_of_mem p hq)
    exact ⟨_, .cons ⟨a, made, rfl⟩ others⟩

/-- Each of the numbers that are let through is let through. -/
theorem exists_makes_of_forall₂ {t : AddressTranslator} {ps qs : List PhoneNumber}
    (h : List.Forall₂ t.Makes ps qs) {p : PhoneNumber} (hp : p ∈ ps) : ∃ q, t.Makes p q := by
  induction h with
  | nil => cases hp
  | cons made _ ih =>
    rcases List.mem_cons.1 hp with rfl | hp
    · exact ⟨_, made⟩
    · exact ih hp

end AddressTranslator

namespace Addressing

/-- A text with recipients, a sender that can be used, and none that is refused. -/
structure Deliverable (a : Addressing) (m : Sms) : Prop where
  someone : m.recipients ≠ []
  sender : ∀ p ∈ m.sender, ∃ s, a.sender.translate p = .ok s
  recipients : ∀ raw, .raw raw ∈ m.recipients → ¬ Undeliverable raw

theorem exists_makes {a : Addressing} {m : Sms} (someone : m.recipients ≠ [])
    (sender : ∀ p ∈ m.sender, ∃ s, a.sender.translate p = .ok s)
    (recipients : ∀ p ∈ m.recipients, ∃ r, a.recipient.translate p = .ok r) :
    ∃ m', a.Makes m m' := by
  obtain ⟨qs, made⟩ := AddressTranslator.exists_forall₂_makes recipients
  have sent : ∃ q, Option.Rel a.sender.Makes m.sender q := by
    generalize m.sender = p at sender
    cases p with
    | none => exact ⟨none, .none⟩
    | some p =>
      obtain ⟨s, hs⟩ := sender p rfl
      exact ⟨_, .some ⟨s, hs, rfl⟩⟩
  obtain ⟨q, sent⟩ := sent
  exact ⟨⟨m.content, q, qs⟩, someone, rfl, sent, made⟩

theorem usable_of_rel {t : AddressTranslator} {o o' : Option PhoneNumber}
    (h : Option.Rel t.Makes o o') : ∀ p ∈ o, ∃ s, t.translate p = .ok s := by
  intro p hp
  cases h with
  | none => cases hp
  | some made =>
    obtain rfl := Option.some.inj hp
    obtain ⟨s, hs, -⟩ := made
    exact ⟨s, hs⟩

variable {code : String} (role : Role) (sender : AddressTranslator) {m : Sms}

theorem deliverable_of_makes {m' : Sms}
    (made : (Addressing.mk sender ⟨role, .recipient code⟩).Makes m m') :
    (Addressing.mk sender ⟨role, .recipient code⟩).Deliverable m := by
  refine ⟨made.someone, usable_of_rel made.sender, ?_⟩
  intro s hs undeliverable
  obtain ⟨q, a, accepted, -⟩ := AddressTranslator.exists_makes_of_forall₂ made.recipients hs
  have refused : ∃ e, (AddressTranslator.mk role (.recipient code)).translateRaw s = .error e :=
    AddressTranslator.translateRaw_of_undeliverable role undeliverable
  obtain ⟨e, refused⟩ := refused
  cases accepted.symm.trans refused

theorem exists_makes_of_deliverable (digits : Rules.isDigits code = true)
    (raw : ∀ p ∈ m.recipients, p.address? = none)
    (h : (Addressing.mk sender ⟨role, .recipient code⟩).Deliverable m) :
    ∃ m', (Addressing.mk sender ⟨role, .recipient code⟩).Makes m m' := by
  refine exists_makes h.someone h.sender ?_
  intro p hp
  cases p with
  | addressed b => cases raw _ hp
  | raw s =>
    obtain ⟨r, made, -⟩ :=
      AddressTranslator.translateRaw_of_deliverable role digits (h.recipients s hp)
    exact ⟨r, made⟩

/-- What a layer with some rules for recipients does with a text: hand it on, with every recipient
admitted, or refuse it. -/
structure Screens (a : Addressing) (m : Sms) : Prop where
  passes : (∃ m', (Layer.numbers ⟨a.translateSms⟩).HandsOn m m') ↔ a.Deliverable m
  admitted : ∀ m', (Layer.numbers ⟨a.translateSms⟩).HandsOn m m' →
    List.Forall₂ PhoneNumber.Admitted m.recipients m'.recipients
  refused : ¬ a.Deliverable m → ∃ e, (Layer.numbers ⟨a.translateSms⟩).Refuses m (.invalidAddress e)

/-- **Blank texts and names are no recipients.**  Where raw recipients are read by the rules of a
country, whatever the rules for the sender are, a text is handed on to the sender inside if and only
if it has recipients, none of them blank or a name, and a sender that can be used; then each
recipient that spells a number has become digits, and any other one has become itself, of unknown
type.  Every other text is refused, and no sender inside gets it. -/
theorem screens_recipients (digits : Rules.isDigits code = true)
    (raw : ∀ p ∈ m.recipients, p.address? = none) :
    (Addressing.mk sender ⟨role, .recipient code⟩).Screens m := by
  have passes : (∃ m', (Layer.numbers
      ⟨(Addressing.mk sender ⟨role, .recipient code⟩).translateSms⟩).HandsOn m m')
        ↔ (Addressing.mk sender ⟨role, .recipient code⟩).Deliverable m := by
    constructor
    · rintro ⟨m', handed⟩
      have made := makes_of_value_translateSms (Layer.handsOn_numbers_iff.1 handed)
      exact deliverable_of_makes role sender made
    · intro deliverable
      obtain ⟨m', made⟩ := exists_makes_of_deliverable role sender digits raw deliverable
      exact ⟨m', Layer.handsOn_numbers_iff.2 (value_translateSms_of_makes made)⟩
  refine ⟨passes, ?_, ?_⟩
  · intro m' handed
    have made := makes_of_value_translateSms (Layer.handsOn_numbers_iff.1 handed)
    -- Each recipient was raw and was let through, which is all that admission needs.
    have rawMade := (List.forall₂_and_left _ _).2 ⟨raw, made.recipients⟩
    exact rawMade.imp fun p q h =>
      AddressTranslator.admitted_of_makes role digits h.1 h.2
  · intro undeliverable
    cases answer : ((Addressing.mk sender ⟨role, .recipient code⟩).translateSms m).value with
    | ok m' => exact absurd (passes.1 ⟨m', Layer.handsOn_numbers_iff.2 answer⟩) undeliverable
    | error e => exact ⟨e, Layer.refuses_numbers answer⟩

/-- A number to expand goes out together with a name that is too long, and one short name keeps all
of them back. -/
theorem screens_recipients_names :
    let a : Addressing := .ofRules .sender (.recipient "33")
    let long : Sms := ⟨.text "hi", none, [.raw "0203-4", .raw "MYBRANDISLONG"]⟩
    let short : Sms := ⟨.text "hi", none, [.raw "0203", .raw "MYBRANDISLONG", .raw "MYBRAND"]⟩
    List.Forall₂ PhoneNumber.Admitted long.recipients
        [.addressed ⟨"332034", .international, .isdn⟩,
          .addressed ⟨"MYBRANDISLONG", .unknown, .unknown⟩]
      ∧ ∃ e, (Layer.numbers ⟨a.translateSms⟩).Refuses short (.invalidAddress e) := by
  intro a long short
  have digits : Rules.isDigits "33" = true := by decide
  constructor
  · have screens : a.Screens long :=
      screens_recipients .recipient ⟨.sender, .sender⟩ digits (by simp [long, PhoneNumber.address?])
    have sent : ((Addressing.ofRules .sender (.recipient "33")).translateSms
        ⟨.text "hi", none, [.raw "0203-4", .raw "MYBRANDISLONG"]⟩).value
          = .ok ⟨.text "hi", none, [.addressed ⟨"332034", .international, .isdn⟩,
            .addressed ⟨"MYBRANDISLONG", .unknown, .unknown⟩]⟩ := by rfl
    exact screens.admitted _ (Layer.handsOn_numbers_iff.2 sent)
  · have screens : a.Screens short :=
      screens_recipients .recipient ⟨.sender, .sender⟩ digits
        (by simp [short, PhoneNumber.address?])
    refine screens.refused fun deliverable => ?_
    have name : Rules.standard.isName (trimChars "MYBRAND".toList) = true := by decide
    exact deliverable.recipients "MYBRAND" (by simp [short]) (.inr (Rules.isName_iff.1 name))

/-- A name that is too long for a name is no number, and gets to the sender inside. -/
theorem long_name_handsOn :
    let x : Layer Sms :=
      .numbers ⟨(Addressing.ofRules .sender (.recipient "33")).translateSms⟩
    let brand : Address := ⟨"MYBRANDISLONG", .unknown, .unknown⟩
    Rules.isDigits "33" = true ∧ ¬ SpellsNumber "MYBRANDISLONG".toList
      ∧ x.HandsOn ⟨.text "hi", none, [.raw "MYBRANDISLONG"]⟩
        ⟨.text "hi", none, [.addressed brand]⟩
      ∧ Rules.isDigits brand.number = false := by
  intro x brand
  have noNumber : ¬ (Rules.digitsOf? "MYBRANDISLONG".toList).isSome = true := by decide
  exact ⟨by decide, noNumber, Layer.handsOn_numbers_iff.2 rfl, by decide⟩

end Addressing

end Courier
