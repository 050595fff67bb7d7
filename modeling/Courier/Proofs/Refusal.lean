/-
# Refusal — the numbers of a text become addresses together, or the text goes nowhere

A translator refuses a number for what the number is and what its rules allow
(`AddressTranslator.Rejects`), and turns every other number into `AddressTranslator.address`.  The
layer for numbers needs all of them: `Addressing.Rejects a m e` says for which of the numbers of `m`
the text is refused, and with which error.  No recipient at all comes first, then the sender, then
the first of the recipients that is refused; what stands behind it is not looked at.

A text that is refused reaches no sender inside.  Any other one is handed on once, as
`Addressing.image`, with every number in its place.
-/
import Courier.Proofs.Admission

namespace Courier

open Courier.Text (trimChars)

/-! ## One number -/

namespace AddressTranslator

variable {t : AddressTranslator} {p : PhoneNumber} {a : Address} {e : AddressingError}

/-- A number is refused, and with which error. -/
inductive Rejects (t : AddressTranslator) : PhoneNumber → AddressingError → Prop
  | blank {raw : String} (blank : Text.isBlankText raw = true) : Rejects t (.raw raw) (.empty t.role)
  | rawName {raw : String} (name : (t.rules.classify raw).type = .alphanumeric)
      (forbidden : t.rules.allowAlphanumeric = false) :
      Rejects t (.raw raw) (.alphanumericNotAllowed t.role (Text.trim raw))
  | name {a : Address} (name : a.type = .alphanumeric)
      (forbidden : t.rules.allowAlphanumeric = false) :
      Rejects t (.addressed a) (.alphanumericNotAllowed t.role a.number)

/-- The address of a number that is not refused. -/
def address (t : AddressTranslator) : PhoneNumber → Address
  | .raw raw => t.rules.classify raw
  | .addressed a => a

theorem check_eq_error_iff : t.check a = .error e ↔ a.type = .alphanumeric
    ∧ t.rules.allowAlphanumeric = false ∧ e = .alphanumericNotAllowed t.role a.number := by
  unfold check
  split
  · rename_i name
    simp only [Bool.and_eq_true, decide_eq_true_eq, Bool.not_eq_true'] at name
    simp [name, eq_comm]
  · rename_i noName
    simp only [Bool.and_eq_true, decide_eq_true_eq, Bool.not_eq_true'] at noName
    exact ⟨fun h => (by cases h), fun h => absurd ⟨h.1, h.2.1⟩ noName⟩

/-- A name is not blank, and its number is the whole of it. -/
theorem not_blank_of_alphanumeric {rules : Rules} {raw : String}
    (name : (rules.classify raw).type = .alphanumeric) :
    ¬ Text.isBlankText raw = true ∧ (rules.classify raw).number = Text.trim raw := by
  obtain ⟨_, decided⟩ := Rules.decides_classifyTrimmed rules (trimChars raw.toList)
  obtain ⟨spelled, number⟩ := decided.of_alphanumeric name
  exact ⟨fun blank => spelled.nonempty (Text.trimChars_eq_nil_iff.2 blank), number⟩

theorem translate_eq_error_iff : t.translate p = .error e ↔ t.Rejects p e := by
  cases p with
  | addressed a =>
    rw [translate, check_eq_error_iff]
    constructor
    · rintro ⟨name, forbidden, rfl⟩
      exact .name name forbidden
    · rintro (_ | _ | ⟨name, forbidden⟩)
      exact ⟨name, forbidden, rfl⟩
  | raw raw =>
    rw [translate, translateRaw]
    split
    · rename_i blank
      constructor
      · intro h
        obtain rfl := Except.error.inj h
        exact .blank blank
      · rintro (_ | ⟨name, -⟩)
        · rfl
        · exact absurd blank (not_blank_of_alphanumeric name).1
    · rename_i notBlank
      rw [check_eq_error_iff]
      constructor
      · rintro ⟨name, forbidden, rfl⟩
        rw [(not_blank_of_alphanumeric name).2]
        exact .rawName name forbidden
      · rintro (blank | ⟨name, forbidden⟩)
        · exact absurd blank notBlank
        · exact ⟨name, forbidden, by rw [(not_blank_of_alphanumeric name).2]⟩

theorem exists_translate_eq_ok_iff :
    (∃ a, t.translate p = .ok a) ↔ ∀ e, ¬ t.Rejects p e := by
  simp only [exists_eq_ok_iff, ne_eq, translate_eq_error_iff]

theorem eq_address_of_translate (h : t.translate p = .ok a) : a = t.address p := by
  cases p with
  | addressed b => exact (check_eq_ok_iff.1 h).2
  | raw raw => exact (check_eq_ok_iff.1 (translateRaw_eq_ok_iff.1 h).2).2

/-! ## All numbers -/

/-- Of a list of numbers, whether all are let through is what a run of checks finds. -/
theorem map_value_runAll (t : AddressTranslator) (ps : List PhoneNumber) :
    (t.runAll ps).value.map (fun _ => ()) = forM ps fun p => (t.translate p).map fun _ => () := by
  induction ps with
  | nil => rfl
  | cons p ps ih =>
    rw [value_runAll_cons, List.forM_cons, ← ih]
    cases t.translate p with
    | error e => rfl
    | ok a => cases (t.runAll ps).value <;> rfl

theorem value_runAll_eq_error_iff {ps : List PhoneNumber} :
    (t.runAll ps).value = .error e ↔ ∃ before p after, ps = before ++ p :: after
      ∧ t.Rejects p e ∧ ∀ q ∈ before, ∀ e, ¬ t.Rejects q e := by
  -- A check that forgets the address fails as the translation does, and succeeds as it does.
  have error_iff : ∀ {β : Type} (x : Except AddressingError β),
      x.map (fun _ => ()) = .error e ↔ x = .error e := by
    intro β x
    cases x <;> simp [Except.map]
  have ok_iff : ∀ q, (t.translate q).map (fun _ => ()) = .ok () ↔ ∀ e, ¬ t.Rejects q e := by
    intro q
    rw [← exists_translate_eq_ok_iff]
    cases t.translate q <;> simp [Except.map]
  rw [← error_iff, map_value_runAll, forM_eq_error_iff]
  simp only [error_iff, ok_iff, translate_eq_error_iff]

end AddressTranslator

namespace Addressing

variable {a : Addressing} {m m' : Sms} {e : AddressingError}

/-- A text is refused, and with which error. -/
inductive Rejects (a : Addressing) (m : Sms) : AddressingError → Prop
  | nobody (nobody : m.recipients = []) : Rejects a m .noRecipients
  | sender {p : PhoneNumber} {e : AddressingError} (someone : m.recipients ≠ [])
      (set : m.sender = some p) (rejected : a.sender.Rejects p e) : Rejects a m e
  | recipient {before after : List PhoneNumber} {p : PhoneNumber} {e : AddressingError}
      (sender : ∀ q ∈ m.sender, ∀ e, ¬ a.sender.Rejects q e)
      (split : m.recipients = before ++ p :: after)
      (passed : ∀ q ∈ before, ∀ e, ¬ a.recipient.Rejects q e)
      (rejected : a.recipient.Rejects p e) : Rejects a m e

/-- A text with an address in the place of each of its numbers. -/
def image (a : Addressing) (m : Sms) : Sms :=
  { m with
    sender := m.sender.map fun p => .addressed (a.sender.address p)
    recipients := m.recipients.map fun p => .addressed (a.recipient.address p) }

theorem value_runSender_eq_error_iff {o : Option PhoneNumber} :
    (a.runSender o).value = .error e ↔ ∃ p, o = some p ∧ a.sender.Rejects p e := by
  cases o with
  | none => exact ⟨fun h => (by cases h), fun ⟨_, set, _⟩ => (by cases set)⟩
  | some p =>
    simp only [value_runSender_some, bind_eq_error_iff, Option.some.injEq, exists_eq_left',
      ← AddressTranslator.translate_eq_error_iff]
    exact ⟨fun h => h.resolve_right fun ⟨_, _, h⟩ => (by cases h), .inl⟩

theorem exists_value_runSender_eq_ok_iff {o : Option PhoneNumber} :
    (∃ q, (a.runSender o).value = .ok q) ↔ ∀ p ∈ o, ∀ e, ¬ a.sender.Rejects p e := by
  simp only [exists_eq_ok_iff, ne_eq, value_runSender_eq_error_iff, not_exists, not_and]
  exact ⟨fun h p set e => h e p set, fun h e p set => h p set e⟩

theorem value_translateSms_eq_error_iff :
    (a.translateSms m).value = .error e ↔ a.Rejects m e := by
  constructor
  · intro h
    by_cases nobody : m.recipients = []
    · rw [translateSms, if_pos nobody] at h
      obtain rfl := Except.error.inj h
      exact .nobody nobody
    · rw [value_translateSms nobody] at h
      rcases bind_eq_error_iff.1 h with hs | ⟨q, hs, h⟩
      · obtain ⟨p, set, rejected⟩ := value_runSender_eq_error_iff.1 hs
        exact .sender nobody set rejected
      · rcases bind_eq_error_iff.1 h with hr | ⟨_, -, h⟩
        · obtain ⟨before, p, after, split, rejected, passed⟩ :=
            AddressTranslator.value_runAll_eq_error_iff.1 hr
          exact .recipient (exists_value_runSender_eq_ok_iff.1 ⟨q, hs⟩) split passed rejected
        · -- With the addresses of the sender and of all recipients nothing is left that can fail.
          cases h
  · rintro (nobody | ⟨someone, set, rejected⟩ | ⟨sender, split, passed, rejected⟩)
    · rw [translateSms, if_pos nobody]
      rfl
    · rw [value_translateSms someone, bind_eq_error_iff]
      exact .inl (value_runSender_eq_error_iff.2 ⟨_, set, rejected⟩)
    · have someone : m.recipients ≠ [] := by simp [split]
      obtain ⟨q, hs⟩ := exists_value_runSender_eq_ok_iff.2 sender
      have hr := AddressTranslator.value_runAll_eq_error_iff.2 ⟨_, _, _, split, rejected, passed⟩
      rw [value_translateSms someone, bind_eq_error_iff]
      exact .inr ⟨q, hs, bind_eq_error_iff.2 (.inl hr)⟩

/-- Whatever becomes of a text, each number becomes its address. -/
theorem Makes.eq_image (h : a.Makes m m') : m' = a.image m := by
  obtain ⟨-, content, sender, recipients⟩ := h
  -- The relations are between fields of two texts, and have to be between variables for cases.
  have sent : m'.sender = m.sender.map fun p => .addressed (a.sender.address p) := by
    generalize m.sender = o at sender
    generalize m'.sender = o' at sender
    cases sender with
    | none => rfl
    | some made =>
      obtain ⟨x, made, rfl⟩ := made
      rw [AddressTranslator.eq_address_of_translate made, Option.map_some]
  have received : m'.recipients = m.recipients.map fun p => .addressed (a.recipient.address p) := by
    generalize m.recipients = ps at recipients
    generalize m'.recipients = qs at recipients
    induction recipients with
    | nil => rfl
    | cons made _ ih =>
      obtain ⟨x, made, rfl⟩ := made
      rw [AddressTranslator.eq_address_of_translate made, ih, List.map_cons]
  obtain ⟨content', sender', recipients'⟩ := m'
  subst content sent received
  rfl

theorem value_translateSms_eq_ok_iff :
    (a.translateSms m).value = .ok m' ↔ (∀ e, ¬ a.Rejects m e) ∧ m' = a.image m := by
  simp only [← value_translateSms_eq_error_iff]
  cases value : (a.translateSms m).value with
  | error e => simp
  | ok m₂ =>
    have same := (makes_of_value_translateSms value).eq_image
    simp [← same, eq_comm]

/-- Only a text without recipients is refused for the lack of them. -/
theorem rejects_noRecipients_iff : a.Rejects m .noRecipients ↔ m.recipients = [] := by
  constructor
  · rintro (⟨nobody⟩ | ⟨-, -, rejected⟩ | ⟨-, -, -, rejected⟩)
    · exact nobody
    · cases rejected
    · cases rejected
  · exact .nobody

/-- **Addresses for all numbers, or nothing.**  By any two translators, the layer for numbers
refuses a text exactly for the first of its numbers that is refused, or because it has no
recipients, and then no sender inside gets it; and every other text it hands on with the address of
each number in the place of the number. -/
theorem all_or_nothing (a : Addressing) (m : Sms) :
    ((Layer.numbers ⟨a.translateSms⟩).Refuses m (.invalidAddress .noRecipients)
        ↔ m.recipients = [])
      ∧ (∀ e, (Layer.numbers ⟨a.translateSms⟩).Refuses m e
        ↔ ∃ cause, a.Rejects m cause ∧ e = .invalidAddress cause)
      ∧ (∀ m', (Layer.numbers ⟨a.translateSms⟩).HandsOn m m'
        ↔ (∀ e, ¬ a.Rejects m e) ∧ m' = a.image m) := by
  have refuses : ∀ e, (Layer.numbers ⟨a.translateSms⟩).Refuses m e
      ↔ ∃ cause, a.Rejects m cause ∧ e = .invalidAddress cause := by
    intro e
    rw [Layer.refuses_numbers_iff]
    simp only [value_translateSms_eq_error_iff]
  refine ⟨?_, refuses, fun m' => ?_⟩
  · rw [refuses, ← rejects_noRecipients_iff (a := a)]
    simp
  · rw [Layer.handsOn_numbers_iff, value_translateSms_eq_ok_iff]

/-- A name in the place of the sender is kept, the one among the recipients keeps all back, and the
blank text behind it is not met. -/
example : let a : Addressing := .ofRules .sender (.recipient "33")
    ((a.translateSms ⟨.text "hi", some (.raw "Acme"), [.raw "0203"]⟩).value.toOption.map
        (·.recipients)) = some [.addressed ⟨"33203", .international, .isdn⟩]
      ∧ (a.translateSms ⟨.text "hi", some (.raw "Acme"), [.raw "0203", .raw "Bob", .raw " "]⟩
        ).value.toOption.map (·.recipients) = none := by decide

end Addressing

end Courier
