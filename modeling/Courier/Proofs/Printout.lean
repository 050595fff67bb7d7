/-
# Printout — what is printed for a number

The command that prints the address of a number takes the rules as the configuration has them.  It
does not check them, as the assembly of a pipeline does.

Behind a plus sign there are digits, whatever the rules are.  A number that is expanded begins with
the country code as it stands, so it is digits exactly if nothing else is in the country code; the
check of the rules asks for that, and for a country code that is not empty.
-/
import Courier.Cli.Run
import Courier.Proofs.Checked
import Courier.Proofs.Shapes

namespace Courier

open Courier.Text (trimChars)

/-! ## International numbers -/

namespace Rules

variable {rules : Rules} {digits number : List Char} {code : String}

theorem Expands.exists_countryCode (h : rules.Expands digits number) :
    ∃ code, rules.countryCode = some code := by
  obtain ⟨-, known, -, -⟩ := h
  exact ⟨_, known⟩

/-- The part behind the country code is digits in any case. -/
theorem Expands.isDigits_iff (h : rules.Expands digits number)
    (known : rules.countryCode = some code) (hd : Rules.isDigits (String.ofList digits) = true) :
    Rules.isDigits (String.ofList number) = true ↔ ∀ c ∈ code.toList, c.isDigit = true := by
  obtain ⟨-, known', -, nonempty⟩ := h
  obtain rfl := Option.some.inj (known.symm.trans known')
  obtain ⟨-, behind⟩ := isDigits_ofList.1 hd
  rw [isDigits_ofList]
  constructor
  · rintro ⟨-, all⟩ c hc
    exact all c (List.mem_append_left _ hc)
  · intro all
    refine ⟨List.append_ne_nil_of_right_ne_nil _ nonempty, fun c hc => ?_⟩
    rcases List.mem_append.1 hc with hc | hc
    · exact all c hc
    · exact behind c (List.mem_append_right _ hc)

/-- Of rules that expand a number, the check sees the country code alone. -/
theorem Expands.validate_eq_ok_iff (h : rules.Expands digits number)
    (known : rules.countryCode = some code) :
    rules.validate = .ok () ↔ Rules.isDigits code = true := by
  obtain ⟨on, -, -, -⟩ := h
  refine ⟨fun valid => isDigits_of_validate valid on known, fun digits => ?_⟩
  rw [validate, if_pos on, known]
  exact if_pos digits

/-- How a text comes to an international address, and what it takes for its number to be digits. -/
inductive Origin (rules : Rules) (cs : List Char) (a : Address) : Prop
  /-- Behind a plus sign, where the rules have no say. -/
  | plus (read : rules.Decides cs .plus a) (digits : isDigits a.number = true)
  /-- By a country code, which the number begins with. -/
  | expanded {code : String} (read : rules.Decides cs .expanded a)
      (known : rules.countryCode = some code)
      (digits : isDigits a.number = true ↔ ∀ c ∈ code.toList, c.isDigit = true)
      (checked : rules.validate = .ok () ↔ isDigits code = true)

variable {cs : List Char} {d : Decision} {a : Address}

theorem Decides.origin (h : rules.Decides cs d a) (type : a.type = .international) :
    rules.Origin cs a := by
  cases h with
  | name _ => cases type
  | malformed _ _ _ => cases type
  | plus spelled => exact .plus (.plus spelled) (isDigits_digitsIn spelled)
  | digits noName spelled decided =>
    cases decided with
    | service _ => cases type
    | national _ _ => cases type
    | expanded expands =>
      obtain ⟨code, known⟩ := expands.exists_countryCode
      exact .expanded (.digits noName spelled (.expanded expands)) known
        (expands.isDigits_iff known (isDigits_digitsIn spelled)) (expands.validate_eq_ok_iff known)

theorem Origin.isDigits_of_validate (h : rules.Origin cs a) (valid : rules.validate = .ok ()) :
    isDigits a.number = true := by
  cases h with
  | plus _ digits => exact digits
  | @expanded code _ _ digits checked =>
    have plain := checked.1 valid
    rw [← String.ofList_toList (s := code), isDigits_ofList] at plain
    exact digits.2 plain.2

end Rules

/-! ## The command -/

namespace Cli

theorem rules_translatorOf (c : Config) (role : Role) :
    (translatorOf c role).rules = c.rulesOf role := by
  cases role <;> rfl

/-- The command succeeds unless there is nothing to print, or a name where none is allowed. -/
theorem classify_eq_ok_iff {c : Config} {number s : String} {role : Role} :
    classify c number role = .ok s ↔
      ¬ Text.isBlankText number = true
        ∧ (((c.rulesOf role).classify number).type = .alphanumeric →
          (c.rulesOf role).allowAlphanumeric = true)
        ∧ s = addressLines ((c.rulesOf role).classify number) := by
  rw [← rules_translatorOf]
  unfold classify
  split
  · rename_i a translated
    obtain ⟨notBlank, checked⟩ := AddressTranslator.translateRaw_eq_ok_iff.1 translated
    obtain ⟨accepted, rfl⟩ := AddressTranslator.check_eq_ok_iff.1 checked
    exact ⟨fun h => ⟨notBlank, accepted, (Except.ok.inj h).symm⟩, fun h => congrArg _ h.2.2.symm⟩
  · rename_i e refused
    refine ⟨fun h => (by cases h), fun ⟨notBlank, accepted, _⟩ => ?_⟩
    have translated := AddressTranslator.translateRaw_eq_ok_iff.2
      ⟨notBlank, AddressTranslator.check_eq_ok_iff.2 ⟨accepted, rfl⟩⟩
    rw [translated] at refused
    cases refused

/-- What is printed comes from the configuration that was found, as it was read, once the log is set
up. -/
theorem run_classify_eq_ok_iff {p : Surroundings} {i : Invocation} {number s : String} {role : Role}
    (asked : i.command = .classify number role) :
    (run p i).printed = .ok s ↔
      ∃ c base, resolveConfig p i.config = .ok (c, base)
        ∧ (∃ b, (c.logging.setUp i.logDirectory false p.world.files).result = .ok b)
        ∧ classify c number role = .ok s := by
  unfold run
  split
  · rename_i e failed
    refine ⟨fun h => (by cases h), ?_⟩
    rintro ⟨c, base, resolved, -⟩
    cases failed.symm.trans resolved
  · rename_i c base resolved
    simp only [asked]
    constructor
    · intro printed
      refine ⟨c, base, resolved, ?_⟩
      split at printed
      · cases printed
      · rename_i b logged
        exact ⟨⟨b, logged⟩, printed⟩
    · rintro ⟨c', base', resolved', ⟨b, logged⟩, classified⟩
      obtain ⟨rfl, rfl⟩ := Prod.mk.inj (Except.ok.inj (resolved.symm.trans resolved'))
      rw [logged]
      exact classified

/-- **What is printed for a number.**  The command prints the address that the rules of the
configuration give a number, be they valid or not, unless the number is blank or a name that is not
allowed.  Where that address is international, its number is digits if it was written with a plus
sign, and otherwise exactly if the country code has nothing but digits; rules that pass their check
see to that. -/
theorem prints_international (p : Surroundings) (i : Invocation) (number : String) (role : Role)
    (asked : i.command = .classify number role) :
    (∀ s, (run p i).printed = .ok s ↔
      ∃ c base, resolveConfig p i.config = .ok (c, base)
        ∧ (∃ b, (c.logging.setUp i.logDirectory false p.world.files).result = .ok b)
        ∧ ¬ Text.isBlankText number = true
        ∧ (((c.rulesOf role).classify number).type = .alphanumeric →
          (c.rulesOf role).allowAlphanumeric = true)
        ∧ s = addressLines ((c.rulesOf role).classify number))
      ∧ ∀ c : Config, ((c.rulesOf role).classify number).type = .international →
        (c.rulesOf role).Origin (trimChars number.toList) ((c.rulesOf role).classify number)
          ∧ ((c.rulesOf role).validate = .ok () →
            Rules.isDigits ((c.rulesOf role).classify number).number = true) := by
  constructor
  · intro s
    rw [run_classify_eq_ok_iff asked]
    simp only [classify_eq_ok_iff]
  · intro c type
    obtain ⟨_, decided⟩ :=
      Rules.decides_classifyTrimmed (c.rulesOf role) (trimChars number.toList)
    have origin : (c.rulesOf role).Origin (trimChars number.toList)
        ((c.rulesOf role).classify number) := decided.origin type
    exact ⟨origin, origin.isDigits_of_validate⟩

/-- A process that finds a configuration file beside it, and nothing else. -/
def beside (text : String) : Surroundings :=
  ⟨"", "", fun _ => none, ⟨⟨[], [(["herald.toml"], .file text.toUTF8)]⟩, .silent⟩⟩

/-- A number that is expanded by a country code of digits. -/
theorem prints_international_expanded :
    let p := beside "[sms]\ncountry_code = \"33\"\n"
    let i : Invocation := ⟨some "herald.toml", false, none, .classify "0612345678" .recipient⟩
    let a : Address := ⟨"33612345678", .international, .isdn⟩
    i.command = .classify "0612345678" .recipient ∧ (run p i).printed = .ok (addressLines a)
      ∧ ∃ c base, resolveConfig p i.config = .ok (c, base)
        ∧ (c.rulesOf .recipient).validate = .ok ()
        ∧ (c.rulesOf .recipient).classify "0612345678" = a ∧ Rules.isDigits a.number = true := by
  intro p i a
  have printed : (run p i).printed = .ok (addressLines a) := by decide +kernel
  have found : (resolveConfig p i.config).toOption.map (fun x => x.1.rulesOf .recipient)
      = some (.recipient "33") := by decide +kernel
  have asked : i.command = .classify "0612345678" .recipient := rfl
  obtain ⟨prints, shows⟩ := prints_international p i "0612345678" .recipient asked
  obtain ⟨c, base, resolved, -⟩ := (prints _).1 printed
  have shown := shows c
  rw [resolved] at found
  have rules : c.rulesOf .recipient = .recipient "33" := Option.some.inj found
  rw [rules] at shown
  have made : (Rules.recipient "33").classify "0612345678" = a := by decide +kernel
  have valid : (Rules.recipient "33").validate = .ok () := by decide +kernel
  have digits := (shown (by rw [made])).2 valid
  rw [made] at digits
  exact ⟨asked, printed, c, base, resolved, by rw [rules, valid], by rw [rules, made], digits⟩

/-- A country code with a plus sign is printed as it stands, by rules that fail their check. -/
theorem prints_countryCode :
    let p := beside "[sms]\ncountry_code = \"+33\"\n"
    let arguments := ["--config", "herald.toml", "classify", "0612345678"]
    let a : Address := ⟨"+33612345678", .international, .isdn⟩
    ∃ i c base, parse arguments = .ok (.run i) ∧ resolveConfig p i.config = .ok (c, base)
      ∧ (c.rulesOf .recipient).validate = .error (.countryCodeNotDigits "+33")
      ∧ (c.rulesOf .recipient).classify "0612345678" = a ∧ Rules.isDigits a.number = false
      ∧ (run p i).printed = .ok (addressLines a) := by
  intro p arguments a
  let i : Invocation := ⟨some "herald.toml", false, none, .classify "0612345678" .recipient⟩
  have parsed : parse arguments = .ok (.run i) := by decide +kernel
  have printed : (run p i).printed = .ok (addressLines a) := by decide +kernel
  have found : (resolveConfig p i.config).toOption.map (fun x => x.1.rulesOf .recipient)
      = some (.recipient "+33") := by decide +kernel
  obtain ⟨c, base, resolved, -⟩ := (run_classify_eq_ok_iff rfl).1 printed
  rw [resolved] at found
  have rules : c.rulesOf .recipient = .recipient "+33" := Option.some.inj found
  refine ⟨i, c, base, parsed, resolved, ?_, ?_, by decide +kernel, printed⟩
  · rw [rules]
    decide +kernel
  · rw [rules]
    decide +kernel

end Cli

end Courier
