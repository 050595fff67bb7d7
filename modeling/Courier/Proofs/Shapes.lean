/-
# Shapes — what a classified number can look like on the wire

`WireAddress.Shaped rules w` lists the forms that a number can have after it was classified by some
rules and not refused: a name, digits with an international or a national type, or a number of
unknown type that is a service number or no number at all.

`Rules.Decides.shaped` proves it for each way in which a text is read.  The digits of a number that
was expanded are the country code followed by digits of the text, so this way alone needs rules that
are valid.
-/
import Courier.Address.Translate
import Courier.Proofs.Decision
import Courier.Proofs.Trimming

namespace Courier

open Courier.Text (trimChars Trimmed)

/-! ## Shapes -/

/-- A text that spells a number: digits and separators, at least one digit, and perhaps a plus sign
in front. -/
def SpellsNumber : List Char → Prop
  | '+' :: cs => (Rules.digitsOf? cs).isSome
  | cs => (Rules.digitsOf? cs).isSome

/-- What a number can be on the wire after it was classified by some rules and not refused. -/
inductive WireAddress.Shaped (rules : Rules) : WireAddress → Prop
  /-- A name, where the rules allow names. -/
  | name {s : String} (allowed : rules.allowAlphanumeric = true)
      (nonempty : 1 ≤ s.toList.length) (short : s.toList.length ≤ rules.maxAlphanumericLength)
      (letters : ∀ c ∈ s.toList, c.isAlphanum = true ∨ c = ' ')
      (notDigits : ∃ c ∈ s.toList, c.isDigit = false) (trimmed : Trimmed s.toList) :
      Shaped rules ⟨s, 5, 0⟩
  | international {s : String} (digits : Rules.isDigits s = true) : Shaped rules ⟨s, 1, 1⟩
  | national {s : String} (digits : Rules.isDigits s = true) : Shaped rules ⟨s, 2, 1⟩
  /-- A service number, where the rules have them. -/
  | service {s : String} (on : rules.shortCode = true) (off : rules.international = false)
      (digits : Rules.isDigits s = true) (short : s.toList.length ≤ rules.maxShortCodeLength) :
      Shaped rules ⟨s, 0, 0⟩
  /-- Neither a name nor a number. -/
  | malformed {s : String} (nonempty : s.toList ≠ []) (trimmed : Trimmed s.toList)
      (noName : rules.isName s.toList = false) (noNumber : ¬ SpellsNumber s.toList) :
      Shaped rules ⟨s, 0, 0⟩

/-- A text spells a number by its digits alone, or behind a plus sign. -/
theorem spellsNumber_iff {cs : List Char} :
    SpellsNumber cs ↔ SpellsDigits cs ∨ ∃ rest, cs = '+' :: rest ∧ SpellsDigits rest := by
  have spelled : ∀ ds, (Rules.digitsOf? ds).isSome = true ↔ SpellsDigits ds := by
    intro ds
    rw [Option.isSome_iff_ne_none, ne_eq, Rules.digitsOf?_eq_none_iff, not_not]
  unfold SpellsNumber
  split
  · rename_i rest
    rw [spelled]
    constructor
    · exact fun h => .inr ⟨rest, rfl, h⟩
    · rintro (h | ⟨_, same, h⟩)
      · exact absurd h not_spellsDigits_plus
      · exact (List.cons.inj same).2 ▸ h
  · rename_i noPlus
    rw [spelled]
    exact ⟨.inl, fun h => h.resolve_right fun ⟨rest, same, _⟩ => noPlus rest same⟩

theorem not_spellsNumber {cs : List Char} (noDigits : ¬ SpellsDigits cs)
    (noPlus : ∀ rest, cs = '+' :: rest → ¬ SpellsDigits rest) : ¬ SpellsNumber cs := by
  rw [spellsNumber_iff]
  rintro (h | ⟨rest, same, h⟩)
  · exact noDigits h
  · exact noPlus rest same h

/-! ## Classification -/

namespace Rules

theorem classifyTrimmed_of_name {rules : Rules} {cs : List Char} (h : rules.isName cs = true) :
    rules.classifyTrimmed cs = ⟨String.ofList cs, .alphanumeric, .unknown⟩ :=
  (Decides.name (isName_iff.1 h)).eq

/-- A text that is no name is classified by its digits if it spells a number, and is malformed
otherwise. -/
theorem classifyTrimmed_of_not_name {rules : Rules} {cs : List Char}
    (h : rules.isName cs = false) :
    (SpellsNumber cs ∧ ∃ digits, isDigits (String.ofList digits) = true
      ∧ (rules.classifyTrimmed cs = ⟨String.ofList digits, .international, .isdn⟩
        ∨ rules.classifyTrimmed cs = rules.classifyDigits digits))
    ∨ ¬ SpellsNumber cs ∧ rules.classifyTrimmed cs = malformed cs := by
  obtain ⟨_, decided⟩ := decides_classifyTrimmed rules cs
  generalize made : rules.classifyTrimmed cs = a at decided
  cases decided with
  | name name =>
    rw [isName_iff.2 name] at h
    cases h
  | plus spelled =>
    exact .inl ⟨spellsNumber_iff.2 (.inr ⟨_, rfl, spelled⟩), _, isDigits_digitsIn spelled, .inl rfl⟩
  | digits noName spelled _ =>
    rw [← made]
    exact .inl ⟨spellsNumber_iff.2 (.inl spelled), _, isDigits_digitsIn spelled,
      .inr (classifyTrimmed_of_spellsDigits noName spelled)⟩
  | malformed _ noDigits noPlus => exact .inr ⟨not_spellsNumber noDigits noPlus, rfl⟩

theorem shaped_name {rules : Rules} {cs : List Char}
    (h : SpellsName rules.maxAlphanumericLength cs) (ht : Trimmed cs)
    (allowed : rules.allowAlphanumeric = true) :
    WireAddress.Shaped rules ⟨String.ofList cs, 5, 0⟩ := by
  refine .name allowed ?_ ?_ ?_ ?_ ?_ <;> rw [String.toList_ofList]
  · exact List.length_pos_iff.2 h.nonempty
  · exact h.short
  · exact h.letters
  · exact h.notDigits
  · exact ht

theorem shaped_malformed {rules : Rules} {cs : List Char} (nonempty : cs ≠ []) (ht : Trimmed cs)
    (noName : rules.isName cs = false) (noNumber : ¬ SpellsNumber cs) :
    WireAddress.Shaped rules ⟨String.ofList cs, 0, 0⟩ := by
  refine .malformed ?_ ?_ ?_ ?_ <;> rwa [String.toList_ofList]

theorem DecidesDigits.shaped {rules : Rules} (valid : rules.validate = .ok ())
    {digits : List Char} (hd : isDigits (String.ofList digits) = true) {d : Decision} {a : Address}
    (h : rules.DecidesDigits digits d a) :
    WireAddress.Shaped rules (PhoneNumber.addressed a).toWire := by
  cases h with
  | service serves =>
    exact .service serves.on serves.off hd (by rw [String.toList_ofList]; exact serves.short)
  | expanded expands => exact .international (expands.isDigits valid hd)
  | national _ _ => exact .national hd

theorem Decides.shaped {rules : Rules} (valid : rules.validate = .ok ()) {cs : List Char}
    (ht : Trimmed cs) (nonempty : cs ≠ []) {d : Decision} {a : Address}
    (accepted : a.type = .alphanumeric → rules.allowAlphanumeric = true)
    (h : rules.Decides cs d a) : WireAddress.Shaped rules (PhoneNumber.addressed a).toWire := by
  cases h with
  | name name => exact shaped_name name ht (accepted rfl)
  | plus spelled => exact .international (isDigits_digitsIn spelled)
  | digits _ spelled decided => exact decided.shaped valid (isDigits_digitsIn spelled)
  | malformed noName noDigits noPlus =>
    exact shaped_malformed nonempty ht (Bool.eq_false_iff.2 fun h => noName (isName_iff.1 h))
      (not_spellsNumber noDigits noPlus)

end Rules

/-! ## Numbers that are let through -/

namespace AddressTranslator

variable {t : AddressTranslator} {raw : String} {a b : Address}

/-- The check lets an address through as it is, and a name only where names are allowed. -/
theorem check_eq_ok_iff : t.check a = .ok b
    ↔ (a.type = .alphanumeric → t.rules.allowAlphanumeric = true) ∧ b = a := by
  unfold check
  split
  · rename_i refused
    simp only [Bool.and_eq_true, decide_eq_true_eq, Bool.not_eq_true'] at refused
    simp [refused]
  · rename_i accepted
    simp only [Bool.and_eq_true, decide_eq_true_eq, Bool.not_eq_true', not_and,
      Bool.not_eq_false] at accepted
    exact ⟨fun h => ⟨accepted, (Except.ok.inj h).symm⟩, fun h => congrArg _ h.2.symm⟩

theorem translateRaw_eq_ok_iff : t.translateRaw raw = .ok a
    ↔ ¬ Text.isBlankText raw = true ∧ t.check (t.rules.classify raw) = .ok a := by
  unfold translateRaw
  split
  · rename_i blank
    exact ⟨fun h => (by cases h), fun h => absurd blank h.1⟩
  · rename_i notBlank
    exact (and_iff_right notBlank).symm

/-- A raw number that is not refused has one of the shapes. -/
theorem shaped_of_translateRaw (valid : t.rules.validate = .ok ())
    (h : t.translateRaw raw = .ok a) :
    a = t.rules.classify raw ∧ WireAddress.Shaped t.rules (PhoneNumber.addressed a).toWire := by
  obtain ⟨notBlank, checked⟩ := translateRaw_eq_ok_iff.1 h
  obtain ⟨accepted, rfl⟩ := check_eq_ok_iff.1 checked
  obtain ⟨_, decided⟩ := Rules.decides_classifyTrimmed t.rules (trimChars raw.toList)
  refine ⟨rfl, decided.shaped valid (Text.trimmed_trimChars _) ?_ accepted⟩
  exact fun e => notBlank (Text.trimChars_eq_nil_iff.1 e)

end AddressTranslator

end Courier
