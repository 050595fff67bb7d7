/-
# Punctuation — separators between digits are cosmetic

A bare number is digits, and perhaps a plus sign in front.  `Respells bare text` says that `text` is
such a number with separators put into the digits, as many as one likes and anywhere; the plus sign
stays in front.  Neither this nor trimming adds a digit or takes one away (`Punctuates.digitsIn_eq`,
`digitsIn_trimChars`), and apart from the plus sign digits are all that counts of a number, so the
text is classified as the bare number is.

There is one exception.  Spaces, if no other separator is there and the text is short, make a name
of the digits.
-/
import Courier.Proofs.Reclassification

namespace Courier

open Courier.Text (trimChars trimRight isBlank)

variable {cs ds : List Char}

/-! ## Trimming -/

/-- What is trimmed off holds no digit. -/
theorem isDigit_of_isBlank (c : Char) (blank : isBlank c = true) : c.isDigit = false := by
  cases digit : c.isDigit with
  | false => rfl
  | true =>
    rw [Text.isBlank_of_isDigit digit] at blank
    cases blank

theorem digitsIn_trimChars (cs : List Char) : digitsIn (trimChars cs) = digitsIn cs :=
  Text.filter_trimChars isDigit_of_isBlank cs

theorem digitsIn_trimRight (cs : List Char) : digitsIn (trimRight cs) = digitsIn cs :=
  Text.filter_trimRight isDigit_of_isBlank cs

/-- A part of a text of digits is one too if no digit is lost. -/
theorem SpellsDigits.of_subset (h : SpellsDigits cs) (subset : ds ⊆ cs)
    (digits : digitsIn ds = digitsIn cs) : SpellsDigits ds := by
  obtain ⟨plain, some⟩ := spellsDigits_iff.1 h
  rw [spellsDigits_iff, digits]
  exact ⟨fun d hd => plain d (subset hd), some⟩

/-! ## Separators -/

/-- The second text is the first with separators put into it. -/
inductive Punctuates : List Char → List Char → Prop
  | nil : Punctuates [] []
  | keep {ds cs : List Char} (c : Char) (h : Punctuates ds cs) : Punctuates (c :: ds) (c :: cs)
  | put {ds cs : List Char} {c : Char} (separator : Rules.isSeparator c = true)
      (h : Punctuates ds cs) : Punctuates ds (c :: cs)

theorem Punctuates.refl (cs : List Char) : Punctuates cs cs := by
  induction cs with
  | nil => exact .nil
  | cons c _ ih => exact .keep c ih

theorem eq_of_isSeparator {c : Char} (h : Rules.isSeparator c = true) :
    c = ' ' ∨ c = '-' ∨ c = '.' ∨ c = '(' ∨ c = ')' := by
  simpa [Rules.isSeparator, or_assoc] using h

theorem Punctuates.mem (h : Punctuates ds cs) {c : Char} (hc : c ∈ cs) :
    c ∈ ds ∨ Rules.isSeparator c = true := by
  induction h with
  | nil => cases hc
  | keep d _ ih =>
    rcases List.mem_cons.1 hc with rfl | hc
    · exact .inl List.mem_cons_self
    · exact (ih hc).imp_left (List.mem_cons_of_mem d)
  | put separator _ ih =>
    rcases List.mem_cons.1 hc with rfl | hc
    · exact .inr separator
    · exact ih hc

theorem Punctuates.digitsIn_eq (h : Punctuates ds cs) : digitsIn cs = digitsIn ds := by
  induction h with
  | nil => rfl
  | keep c _ ih =>
    simp only [digitsIn, List.filter_cons] at ih ⊢
    rw [ih]
  | @put _ _ c separator _ ih =>
    have noDigit : ¬ c.isDigit = true := by
      rcases eq_of_isSeparator separator with rfl | rfl | rfl | rfl | rfl <;> decide
    rw [digitsIn, List.filter_cons_of_neg noDigit]
    exact ih

theorem Punctuates.spellsDigits (h : Punctuates ds cs)
    (digits : Rules.isDigits (String.ofList ds) = true) : SpellsDigits cs := by
  obtain ⟨nonempty, allDigits⟩ := Rules.isDigits_ofList.1 digits
  rw [spellsDigits_iff, h.digitsIn_eq, digitsIn_of_digits allDigits]
  exact ⟨fun c hc => (h.mem hc).imp_left (allDigits c), nonempty⟩

/-- A text is a bare number with separators put in behind the plus sign, if there is one. -/
inductive Respells : String → String → Prop
  | plain {ds cs : List Char} (digits : Rules.isDigits (String.ofList ds) = true)
      (h : Punctuates ds cs) : Respells (String.ofList ds) (String.ofList cs)
  | plus {ds cs : List Char} (digits : Rules.isDigits (String.ofList ds) = true)
      (h : Punctuates ds cs) : Respells (String.ofList ('+' :: ds)) (String.ofList ('+' :: cs))

/-! ## Names of digits -/

/-- Digits and spaces, at least one of these, that are short enough for a name. -/
structure SpellsSpaced (limit : Nat) (cs : List Char) : Prop where
  space : ' ' ∈ cs
  plain : ∀ c ∈ cs, c.isDigit = true ∨ c = ' '
  short : cs.length ≤ limit

/-- Digits with separators are a name if and only if the separators are spaces. -/
theorem spellsName_iff_spellsSpaced {limit : Nat} (h : SpellsDigits cs) :
    SpellsName limit cs ↔ SpellsSpaced limit cs := by
  constructor
  · intro name
    have plain : ∀ c ∈ cs, c.isDigit = true ∨ c = ' ' := by
      intro c hc
      refine (h.plain c hc).imp_right fun separator => ?_
      refine (name.letters c hc).resolve_left fun letter => ?_
      rcases eq_of_isSeparator separator with rfl | rfl | rfl | rfl | rfl <;>
        exact absurd letter (by decide)
    obtain ⟨c, hc, notDigit⟩ := name.notDigits
    obtain rfl : c = ' ' := (plain c hc).resolve_left (by simp [notDigit])
    exact ⟨hc, plain, name.short⟩
  · intro spaced
    refine ⟨List.ne_nil_of_mem spaced.space, spaced.short, fun c hc => ?_, ' ', spaced.space, rfl⟩
    exact (spaced.plain c hc).imp_left fun digit => by simp [Char.isAlphanum, digit]

namespace Rules

variable {rules : Rules}

/-! ## Classification -/

theorem classify_plus_of_punctuates (digits : isDigits (String.ofList ds) = true)
    (h : Punctuates ds cs) : rules.classify (String.ofList ('+' :: cs))
      = ⟨String.ofList ds, .international, .isdn⟩ := by
  -- The plus sign is no blank, so only the end is trimmed.
  have trimmed : trimChars ('+' :: cs) = '+' :: trimRight cs :=
    @Text.trimRight_append ['+'] cs (by rintro c ⟨⟩; decide)
  have spelled : SpellsDigits (trimRight cs) :=
    (h.spellsDigits digits).of_subset (List.rdropWhile_prefix isBlank cs).subset
      (digitsIn_trimRight cs)
  rw [classify, String.toList_ofList, trimmed, (Decides.plus spelled).eq, digitsIn_trimRight,
    h.digitsIn_eq, digitsIn_of_digits (isDigits_ofList.1 digits).2]

theorem spellsDigits_trimChars (digits : isDigits (String.ofList ds) = true)
    (h : Punctuates ds cs) : SpellsDigits (trimChars cs) :=
  (h.spellsDigits digits).of_subset (Text.trimChars_subset cs) (digitsIn_trimChars cs)

theorem classify_of_punctuates (digits : isDigits (String.ofList ds) = true)
    (h : Punctuates ds cs)
    (noName : ¬ SpellsSpaced rules.maxAlphanumericLength (trimChars cs)) :
    rules.classify (String.ofList cs) = rules.classifyDigits ds := by
  have spelled := spellsDigits_trimChars digits h
  rw [← spellsName_iff_spellsSpaced spelled] at noName
  rw [classify, String.toList_ofList, classifyTrimmed_of_spellsDigits noName spelled,
    digitsIn_trimChars, h.digitsIn_eq, digitsIn_of_digits (isDigits_ofList.1 digits).2]

theorem classify_of_spaced (digits : isDigits (String.ofList ds) = true) (h : Punctuates ds cs)
    (spaced : SpellsSpaced rules.maxAlphanumericLength (trimChars cs)) :
    rules.classify (String.ofList cs)
      = ⟨Text.trim (String.ofList cs), .alphanumeric, .unknown⟩ := by
  rw [← spellsName_iff_spellsSpaced (spellsDigits_trimChars digits h)] at spaced
  rw [classify, Text.trim, String.toList_ofList, (Decides.name spaced).eq]

/-- A text counts as a name although it is a bare number with separators put in. -/
structure CountsAsName (rules : Rules) (bare text : String) : Prop where
  unsigned : '+' ∉ bare.toList
  spaced : SpellsSpaced rules.maxAlphanumericLength (trimChars text.toList)

/-- **Separators are cosmetic.**  A bare number with separators put in is classified as the bare
number is if and only if it does not count as a name; if it does, it is a name, without its outer
blanks. -/
theorem classify_respelled (rules : Rules) {bare text : String} (h : Respells bare text) :
    (rules.classify text = rules.classify bare ↔ ¬ rules.CountsAsName bare text)
      ∧ (rules.CountsAsName bare text →
          rules.classify text = ⟨Text.trim text, .alphanumeric, .unknown⟩) := by
  cases h with
  | @plus ds cs digits h =>
    have signed : ¬ rules.CountsAsName (String.ofList ('+' :: ds)) (String.ofList ('+' :: cs)) :=
      fun counts => counts.unsigned (by simp)
    refine ⟨iff_of_true ?_ signed, fun counts => absurd counts signed⟩
    rw [classify_plus_of_punctuates digits h, classify_plus_of_punctuates digits (.refl ds)]
  | @plain ds cs digits h =>
    obtain ⟨-, allDigits⟩ := isDigits_ofList.1 digits
    have bare : rules.classify (String.ofList ds) = rules.classifyDigits ds := by
      rw [classify_ofList (Text.trimmed_of_digits allDigits), classifyTrimmed_digits digits]
    have spaced_of_counts : rules.CountsAsName (String.ofList ds) (String.ofList cs) →
        SpellsSpaced rules.maxAlphanumericLength (trimChars cs) := by
      intro counts
      simpa using counts.spaced
    have unsigned : '+' ∉ (String.ofList ds).toList := by
      intro plus
      rw [String.toList_ofList] at plus
      cases allDigits '+' plus
    refine ⟨⟨?_, ?_⟩, fun counts => classify_of_spaced digits h (spaced_of_counts counts)⟩
    · intro same counts
      rw [bare, classify_of_spaced digits h (spaced_of_counts counts)] at same
      exact type_classifyDigits rules ds (congrArg Address.type same).symm
    · intro kept
      rw [bare]
      refine classify_of_punctuates digits h fun spaced => kept ⟨unsigned, ?_⟩
      rwa [String.toList_ofList]

/-- Spaces between a few digits make a name of them, and a dash next to the spaces undoes that. -/
theorem classify_respelled_spaces :
    let rules := Rules.recipient "49"
    rules.classify " 0171 234 " = ⟨"0171 234", .alphanumeric, .unknown⟩
      ∧ rules.classify " 0171-2 34 " = ⟨"49171234", .international, .isdn⟩ := by
  intro rules
  have digits : isDigits (String.ofList "0171234".toList) = true := by decide
  have spaces : Respells "0171234" " 0171 234 " :=
    .plain digits (.put rfl (.keep _ (.keep _ (.keep _ (.keep _ (.put rfl (.keep _ (.keep _
      (.keep _ (.put rfl .nil))))))))))
  have dash : Respells "0171234" " 0171-2 34 " :=
    .plain digits (.put rfl (.keep _ (.keep _ (.keep _ (.keep _ (.put rfl (.keep _ (.put rfl
      (.keep _ (.keep _ (.put rfl .nil)))))))))))
  constructor
  · have trimmed : trimChars " 0171 234 ".toList = "0171 234".toList := by decide
    have spaced : SpellsSpaced 11 "0171 234".toList :=
      ⟨by decide, by simp [Char.isDigit], by decide⟩
    exact (classify_respelled rules spaces).2 ⟨by decide, trimmed ▸ spaced⟩
  · have kept : ¬ rules.CountsAsName "0171234" " 0171-2 34 " := by
      rintro ⟨-, -, plain, -⟩
      exact absurd (plain '-' (by decide)) (by decide)
    rw [(classify_respelled rules dash).1.2 kept]
    decide

end Rules

end Courier
