/-
# Reclassification — an address that is written out is read as itself again

`Address.display` writes an address as people see it: the number, with a plus sign before an
international one.  Rules that are valid read that text as the very address that was written
(`Rules.classify_display`), whatever the text was that the address came from.

Only two kinds of text are ever written.  Outside of international numbers the number stands for
itself, and it is a text that is read the way it was read before: the whole of the trimmed input, or
its digits (`Rules.classifyTrimmed_digits`).  An international number gets a plus sign, and a text
with a plus sign in front of digits is never expanded (`Rules.classifyTrimmed_plus`).  So a number
that was expanded comes back through another branch than the one that made it, and this branch wants
digits, which is where the country code has to be valid.
-/
import Courier.Proofs.Shapes

namespace Courier

open Courier.Text (trimChars Trimmed isBlank)

/-! ## Texts without outer blanks -/

namespace Text

theorem isBlank_of_isDigit {c : Char} (h : c.isDigit = true) : isBlank c = false := by
  have bounds : 48 ≤ c.toNat ∧ c.toNat ≤ 57 := by
    simpa [Char.isDigit, UInt32.le_iff_toNat_le] using h
  simp only [isBlank, Bool.or_eq_false_iff, Bool.and_eq_false_iff, decide_eq_false_iff_not,
    beq_eq_false_iff_ne]
  omega

/-- A text without any blank has none at its ends. -/
theorem trimmed_of_not_blank {cs : List Char} (h : ∀ c ∈ cs, isBlank c = false) : Trimmed cs where
  start ne := h _ (List.head_mem ne)
  finish ne := h _ (List.getLast_mem ne)

theorem trimmed_of_digits {cs : List Char} (h : ∀ c ∈ cs, c.isDigit = true) : Trimmed cs :=
  trimmed_of_not_blank fun c hc => isBlank_of_isDigit (h c hc)

end Text

/-! ## What is read out of digits -/

namespace Rules

variable {rules : Rules} {cs : List Char}

/-- The answer to a text depends on the text without its outer blanks. -/
theorem classify_ofList (ht : Trimmed cs) :
    rules.classify (String.ofList cs) = rules.classifyTrimmed cs := by
  rw [classify, String.toList_ofList, Text.trimChars_of_trimmed ht]

/-- Digits alone are no name. -/
theorem not_spellsName_of_digits {limit : Nat} (h : ∀ c ∈ cs, c.isDigit = true) :
    ¬ SpellsName limit cs := by
  rintro ⟨-, -, -, c, hc, notDigit⟩
  rw [h c hc] at notDigit
  cases notDigit

/-- Digits without a plus sign are classified as digits. -/
theorem classifyTrimmed_digits (h : isDigits (String.ofList cs) = true) :
    rules.classifyTrimmed cs = rules.classifyDigits cs := by
  obtain ⟨-, digits⟩ := isDigits_ofList.1 h
  rw [classifyTrimmed_of_spellsDigits (not_spellsName_of_digits digits)
    (spellsDigits_of_isDigits h), digitsIn_of_digits digits]

/-- Digits behind a plus sign are an international number, and stay as they are. -/
theorem classifyTrimmed_plus (h : isDigits (String.ofList cs) = true) :
    rules.classifyTrimmed ('+' :: cs) = ⟨String.ofList cs, .international, .isdn⟩ := by
  rw [(Decides.plus (spellsDigits_of_isDigits h)).eq, digitsIn_of_digits (isDigits_ofList.1 h).2]

/-! ## What is written -/

/-- Digits stand for themselves, unless they are expanded. -/
theorem classifyDigits_cases (rules : Rules) (cs : List Char) :
    (∃ type plan, type ≠ .international
      ∧ rules.classifyDigits cs = ⟨String.ofList cs, type, plan⟩)
    ∨ ∃ number, rules.Expands cs number
      ∧ rules.classifyDigits cs = ⟨String.ofList number, .international, .isdn⟩ := by
  obtain ⟨_, decided⟩ := decidesDigits_classifyDigits rules cs
  generalize rules.classifyDigits cs = a at decided ⊢
  cases decided with
  | service _ => exact .inl ⟨.unknown, .unknown, by decide, rfl⟩
  | expanded expands => exact .inr ⟨_, expands, rfl⟩
  | national _ _ => exact .inl ⟨.national, .isdn, by decide, rfl⟩

/-- A text stands for itself as a whole, or its digits are an international number as they are, or
its digits are classified. -/
theorem classifyTrimmed_cases (rules : Rules) (cs : List Char) :
    (∃ type plan, type ≠ .international
      ∧ rules.classifyTrimmed cs = ⟨String.ofList cs, type, plan⟩)
    ∨ ∃ digits, isDigits (String.ofList digits) = true
      ∧ (rules.classifyTrimmed cs = ⟨String.ofList digits, .international, .isdn⟩
        ∨ rules.classifyTrimmed cs = rules.classifyDigits digits) := by
  cases name : rules.isName cs with
  | true => exact .inl ⟨.alphanumeric, .unknown, by decide, classifyTrimmed_of_name name⟩
  | false =>
    rcases classifyTrimmed_of_not_name name with ⟨-, digits, hd, made⟩ | ⟨-, made⟩
    · exact .inr ⟨digits, hd, made⟩
    · exact .inl ⟨.unknown, .unknown, by decide, made⟩

/-! ## What is read of it -/

/-- The address is what its display is read as. -/
def ReadsBack (rules : Rules) (a : Address) : Prop := rules.classify a.display = a

/-- An address whose number is a text that is read as the address is read back. -/
theorem readsBack_of_plain {type : NumberType} {plan : NumberPlan} (ht : Trimmed cs)
    (plain : type ≠ .international)
    (h : rules.classifyTrimmed cs = ⟨String.ofList cs, type, plan⟩) :
    rules.ReadsBack ⟨String.ofList cs, type, plan⟩ := by
  have shown : (Address.mk (String.ofList cs) type plan).display = String.ofList cs := by
    cases type <;> first | rfl | exact absurd rfl plain
  rw [ReadsBack, shown, classify_ofList ht, h]

/-- An international number is read back if it consists of digits. -/
theorem readsBack_international (h : isDigits (String.ofList cs) = true) :
    rules.ReadsBack ⟨String.ofList cs, .international, .isdn⟩ := by
  have shown : (Address.mk (String.ofList cs) .international .isdn).display
      = String.ofList ('+' :: cs) := String.toList_injective (by simp [Address.display])
  have trimmed : Trimmed ('+' :: cs) := by
    refine Text.trimmed_of_not_blank fun c hc => ?_
    rcases List.mem_cons.1 hc with rfl | hc
    · decide
    · exact Text.isBlank_of_isDigit ((isDigits_ofList.1 h).2 c hc)
  rw [ReadsBack, shown, classify_ofList trimmed, classifyTrimmed_plus h]

/-- What digits are classified as is read back. -/
theorem readsBack_classifyDigits (valid : rules.validate = .ok ())
    (h : isDigits (String.ofList cs) = true) : rules.ReadsBack (rules.classifyDigits cs) := by
  rcases rules.classifyDigits_cases cs with ⟨type, plan, plain, kept⟩ | ⟨number, expands, made⟩
  · rw [kept]
    refine readsBack_of_plain (Text.trimmed_of_digits (isDigits_ofList.1 h).2) plain ?_
    rw [classifyTrimmed_digits h, kept]
  · -- The digits are gone, and the number is read for itself.
    rw [made]
    exact readsBack_international (expands.isDigits valid h)

/-- What a text without outer blanks is classified as is read back. -/
theorem readsBack_classifyTrimmed (valid : rules.validate = .ok ()) (ht : Trimmed cs) :
    rules.ReadsBack (rules.classifyTrimmed cs) := by
  rcases rules.classifyTrimmed_cases cs with ⟨type, plan, plain, kept⟩ | ⟨digits, hd, made | made⟩
  · rw [kept]
    exact readsBack_of_plain ht plain kept
  · rw [made]
    exact readsBack_international hd
  · rw [made]
    exact readsBack_classifyDigits valid hd

/-- **An address that is written out is read as itself again.**  By rules that are valid, the
display of the address of any text has this very address: its number, its type and its plan. -/
theorem classify_display {rules : Rules} (valid : rules.validate = .ok ()) (raw : String) :
    rules.classify (rules.classify raw).display = rules.classify raw :=
  readsBack_classifyTrimmed valid (Text.trimmed_trimChars raw.toList)

/-- A number that is expanded comes back by its plus sign. -/
theorem classify_display_expanded :
    let rules := Rules.recipient "49"
    rules.classify " (0171) 3-4 " = ⟨"4917134", .international, .isdn⟩
      ∧ rules.classify "+4917134" = ⟨"4917134", .international, .isdn⟩ := by
  intro rules
  have valid : rules.validate = .ok () := by decide
  have made : rules.classify " (0171) 3-4 " = ⟨"4917134", .international, .isdn⟩ := by decide
  have written : (rules.classify " (0171) 3-4 ").display = "+4917134" := by decide
  have again := classify_display valid " (0171) 3-4 "
  rw [written] at again
  exact ⟨made, again.trans made⟩

/-- A country code that is not digits is written, and then not read. -/
example : (Rules.recipient "4x").classify ((Rules.recipient "4x").classify "017").display
    = ⟨"+4x17", .unknown, .unknown⟩ := by decide

end Rules

end Courier
