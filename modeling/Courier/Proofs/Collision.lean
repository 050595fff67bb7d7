/-
# Collision — which texts have one address in common

Classifying a text forgets how it was written, and this is to keep all that tells one subscriber
from another.  `Rules.Merges rules cs ds` lists the pairs of texts that get the same address: equal
texts; numbers with the same digits, both or neither behind a plus sign; and a number behind a plus
sign together with the number at home that is expanded to it.  There are no other pairs
(`Rules.classify_eq_classify_iff`).

The type of an address tells in which ways a text can have been read (`Rules.Decides.of_unknown` and
the lemmas next to it), and two of the types leave a choice.  An unknown one is that of service
numbers and of texts that are no number; but what a service number leaves is digits, and digits do
spell a number.  An international one is that of numbers behind a plus sign and of expanded ones,
and here different digits meet.  Expanded numbers among themselves do not, as all of them have one
country code in the place of one trunk (`Rules.Expands.injective`).
-/
import Courier.Proofs.Decision

namespace Courier.Rules

open Courier.Text (trimChars)

variable {rules : Rules} {cs ds : List Char}

/-! ## Pairs of texts -/

/-- Two texts without outer blanks that have the same address. -/
inductive Merges (rules : Rules) : List Char → List Char → Prop
  | same (cs : List Char) : Merges rules cs cs
  | plus {cs ds : List Char} (hc : SpellsDigits cs) (hd : SpellsDigits ds)
      (digits : digitsIn cs = digitsIn ds) : Merges rules ('+' :: cs) ('+' :: ds)
  | plain {cs ds : List Char} (nc : ¬ SpellsName rules.maxAlphanumericLength cs)
      (nd : ¬ SpellsName rules.maxAlphanumericLength ds) (hc : SpellsDigits cs)
      (hd : SpellsDigits ds) (digits : digitsIn cs = digitsIn ds) : Merges rules cs ds
  /-- The second is expanded to the number of the first. -/
  | home {cs ds : List Char} (nd : ¬ SpellsName rules.maxAlphanumericLength ds)
      (hc : SpellsDigits cs) (hd : SpellsDigits ds)
      (expands : rules.Expands (digitsIn ds) (digitsIn cs)) : Merges rules ('+' :: cs) ds
  /-- The first is expanded to the number of the second. -/
  | abroad {cs ds : List Char} (nc : ¬ SpellsName rules.maxAlphanumericLength cs)
      (hc : SpellsDigits cs) (hd : SpellsDigits ds)
      (expands : rules.Expands (digitsIn cs) (digitsIn ds)) : Merges rules cs ('+' :: ds)

theorem Merges.classifyTrimmed_eq (h : rules.Merges cs ds) :
    rules.classifyTrimmed cs = rules.classifyTrimmed ds := by
  cases h with
  | same => rfl
  | plus hc hd digits => rw [(Decides.plus hc).eq, (Decides.plus hd).eq, digits]
  | plain nc nd hc hd digits =>
    rw [classifyTrimmed_of_spellsDigits nc hc, classifyTrimmed_of_spellsDigits nd hd, digits]
  | home nd hc hd expands =>
    rw [(Decides.plus hc).eq, (Decides.digits nd hd (.expanded expands)).eq]
  | abroad nc hc hd expands =>
    rw [(Decides.digits nc hc (.expanded expands)).eq, (Decides.plus hd).eq]

/-! ## No other pairs -/

theorem Expands.injective {digits digits' number : List Char} (h : rules.Expands digits number)
    (h' : rules.Expands digits' number) : digits = digits' := by
  -- Both numbers begin with the one country code there is.
  obtain ⟨-, known, -, -⟩ := h
  rename_i code national
  generalize hn : code.toList ++ national = number at h'
  obtain ⟨-, known', -, -⟩ := h'
  obtain rfl := Option.some.inj (known.symm.trans known')
  rw [List.append_cancel_left hn]

/-- What a service number leaves is no text that is malformed. -/
theorem digitsIn_ne_of_not_spellsDigits (hc : SpellsDigits cs) (hd : ¬ SpellsDigits ds) :
    digitsIn cs ≠ ds := by
  rintro rfl
  exact hd (spellsDigits_of_isDigits (isDigits_digitsIn hc))

variable {d d' : Decision} {a : Address}

theorem Decides.merges (h : rules.Decides cs d a) (h' : rules.Decides ds d' a) :
    rules.Merges cs ds := by
  cases type : a.type with
  | alphanumeric =>
    obtain ⟨-, number⟩ := h.of_alphanumeric type
    obtain ⟨-, number'⟩ := h'.of_alphanumeric type
    rw [String.ofList_injective (number.symm.trans number')]
    exact .same ds
  | national =>
    obtain ⟨nc, hc, number⟩ := h.of_national type
    obtain ⟨nd, hd, number'⟩ := h'.of_national type
    exact .plain nc nd hc hd (String.ofList_injective (number.symm.trans number'))
  | unknown =>
    -- Each text is a service number or malformed, which makes four pairs.
    rcases h.of_unknown type with ⟨nc, hc, number⟩ | ⟨hc, number⟩ <;>
      rcases h'.of_unknown type with ⟨nd, hd, number'⟩ | ⟨hd, number'⟩ <;>
        have same := String.ofList_injective (number.symm.trans number')
    · exact .plain nc nd hc hd same
    · exact absurd same (digitsIn_ne_of_not_spellsDigits hc hd)
    · exact absurd same.symm (digitsIn_ne_of_not_spellsDigits hd hc)
    · rw [same]
      exact .same ds
  | international =>
    -- Each text has a plus sign or was expanded.
    rcases h.of_international type with ⟨_, rfl, hc, number⟩ | ⟨nc, hc, _, expands, number⟩ <;>
      rcases h'.of_international type with ⟨_, rfl, hd, number'⟩ | ⟨nd, hd, _, expands', number'⟩ <;>
        have same := String.ofList_injective (number.symm.trans number')
    · exact .plus hc hd same
    · exact .home nd hc hd (same ▸ expands')
    · exact .abroad nc hc hd (same ▸ expands)
    · subst same
      exact .plain nc nd hc hd (expands.injective expands')

/-- **No two subscribers are merged.**  Two texts have the same address if and only if, without
their outer blanks, they are equal, or have the same digits and differ in separators, or one of them
is the number that the other is expanded to. -/
theorem classify_eq_classify_iff (rules : Rules) (r r' : String) :
    rules.classify r = rules.classify r'
      ↔ rules.Merges (trimChars r.toList) (trimChars r'.toList) := by
  constructor
  · intro same
    obtain ⟨_, decided⟩ := decides_classifyTrimmed rules (trimChars r.toList)
    obtain ⟨_, decided'⟩ := decides_classifyTrimmed rules (trimChars r'.toList)
    rw [← classify, same] at decided
    exact decided.merges decided'
  · exact Merges.classifyTrimmed_eq

end Courier.Rules
