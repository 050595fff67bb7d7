/-
# Decision — the one way in which a text is read

Without its outer blanks, a text is read in one of six ways: as a name; as a number behind a plus
sign; by its digits, as a service number, as a number to expand, or as a national number; or as
nothing that is known.  `Rules.Decides rules cs d a` says that `cs` is read in the way `d`, and that
`a` is its address.  It goes by what the text consists of and what the rules say, and not by the
order in which `classify` looks.

Digits with spaces between them, if there are not too many, are a name as well as a number.  The
name wins, so every way to read a number asks that the text is no name; with that, the six ways
exclude each other (`Rules.Decides.unique`) and leave no text out (`Rules.decides_classifyTrimmed`).

Digits are all that an international number has, except that an expanded one begins with the country
code, and nothing but `validate` asks for digits there.
-/
import Courier.Address.Classify
import Mathlib.Data.List.Infix

namespace Courier

open Courier.Text (trimChars)

/-! ## Names and numbers -/

/-- A text that spells a name: letters, digits and spaces, not too many, and not digits alone. -/
structure SpellsName (limit : Nat) (cs : List Char) : Prop where
  nonempty : cs ≠ []
  short : cs.length ≤ limit
  letters : ∀ c ∈ cs, c.isAlphanum = true ∨ c = ' '
  notDigits : ∃ c ∈ cs, c.isDigit = false

/-- A text of digits, at least one, and separators. -/
structure SpellsDigits (cs : List Char) : Prop where
  plain : ∀ c ∈ cs, c.isDigit = true ∨ Rules.isSeparator c = true
  digit : ∃ c ∈ cs, c.isDigit = true

/-- The digits of a text, in their order. -/
def digitsIn (cs : List Char) : List Char := cs.filter Char.isDigit

theorem digitsIn_of_digits {cs : List Char} (h : ∀ c ∈ cs, c.isDigit = true) : digitsIn cs = cs :=
  List.filter_eq_self.2 h

/-- Digits and separators spell a number if some digit is left without the separators. -/
theorem spellsDigits_iff {cs : List Char} : SpellsDigits cs
    ↔ (∀ c ∈ cs, c.isDigit = true ∨ Rules.isSeparator c = true) ∧ digitsIn cs ≠ [] := by
  constructor
  · intro h
    obtain ⟨c, hc, digit⟩ := h.digit
    exact ⟨h.plain, fun none => List.filter_eq_nil_iff.1 none c hc digit⟩
  · rintro ⟨plain, some⟩
    obtain ⟨c, kept⟩ := List.exists_mem_of_ne_nil _ some
    obtain ⟨hc, digit⟩ := List.mem_filter.1 kept
    exact ⟨plain, c, hc, digit⟩

theorem not_spellsName_plus {limit : Nat} {cs : List Char} : ¬ SpellsName limit ('+' :: cs) := by
  intro h
  have plus := h.letters '+' List.mem_cons_self
  revert plus
  decide

theorem not_spellsDigits_plus {cs : List Char} : ¬ SpellsDigits ('+' :: cs) := by
  intro h
  have plus := h.plain '+' List.mem_cons_self
  revert plus
  decide

namespace Rules

variable {rules : Rules} {cs : List Char}

theorem isName_iff : rules.isName cs = true ↔ SpellsName rules.maxAlphanumericLength cs := by
  simp only [isName, Bool.and_eq_true, decide_eq_true_eq, List.all_eq_true, List.any_eq_true,
    Bool.or_eq_true, Bool.not_eq_true']
  constructor
  · rintro ⟨⟨⟨nonempty, short⟩, letters⟩, notDigits⟩
    exact ⟨by simpa using nonempty, short, letters, notDigits⟩
  · rintro ⟨nonempty, short, letters, notDigits⟩
    exact ⟨⟨⟨by simpa using nonempty, short⟩, letters⟩, notDigits⟩

theorem isDigits_ofList :
    isDigits (String.ofList cs) = true ↔ cs ≠ [] ∧ ∀ c ∈ cs, c.isDigit = true := by
  simp [isDigits]

theorem spellsDigits_of_isDigits (h : isDigits (String.ofList cs) = true) : SpellsDigits cs := by
  obtain ⟨nonempty, digits⟩ := isDigits_ofList.1 h
  rw [spellsDigits_iff, digitsIn_of_digits digits]
  exact ⟨fun c hc => .inl (digits c hc), nonempty⟩

theorem isDigits_digitsIn (h : SpellsDigits cs) :
    isDigits (String.ofList (digitsIn cs)) = true :=
  isDigits_ofList.2 ⟨(spellsDigits_iff.1 h).2, fun _ hc => (List.mem_filter.1 hc).2⟩

theorem digitsOf?_eq_some_iff {ds : List Char} :
    digitsOf? cs = some ds ↔ SpellsDigits cs ∧ digitsIn cs = ds := by
  have shape : (cs.all (fun c => c.isDigit || isSeparator c) && cs.any Char.isDigit) = true
      ↔ SpellsDigits cs := by
    simp only [Bool.and_eq_true, List.all_eq_true, List.any_eq_true, Bool.or_eq_true]
    exact ⟨fun h => ⟨h.1, h.2⟩, fun h => ⟨h.plain, h.digit⟩⟩
  unfold digitsOf?
  split
  · rename_i spelled
    exact ⟨fun h => ⟨shape.1 spelled, Option.some.inj h⟩, fun h => congrArg some h.2⟩
  · rename_i unspelled
    exact ⟨fun h => (by cases h), fun h => absurd (shape.2 h.1) unspelled⟩

theorem digitsOf?_eq_none_iff : digitsOf? cs = none ↔ ¬ SpellsDigits cs := by
  rw [Option.eq_none_iff_forall_ne_some]
  exact ⟨fun h spelled => h _ (digitsOf?_eq_some_iff.2 ⟨spelled, rfl⟩),
    fun h _ some => h (digitsOf?_eq_some_iff.1 some).1⟩

/-! ## Expansion -/

/-- Digits and the number they are expanded to: where the trunk was, the country code is. -/
inductive Expands (rules : Rules) : List Char → List Char → Prop
  | intro {code : String} {national : List Char} (on : rules.international = true)
      (known : rules.countryCode = some code) (trunk : rules.trunk.toList ≠ [])
      (nonempty : national ≠ []) :
      Expands rules (rules.trunk.toList ++ national) (code.toList ++ national)

theorem Expands.unique {digits n n' : List Char} (h : rules.Expands digits n)
    (h' : rules.Expands digits n') : n = n' := by
  obtain ⟨-, known, -, -⟩ := h
  -- The digits are split at the trunk both times, so what is behind it is the same.
  generalize hd : rules.trunk.toList ++ _ = digits at h'
  obtain ⟨-, known', -, -⟩ := h'
  obtain rfl := Option.some.inj (known.symm.trans known')
  rw [List.append_cancel_left hd]

theorem expand?_eq_some_iff {digits number : List Char} :
    rules.expand? digits = some number ↔ rules.Expands digits number := by
  constructor
  · intro h
    unfold expand? at h
    split at h
    · cases h
    · rename_i on
      simp only [Bool.or_eq_true, Bool.not_eq_true', decide_eq_true_eq, not_or,
        Bool.not_eq_false] at on
      split at h
      · rename_i code d ds known hdrop
        obtain rfl := List.isPrefixOf?_eq_some_iff_append_eq.1 hdrop
        obtain rfl := Option.some.inj h
        exact .intro on.1 known on.2 (List.cons_ne_nil d ds)
      · cases h
  · rintro ⟨on, known, trunk, nonempty⟩
    obtain ⟨d, ds, rfl⟩ := List.exists_cons_of_ne_nil nonempty
    rw [expand?, if_neg (by simp [on, trunk]), known,
      List.isPrefixOf?_eq_some_iff_append_eq.2 rfl]

/-- Rules that validate have a country code of digits when they expand numbers. -/
theorem isDigits_of_validate (valid : rules.validate = .ok ())
    (on : rules.international = true) {code : String} (h : rules.countryCode = some code) :
    isDigits code = true := by
  rw [validate, if_pos on, h] at valid
  cases digits : isDigits code with
  | true => rfl
  | false => simp [digits] at valid

theorem Expands.isDigits {digits number : List Char} (h : rules.Expands digits number)
    (valid : rules.validate = .ok ()) (hd : isDigits (String.ofList digits) = true) :
    isDigits (String.ofList number) = true := by
  obtain ⟨on, known, -, -⟩ := h
  rename_i code national
  have codeDigits := isDigits_of_validate valid on known
  rw [← String.ofList_toList (s := code), isDigits_ofList] at codeDigits
  rw [isDigits_ofList] at hd ⊢
  refine ⟨by simp [codeDigits.1], fun c hc => ?_⟩
  rcases List.mem_append.1 hc with hc | hc
  · exact codeDigits.2 c hc
  · exact hd.2 c (List.mem_append_right _ hc)

/-! ## Six ways -/

/-- The ways in which a text can be read. -/
inductive Decision where
  | name
  | plus
  | service
  | expanded
  | national
  | malformed
  deriving DecidableEq, Repr

/-- Digits are a service number. -/
structure Serves (rules : Rules) (digits : List Char) : Prop where
  on : rules.shortCode = true
  off : rules.international = false
  short : digits.length ≤ rules.maxShortCodeLength

/-- How digits without a plus sign are read, and their address. -/
inductive DecidesDigits (rules : Rules) (digits : List Char) : Decision → Address → Prop
  | service (serves : rules.Serves digits) :
      DecidesDigits rules digits .service ⟨String.ofList digits, .unknown, .unknown⟩
  | expanded {number : List Char} (expands : rules.Expands digits number) :
      DecidesDigits rules digits .expanded ⟨String.ofList number, .international, .isdn⟩
  | national (noService : ¬ rules.Serves digits)
      (notExpanded : ∀ number, ¬ rules.Expands digits number) :
      DecidesDigits rules digits .national ⟨String.ofList digits, .national, .isdn⟩

/-- How a text without outer blanks is read, and its address. -/
inductive Decides (rules : Rules) : List Char → Decision → Address → Prop
  | name {cs : List Char} (name : SpellsName rules.maxAlphanumericLength cs) :
      Decides rules cs .name ⟨String.ofList cs, .alphanumeric, .unknown⟩
  | plus {cs : List Char} (spelled : SpellsDigits cs) :
      Decides rules ('+' :: cs) .plus ⟨String.ofList (digitsIn cs), .international, .isdn⟩
  | digits {cs : List Char} {d : Decision} {a : Address}
      (noName : ¬ SpellsName rules.maxAlphanumericLength cs) (spelled : SpellsDigits cs)
      (decided : rules.DecidesDigits (digitsIn cs) d a) : Decides rules cs d a
  | malformed {cs : List Char} (noName : ¬ SpellsName rules.maxAlphanumericLength cs)
      (noDigits : ¬ SpellsDigits cs) (noPlus : ∀ rest, cs = '+' :: rest → ¬ SpellsDigits rest) :
      Decides rules cs .malformed ⟨String.ofList cs, .unknown, .unknown⟩

/-! ### There is a way -/

theorem decidesDigits_classifyDigits (rules : Rules) (digits : List Char) :
    ∃ d, rules.DecidesDigits digits d (rules.classifyDigits digits) := by
  unfold classifyDigits
  split
  · rename_i serves
    simp only [Bool.and_eq_true, Bool.not_eq_true', decide_eq_true_eq] at serves
    exact ⟨.service, .service ⟨serves.1.1, serves.1.2, serves.2⟩⟩
  · rename_i noService
    simp only [Bool.and_eq_true, Bool.not_eq_true', decide_eq_true_eq] at noService
    split
    · rename_i number expanded
      exact ⟨.expanded, .expanded (expand?_eq_some_iff.1 expanded)⟩
    · rename_i kept
      refine ⟨.national, .national (fun h => noService ⟨⟨h.on, h.off⟩, h.short⟩) ?_⟩
      intro number expands
      rw [expand?_eq_some_iff.2 expands] at kept
      cases kept

/-- No digits are a name. -/
theorem type_classifyDigits (rules : Rules) (digits : List Char) :
    (rules.classifyDigits digits).type ≠ .alphanumeric := by
  obtain ⟨_, decided⟩ := decidesDigits_classifyDigits rules digits
  generalize rules.classifyDigits digits = a at decided ⊢
  intro type
  cases decided <;> cases type

theorem decides_classifyTrimmed (rules : Rules) (cs : List Char) :
    ∃ d, rules.Decides cs d (rules.classifyTrimmed cs) := by
  unfold classifyTrimmed
  split
  · rename_i name
    exact ⟨.name, .name (isName_iff.1 name)⟩
  · rename_i noName
    rw [isName_iff] at noName
    split
    · rename_i rest
      split
      · rename_i digits hd
        obtain ⟨spelled, rfl⟩ := digitsOf?_eq_some_iff.1 hd
        exact ⟨.plus, .plus spelled⟩
      · rename_i hd
        refine ⟨.malformed, .malformed noName not_spellsDigits_plus ?_⟩
        intro rest' same
        obtain ⟨-, rfl⟩ := List.cons.inj same
        exact digitsOf?_eq_none_iff.1 hd
    · rename_i noPlus
      split
      · rename_i digits hd
        obtain ⟨spelled, rfl⟩ := digitsOf?_eq_some_iff.1 hd
        obtain ⟨d, decided⟩ := decidesDigits_classifyDigits rules (digitsIn cs)
        exact ⟨d, .digits noName spelled decided⟩
      · rename_i hd
        refine ⟨.malformed, .malformed noName (digitsOf?_eq_none_iff.1 hd) ?_⟩
        exact fun rest same => (noPlus rest same).elim

/-! ### There is no other way -/

variable {d d' : Decision} {a a' : Address}

theorem DecidesDigits.unique {digits : List Char} (h : rules.DecidesDigits digits d a)
    (h' : rules.DecidesDigits digits d' a') : d' = d ∧ a' = a := by
  -- Service numbers want expansion off and expanded ones want it on.
  have apart : ∀ {number}, rules.Serves digits → ¬ rules.Expands digits number := by
    rintro number serves ⟨on, -, -, -⟩
    rw [serves.off] at on
    cases on
  cases h with
  | service serves =>
    cases h' with
    | service _ => exact ⟨rfl, rfl⟩
    | expanded expands => exact absurd expands (apart serves)
    | national noService _ => exact absurd serves noService
  | expanded expands =>
    cases h' with
    | service serves => exact absurd expands (apart serves)
    | expanded expands' => exact ⟨rfl, by rw [expands.unique expands']⟩
    | national _ notExpanded => exact absurd expands (notExpanded _)
  | national noService notExpanded =>
    cases h' with
    | service serves => exact absurd serves noService
    | expanded expands => exact absurd expands (notExpanded _)
    | national _ _ => exact ⟨rfl, rfl⟩

theorem Decides.unique (h : rules.Decides cs d a) (h' : rules.Decides cs d' a') :
    d' = d ∧ a' = a := by
  -- Off the diagonal one way denies what the other asks for, or a plus sign is where none can be.
  cases h with
  | name name =>
    cases h' with
    | name _ => exact ⟨rfl, rfl⟩
    | plus _ => exact absurd name not_spellsName_plus
    | digits noName _ _ => exact absurd name noName
    | malformed noName _ _ => exact absurd name noName
  | plus spelled =>
    cases h' with
    | name name => exact absurd name not_spellsName_plus
    | plus _ => exact ⟨rfl, rfl⟩
    | digits _ spelled' _ => exact absurd spelled' not_spellsDigits_plus
    | malformed _ _ noPlus => exact absurd spelled (noPlus _ rfl)
  | digits noName spelled decided =>
    cases h' with
    | name name => exact absurd name noName
    | plus _ => exact absurd spelled not_spellsDigits_plus
    | digits _ _ decided' => exact decided.unique decided'
    | malformed _ noDigits _ => exact absurd spelled noDigits
  | malformed noName noDigits noPlus =>
    cases h' with
    | name name => exact absurd name noName
    | plus spelled => exact absurd spelled (noPlus _ rfl)
    | digits _ spelled _ => exact absurd spelled noDigits
    | malformed _ _ _ => exact ⟨rfl, rfl⟩

/-- What is said of a text is what it is classified as. -/
theorem Decides.eq (h : rules.Decides cs d a) : rules.classifyTrimmed cs = a := by
  obtain ⟨_, decided⟩ := decides_classifyTrimmed rules cs
  exact (h.unique decided).2

/-- Of a number without a plus sign, nothing counts but the digits. -/
theorem classifyTrimmed_of_spellsDigits (noName : ¬ SpellsName rules.maxAlphanumericLength cs)
    (spelled : SpellsDigits cs) : rules.classifyTrimmed cs = rules.classifyDigits (digitsIn cs) := by
  obtain ⟨_, decided⟩ := decidesDigits_classifyDigits rules (digitsIn cs)
  exact (Decides.digits noName spelled decided).eq

/-! ### What the type of an address tells -/

theorem Decides.of_alphanumeric (h : rules.Decides cs d a) (type : a.type = .alphanumeric) :
    SpellsName rules.maxAlphanumericLength cs ∧ a.number = String.ofList cs := by
  cases h with
  | name name => exact ⟨name, rfl⟩
  | plus _ => cases type
  | digits _ _ decided => cases decided <;> cases type
  | malformed _ _ _ => cases type

theorem Decides.of_unknown (h : rules.Decides cs d a) (type : a.type = .unknown) :
    (¬ SpellsName rules.maxAlphanumericLength cs ∧ SpellsDigits cs
        ∧ a.number = String.ofList (digitsIn cs))
      ∨ ¬ SpellsDigits cs ∧ a.number = String.ofList cs := by
  cases h with
  | name _ => cases type
  | plus _ => cases type
  | malformed _ noDigits _ => exact .inr ⟨noDigits, rfl⟩
  | digits noName spelled decided =>
    cases decided with
    | service _ => exact .inl ⟨noName, spelled, rfl⟩
    | expanded _ => cases type
    | national _ _ => cases type

theorem Decides.of_national (h : rules.Decides cs d a) (type : a.type = .national) :
    ¬ SpellsName rules.maxAlphanumericLength cs ∧ SpellsDigits cs
      ∧ a.number = String.ofList (digitsIn cs) := by
  cases h with
  | name _ => cases type
  | plus _ => cases type
  | malformed _ _ _ => cases type
  | digits noName spelled decided =>
    cases decided with
    | service _ => cases type
    | expanded _ => cases type
    | national _ _ => exact ⟨noName, spelled, rfl⟩

theorem Decides.of_international (h : rules.Decides cs d a) (type : a.type = .international) :
    (∃ rest, cs = '+' :: rest ∧ SpellsDigits rest ∧ a.number = String.ofList (digitsIn rest))
      ∨ ¬ SpellsName rules.maxAlphanumericLength cs ∧ SpellsDigits cs
        ∧ ∃ number, rules.Expands (digitsIn cs) number ∧ a.number = String.ofList number := by
  cases h with
  | name _ => cases type
  | plus spelled => exact .inl ⟨_, rfl, spelled, rfl⟩
  | malformed _ _ _ => cases type
  | digits noName spelled decided =>
    cases decided with
    | service _ => cases type
    | expanded expands => exact .inr ⟨noName, spelled, _, expands, rfl⟩
    | national _ _ => cases type

/-- **Every text is read in exactly one of six ways.**  Of a text without its outer blanks, one way
and one address hold, and the address is what the text is classified as.  The number of a national
address consists of digits, and so does, by rules that are valid, that of an international one. -/
theorem classify_decided (rules : Rules) (raw : String) :
    (∃ d, rules.Decides (trimChars raw.toList) d (rules.classify raw)
        ∧ ∀ d' a, rules.Decides (trimChars raw.toList) d' a → d' = d ∧ a = rules.classify raw)
      ∧ ((rules.classify raw).type = .national → isDigits (rules.classify raw).number = true)
      ∧ (rules.validate = .ok () → (rules.classify raw).type = .international →
          isDigits (rules.classify raw).number = true) := by
  obtain ⟨d, decided⟩ := decides_classifyTrimmed rules (trimChars raw.toList)
  refine ⟨⟨d, decided, fun d' a h => decided.unique h⟩, ?_, ?_⟩
  · intro type
    obtain ⟨-, spelled, number⟩ := decided.of_national type
    rw [classify, number]
    exact isDigits_digitsIn spelled
  · intro valid type
    rw [classify]
    rcases decided.of_international type with
      ⟨_, -, spelled, number⟩ | ⟨-, spelled, _, expands, number⟩
    · rw [number]
      exact isDigits_digitsIn spelled
    · rw [number]
      exact expands.isDigits valid (isDigits_digitsIn spelled)

end Rules

end Courier
