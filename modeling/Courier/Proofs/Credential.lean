/-
# Credentials — the three kinds as languages, and what takes them off the front

A kind of credential is a regular language over characters, written down here piece by piece:

    bearers         bearer\s+[A-Za-z0-9._\-]{8,}
    quotedSecrets   "(api_?key|token|password)"\s*:\s*"[^"]*"
    parameters      (api_?key|token|password)=[^&\s]+

and letters of either case are the same letter.  The functions that redaction uses take off the
front of a text the longest beginning that is in the language (`Takes`), and nothing if there is
none.  They never go back on a piece they have taken.  This is enough because no piece can end early
and still be followed by the next one (`Takes.bind`).
-/
import Courier.Http.Redact
import Courier.Proofs.Trimming
import Mathlib.Computability.Language

namespace Courier.Http

open Courier.Text (isBlank)

variable {cs rest w : List Char}

/-! ## Languages -/

/-- One character that passes a test. -/
def oneOf (test : Char → Bool) : Language Char := {w | ∃ c, test c = true ∧ w = [c]}

/-- So many characters at least, and all pass a test. -/
def runs (least : Nat) (test : Char → Bool) : Language Char :=
  {w | least ≤ w.length ∧ ∀ c ∈ w, test c = true}

theorem mem_runs_iff {least : Nat} {test : Char → Bool} :
    w ∈ runs least test ↔ least ≤ w.length ∧ w.all test = true := by
  rw [List.all_eq_true]
  exact Iff.rfl

instance (least : Nat) (test : Char → Bool) : Decidable (w ∈ runs least test) :=
  decidable_of_iff _ mem_runs_iff.symm

/-- A word, in any case. -/
def spellings (word : List Char) : Language Char :=
  (word.map fun letter => oneOf (foldsTo letter)).prod

/-- One given character. -/
def only (c : Char) : Language Char := oneOf (· = c)

/-- The names of secrets, in any case. -/
def secretSpellings : Language Char :=
  spellings "api".toList * (1 + spellings "_".toList) * spellings "key".toList
    + spellings "token".toList + spellings "password".toList

/-- The word `bearer`, blanks, and a token. -/
def bearers : Language Char := spellings "bearer".toList * (runs 1 isBlank * runs 8 isTokenChar)

/-- The name of a secret in quotes, a colon, and the quote where its value begins. -/
def openings : Language Char :=
  only '\x22' * (secretSpellings * (only '\x22'
    * (runs 0 isBlank * (only ':' * (runs 0 isBlank * only '\x22')))))

/-- A member of a document that holds a secret. -/
def quotedSecrets : Language Char := openings * (runs 0 (· ≠ '\x22') * only '\x22')

/-- A parameter of a query that holds a secret. -/
def parameters : Language Char :=
  secretSpellings * (only '=' * runs 1 fun c => c ≠ '&' && !isBlank c)

theorem cons_mem_spellings {letter : Char} {word : List Char} :
    w ∈ spellings (letter :: word) ↔ ∃ c v, foldsTo letter c = true ∧ v ∈ spellings word
      ∧ w = c :: v := by
  rw [spellings, List.map_cons, List.prod_cons, Language.mem_mul]
  constructor
  · rintro ⟨_, ⟨c, hc, rfl⟩, v, hv, rfl⟩
    exact ⟨c, v, hc, hv, rfl⟩
  · rintro ⟨c, v, hc, hv, rfl⟩
    exact ⟨[c], ⟨c, hc, rfl⟩, v, hv, rfl⟩

theorem mem_spellings_nil : w ∈ spellings [] ↔ w = [] := Iff.rfl

theorem spellings_append (word word' : List Char) :
    spellings (word ++ word') = spellings word * spellings word' := by
  rw [spellings, List.map_append, List.prod_append, spellings, spellings]

theorem mem_only {c : Char} : w ∈ only c ↔ w = [c] := by
  constructor
  · rintro ⟨d, hd, rfl⟩
    rw [of_decide_eq_true hd]
  · rintro rfl
    exact ⟨c, decide_eq_true rfl, rfl⟩

/-- The names of secrets, one by one. -/
theorem mem_secretSpellings :
    w ∈ secretSpellings ↔ ∃ name ∈ secretNames, w ∈ spellings name.toList := by
  have apiKey : spellings "api_key".toList
      = spellings "api".toList * spellings "_".toList * spellings "key".toList := by
    rw [← spellings_append, ← spellings_append]; rfl
  have apikey : spellings "apikey".toList = spellings "api".toList * spellings "key".toList := by
    rw [← spellings_append]; rfl
  rw [secretSpellings, mul_add, mul_one, add_mul, ← apiKey, ← apikey]
  simp only [Language.mem_add, secretNames, List.mem_cons, List.not_mem_nil, or_false,
    exists_eq_or_imp, exists_eq_left]
  tauto

theorem mem_openings : w ∈ openings ↔ ∃ name ∈ secretSpellings, ∃ before ∈ runs 0 isBlank,
    ∃ after ∈ runs 0 isBlank,
      w = '\x22' :: (name ++ '\x22' :: (before ++ ':' :: (after ++ ['\x22']))) := by
  constructor
  · intro hw
    obtain ⟨_, first, _, h₁, rfl⟩ := Language.mem_mul.1 hw
    obtain ⟨name, hname, _, h₂, rfl⟩ := Language.mem_mul.1 h₁
    obtain ⟨_, second, _, h₃, rfl⟩ := Language.mem_mul.1 h₂
    obtain ⟨before, hbefore, _, h₄, rfl⟩ := Language.mem_mul.1 h₃
    obtain ⟨_, colon, _, h₅, rfl⟩ := Language.mem_mul.1 h₄
    obtain ⟨after, hafter, _, third, rfl⟩ := Language.mem_mul.1 h₅
    rw [mem_only.1 first, mem_only.1 second, mem_only.1 colon, mem_only.1 third]
    exact ⟨name, hname, before, hbefore, after, hafter, rfl⟩
  · rintro ⟨name, hname, before, hbefore, after, hafter, rfl⟩
    exact Language.append_mem_mul (mem_only.2 rfl) (Language.append_mem_mul hname
      (Language.append_mem_mul (mem_only.2 rfl) (Language.append_mem_mul hbefore
        (Language.append_mem_mul (mem_only.2 rfl) (Language.append_mem_mul hafter
          (mem_only.2 rfl))))))

/-! ## Characters of a credential -/

theorem foldsTo_iff {letter c : Char} : foldsTo letter c = true ↔
    c.toLower = letter ∨ letter = 'k' ∧ c.toNat = 0x212A ∨ letter = 's' ∧ c.toNat = 0x17F := by
  simp only [foldsTo, Bool.or_eq_true, decide_eq_true_eq, Bool.and_eq_true, or_assoc]

/-- Only capitals have another small letter than themselves. -/
theorem toLower_eq_self {c : Char} (h : c.isUpper = false) : c.toLower = c :=
  dif_neg (of_decide_eq_false h)

theorem toNat_of_isUpper {c : Char} (h : c.isUpper = true) : 65 ≤ c.toNat ∧ c.toNat ≤ 90 := by
  have bounds : 65 ≤ c.val ∧ c.val ≤ 90 := of_decide_eq_true h
  exact ⟨UInt32.le_iff_toNat_le.1 bounds.1, UInt32.le_iff_toNat_le.1 bounds.2⟩

theorem toNat_of_isAlphanum {c : Char} (h : c.isAlphanum = true) :
    48 ≤ c.toNat ∧ c.toNat ≤ 122 := by
  have kinds : ((c.isUpper || c.isLower) || c.isDigit) = true := h
  rw [Bool.or_eq_true, Bool.or_eq_true] at kinds
  rcases kinds with (upper | lower) | digit
  · have bounds := toNat_of_isUpper upper
    omega
  · have bounds := Bool.and_eq_true_iff.1 lower
    have low : 97 ≤ c.toNat := UInt32.le_iff_toNat_le.1 (of_decide_eq_true bounds.1)
    have high : c.toNat ≤ 122 := UInt32.le_iff_toNat_le.1 (of_decide_eq_true bounds.2)
    omega
  · have bounds := Bool.and_eq_true_iff.1 digit
    have low : 48 ≤ c.toNat := UInt32.le_iff_toNat_le.1 (of_decide_eq_true bounds.1)
    have high : c.toNat ≤ 57 := UInt32.le_iff_toNat_le.1 (of_decide_eq_true bounds.2)
    omega

theorem isTokenChar_of_foldsTo {letter c : Char} (hl : isTokenChar letter = true)
    (h : foldsTo letter c = true) : isTokenChar c = true := by
  rcases foldsTo_iff.1 h with lower | ⟨-, kelvin⟩ | ⟨-, long⟩
  · cases upper : c.isUpper with
    | true =>
      have alphanum : c.isAlphanum = true := by
        show ((c.isUpper || c.isLower) || c.isDigit) = true
        rw [upper, Bool.true_or, Bool.true_or]
      simp [isTokenChar, alphanum]
    | false => rwa [← lower, toLower_eq_self upper] at hl
  · simp [isTokenChar, foldsTo, kelvin]
  · simp [isTokenChar, foldsTo, long]

/-- Where the characters of a token stand in the code. -/
theorem toNat_of_isTokenChar {c : Char} (h : isTokenChar c = true) :
    45 ≤ c.toNat ∧ c.toNat ≤ 122 ∨ c.toNat = 0x212A ∨ c.toNat = 0x17F := by
  have small {letter : Char} (hl : 97 ≤ letter.toNat ∧ letter.toNat ≤ 122)
      (h : foldsTo letter c = true) :
      45 ≤ c.toNat ∧ c.toNat ≤ 122 ∨ c.toNat = 0x212A ∨ c.toNat = 0x17F := by
    rcases foldsTo_iff.1 h with lower | ⟨-, kelvin⟩ | ⟨-, long⟩
    · cases upper : c.isUpper with
      | true =>
        have bounds := toNat_of_isUpper upper
        omega
      | false =>
        rw [← lower, toLower_eq_self upper] at hl
        omega
    · exact .inr (.inl kelvin)
    · exact .inr (.inr long)
  simp only [isTokenChar, Bool.or_eq_true, decide_eq_true_eq] at h
  rcases h with ((((alphanum | rfl) | rfl) | rfl) | kelvin) | long
  · have bounds := toNat_of_isAlphanum alphanum
    omega
  · decide
  · decide
  · decide
  · exact small (by decide) kelvin
  · exact small (by decide) long

theorem isBlank_of_isTokenChar {c : Char} (h : isTokenChar c = true) : isBlank c = false := by
  have bounds := toNat_of_isTokenChar h
  simp only [isBlank, Bool.or_eq_false_iff, Bool.and_eq_false_iff, decide_eq_false_iff_not,
    beq_eq_false_iff_ne]
  omega

theorem isTokenChar_of_mem_spellings {word : List Char} (hw : ∀ l ∈ word, isTokenChar l = true)
    (h : w ∈ spellings word) : ∀ c ∈ w, isTokenChar c = true := by
  induction word generalizing w with
  | nil =>
    rw [mem_spellings_nil.1 h]
    exact fun c hc => absurd hc List.not_mem_nil
  | cons letter word ih =>
    obtain ⟨c, v, hc, hv, rfl⟩ := cons_mem_spellings.1 h
    rw [List.forall_mem_cons] at hw ⊢
    exact ⟨isTokenChar_of_foldsTo hw.1 hc, ih hw.2 hv⟩

theorem isTokenChar_of_mem_bearer : ∀ l ∈ "bearer".toList, isTokenChar l = true :=
  List.all_eq_true.1 (by decide)

theorem isTokenChar_of_mem_bearerSpelling (h : w ∈ spellings "bearer".toList) :
    ∀ c ∈ w, isTokenChar c = true :=
  isTokenChar_of_mem_spellings isTokenChar_of_mem_bearer h

theorem length_of_mem_spellings {word : List Char} (h : w ∈ spellings word) :
    w.length = word.length := by
  induction word generalizing w with
  | nil => rw [mem_spellings_nil.1 h]
  | cons letter word ih =>
    obtain ⟨c, v, -, hv, rfl⟩ := cons_mem_spellings.1 h
    rw [List.length_cons, ih hv, List.length_cons]

theorem ne_nil_of_mem_runs {least : Nat} {test : Char → Bool} (h : w ∈ runs (least + 1) test) :
    w ≠ [] := by
  rintro rfl
  exact Nat.not_succ_le_zero least h.1

/-! ## How the texts of a language begin -/

/-- No text of the language is empty, and the first character passes a test. -/
def BeginsWith (test : Char → Bool) (L : Language Char) : Prop :=
  ∀ w ∈ L, ∃ c v, test c = true ∧ w = c :: v

section

variable {test test' : Char → Bool} {L M : Language Char}

theorem BeginsWith.mul (h : BeginsWith test L) : BeginsWith test (L * M) := by
  intro w hw
  obtain ⟨a, ha, b, -, rfl⟩ := Language.mem_mul.1 hw
  obtain ⟨c, v, hc, rfl⟩ := h a ha
  exact ⟨c, v ++ b, hc, rfl⟩

theorem BeginsWith.mono (h : BeginsWith test L) (weaker : ∀ c, test c = true → test' c = true) :
    BeginsWith test' L := by
  intro w hw
  obtain ⟨c, v, hc, rfl⟩ := h w hw
  exact ⟨c, v, weaker c hc, rfl⟩

theorem beginsWith_runs (least : Nat) : BeginsWith test (runs (least + 1) test) := by
  rintro (_ | ⟨c, v⟩) ⟨long, all⟩
  · cases long
  · exact ⟨c, v, all c List.mem_cons_self, rfl⟩

end

theorem beginsWith_only (c : Char) : BeginsWith (· = c) (only c) :=
  fun _ hw => ⟨c, [], decide_eq_true rfl, mem_only.1 hw⟩

theorem beginsWith_spellings {letter : Char} {word : List Char} :
    BeginsWith (foldsTo letter) (spellings (letter :: word)) := by
  intro w hw
  obtain ⟨c, v, hc, -, rfl⟩ := cons_mem_spellings.1 hw
  exact ⟨c, v, hc, rfl⟩

/-! ## Taking a language off the front -/

/-- What is taken off the front of a text is in the language, and whatever beginning of the text is
in the language, no shorter one is taken. -/
structure Takes (take? : List Char → Option (List Char)) (L : Language Char) : Prop where
  sound : ∀ {cs rest}, take? cs = some rest → ∃ w ∈ L, cs = w ++ rest
  longest : ∀ {w rest}, w ∈ L → ∃ left, take? (w ++ rest) = some left ∧ left.length ≤ rest.length

/-- A text of the language is taken as it is, whatever follows it. -/
structure Reads (take? : List Char → Option (List Char)) (L : Language Char) : Prop
    extends Takes take? L where
  exact : ∀ {w rest}, w ∈ L → take? (w ++ rest) = some rest

/-- A text of the first language is taken as it is where a text of the second follows. -/
def ExactBefore (take? : List Char → Option (List Char)) (L M : Language Char) : Prop :=
  ∀ a ∈ L, ∀ b ∈ M, ∀ rest, take? (a ++ (b ++ rest)) = some (b ++ rest)

section

variable {f g : List Char → Option (List Char)} {L M : Language Char}

theorem Reads.exactBefore (h : Reads f L) : ExactBefore f L M := fun _ ha _ _ _ => h.exact ha

/-- Two languages are taken one after the other. -/
theorem Takes.bind (hf : Takes f L) (hg : Takes g M) (exact : ExactBefore f L M) :
    Takes (fun cs => (f cs).bind g) (L * M) where
  sound {cs rest} taken := by
    obtain ⟨mid, first, second⟩ := Option.bind_eq_some_iff.1 taken
    obtain ⟨a, ha, rfl⟩ := hf.sound first
    obtain ⟨b, hb, rfl⟩ := hg.sound second
    exact ⟨a ++ b, Language.append_mem_mul ha hb, (List.append_assoc a b rest).symm⟩
  longest {w rest} hw := by
    obtain ⟨a, ha, b, hb, rfl⟩ := Language.mem_mul.1 hw
    obtain ⟨left, taken, short⟩ : ∃ left, g (b ++ rest) = some left
        ∧ left.length ≤ rest.length := hg.longest hb
    refine ⟨left, ?_, short⟩
    show (f (a ++ b ++ rest)).bind g = some left
    rw [List.append_assoc, exact a ha b hb rest]
    exact taken

theorem Takes.bind_reads (hf : Takes f L) (hg : Reads g M) (exact : ExactBefore f L M) :
    Reads (fun cs => (f cs).bind g) (L * M) where
  toTakes := hf.bind hg.toTakes exact
  exact {w rest} hw := by
    obtain ⟨a, ha, b, hb, rfl⟩ := Language.mem_mul.1 hw
    show (f (a ++ b ++ rest)).bind g = some rest
    rw [List.append_assoc, exact a ha b hb rest]
    exact hg.exact hb

/-- Nothing is taken off a text that begins with no text of the language. -/
theorem Takes.eq_none_iff (h : Takes f L) {cs : List Char} :
    f cs = none ↔ ∀ w ∈ L, ¬w <+: cs := by
  constructor
  · rintro none w hw ⟨rest, rfl⟩
    obtain ⟨left, taken, -⟩ : ∃ left, f (w ++ rest) = some left ∧ left.length ≤ rest.length :=
      h.longest hw
    rw [none] at taken
    cases taken
  · intro free
    refine Option.eq_none_iff_forall_ne_some.2 fun rest taken => ?_
    obtain ⟨w, hw, rfl⟩ := h.sound taken
    exact free w hw ⟨rest, rfl⟩

end

theorem reads_takeWord? (word : List Char) : Reads (takeWord? word) (spellings word) := by
  have exact {w rest : List Char} (h : w ∈ spellings word) :
      takeWord? word (w ++ rest) = some rest := by
    induction word generalizing w with
    | nil => rw [mem_spellings_nil.1 h]; rfl
    | cons letter word ih =>
      obtain ⟨c, v, hc, hv, rfl⟩ := cons_mem_spellings.1 h
      rw [List.cons_append, takeWord?, if_pos hc, ih hv]
  refine ⟨⟨fun {cs rest} taken => ?_, fun hw => ⟨_, exact hw, Nat.le_refl _⟩⟩, exact⟩
  clear exact
  induction word generalizing cs with
  | nil => exact ⟨[], rfl, Option.some.inj taken⟩
  | cons letter word ih =>
    cases cs with
    | nil => cases taken
    | cons c cs =>
      rw [takeWord?] at taken
      split at taken
      · rename_i hc
        obtain ⟨v, hv, rfl⟩ := ih taken
        exact ⟨c :: v, cons_mem_spellings.2 ⟨c, v, hc, hv, rfl⟩, rfl⟩
      · cases taken

/-- A word is spelled by what is taken as a whole. -/
theorem mem_spellings_iff {word : List Char} : w ∈ spellings word ↔ takeWord? word w = some [] := by
  constructor
  · intro h
    have taken : takeWord? word (w ++ []) = some [] := (reads_takeWord? word).exact h
    rwa [List.append_nil] at taken
  · intro taken
    obtain ⟨v, hv, rfl⟩ := (reads_takeWord? word).sound taken
    rwa [List.append_nil]

instance (word : List Char) : Decidable (w ∈ spellings word) :=
  decidable_of_iff _ mem_spellings_iff.symm

theorem reads_takeChar? (c : Char) : Reads (takeChar? c) (only c) := by
  have exact {w rest : List Char} (h : w ∈ only c) : takeChar? c (w ++ rest) = some rest := by
    rw [mem_only.1 h, List.singleton_append, takeChar?, if_pos rfl]
  refine ⟨⟨fun {cs rest} taken => ?_, fun hw => ⟨_, exact hw, Nat.le_refl _⟩⟩, exact⟩
  cases cs with
  | nil => cases taken
  | cons d cs =>
    rw [takeChar?] at taken
    split at taken
    · rename_i same
      obtain rfl := Option.some.inj taken
      exact ⟨[d], mem_only.2 (same ▸ rfl), rfl⟩
    · cases taken

section

variable {least : Nat} {test : Char → Bool}

theorem takeRun?_append (h : w ∈ runs least test) (rest : List Char) :
    takeRun? least test (w ++ rest) = some (rest.dropWhile test) := by
  obtain ⟨long, all⟩ := h
  have enough : least ≤ ((w ++ rest).takeWhile test).length := by
    rw [List.takeWhile_append_of_pos all, List.length_append]
    exact Nat.le_add_right_of_le long
  rw [takeRun?, if_pos enough, List.dropWhile_append_of_pos all]

theorem takes_takeRun? : Takes (takeRun? least test) (runs least test) where
  sound {cs rest} taken := by
    rw [takeRun?] at taken
    split at taken
    · rename_i enough
      obtain rfl := Option.some.inj taken
      exact ⟨cs.takeWhile test, ⟨enough, fun c hc => List.mem_takeWhile_imp hc⟩,
        List.takeWhile_append_dropWhile.symm⟩
    · cases taken
  longest hw := ⟨_, takeRun?_append hw _, (List.dropWhile_suffix test).length_le⟩

/-- A run ends where a text begins that does not go on with it. -/
theorem exactBefore_takeRun? {L : Language Char} (begins : BeginsWith (fun c => !test c) L) :
    ExactBefore (takeRun? least test) (runs least test) L := by
  intro w hw v hv rest
  obtain ⟨c, v, hc, rfl⟩ := begins v hv
  rw [takeRun?_append hw, List.cons_append, List.dropWhile_cons_of_neg (by simpa using hc)]

theorem takeRun?_zero (cs : List Char) : takeRun? 0 test cs = some (cs.dropWhile test) := by
  rw [takeRun?, if_pos (Nat.zero_le _)]

end

/-! ## The names of secrets -/

/-- A character is folded to one letter at most. -/
theorem eq_of_foldsTo {letter letter' c : Char} (hl : letter.toNat < 128)
    (hl' : letter'.toNat < 128) (h : foldsTo letter c = true) (h' : foldsTo letter' c = true) :
    letter = letter' := by
  -- The two letters beyond the alphabet are no small letters of others.
  have far (far : 128 ≤ c.toNat) : ¬c.toLower.toNat < 128 := by
    have upper : c.isUpper = false := by
      by_contra upper
      have bounds := toNat_of_isUpper (Bool.eq_true_of_not_eq_false upper)
      omega
    rw [toLower_eq_self upper]
    omega
  rcases foldsTo_iff.1 h with lower | ⟨rfl, code⟩ | ⟨rfl, code⟩ <;>
    rcases foldsTo_iff.1 h' with lower' | ⟨rfl, code'⟩ | ⟨rfl, code'⟩
  · exact lower.symm.trans lower'
  · exact absurd (lower ▸ hl) (far (by omega))
  · exact absurd (lower ▸ hl) (far (by omega))
  · exact absurd (lower' ▸ hl') (far (by omega))
  · rfl
  · omega
  · exact absurd (lower' ▸ hl') (far (by omega))
  · omega
  · rfl

/-- Of two words that a text begins with one begins with the other. -/
theorem prefix_or_prefix_of_takeWord? {word word' : List Char} {rest' : List Char}
    (hw : ∀ l ∈ word, l.toNat < 128) (hw' : ∀ l ∈ word', l.toNat < 128)
    (h : takeWord? word cs = some rest) (h' : takeWord? word' cs = some rest') :
    word <+: word' ∨ word' <+: word := by
  induction word generalizing word' cs with
  | nil => exact .inl List.nil_prefix
  | cons letter word ih =>
    cases word' with
    | nil => exact .inr List.nil_prefix
    | cons letter' word' =>
      cases cs with
      | nil => cases h
      | cons c cs =>
        rw [takeWord?] at h h'
        split at h
        · rename_i hc
          split at h'
          · rename_i hc'
            rw [List.forall_mem_cons] at hw hw'
            rw [eq_of_foldsTo hw.1 hw'.1 hc hc', List.prefix_cons_inj, List.prefix_cons_inj]
            exact ih hw.2 hw'.2 h h'
          · cases h'
        · cases h

/-- No text begins with two names of secrets. -/
theorem eq_of_takeWord?_secretNames {name name' : String} {rest' : List Char}
    (hn : name ∈ secretNames) (hn' : name' ∈ secretNames)
    (h : takeWord? name.toList cs = some rest) (h' : takeWord? name'.toList cs = some rest') :
    rest = rest' := by
  have ascii : ∀ n ∈ secretNames, ∀ l ∈ n.toList, l.toNat < 128 := by
    have all : ∀ n ∈ secretNames, n.toList.all (fun l => l.toNat < 128) = true := by decide
    intro n hn l hl
    exact of_decide_eq_true (List.all_eq_true.1 (all n hn) l hl)
  have incomparable : ∀ n ∈ secretNames, ∀ n' ∈ secretNames, n.toList <+: n'.toList → n = n' := by
    decide
  have same : name = name' := by
    rcases prefix_or_prefix_of_takeWord? (ascii _ hn) (ascii _ hn') h h' with p | p
    · exact incomparable _ hn _ hn' p
    · exact (incomparable _ hn' _ hn p).symm
  rw [same, h'] at h
  exact (Option.some.inj h).symm

theorem reads_takeSecretName? : Reads takeSecretName? secretSpellings := by
  have exact {w rest : List Char} (h : w ∈ secretSpellings) :
      takeSecretName? (w ++ rest) = some rest := by
    obtain ⟨name, hn, hw⟩ := mem_secretSpellings.1 h
    have taken : takeWord? name.toList (w ++ rest) = some rest := (reads_takeWord? _).exact hw
    obtain ⟨left, found⟩ : ∃ left, takeSecretName? (w ++ rest) = some left := by
      rw [← Option.isSome_iff_exists, takeSecretName?, List.findSome?_isSome_iff]
      exact ⟨name, hn, by rw [taken]; rfl⟩
    obtain ⟨name', hn', taken'⟩ := List.exists_of_findSome?_eq_some found
    rw [found, eq_of_takeWord?_secretNames hn' hn taken' taken]
  refine ⟨⟨fun taken => ?_, fun hw => ⟨_, exact hw, Nat.le_refl _⟩⟩, exact⟩
  obtain ⟨name, hn, taken⟩ := List.exists_of_findSome?_eq_some taken
  obtain ⟨w, hw, rfl⟩ := (reads_takeWord? name.toList).sound taken
  exact ⟨w, mem_secretSpellings.2 ⟨name, hn, hw⟩, rfl⟩

theorem isTokenChar_of_mem_secretSpellings (h : w ∈ secretSpellings) :
    ∀ c ∈ w, isTokenChar c = true := by
  have letters : ∀ name ∈ secretNames, name.toList.all isTokenChar = true := by decide
  obtain ⟨name, hn, hw⟩ := mem_secretSpellings.1 h
  exact isTokenChar_of_mem_spellings (List.all_eq_true.1 (letters name hn)) hw

theorem beginsWith_secretSpellings : BeginsWith isTokenChar secretSpellings := by
  have words : ∀ name ∈ secretNames, name.toList ≠ [] := by decide
  intro w hw
  obtain ⟨name, hn, spelled⟩ := mem_secretSpellings.1 hw
  obtain ⟨letter, word, split⟩ := List.exists_cons_of_ne_nil (words name hn)
  rw [split] at spelled
  obtain ⟨c, v, -, rfl⟩ := beginsWith_spellings w spelled
  exact ⟨c, v, isTokenChar_of_mem_secretSpellings hw c List.mem_cons_self, rfl⟩

/-! ## The three kinds -/

/-- Takes off the front what stands before the value of a secret in a document. -/
def opening? (cs : List Char) : Option (List Char) :=
  (takeChar? '\x22' cs).bind fun cs => (takeSecretName? cs).bind fun cs =>
    (takeChar? '\x22' cs).bind fun cs => (takeRun? 0 isBlank cs).bind fun cs =>
      (takeChar? ':' cs).bind fun cs => (takeRun? 0 isBlank cs).bind (takeChar? '\x22')

theorem quotedSecret?_eq : quotedSecret? = fun cs =>
    (opening? cs).bind fun cs => (takeRun? 0 (· ≠ '\x22') cs).bind (takeChar? '\x22') := by
  funext cs
  simp only [quotedSecret?, opening?, takeRun?_zero, Option.bind_assoc]
  rfl

theorem takes_bearer? : Takes bearer? bearers := by
  have next : BeginsWith (fun c => !isBlank c) (runs 8 isTokenChar) :=
    (beginsWith_runs 7).mono fun c hc => by rw [isBlank_of_isTokenChar hc]; rfl
  have token : Takes (fun cs => (takeRun? 1 isBlank cs).bind (takeRun? 8 isTokenChar))
      (runs 1 isBlank * runs 8 isTokenChar) :=
    takes_takeRun?.bind takes_takeRun? (exactBefore_takeRun? next)
  exact (reads_takeWord? _).toTakes.bind token (reads_takeWord? _).exactBefore

/-- A character goes on with no run of others. -/
theorem beginsWith_only_not {test : Char → Bool} {c : Char} (h : test c = false) :
    BeginsWith (fun c => !test c) (only c) :=
  (beginsWith_only c).mono fun d hd => by rw [of_decide_eq_true hd, h]; rfl

theorem reads_opening? : Reads opening? openings := by
  have value : Reads (fun cs => (takeRun? 0 isBlank cs).bind (takeChar? '\x22'))
      (runs 0 isBlank * only '\x22') :=
    takes_takeRun?.bind_reads (reads_takeChar? _)
      (exactBefore_takeRun? (beginsWith_only_not (by decide)))
  have member : Reads (fun cs => (takeRun? 0 isBlank cs).bind fun cs => (takeChar? ':' cs).bind
        fun cs => (takeRun? 0 isBlank cs).bind (takeChar? '\x22'))
      (runs 0 isBlank * (only ':' * (runs 0 isBlank * only '\x22'))) :=
    takes_takeRun?.bind_reads
      ((reads_takeChar? _).toTakes.bind_reads value (reads_takeChar? _).exactBefore)
      (exactBefore_takeRun? (beginsWith_only_not (by decide)).mul)
  have closing := (reads_takeChar? '\x22').toTakes.bind_reads member (reads_takeChar? _).exactBefore
  have name := reads_takeSecretName?.toTakes.bind_reads closing reads_takeSecretName?.exactBefore
  exact (reads_takeChar? '\x22').toTakes.bind_reads name (reads_takeChar? _).exactBefore

theorem takes_quotedSecret? : Takes quotedSecret? quotedSecrets := by
  rw [quotedSecret?_eq]
  have value : Takes (fun cs => (takeRun? 0 (· ≠ '\x22') cs).bind (takeChar? '\x22'))
      (runs 0 (· ≠ '\x22') * only '\x22') :=
    takes_takeRun?.bind (reads_takeChar? _).toTakes
      (exactBefore_takeRun? (beginsWith_only_not (by decide)))
  exact reads_opening?.toTakes.bind value reads_opening?.exactBefore

theorem takes_parameterSecret? : Takes parameterSecret? parameters := by
  have value : Takes (fun cs => (takeChar? '=' cs).bind
        (takeRun? 1 fun c => c ≠ '&' && !isBlank c))
      (only '=' * runs 1 fun c => c ≠ '&' && !isBlank c) :=
    (reads_takeChar? _).toTakes.bind takes_takeRun? (reads_takeChar? _).exactBefore
  exact reads_takeSecretName?.toTakes.bind value reads_takeSecretName?.exactBefore

end Courier.Http
