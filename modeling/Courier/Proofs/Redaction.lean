/-
# Redaction — no credential is left, and nothing is left to do

A text from which a kind of credential has been taken has gaps between the marks, and what stands in
the gaps stood next to each other before (`Marked.kept`).  A mark begins with a bracket and holds
neither quotes nor the beginning of a credential.  So wherever a credential of some kind is found
after replacing, one was found at the same place before (`Shows`): even a quoted member that spans
marks only has to find the quote where its value ends, and that quote was there.  Hence each
replacement clears a text of its own kind, and the later ones bring back nothing that the earlier
ones cleared (`clear_replaceAll_self`, `Clear.replaceAll`).

What is shown in the end is collapsed, holds no credential, and is what it is redacted to
(`redact_settled`).
-/
import Courier.Proofs.Credential
import Courier.Proofs.Squeezing
import Mathlib.Data.List.Infix
import Mathlib.Tactic.FinCases

namespace Courier.Http

open Courier.Text (isBlank Collapsed)

variable {cs out rest w : List Char}

/-! ## Replacing as a relation -/

/-- A text, and what is made of it when what is taken off the front is replaced by a mark. -/
inductive Marked (take? : List Char → Option (List Char)) : List Char → List Char → Prop
  | nil : Marked take? [] []
  | keep {c : Char} {cs out : List Char} : take? (c :: cs) = none → Marked take? cs out →
      Marked take? (c :: cs) (c :: out)
  | hide {cs rest out : List Char} : take? cs = some rest → Marked take? rest out →
      Marked take? cs (mark ++ out)

/-- A function takes a kind of credential off the front: none is empty, and none begins with a
character that would end a parameter. -/
structure Kind (take? : List Char → Option (List Char)) (L : Language Char) : Prop
    extends Takes take? L where
  begins : BeginsWith (fun c => c ≠ '&' && !isBlank c) L

theorem replaceFrom_eq_drop (take? : List Char → Option (List Char)) (m : List Char) (skip : Nat)
    (cs : List Char) :
    Text.replaceFrom take? m skip cs = Text.replaceFrom take? m 0 (cs.drop skip) := by
  induction cs generalizing skip with
  | nil => rw [List.drop_nil, Text.replaceFrom, Text.replaceFrom]
  | cons c cs ih =>
    cases skip with
    | zero => rfl
    | succ skip => rw [Text.replaceFrom, ih, List.drop_succ_cons]

section

variable {take? : List Char → Option (List Char)} {L : Language Char}

theorem replaceAll_cons_of_none {c : Char} (h : take? (c :: cs) = none) :
    replaceAll take? (c :: cs) = c :: replaceAll take? cs := by
  rw [replaceAll, Text.replaceFrom, h, replaceAll]

theorem Kind.ne_nil (kind : Kind take? L) (h : take? cs = some rest) :
    ∃ c v, c ≠ '&' ∧ isBlank c = false ∧ cs = c :: v ++ rest := by
  obtain ⟨w, hw, rfl⟩ := kind.sound h
  obtain ⟨c, v, hc, rfl⟩ := kind.begins w hw
  simp only [Bool.and_eq_true, decide_eq_true_eq, Bool.not_eq_true'] at hc
  exact ⟨c, v, hc.1, hc.2, rfl⟩

theorem replaceAll_of_some (kind : Kind take? L) (h : take? cs = some rest) :
    replaceAll take? cs = mark ++ replaceAll take? rest := by
  obtain ⟨c, v, -, -, rfl⟩ := kind.ne_nil h
  have after : (v ++ rest).drop ((v ++ rest).length - rest.length) = rest := by
    rw [List.length_append, Nat.add_sub_cancel, List.drop_left]
  rw [List.cons_append] at h ⊢
  rw [replaceAll, Text.replaceFrom, h]
  show mark ++ Text.replaceFrom take? mark ((v ++ rest).length - rest.length) (v ++ rest) = _
  rw [replaceFrom_eq_drop, after, replaceAll]

theorem marked_replaceAll (kind : Kind take? L) (cs : List Char) :
    Marked take? cs (replaceAll take? cs) := by
  -- What is left after a credential is shorter, but need not be the tail.
  induction size : cs.length using Nat.strong_induction_on generalizing cs with
  | _ n ih =>
    cases cs with
    | nil => exact .nil
    | cons c cs =>
      subst size
      cases h : take? (c :: cs) with
      | none =>
        rw [replaceAll_cons_of_none h]
        exact .keep h (ih cs.length (Nat.lt_succ_self _) cs rfl)
      | some rest =>
        rw [replaceAll_of_some kind h]
        obtain ⟨d, v, -, -, split⟩ := kind.ne_nil h
        have shorter : rest.length < (c :: cs).length := by
          rw [split, List.length_append, List.length_cons]
          omega
        exact .hide h (ih rest.length shorter rest rfl)

/-- What replacing makes of a text is determined. -/
theorem Marked.eq (kind : Kind take? L) (h : Marked take? cs out) : replaceAll take? cs = out := by
  induction h with
  | nil => rfl
  | keep none _ ih => rw [replaceAll_cons_of_none none, ih]
  | hide some _ ih => rw [replaceAll_of_some kind some, ih]

/-! ## What is left of a text -/

theorem mark_eq : mark = '[' :: "REDACTED]".toList := rfl

/-- A part of the outcome without a mark stood there before, and so did what follows it. -/
theorem Marked.kept (h : Marked take? cs (w ++ out)) (unmarked : '[' ∉ w) :
    ∃ rest, cs = w ++ rest ∧ Marked take? rest out := by
  induction w generalizing cs with
  | nil => exact ⟨cs, rfl, h⟩
  | cons c w ih =>
    rw [List.mem_cons, not_or] at unmarked
    generalize all : (c :: w) ++ out = whole at h
    cases h with
    | nil => cases all
    | keep _ tail =>
      obtain ⟨rfl, rfl⟩ := List.cons.inj all
      obtain ⟨rest, rfl, marked⟩ := ih tail unmarked.2
      exact ⟨rest, rfl, marked⟩
    | hide _ _ =>
      rw [mark_eq] at all
      exact absurd (List.cons.inj all).1.symm unmarked.1

theorem Marked.mem {c : Char} (h : Marked take? cs out) (kind : Kind take? L) (hc : c ∈ out)
    (unmarked : c ∉ mark) : c ∈ cs := by
  induction h with
  | nil => exact hc
  | keep _ _ ih =>
    rcases List.mem_cons.1 hc with rfl | hc
    · exact List.mem_cons_self
    · exact List.mem_cons_of_mem _ (ih hc)
  | hide some _ ih =>
    obtain ⟨d, v, -, -, rfl⟩ := kind.ne_nil some
    exact List.mem_append_right _ (ih ((List.mem_append.1 hc).resolve_left unmarked))

theorem Marked.eq_nil_iff (h : Marked take? cs out) (kind : Kind take? L) : out = [] ↔ cs = [] := by
  cases h with
  | nil => exact Iff.rfl
  | keep _ _ => exact iff_of_false (List.cons_ne_nil _ _) (List.cons_ne_nil _ _)
  | hide some _ =>
    obtain ⟨d, v, -, -, rfl⟩ := kind.ne_nil some
    rw [mark_eq]
    exact iff_of_false (List.cons_ne_nil _ _) (List.cons_ne_nil _ _)

/-- The outcome begins with a character of a credential or with a mark, and then the text began with
a credential. -/
theorem Marked.begins {c : Char} (h : Marked take? cs (c :: out)) (kind : Kind take? L)
    (hc : (c ≠ '&' && !isBlank c) = true) :
    ∃ d tail, (d ≠ '&' && !isBlank d) = true ∧ cs = d :: tail := by
  generalize all : c :: out = whole at h
  cases h with
  | nil => cases all
  | @keep d tail _ _ _ => exact ⟨d, tail, (List.cons.inj all).1 ▸ hc, rfl⟩
  | hide some _ =>
    obtain ⟨w, hw, rfl⟩ := kind.sound some
    obtain ⟨d, v, hd, rfl⟩ := kind.begins w hw
    exact ⟨d, v ++ _, hd, rfl⟩

end

/-! ## Where a credential shows -/

/-- No credential of a kind begins anywhere in a text. -/
def Clear (take? : List Char → Option (List Char)) (cs : List Char) : Prop :=
  ∀ s, s <:+ cs → take? s = none

theorem Takes.clear_iff {take? : List Char → Option (List Char)} {L : Language Char}
    (h : Takes take? L) : Clear take? cs ↔ ∀ w ∈ L, ¬w <:+: cs := by
  constructor
  · intro clear w hw inside
    obtain ⟨s, start, hs⟩ := List.infix_iff_prefix_suffix.1 inside
    exact h.eq_none_iff.1 (clear s hs) w hw start
  · intro free s hs
    exact h.eq_none_iff.2 fun w hw start =>
      free w hw (List.infix_iff_prefix_suffix.2 ⟨s, start, hs⟩)

/-- What stands at the end of two texts in a row begins in the second or in the first. -/
theorem suffix_or_of_suffix_append {s a b : List Char} (h : s <:+ a ++ b) :
    s <:+ b ∨ ∃ m, m ≠ [] ∧ m <:+ a ∧ s = m ++ b := by
  obtain ⟨t, ht⟩ := h
  rcases List.append_eq_append_iff.1 ht with ⟨m, rfl, rfl⟩ | ⟨m, rfl, rfl⟩
  · by_cases empty : m = []
    · exact .inl (by rw [empty]; exact List.suffix_rfl)
    · exact .inr ⟨m, empty, List.suffix_append t m, rfl⟩
  · exact .inl (List.suffix_append m s)

/-- Marks bring no credential of a kind up: where one shows in an outcome, one was before. -/
structure Shows (take? : List Char → Option (List Char)) : Prop where
  nil : take? [] = none
  marks : ∀ m, m ≠ [] → m <:+ mark → ∀ rest, take? (m ++ rest) = none
  before : ∀ {other L cs out}, Kind other L → Marked other cs out → take? cs = none →
    take? out = none

section

variable {take? other : List Char → Option (List Char)} {L : Language Char}

/-- An outcome is clear of what shows nowhere in the text outside of what is hidden. -/
theorem Marked.clear (h : Marked other cs out) (kind : Kind other L) (shows : Shows take?)
    (gaps : ∀ s, s <:+ cs → other s = none → take? s = none) : Clear take? out := by
  induction h with
  | nil =>
    intro s hs
    rw [List.suffix_nil.1 hs]
    exact shows.nil
  | keep none tail ih =>
    intro s hs
    rcases List.suffix_cons_iff.1 hs with rfl | hs
    · exact shows.before kind (.keep none tail) (gaps _ List.suffix_rfl none)
    · exact ih (fun s hs => gaps s (hs.trans (List.suffix_cons _ _))) s hs
  | @hide cs rest out some _ ih =>
    intro s hs
    obtain ⟨w, -, rfl⟩ := kind.sound some
    rcases suffix_or_of_suffix_append hs with hs | ⟨m, nonempty, inMark, rfl⟩
    · exact ih (fun s hs => gaps s (hs.trans (List.suffix_append _ _))) s hs
    · exact shows.marks m nonempty inMark out

/-- Replacing clears a text of its own kind. -/
theorem clear_replaceAll_self (kind : Kind take? L) (shows : Shows take?) (cs : List Char) :
    Clear take? (replaceAll take? cs) :=
  (marked_replaceAll kind cs).clear kind shows fun _ _ none => none

/-- Replacing another kind brings nothing back. -/
theorem Clear.replaceAll (h : Clear take? cs) (kind : Kind other L) (shows : Shows take?) :
    Clear take? (replaceAll other cs) :=
  (marked_replaceAll kind cs).clear kind shows fun s hs _ => h s hs

theorem replaceAll_of_clear (h : Clear take? cs) : replaceAll take? cs = cs := by
  induction cs with
  | nil => rfl
  | cons c cs ih =>
    rw [replaceAll_cons_of_none (h _ List.suffix_rfl),
      ih fun s hs => h s (hs.trans (List.suffix_cons _ _))]

end

/-! ## The three kinds -/

theorem plain_of_isTokenChar {c : Char} (h : isTokenChar c = true) :
    (c ≠ '&' && !isBlank c) = true := by
  have ampersand : c ≠ '&' := by
    rintro rfl
    exact absurd h (by decide)
  rw [isBlank_of_isTokenChar h, decide_eq_true ampersand]
  rfl

theorem kind_bearer : Kind bearer? bearers where
  toTakes := takes_bearer?
  begins := beginsWith_spellings.mul.mono fun _ hc =>
    plain_of_isTokenChar (isTokenChar_of_foldsTo (by decide) hc)

theorem kind_quotedSecret : Kind quotedSecret? quotedSecrets where
  toTakes := takes_quotedSecret?
  begins := (beginsWith_only '\x22').mul.mul.mono fun c hc => by rw [of_decide_eq_true hc]; decide

theorem kind_parameterSecret : Kind parameterSecret? parameters where
  toTakes := takes_parameterSecret?
  begins := beginsWith_secretSpellings.mul.mono fun _ hc => plain_of_isTokenChar hc

/-- A character that fails a test is not in a text that passes it. -/
theorem not_mem_of_test {test : Char → Bool} {c : Char} (h : ∀ d ∈ w, test d = true)
    (hc : test c = false) : c ∉ w := by
  intro mem
  rw [h c mem] at hc
  cases hc

theorem no_bracket_opening (h : w ∈ openings) : '[' ∉ w := by
  obtain ⟨name, hname, before, hbefore, after, hafter, rfl⟩ := mem_openings.1 h
  have word : '[' ∉ name :=
    not_mem_of_test (isTokenChar_of_mem_secretSpellings hname) (by decide)
  have blanks : '[' ∉ before := not_mem_of_test hbefore.2 (by decide)
  have blanks' : '[' ∉ after := not_mem_of_test hafter.2 (by decide)
  simp [word, blanks, blanks']

theorem shows_bearer : Shows bearer? where
  nil := rfl
  marks m nonempty inMark rest := by
    have tail : m ∈ mark.tails := (List.mem_tails m mark).2 inMark
    fin_cases tail
    all_goals first | rfl | exact absurd rfl nonempty
  before {other L cs out} kind marked none := by
    refine Option.eq_none_iff_forall_ne_some.2 fun rest taken => ?_
    obtain ⟨w, hw, rfl⟩ := takes_bearer?.sound taken
    have unmarked : '[' ∉ w := by
      obtain ⟨word, hword, _, h, rfl⟩ := Language.mem_mul.1 hw
      obtain ⟨blanks, hblanks, token, htoken, rfl⟩ := Language.mem_mul.1 h
      simp only [List.mem_append, not_or]
      exact ⟨not_mem_of_test (isTokenChar_of_mem_bearerSpelling hword) (by decide),
        not_mem_of_test hblanks.2 (by decide), not_mem_of_test htoken.2 (by decide)⟩
    obtain ⟨left, rfl, -⟩ := marked.kept unmarked
    exact takes_bearer?.eq_none_iff.1 none w hw ⟨left, rfl⟩

theorem shows_quotedSecret : Shows quotedSecret? where
  nil := rfl
  marks m nonempty inMark rest := by
    have tail : m ∈ mark.tails := (List.mem_tails m mark).2 inMark
    fin_cases tail
    all_goals first | rfl | exact absurd rfl nonempty
  before {other L cs out} kind marked none := by
    refine Option.eq_none_iff_forall_ne_some.2 fun rest taken => ?_
    obtain ⟨w, hw, rfl⟩ := takes_quotedSecret?.sound taken
    obtain ⟨p, hp, _, hvalue, rfl⟩ := Language.mem_mul.1 hw
    obtain ⟨v, -, _, hquote, rfl⟩ := Language.mem_mul.1 hvalue
    rw [mem_only.1 hquote, List.append_assoc] at marked
    obtain ⟨left, rfl, tail⟩ := marked.kept (no_bracket_opening hp)
    -- The value may go on over marks, but the quote where it ends is in no mark.
    have quote : '\x22' ∈ left := tail.mem kind (by simp) (by decide)
    obtain ⟨v', after, rfl, hv'⟩ := List.eq_append_cons_of_mem quote
    have inside : v' ∈ runs 0 (· ≠ '\x22') :=
      ⟨Nat.zero_le _, fun c hc => decide_eq_true fun e => hv' (e ▸ hc)⟩
    have secret : p ++ (v' ++ ['\x22']) ∈ quotedSecrets :=
      Language.append_mem_mul hp (Language.append_mem_mul inside (mem_only.2 rfl))
    exact takes_quotedSecret?.eq_none_iff.1 none _ secret ⟨after, by simp⟩

theorem shows_parameterSecret : Shows parameterSecret? where
  nil := rfl
  marks m nonempty inMark rest := by
    have tail : m ∈ mark.tails := (List.mem_tails m mark).2 inMark
    fin_cases tail
    all_goals first | rfl | exact absurd rfl nonempty
  before {other L cs out} kind marked none := by
    refine Option.eq_none_iff_forall_ne_some.2 fun rest taken => ?_
    obtain ⟨w, hw, rfl⟩ := takes_parameterSecret?.sound taken
    obtain ⟨name, hname, _, hset, rfl⟩ := Language.mem_mul.1 hw
    obtain ⟨_, hequals, value, hvalue, rfl⟩ := Language.mem_mul.1 hset
    obtain ⟨c, v, hc, rfl⟩ := beginsWith_runs 0 value hvalue
    have unmarked : '[' ∉ name ++ ['='] := by
      have word : '[' ∉ name :=
        not_mem_of_test (isTokenChar_of_mem_secretSpellings hname) (by decide)
      simp [word]
    rw [mem_only.1 hequals, ← List.append_assoc, List.append_assoc] at marked
    obtain ⟨left, rfl, tail⟩ := marked.kept unmarked
    obtain ⟨d, after, hd, rfl⟩ := tail.begins kind hc
    have secret : name ++ (['='] ++ [d]) ∈ parameters :=
      Language.append_mem_mul hname (Language.append_mem_mul (mem_only.2 rfl)
        ⟨Nat.le_refl _, fun c hc => List.mem_singleton.1 hc ▸ hd⟩)
    exact takes_parameterSecret?.eq_none_iff.1 none _ secret ⟨after, by simp⟩

/-! ## Blanks -/

section

variable {take? : List Char → Option (List Char)} {L : Language Char}

/-- A mark holds no blank, so what is replaced in a collapsed text leaves it collapsed. -/
theorem Marked.start (h : Marked take? cs out) (start : ∀ c ∈ cs.head?, isBlank c = false) :
    ∀ c ∈ out.head?, isBlank c = false := by
  cases h with
  | nil => exact start
  | keep _ _ => exact start
  | hide _ _ =>
    intro c hc
    rw [mark_eq] at hc
    exact Option.some.inj hc ▸ (by decide)

/-- What the outcome ends with fails a test if what the text ends with does and the mark does. -/
theorem Marked.finish {test : Char → Bool} (h : Marked take? cs out) (kind : Kind take? L)
    (bracket : test ']' = false) (finish : ∀ c ∈ cs.getLast?, test c = false) :
    ∀ c ∈ out.getLast?, test c = false := by
  induction h with
  | nil => exact finish
  | @keep c cs out _ tail ih =>
    by_cases last : cs = []
    · rw [(tail.eq_nil_iff kind).2 last]
      rw [last] at finish
      exact finish
    · have more : out ≠ [] := fun e => last ((tail.eq_nil_iff kind).1 e)
      rw [List.getLast?_cons_of_ne_nil more]
      rw [List.getLast?_cons_of_ne_nil last] at finish
      exact ih finish
  | @hide cs rest out some tail ih =>
    by_cases last : rest = []
    · rw [(tail.eq_nil_iff kind).2 last, List.append_nil]
      intro c hc
      exact Option.some.inj hc ▸ bracket
    · have more : out ≠ [] := fun e => last ((tail.eq_nil_iff kind).1 e)
      obtain ⟨w, -, rfl⟩ := kind.sound some
      rw [List.getLast?_append_of_ne_nil _ more]
      rw [List.getLast?_append_of_ne_nil _ last] at finish
      exact ih finish

theorem Marked.single (h : Marked take? cs out) (kind : Kind take? L)
    (single : cs.IsChain fun c d => isBlank c = true → isBlank d = false) :
    out.IsChain fun c d => isBlank c = true → isBlank d = false := by
  induction h with
  | nil => exact .nil
  | keep _ tail ih =>
    obtain ⟨next, single⟩ := List.isChain_cons.1 single
    exact (ih single).cons fun d hd blank => tail.start (fun d hd => next d hd blank) d hd
  | hide some _ ih =>
    obtain ⟨w, -, rfl⟩ := kind.sound some
    have inMark : mark.IsChain fun c d => isBlank c = true → isBlank d = false := by decide
    refine inMark.append (ih single.right_of_append) fun c hc d _ blank => ?_
    rw [← Option.some.inj hc] at blank
    exact absurd blank (by decide)

theorem collapsed_replaceAll (h : Collapsed cs) (kind : Kind take? L) :
    Collapsed (replaceAll take? cs) := by
  have marked := marked_replaceAll kind cs
  have start : ∀ c ∈ cs.head?, isBlank c = false := by
    intro c hc
    obtain ⟨ds, rfl⟩ := List.head?_eq_some_iff.1 hc
    exact h.start (List.cons_ne_nil c ds)
  have finish : ∀ c ∈ cs.getLast?, isBlank c = false := by
    intro c hc
    obtain ⟨ds, rfl⟩ := List.getLast?_eq_some_iff.1 hc
    simpa using h.finish
  refine ⟨⟨fun ne => ?_, fun ne => ?_⟩, fun c hc blank => ?_, marked.single kind h.single⟩
  · exact marked.start start _ (List.head?_eq_some_head ne)
  · exact marked.finish kind (by decide) finish _ (List.getLast?_eq_some_getLast ne)
  · have words : ∀ d ∈ mark, (!isBlank d) = true := List.all_eq_true.1 (by decide)
    have unmarked : c ∉ mark := not_mem_of_test words (by rw [blank]; rfl)
    exact h.spaces c (marked.mem kind hc unmarked) blank

end

/-! ## What is shown -/

/-- The kinds of credential as languages, in the order in which they are replaced. -/
def credentialLanguages : List (Language Char) := [bearers, quotedSecrets, parameters]

theorem redact_eq (cs : List Char) : redact cs = replaceAll parameterSecret?
    (replaceAll quotedSecret? (replaceAll bearer? (Text.collapseBlanks cs))) := rfl

theorem collapsed_redact (cs : List Char) : Collapsed (redact cs) :=
  have first := collapsed_replaceAll (Text.collapsed_collapseBlanks cs) kind_bearer
  collapsed_replaceAll (collapsed_replaceAll first kind_quotedSecret) kind_parameterSecret

theorem clear_bearer_redact (cs : List Char) : Clear bearer? (redact cs) :=
  ((clear_replaceAll_self kind_bearer shows_bearer _).replaceAll kind_quotedSecret
    shows_bearer).replaceAll kind_parameterSecret shows_bearer

theorem clear_quotedSecret_redact (cs : List Char) : Clear quotedSecret? (redact cs) :=
  (clear_replaceAll_self kind_quotedSecret shows_quotedSecret _).replaceAll kind_parameterSecret
    shows_quotedSecret

theorem clear_parameterSecret_redact (cs : List Char) : Clear parameterSecret? (redact cs) :=
  clear_replaceAll_self kind_parameterSecret shows_parameterSecret _

/-- What is redacted stays as it is. -/
theorem redact_redact (cs : List Char) : redact (redact cs) = redact cs := by
  rw [redact_eq (redact cs), Text.collapseBlanks_of_collapsed (collapsed_redact cs),
    replaceAll_of_clear (clear_bearer_redact cs),
    replaceAll_of_clear (clear_quotedSecret_redact cs),
    replaceAll_of_clear (clear_parameterSecret_redact cs)]

/-- **Redaction leaves no credential, and nothing to do.**  No part of what a text is redacted to is
a credential of any kind, whether it was there before or marks have made it; there are no blanks but
single spaces between words.  All of it is shown up to the limit, and what it is shown as is the
same if it is redacted again. -/
theorem redact_settled (body : String) :
    let shown := redact body.toList
    (∀ L ∈ credentialLanguages, ∀ w ∈ L, ¬w <:+: shown)
      ∧ Collapsed shown
      ∧ excerpt body = (if shown.length ≤ 256 then String.ofList shown
          else String.ofList (shown.take 256) ++ "...[truncated]")
      ∧ excerpt (String.ofList shown) = excerpt body := by
  intro shown
  refine ⟨?_, collapsed_redact _, ?_, ?_⟩
  · intro L hL
    simp only [credentialLanguages, List.mem_cons, List.not_mem_nil, or_false] at hL
    rcases hL with rfl | rfl | rfl
    · exact takes_bearer?.clear_iff.1 (clear_bearer_redact _)
    · exact takes_quotedSecret?.clear_iff.1 (clear_quotedSecret_redact _)
    · exact takes_parameterSecret?.clear_iff.1 (clear_parameterSecret_redact _)
  · show (if 256 < shown.length then _ else _) = _
    by_cases short : shown.length ≤ 256
    · rw [if_neg (Nat.not_lt.2 short), if_pos short]
    · rw [if_pos (Nat.not_le.1 short), if_neg short]
      rfl
  · rw [excerpt, excerpt, String.toList_ofList, redact_redact]

end Courier.Http
