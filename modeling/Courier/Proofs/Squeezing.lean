/-
# Squeezing — collapsing blanks as a machine that goes through the text

`Text.collapseBlanks` splits a text into its words and joins them again.  `Text.squeeze` does the
same character by character: it only remembers whether a word has just ended, and it leaves a space
at the end where a text ends in blanks (`collapseBlanks_eq`).  So what becomes of a text can be said
part by part: a part that ends in no blank is squeezed by itself, and the rest after it
(`collapseBlanks_append`).

`Collapsed` is the normal form, which is reached and kept (`collapsed_collapseBlanks`,
`collapseBlanks_of_collapsed`).
-/
import Courier.Proofs.Trimming
import Mathlib.Data.List.Chain

namespace Courier.Text

variable {cs ds : List Char}

/-! ## The last character -/

theorem finish_concat {test : Char → Bool} {d : Char} (h : test d = false) (cs : List Char) :
    ∀ c ∈ (cs ++ [d]).getLast?, test c = false := by
  intro c hc
  rw [List.getLast?_concat] at hc
  exact Option.some.inj hc ▸ h

/-! ## The machine -/

/-- The text with every run of blanks turned into one space; a run at the start is dropped unless a
word stands before it, which `afterWord` says. -/
def squeeze (afterWord : Bool) : List Char → List Char
  | [] => []
  | c :: cs =>
    if isBlank c then (if afterWord then [' '] else []) ++ squeeze false cs
    else c :: squeeze true cs

@[simp] theorem squeeze_nil (afterWord : Bool) : squeeze afterWord [] = [] := rfl

theorem squeeze_cons_of_blank {c : Char} (h : isBlank c = true) (afterWord : Bool) :
    squeeze afterWord (c :: cs) = (if afterWord then [' '] else []) ++ squeeze false cs := by
  rw [squeeze, if_pos h]

theorem squeeze_cons_of_not_blank {c : Char} (h : isBlank c = false) (afterWord : Bool) :
    squeeze afterWord (c :: cs) = c :: squeeze true cs := by
  rw [squeeze, if_neg (by simp [h])]

/-- What is squeezed before a character that is no blank does not depend on what follows. -/
theorem squeeze_append_cons {c : Char} (h : isBlank c = false) (afterWord : Bool) (cs ds) :
    squeeze afterWord (cs ++ c :: ds) = squeeze afterWord cs ++ c :: squeeze true ds := by
  induction cs generalizing afterWord with
  | nil => exact squeeze_cons_of_not_blank h afterWord
  | cons b cs ih =>
    cases hb : isBlank b with
    | true =>
      rw [List.cons_append, squeeze_cons_of_blank hb, squeeze_cons_of_blank hb, ih,
        List.append_assoc]
    | false =>
      rw [List.cons_append, squeeze_cons_of_not_blank hb, squeeze_cons_of_not_blank hb, ih,
        List.cons_append]

/-- A word is left as it is. -/
theorem squeeze_append_of_word (h : ∀ c ∈ cs, isBlank c = false) (nonempty : cs ≠ [])
    (afterWord : Bool) : squeeze afterWord (cs ++ ds) = cs ++ squeeze true ds := by
  induction cs generalizing afterWord with
  | nil => exact absurd rfl nonempty
  | cons c cs ih =>
    rw [List.cons_append, squeeze_cons_of_not_blank (h c List.mem_cons_self)]
    by_cases last : cs = []
    · rw [last]; rfl
    · rw [ih (fun d hd => h d (List.mem_cons_of_mem c hd)) last, List.cons_append]

theorem squeeze_of_word (h : ∀ c ∈ cs, isBlank c = false) (nonempty : cs ≠ []) (afterWord : Bool) :
    squeeze afterWord cs = cs := by
  have alone : squeeze afterWord (cs ++ []) = cs ++ squeeze true [] :=
    squeeze_append_of_word h nonempty afterWord
  rwa [squeeze_nil, List.append_nil] at alone

/-- A word in a text is left as it is, and what stands before it and after it is squeezed. -/
theorem squeeze_append_word {w : List Char} (h : ∀ c ∈ w, isBlank c = false) (nonempty : w ≠ [])
    (afterWord : Bool) (pre post : List Char) :
    squeeze afterWord (pre ++ (w ++ post)) = squeeze afterWord pre ++ (w ++ squeeze true post) := by
  have word : squeeze true (w ++ post) = w ++ squeeze true post :=
    squeeze_append_of_word h nonempty true
  obtain ⟨c, w, rfl⟩ := List.exists_cons_of_ne_nil nonempty
  have first : isBlank c = false := h c List.mem_cons_self
  rw [List.cons_append, squeeze_cons_of_not_blank first] at word
  rw [List.cons_append, squeeze_append_cons first, word]

/-- Nothing but spaces is put in, and no other blank stays. -/
theorem mem_squeeze {c : Char} {afterWord : Bool} (h : c ∈ squeeze afterWord cs) :
    c = ' ' ∨ c ∈ cs ∧ isBlank c = false := by
  induction cs generalizing afterWord with
  | nil => cases h
  | cons b cs ih =>
    have later : c ∈ squeeze false cs ∨ c ∈ squeeze true cs →
        c = ' ' ∨ c ∈ b :: cs ∧ isBlank c = false := fun h =>
      (h.elim ih ih).imp id fun ⟨mem, word⟩ => ⟨List.mem_cons_of_mem b mem, word⟩
    cases hb : isBlank b with
    | true =>
      rw [squeeze_cons_of_blank hb] at h
      rcases List.mem_append.1 h with put | h
      · left
        cases afterWord with
        | true => exact List.mem_singleton.1 put
        | false => cases put
      · exact later (.inl h)
    | false =>
      rw [squeeze_cons_of_not_blank hb] at h
      rcases List.mem_cons.1 h with rfl | h
      · exact .inr ⟨List.mem_cons_self, hb⟩
      · exact later (.inr h)

/-! ## The ends of what is squeezed -/

theorem squeeze_true_ne_nil (h : cs ≠ []) : squeeze true cs ≠ [] := by
  obtain ⟨c, cs, rfl⟩ := List.exists_cons_of_ne_nil h
  cases hc : isBlank c with
  | true =>
    rw [squeeze_cons_of_blank hc]
    exact List.cons_ne_nil _ _
  | false =>
    rw [squeeze_cons_of_not_blank hc]
    exact List.cons_ne_nil _ _

section

variable {test : Char → Bool}

/-- If what a text ends with fails a test that spaces fail, so does what it is squeezed to. -/
theorem finish_squeeze (space : test ' ' = false) (h : ∀ c ∈ cs.getLast?, test c = false)
    (afterWord : Bool) : ∀ c ∈ (squeeze afterWord cs).getLast?, test c = false := by
  induction cs generalizing afterWord with
  | nil => exact h
  | cons b cs ih =>
    have finish : ∀ c ∈ cs.getLast?, test c = false := by
      intro c hc
      have nonempty : cs ≠ [] := by
        rintro rfl
        cases hc
      exact h c (by rwa [List.getLast?_cons_of_ne_nil nonempty])
    cases hb : isBlank b with
    | true =>
      rw [squeeze_cons_of_blank hb]
      by_cases empty : squeeze false cs = []
      · rw [empty, List.append_nil]
        cases afterWord with
        | true => exact fun c hc => Option.some.inj hc ▸ space
        | false => exact fun c hc => by cases hc
      · rw [List.getLast?_append_of_ne_nil _ empty]
        exact ih finish false
    | false =>
      rw [squeeze_cons_of_not_blank hb]
      by_cases empty : cs = []
      · rw [empty] at h ⊢
        exact h
      · rw [List.getLast?_cons_of_ne_nil (squeeze_true_ne_nil empty)]
        exact ih finish true

/-- If what a text begins with fails a test that spaces fail, so does what is left of it after a
word. -/
theorem start_squeeze (space : test ' ' = false) (h : ∀ c ∈ cs.head?, test c = false) :
    ∀ c ∈ (trimRight (squeeze true cs)).head?, test c = false := by
  intro c hc
  obtain ⟨left, dropped⟩ : trimRight (squeeze true cs) <+: squeeze true cs := by
    rw [trimRight_eq]
    exact List.rdropWhile_prefix isBlank _
  have first : c ∈ (squeeze true cs).head? := by
    obtain ⟨t, ht⟩ := List.head?_eq_some_iff.1 hc
    rw [← dropped, ht]
    rfl
  cases cs with
  | nil => cases first
  | cons b cs =>
    cases hb : isBlank b with
    | true =>
      rw [squeeze_cons_of_blank hb] at first
      exact Option.some.inj first ▸ space
    | false =>
      rw [squeeze_cons_of_not_blank hb] at first
      exact Option.some.inj first ▸ h b rfl

end

/-! ## The words of a text, and the machine -/

theorem words_cons_of_blank {c : Char} (h : isBlank c = true) : words (c :: cs) = words cs := by
  rw [words, List.splitOnP_cons_eq_if_modifyHead, if_pos h]
  exact List.filter_cons_of_neg (by simp)

/-- What is squeezed at the start is the words with spaces between them; what is squeezed after a
word goes on with this word. -/
theorem trimRight_squeeze (cs : List Char) :
    trimRight (squeeze false cs) = [' '].intercalate (words cs)
      ∧ ∀ head tail, cs.splitOnP isBlank = head :: tail →
        trimRight (squeeze true cs) = [' '].intercalate (head :: tail.filter (· ≠ [])) := by
  -- Both at once, because a blank ends a word and any other character begins one.
  induction cs with
  | nil =>
    refine ⟨rfl, fun head tail split => ?_⟩
    obtain ⟨rfl, rfl⟩ := List.cons.inj split
    rfl
  | cons c cs ih =>
    obtain ⟨fresh, going⟩ := ih
    cases hc : isBlank c with
    | true =>
      refine ⟨?_, fun head tail split => ?_⟩
      · rw [squeeze_cons_of_blank hc, words_cons_of_blank hc]
        exact fresh
      · rw [List.splitOnP_cons_eq_if_modifyHead, if_pos hc] at split
        obtain ⟨rfl, rfl⟩ := List.cons.inj split
        rw [squeeze_cons_of_blank hc, ← words]
        cases hw : words cs with
        | nil =>
          rw [hw] at fresh
          rw [trimRight_append_of_eq_nil fresh]
          rfl
        | cons w ws =>
          rw [hw] at fresh
          have word : w ≠ [] := by
            have mem : w ∈ words cs := hw ▸ List.mem_cons_self
            simpa using (List.mem_filter.1 mem).2
          have rest : trimRight (squeeze false cs) ≠ [] := by
            rw [fresh]
            cases ws with
            | nil => simpa using word
            | cons v vs => simp [List.intercalate_cons_cons, word]
          rw [trimRight_append_of_ne_nil rest, fresh, List.intercalate_cons_cons]
          rfl
    | false =>
      obtain ⟨head, tail, split⟩ := List.exists_cons_of_ne_nil (List.splitOnP_ne_nil isBlank cs)
      have split' : (c :: cs).splitOnP isBlank = (c :: head) :: tail := by
        rw [List.splitOnP_cons_eq_if_modifyHead, if_neg (by simp [hc]), split]
        rfl
      have step : c :: trimRight (squeeze true cs)
          = [' '].intercalate ((c :: head) :: tail.filter (· ≠ [])) := by
        rw [going head tail split]
        cases tail.filter (· ≠ []) with
        | nil => rfl
        | cons w ws => simp only [List.intercalate_cons_cons, List.cons_append]
      have squeezed : ∀ afterWord, trimRight (squeeze afterWord (c :: cs))
          = c :: trimRight (squeeze true cs) := by
        intro afterWord
        rw [squeeze_cons_of_not_blank hc]
        exact trimRight_append (finish_concat hc [])
      refine ⟨?_, fun head' tail' split'' => ?_⟩
      · rw [squeezed, step, words, split', List.filter_cons_of_pos (by simp)]
      · obtain ⟨rfl, rfl⟩ := List.cons.inj (split'.symm.trans split'')
        rw [squeezed, step]

theorem collapseBlanks_eq (cs : List Char) : collapseBlanks cs = trimRight (squeeze false cs) :=
  (trimRight_squeeze cs).1.symm

/-- What stands before a character that is no blank is squeezed by itself, and what follows it too.
-/
theorem collapseBlanks_append_cons {c : Char} (h : isBlank c = false) (cs ds : List Char) :
    collapseBlanks (cs ++ c :: ds) = squeeze false cs ++ c :: trimRight (squeeze true ds) := by
  rw [collapseBlanks_eq, squeeze_append_cons h, ← List.singleton_append, ← List.append_assoc,
    trimRight_append (finish_concat h _), List.append_assoc, List.singleton_append]

/-- What stands before a text and ends in no blank is squeezed by itself. -/
theorem collapseBlanks_append (nonempty : cs ≠ []) (h : ∀ c ∈ cs.getLast?, isBlank c = false) :
    collapseBlanks (cs ++ ds) = squeeze false cs ++ trimRight (squeeze true ds) := by
  obtain ⟨start, last, rfl⟩ : ∃ start last, cs = start ++ [last] :=
    ⟨cs.dropLast, cs.getLast nonempty, (List.dropLast_append_getLast nonempty).symm⟩
  have word : isBlank last = false := h last (by simp)
  have squeezed : squeeze false (start ++ [last]) = squeeze false start ++ [last] :=
    squeeze_append_cons word false start []
  rw [List.append_assoc, List.singleton_append, collapseBlanks_append_cons word, squeezed,
    List.append_assoc, List.singleton_append]

/-! ## The normal form -/

/-- No blank stands at either end, and the blanks between are single spaces. -/
structure Collapsed (cs : List Char) : Prop extends Trimmed cs where
  spaces : ∀ c ∈ cs, isBlank c = true → c = ' '
  single : cs.IsChain fun c d => isBlank c = true → isBlank d = false

theorem isChain_squeeze (afterWord : Bool) (cs : List Char) :
    (squeeze afterWord cs).IsChain (fun c d => isBlank c = true → isBlank d = false)
      ∧ (afterWord = false → ∀ c ∈ (squeeze afterWord cs).head?, isBlank c = false) := by
  induction cs generalizing afterWord with
  | nil => exact ⟨.nil, fun _ c h => by cases h⟩
  | cons c cs ih =>
    cases hc : isBlank c with
    | true =>
      obtain ⟨chain, start⟩ := ih false
      rw [squeeze_cons_of_blank hc]
      cases afterWord with
      | true => exact ⟨chain.cons fun d hd _ => start rfl d hd, fun h => by cases h⟩
      | false => exact ih false
    | false =>
      rw [squeeze_cons_of_not_blank hc]
      refine ⟨(ih true).1.cons fun d _ blank => ?_, fun _ d hd => Option.some.inj hd ▸ hc⟩
      rw [hc] at blank
      cases blank

theorem trimLeft_of_head (h : ∀ c ∈ cs.head?, isBlank c = false) : trimLeft cs = cs := by
  cases cs with
  | nil => rfl
  | cons c cs => exact List.dropWhile_cons_of_neg (by simpa using h c rfl)

theorem collapsed_collapseBlanks (cs : List Char) : Collapsed (collapseBlanks cs) := by
  have eq : collapseBlanks cs = trimChars (squeeze false cs) := by
    rw [collapseBlanks_eq, trimChars, trimLeft_of_head ((isChain_squeeze false cs).2 rfl)]
  have short : collapseBlanks cs <+: squeeze false cs := by
    rw [collapseBlanks_eq, trimRight_eq]
    exact List.rdropWhile_prefix isBlank _
  have single := (isChain_squeeze false cs).1
  obtain ⟨dropped, hd⟩ := short
  rw [← hd] at single
  refine ⟨eq ▸ trimmed_trimChars _, fun c hc blank => ?_, single.left_of_append⟩
  have before : c ∈ squeeze false cs := hd ▸ List.mem_append_left dropped hc
  rcases mem_squeeze before with space | ⟨-, word⟩
  · exact space
  · rw [word] at blank
    cases blank

/-- A text that is collapsed goes through the machine as it is. -/
theorem squeeze_of_collapsed {afterWord : Bool} (spaces : ∀ c ∈ cs, isBlank c = true → c = ' ')
    (single : cs.IsChain fun c d => isBlank c = true → isBlank d = false)
    (start : afterWord = false → ∀ c ∈ cs.head?, isBlank c = false) :
    squeeze afterWord cs = cs := by
  induction cs generalizing afterWord with
  | nil => rfl
  | cons c cs ih =>
    obtain ⟨next, single⟩ := List.isChain_cons.1 single
    have rest : ∀ afterWord, (afterWord = false → isBlank c = true) → squeeze afterWord cs = cs :=
      fun _ h => ih (fun d hd => spaces d (List.mem_cons_of_mem c hd)) single
        fun new d hd => next d hd (h new)
    cases hc : isBlank c with
    | true =>
      rw [squeeze_cons_of_blank hc, rest false fun _ => hc, spaces c List.mem_cons_self hc]
      cases afterWord with
      | true => rfl
      | false =>
        have word := start rfl c rfl
        rw [hc] at word
        cases word
    | false => rw [squeeze_cons_of_not_blank hc, rest true fun h => by cases h]

theorem collapseBlanks_of_collapsed (h : Collapsed cs) : collapseBlanks cs = cs := by
  have start : ∀ c ∈ cs.head?, isBlank c = false := by
    intro c hc
    obtain ⟨ds, rfl⟩ := List.head?_eq_some_iff.1 hc
    exact h.start (List.cons_ne_nil c ds)
  have trimmed := trimChars_of_trimmed h.toTrimmed
  rw [trimChars, trimLeft_of_head start] at trimmed
  rw [collapseBlanks_eq, squeeze_of_collapsed h.spaces h.single fun _ => start, trimmed]

end Courier.Text
