/-
# Trimming — what is left of a text without the blanks at its ends

`Trimmed` is the normal form: no blank at the start and none at the end.  `trimChars` gives it
(`trimmed_trimChars`) and does nothing to a text that has it (`trimChars_of_trimmed`), and leaves
nothing exactly of a blank text (`trimChars_eq_nil_iff`).  Whatever can be told of a character only
if it is no blank, trimming keeps all of it (`filter_trimChars`).
-/
import Courier.Text.Blank
import Mathlib.Data.List.DropRight

namespace Courier.Text

/-- No blank stands at either end. -/
structure Trimmed (cs : List Char) : Prop where
  start : ∀ h : cs ≠ [], isBlank (cs.head h) = false
  finish : ∀ h : cs ≠ [], isBlank (cs.getLast h) = false

theorem trimRight_eq (cs : List Char) : trimRight cs = cs.rdropWhile isBlank := rfl

theorem trimmed_trimChars (cs : List Char) : Trimmed (trimChars cs) := by
  constructor
  · intro h
    -- What `trimRight` leaves begins as it did before.
    have start : trimChars cs <+: trimLeft cs := List.rdropWhile_prefix isBlank (trimLeft cs)
    have hl : trimLeft cs ≠ [] := fun e => h (List.prefix_nil.1 (e ▸ start))
    rw [start.head h]
    exact List.head_dropWhile_not isBlank hl
  · intro h
    exact Bool.eq_false_iff.2 (List.rdropWhile_last_not isBlank (trimLeft cs) h)

theorem trimChars_of_trimmed {cs : List Char} (h : Trimmed cs) : trimChars cs = cs := by
  have left : trimLeft cs = cs := by
    cases cs with
    | nil => rfl
    | cons c cs => exact List.dropWhile_cons_of_neg (by simpa using h.start (by simp))
  rw [trimChars, left, trimRight_eq]
  exact List.rdropWhile_eq_self_iff.2 fun hl => by simpa using h.finish hl

theorem trimChars_eq_nil_iff {cs : List Char} : trimChars cs = [] ↔ cs.all isBlank = true := by
  rw [trimChars, trimRight_eq, List.rdropWhile_eq_nil_iff, List.all_eq_true]
  constructor
  · intro h c hc
    have split : cs.takeWhile isBlank ++ trimLeft cs = cs := List.takeWhile_append_dropWhile
    rw [← split] at hc
    exact (List.mem_append.1 hc).elim (List.mem_takeWhile_imp ·) (h c)
  · exact fun h c hc => h c (List.dropWhile_subset _ hc)

theorem trimChars_subset (cs : List Char) : trimChars cs ⊆ cs := by
  intro c hc
  have start : trimChars cs <+: trimLeft cs := List.rdropWhile_prefix isBlank (trimLeft cs)
  exact List.dropWhile_subset isBlank (start.subset hc)

/-! ## What is kept -/

theorem filter_dropWhile_isBlank {test : Char → Bool} (h : ∀ c, isBlank c = true → test c = false)
    (cs : List Char) : (cs.dropWhile isBlank).filter test = cs.filter test := by
  have blanks : (cs.takeWhile isBlank).filter test = [] := by
    refine List.filter_eq_nil_iff.2 fun c hc => ?_
    rw [h c (List.mem_takeWhile_imp hc)]
    exact Bool.false_ne_true
  calc (cs.dropWhile isBlank).filter test
      = (cs.takeWhile isBlank).filter test ++ (cs.dropWhile isBlank).filter test := by
        rw [blanks, List.nil_append]
    _ = cs.filter test := by rw [← List.filter_append, List.takeWhile_append_dropWhile]

theorem filter_trimRight {test : Char → Bool} (h : ∀ c, isBlank c = true → test c = false)
    (cs : List Char) : (trimRight cs).filter test = cs.filter test := by
  rw [trimRight, List.filter_reverse, filter_dropWhile_isBlank h, List.filter_reverse,
    List.reverse_reverse]

theorem filter_trimChars {test : Char → Bool} (h : ∀ c, isBlank c = true → test c = false)
    (cs : List Char) : (trimChars cs).filter test = cs.filter test := by
  rw [trimChars, filter_trimRight h, trimLeft, filter_dropWhile_isBlank h]

/-! ## Texts in two parts -/

theorem trimRight_append_of_eq_nil {cs ds : List Char} (h : trimRight ds = []) :
    trimRight (cs ++ ds) = trimRight cs := by
  have blanks : ∀ d ∈ ds.reverse, isBlank d = true := fun d hd =>
    List.rdropWhile_eq_nil_iff.1 h d (List.mem_reverse.1 hd)
  rw [trimRight, List.reverse_append, List.dropWhile_append_of_pos blanks, ← trimRight]

theorem trimRight_append_of_ne_nil {cs ds : List Char} (h : trimRight ds ≠ []) :
    trimRight (cs ++ ds) = cs ++ trimRight ds := by
  have left : (ds.reverse.dropWhile isBlank).isEmpty = false := by
    rw [List.isEmpty_eq_false_iff]
    exact fun e => h (by rw [trimRight, e, List.reverse_nil])
  rw [trimRight, List.reverse_append, List.dropWhile_append, left]
  simp [trimRight]

/-- The blanks after a text that ends in none are dropped by themselves. -/
theorem trimRight_append {cs ds : List Char} (h : ∀ c ∈ cs.getLast?, isBlank c = false) :
    trimRight (cs ++ ds) = cs ++ trimRight ds := by
  by_cases empty : trimRight ds = []
  · rw [trimRight_append_of_eq_nil empty, empty, List.append_nil, trimRight_eq]
    refine List.rdropWhile_eq_self_iff.2 fun hl => ?_
    rw [h _ (List.getLast?_eq_some_getLast hl)]
    exact Bool.false_ne_true
  · exact trimRight_append_of_ne_nil empty

end Courier.Text
