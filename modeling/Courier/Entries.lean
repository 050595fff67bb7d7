/-
# Entries — finite maps from text, kept in the order of their keys

A map is a list of pairs whose keys increase strictly in the order of code points.  `Sorted` is
that invariant; `insert` keeps it, and `find?` sees exactly what it says:

* `find?_insert_self`, `find?_insert_ne`: an insertion changes one key and no other;
* `sorted_insert`, `sorted_ofList`: what is built here is sorted.
-/

namespace Courier.Entries

variable {α : Type}

/-- The keys increase strictly. -/
def Sorted (es : List (String × α)) : Prop := es.Pairwise fun a b => a.1 < b.1

/-- The value of a key. -/
def find? (k : String) : List (String × α) → Option α
  | [] => none
  | (k', a) :: es => if k = k' then some a else find? k es

/-- Gives a key a value, in place of the one it may have. -/
def insert (k : String) (a : α) : List (String × α) → List (String × α)
  | [] => [(k, a)]
  | (k', a') :: es =>
    if k < k' then (k, a) :: (k', a') :: es
    else if k = k' then (k, a) :: es
    else (k', a') :: insert k a es

/-- Gives a key a value unless it has one. -/
def insertMissing (k : String) (a : α) (es : List (String × α)) : List (String × α) :=
  match find? k es with
  | some _ => es
  | none => insert k a es

/-- The map of a list of pairs; of two pairs with one key the later counts. -/
def ofList (pairs : List (String × α)) : List (String × α) :=
  pairs.foldl (fun es (k, a) => insert k a es) []

/-! ## Laws -/

theorem find?_insert_self (k : String) (a : α) (es : List (String × α)) :
    find? k (insert k a es) = some a := by
  induction es with
  | nil => simp [insert, find?]
  | cons e es ih =>
    obtain ⟨k', a'⟩ := e
    simp only [insert]
    split
    · simp [find?]
    · split
      · simp [find?]
      · simp [find?, *]

theorem find?_insert_ne {k k' : String} (h : k ≠ k') (a : α) (es : List (String × α)) :
    find? k (insert k' a es) = find? k es := by
  induction es with
  | nil => simp [insert, find?, h]
  | cons e es ih =>
    obtain ⟨k₀, a₀⟩ := e
    simp only [insert]
    split
    · simp [find?, h]
    · split
      · rename_i h₁ h₂
        subst h₂
        simp [find?, h]
      · simp [find?, ih]

theorem insert_nil (k : String) (a : α) : insert k a [] = [(k, a)] := rfl

theorem insert_of_lt {k k' : String} (h : k < k') (a a' : α) (es : List (String × α)) :
    insert k a ((k', a') :: es) = (k, a) :: (k', a') :: es := if_pos h

theorem insert_of_gt {k k' : String} (h : k' < k) (a a' : α) (es : List (String × α)) :
    insert k a ((k', a') :: es) = (k', a') :: insert k a es := by
  have other : k ≠ k' := fun same => String.lt_irrefl _ (same ▸ h)
  rw [insert, if_neg (String.lt_asymm h), if_neg other]

theorem isSome_find? (k : String) (es : List (String × α)) :
    (find? k es).isSome = true ↔ k ∈ es.map (·.1) := by
  induction es with
  | nil => simp [find?]
  | cons e es ih =>
    by_cases h : k = e.1
    · simp [find?, h]
    · simp [find?, h, ih]

theorem mem_insert {k : String} {a : α} {e : String × α} {es : List (String × α)}
    (h : e ∈ insert k a es) : e = (k, a) ∨ e ∈ es := by
  induction es with
  | nil => simpa [insert] using h
  | cons e' es ih =>
    obtain ⟨k', a'⟩ := e'
    simp only [insert] at h
    split at h
    · simpa using h
    · split at h
      · rcases List.mem_cons.1 h with h | h
        · exact .inl h
        · exact .inr (List.mem_cons_of_mem _ h)
      · rcases List.mem_cons.1 h with h | h
        · exact .inr (h ▸ List.mem_cons_self)
        · exact (ih h).imp id (List.mem_cons_of_mem _)

theorem sorted_nil : Sorted ([] : List (String × α)) := List.Pairwise.nil

theorem sorted_insert (k : String) (a : α) {es : List (String × α)} (h : Sorted es) :
    Sorted (insert k a es) := by
  induction es with
  | nil => exact List.pairwise_singleton _ _
  | cons e es ih =>
    obtain ⟨k', a'⟩ := e
    have ⟨hd, tl⟩ := List.pairwise_cons.1 h
    simp only [insert]
    split
    · rename_i lt
      refine List.pairwise_cons.2 ⟨fun e he => ?_, h⟩
      rcases List.mem_cons.1 he with rfl | he
      · exact lt
      · exact String.lt_trans lt (hd e he)
    · split
      · rename_i _ eq
        subst eq
        exact List.pairwise_cons.2 ⟨hd, tl⟩
      · rename_i nlt ne
        refine List.pairwise_cons.2 ⟨fun e he => ?_, ih tl⟩
        rcases mem_insert he with rfl | he
        · exact String.not_le.1 fun le => ne (String.le_antisymm le (String.not_lt.1 nlt))
        · exact hd e he

theorem sorted_insertMissing (k : String) (a : α) {es : List (String × α)} (h : Sorted es) :
    Sorted (insertMissing k a es) := by
  unfold insertMissing
  split
  · exact h
  · exact sorted_insert k a h

theorem sorted_foldl (pairs es : List (String × α)) (h : Sorted es) :
    Sorted (pairs.foldl (fun es (k, a) => insert k a es) es) := by
  induction pairs generalizing es with
  | nil => exact h
  | cons p ps ih => exact ih _ (sorted_insert _ _ h)

theorem sorted_ofList (pairs : List (String × α)) : Sorted (ofList pairs) :=
  sorted_foldl pairs [] sorted_nil

end Courier.Entries
