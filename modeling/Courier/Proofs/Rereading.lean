/-
# Rereading — what a written value is read as

The text of a value is read as that value wherever it stands (`ReadsBack`): nothing of the text is
left, and nothing is taken of what follows.  A text between quotes ends at the first quote that
stands for itself; a list and an object go on after a comma and end at their own sign, which no
item begins with; a number ends where the next sign of a document stands, or the document itself
(`Ends`).

Two things come back otherwise than they were written.  A reader keeps the members of an object as
a map, in the order of their names (`Value.asMaps`).  And a number that does not fit a word, or is a
float, is computed from its digits by operations that round, so nothing is said of values with such
numbers (`Exact`).

`read_write` is the round trip: a value without them is read from its text, its objects as maps.
-/
import Courier.Json.Reader
import Courier.Proofs.Written

namespace Courier.Json

open Courier.Http (intercalate_cons_eq toList_writeText trailing)

variable {cs ds rest : List Char}

/-! ## Texts -/

theorem hex4?_append {n : Nat} (h : hex4? cs = some (n, [])) (rest : List Char) :
    hex4? (cs ++ rest) = some (n, rest) := by
  match cs with
  | a :: b :: c :: d :: tail =>
    simp only [hex4?, Option.bind_eq_bind, Option.pure_def, Option.bind_eq_some_iff,
      Option.some.injEq, Prod.mk.injEq, List.cons_append] at h ⊢
    obtain ⟨w, hw, x, hx, y, hy, z, hz, number, rfl⟩ := h
    exact ⟨w, hw, x, hx, y, hy, z, hz, number, rfl⟩

/-- A control character is written by its code, which is none of a surrogate. -/
theorem escaped?_control {c : Char} (h : c.toNat < 0x20) (rest : List Char) :
    escaped? ('u' :: (hex4 c.toNat ++ rest)) = some (c, rest) := by
  have code : ∀ n < 0x20, hex4? (hex4 n) = some (n, []) := by decide
  have high : ¬(0xD800 ≤ c.toNat && c.toNat < 0xDC00) = true := by
    simp only [Bool.and_eq_true, decide_eq_true_eq]
    omega
  have low : ¬(0xDC00 ≤ c.toNat && c.toNat < 0xE000) = true := by
    simp only [Bool.and_eq_true, decide_eq_true_eq]
    omega
  simp only [escaped?, hex4?_append (code _ h), Option.bind_eq_bind, Option.bind_some, if_neg high,
    if_neg low, Char.ofNat_toNat]

/-- Whatever is written for a character is read in one step, as that character. -/
theorem readText_escape (fuel : Nat) (acc : List Char) (c : Char) (rest : List Char) :
    readText (fuel + 1) acc (escape c ++ rest) = readText fuel (c :: acc) rest := by
  rw [escape]
  split_ifs with quote backslash _ _ _ _ _ control
  -- Most characters with an escape have one letter for it.
  iterate 7
    · subst_vars
      rfl
  · show readText (fuel + 1) acc ('\\' :: 'u' :: (hex4 c.toNat ++ rest)) = _
    rw [readText, if_neg (by decide), if_pos rfl, escaped?_control control]
  · rw [List.singleton_append, readText, if_neg quote, if_neg backslash, if_neg control]

theorem readText_flatMap_escape {fuel : Nat} (enough : cs.length < fuel) (acc rest : List Char) :
    readText fuel acc (cs.flatMap escape ++ '\x22' :: rest)
      = some (String.ofList (acc.reverse ++ cs), rest) := by
  induction cs generalizing fuel acc with
  | nil =>
    obtain ⟨fuel, rfl⟩ := Nat.exists_eq_add_of_lt enough
    simp [readText]
  | cons c cs ih =>
    obtain ⟨fuel, rfl⟩ := Nat.exists_eq_add_of_lt enough
    rw [List.flatMap_cons, List.append_assoc, readText_escape, ih (by simp; omega)]
    simp

theorem length_le_flatMap_escape (cs : List Char) : cs.length ≤ (cs.flatMap escape).length := by
  have each (c : Char) : 1 ≤ (escape c).length := by
    rw [escape]
    split_ifs <;> simp
  induction cs with
  | nil => exact Nat.le_refl 0
  | cons c cs ih =>
    have := each c
    rw [List.flatMap_cons, List.length_append, List.length_cons]
    omega

/-- What is left of a document has at least as many characters as the text in front of it, so it
gives enough steps. -/
theorem readText_write (s : String) (rest : List Char) :
    let inside := s.toList.flatMap escape ++ '\x22' :: rest
    readText (inside.length + 1) [] inside = some (s, rest) := by
  intro inside
  have enough : s.toList.length < inside.length + 1 := by
    have := length_le_flatMap_escape s.toList
    simp only [inside, List.length_append, List.length_cons]
    omega
  rw [readText_flatMap_escape enough, List.reverse_nil, List.nil_append, String.ofList_toList]

/-! ## Numbers -/

/-- A place where a value may end: the end of the document, or a sign that follows values. -/
def Ends (rest : List Char) : Prop := ∀ c ∈ rest.head?, c = ',' ∨ c = ']' ∨ c = '\x7d'

/-- An integer that a word of 64 bits holds, with a sign or without. -/
def IsWord (i : Int) : Prop := -9223372036854775808 ≤ i ∧ i ≤ 18446744073709551615

theorem contains_signed64 {i : Int} : Decimal.signed64.contains i = true
    ↔ -9223372036854775808 ≤ i ∧ i ≤ 9223372036854775807 := by
  rw [Decimal.Range.contains, Bool.and_eq_true, decide_eq_true_eq, decide_eq_true_eq]
  rfl

theorem contains_unsigned64 {n : Nat} :
    Decimal.unsigned64.contains (n : Int) = true ↔ n ≤ 18446744073709551615 := by
  rw [Decimal.Range.contains, Bool.and_eq_true, decide_eq_true_eq, decide_eq_true_eq]
  show 0 ≤ (n : Int) ∧ (n : Int) ≤ 18446744073709551615 ↔ _
  omega

/-- Digits of a number that fits a word are all taken into it. -/
theorem significand_eq {acc : Nat} (fits : Nat.ofDigitChars 10 ds acc ≤ 18446744073709551615) :
    significand acc ds = (Nat.ofDigitChars 10 ds acc, 0) := by
  induction ds generalizing acc with
  | nil => rw [significand, Nat.ofDigitChars_nil]
  | cons d ds ih =>
    have step : acc * 10 + (d.toNat - 48) = 10 * acc + (d.toNat - '0'.toNat) := by
      rw [Nat.mul_comm]
      rfl
    rw [Nat.ofDigitChars_cons] at fits ⊢
    have grows : 10 * acc + (d.toNat - '0'.toNat)
        ≤ Nat.ofDigitChars 10 ds (10 * acc + (d.toNat - '0'.toNat)) := by
      rw [Nat.ofDigitChars_eq_ofDigitChars_zero]
      exact Nat.le_add_right_of_le (Nat.le_mul_of_pos_left _ (Nat.pow_pos (by decide)))
    have here : Decimal.unsigned64.contains
        ((10 * acc + (d.toNat - '0'.toNat) : Nat) : Int) = true :=
      contains_unsigned64.2 (Nat.le_trans grows fits)
    simp only [significand, step, if_pos here, ih fits]

section

variable {n : Nat}

theorem significand_toDigits (fits : n ≤ 18446744073709551615) :
    significand 0 (Nat.toDigits 10 n) = (n, 0) := by
  rw [significand_eq (by rwa [Nat.ofDigitChars_ten_toDigits]), Nat.ofDigitChars_ten_toDigits]

theorem head?_toDigits_ne (h : n ≠ 0) : (Nat.toDigits 10 n).head? ≠ some '0' := by
  induction n using Nat.strongRecOn with
  | _ n ih =>
    rw [Nat.toDigits_eq_if (by decide)]
    split
    · simpa using h
    · have shorter := ih (n / 10) (by omega) (by omega)
      rwa [List.head?_append_of_ne_nil _ Nat.toDigits_ne_nil]

/-- Digits that a reader refuses, none or a zero with others behind it, are never written. -/
theorem toDigits_plain (n : Nat) :
    (decide (Nat.toDigits 10 n = []) || (decide ((Nat.toDigits 10 n).length > 1)
      && decide ((Nat.toDigits 10 n).head? = some '0'))) = false := by
  rw [decide_eq_false Nat.toDigits_ne_nil, Bool.false_or, Bool.and_eq_false_iff]
  by_cases zero : n = 0
  · subst zero
    exact .inl rfl
  · exact .inr (decide_eq_false (head?_toDigits_ne zero))

theorem span_toDigits (ends : Ends rest) (n : Nat) :
    (Nat.toDigits 10 n ++ rest).takeWhile Char.isDigit = Nat.toDigits 10 n
      ∧ (Nat.toDigits 10 n ++ rest).dropWhile Char.isDigit = rest := by
  have digits : ∀ c ∈ Nat.toDigits 10 n, c.isDigit = true := fun c hc =>
    Nat.isDigit_of_mem_toDigits (by decide) (by decide) hc
  have stops : rest.takeWhile Char.isDigit = [] ∧ rest.dropWhile Char.isDigit = rest := by
    cases rest with
    | nil => exact ⟨rfl, rfl⟩
    | cons c rest => rcases ends c rfl with rfl | rfl | rfl <;> exact ⟨rfl, rfl⟩
  rw [List.takeWhile_append_of_pos digits, List.dropWhile_append_of_pos digits, stops.1, stops.2,
    List.append_nil]
  exact ⟨rfl, rfl⟩

theorem readNumber_toDigits (fits : n ≤ 18446744073709551615) (ends : Ends rest) :
    readNumber (Nat.toDigits 10 n ++ rest) = some (.int n, rest) := by
  obtain ⟨whole, left⟩ := span_toDigits ends n
  have unsigned : ∀ cs, Nat.toDigits 10 n ++ rest ≠ '-' :: cs := by
    intro cs minus
    rw [minus, List.takeWhile_cons_of_neg (by decide)] at whole
    exact Nat.toDigits_ne_nil whole.symm
  unfold readNumber
  simp only [whole, left, toDigits_plain n, significand_toDigits fits]
  cases rest with
  | nil => rfl
  | cons c rest => rcases ends c rfl with rfl | rfl | rfl <;> rfl

theorem readNumber_minus (fits : Decimal.signed64.contains (-(n : Int)) = true) (nonzero : n ≠ 0)
    (ends : Ends rest) :
    readNumber ('-' :: (Nat.toDigits 10 n ++ rest)) = some (.int (-n), rest) := by
  obtain ⟨whole, left⟩ := span_toDigits ends n
  have small : n ≤ 18446744073709551615 := by
    have := (contains_signed64.1 fits).1
    omega
  unfold readNumber
  simp only [whole, left, toDigits_plain n, significand_toDigits small]
  cases rest with
  | nil => simp [nonzero, fits]
  | cons c rest => rcases ends c rfl with rfl | rfl | rfl <;> simp [nonzero, fits]

theorem toList_write_natCast (n : Nat) : (Number.int n).write.toList = Nat.toDigits 10 n := by
  show (Int.repr n).toList = _
  rw [Int.repr_eq_if, if_pos (Int.natCast_nonneg n), Int.toNat_natCast, Nat.repr,
    String.toList_ofList]

theorem toList_write_neg (h : n ≠ 0) :
    (Number.int (-n)).write.toList = '-' :: Nat.toDigits 10 n := by
  show (Int.repr (-n)).toList = _
  rw [Int.repr_eq_if, if_neg (by omega), Int.neg_neg, Int.toNat_natCast, Nat.repr]
  simp only [String.toList_append, String.toList_ofList]
  rfl

end

theorem readNumber_write {i : Int} (word : IsWord i) (ends : Ends rest) :
    readNumber ((Number.int i).write.toList ++ rest) = some (.int i, rest) := by
  obtain ⟨low, high⟩ := word
  by_cases sign : 0 ≤ i
  · obtain ⟨n, rfl⟩ := Int.eq_ofNat_of_zero_le sign
    rw [toList_write_natCast]
    exact readNumber_toDigits (by omega) ends
  · obtain ⟨n, rfl⟩ : ∃ n : Nat, i = -n := ⟨i.natAbs, by omega⟩
    have nonzero : n ≠ 0 := by omega
    rw [toList_write_neg nonzero]
    exact readNumber_minus (contains_signed64.2 (by omega)) nonzero ends

theorem starts_number (i : Int) :
    ∃ c cs, (Number.int i).write.toList = c :: cs ∧ (c = '-' ∨ c.isDigit = true) := by
  by_cases sign : 0 ≤ i
  · obtain ⟨n, rfl⟩ := Int.eq_ofNat_of_zero_le sign
    obtain ⟨c, cs, split⟩ := List.exists_cons_of_ne_nil (Nat.toDigits_ne_nil (n := n) (b := 10))
    have digit : c.isDigit = true :=
      Nat.isDigit_of_mem_toDigits (by decide) (by decide) (split ▸ List.mem_cons_self)
    exact ⟨c, cs, (toList_write_natCast n).trans split, .inr digit⟩
  · obtain ⟨n, rfl⟩ : ∃ n : Nat, i = -n := ⟨i.natAbs, by omega⟩
    exact ⟨'-', _, toList_write_neg (by omega), .inl rfl⟩

/-! ## Values -/

mutual
/-- A value with the members of each object as a map. -/
def Value.asMaps : Value → Value
  | .null => .null
  | .bool b => .bool b
  | .number n => .number n
  | .text s => .text s
  | .list items => .list (itemsAsMaps items)
  | .object members => .object (Entries.ofList (membersAsMaps members))

/-- Items, each with its objects as maps. -/
def Value.itemsAsMaps : List Value → List Value
  | [] => []
  | v :: vs => v.asMaps :: itemsAsMaps vs

/-- Members, each with the objects in its value as maps. -/
def Value.membersAsMaps : List (String × Value) → List (String × Value)
  | [] => []
  | (name, v) :: rest => (name, v.asMaps) :: membersAsMaps rest
end

/-- A value whose numbers are integers that fit a word. -/
inductive Exact : Value → Prop
  | null : Exact .null
  | bool (b : Bool) : Exact (.bool b)
  | int {i : Int} : IsWord i → Exact (.number (.int i))
  | text (s : String) : Exact (.text s)
  | list {items : List Value} : (∀ v ∈ items, Exact v) → Exact (.list items)
  | object {members : List (String × Value)} :
      (∀ m ∈ members, Exact m.2) → Exact (.object members)

/-- Wherever the text of a value stands, the value is read and nothing beyond its text.  The text
begins with no blank, which would be dropped, and not with the sign that ends a list. -/
structure ReadsBack (v : Value) : Prop where
  starts : ∃ c cs, v.write.toList = c :: cs ∧ c ∉ [' ', '\n', '\r', '\t'] ∧ c ≠ ']'
  reads : ∀ fuel rest, Ends rest → 2 * v.write.toList.length ≤ fuel →
    readValue (fuel + 1) (v.write.toList ++ rest) = some (v.asMaps, rest)

theorem skipBlanks_cons {c : Char} (h : c ∉ [' ', '\n', '\r', '\t']) (cs : List Char) :
    skipBlanks (c :: cs) = c :: cs := by
  simp only [List.mem_cons, List.not_mem_nil, or_false, not_or] at h
  obtain ⟨space, line, ret, tab⟩ := h
  exact List.dropWhile_cons_of_neg (by simp [space, line, ret, tab])

theorem readsBack_null : ReadsBack .null where
  starts := ⟨'n', _, rfl, by decide⟩
  reads _ _ _ _ := rfl

theorem readsBack_bool : ∀ b, ReadsBack (.bool b)
  | true => ⟨⟨'t', _, rfl, by decide⟩, fun _ _ _ _ => rfl⟩
  | false => ⟨⟨'f', _, rfl, by decide⟩, fun _ _ _ _ => rfl⟩

theorem readsBack_int {i : Int} (word : IsWord i) : ReadsBack (.number (.int i)) := by
  obtain ⟨c, cs, split, sign⟩ := starts_number i
  have other : ∀ d : Char, d ≠ '-' → d.isDigit = false → c ≠ d := by
    rintro d minus digit rfl
    rcases sign with rfl | sign
    · exact minus rfl
    · exact Bool.false_ne_true (digit.symm.trans sign)
  have visible : c ∉ [' ', '\n', '\r', '\t'] := by simp [other]
  refine ⟨⟨c, cs, split, visible, other ']' (by decide) (by decide)⟩, ?_⟩
  intro fuel rest ends _
  have number := readNumber_write word ends
  show readValue (fuel + 1) ((Number.int i).write.toList ++ rest) = _
  rw [split, List.cons_append] at number ⊢
  rw [readValue, skipBlanks_cons visible]
  simp [other, number, Value.asMaps]

theorem readsBack_text (s : String) : ReadsBack (.text s) := by
  have written : (Value.text s).write.toList = '\x22' :: (s.toList.flatMap escape ++ ['\x22']) :=
    toList_writeText s
  refine ⟨⟨'\x22', _, written, by decide⟩, fun fuel rest _ _ => ?_⟩
  rw [written, List.cons_append, List.append_assoc, List.singleton_append, readValue,
    skipBlanks_cons (by decide)]
  show (readText _ [] (s.toList.flatMap escape ++ '\x22' :: rest)).map _ = _
  rw [readText_write]
  rfl

/-! ## Lists and objects -/

theorem ends_comma (rest : List Char) : Ends (',' :: rest) := by
  rintro c ⟨⟩
  exact .inl rfl

theorem ends_closing {sign : Char} (h : sign = ']' ∨ sign = '\x7d') (rest : List Char) :
    Ends (sign :: rest) := by
  rintro c ⟨⟩
  exact .inr h

section

variable {v : Value} {fuel : Nat}

/-- After an item and a comma the list goes on. -/
theorem readItems_comma (h : ReadsBack v) (enough : 2 * v.write.toList.length < fuel)
    (acc : List Value) (rest : List Char) :
    readItems (fuel + 1) acc (v.write.toList ++ ',' :: rest)
      = readItems fuel (v.asMaps :: acc) rest := by
  obtain ⟨fuel, rfl⟩ := Nat.exists_eq_add_of_lt enough
  rw [readItems, h.reads _ _ (ends_comma rest) (by omega)]
  rfl

/-- After an item and its sign the list ends. -/
theorem readItems_closing (h : ReadsBack v) (enough : 2 * v.write.toList.length < fuel)
    (acc : List Value) (rest : List Char) :
    readItems (fuel + 1) acc (v.write.toList ++ ']' :: rest)
      = some (.list (v.asMaps :: acc).reverse, rest) := by
  obtain ⟨fuel, rfl⟩ := Nat.exists_eq_add_of_lt enough
  rw [readItems, h.reads _ _ (ends_closing (.inl rfl) rest) (by omega)]
  rfl

theorem toList_member_append (name : String) (v : Value) (rest : List Char) :
    (writeText name ++ ":" ++ v.write).toList ++ rest
      = '\x22' :: (name.toList.flatMap escape ++ '\x22' :: ':' :: (v.write.toList ++ rest)) := by
  simp only [String.toList_append, toList_writeText]
  simp

/-- After a member and a comma the object goes on. -/
theorem readMembers_comma (h : ReadsBack v) (enough : 2 * v.write.toList.length < fuel)
    (name : String) (acc : List (String × Value)) (rest : List Char) :
    readMembers (fuel + 1) acc ((writeText name ++ ":" ++ v.write).toList ++ ',' :: rest)
      = readMembers fuel (Entries.insert name v.asMaps acc) rest := by
  obtain ⟨fuel, rfl⟩ := Nat.exists_eq_add_of_lt enough
  rw [toList_member_append, readMembers, skipBlanks_cons (by decide)]
  simp only [readText_write]
  rw [skipBlanks_cons (by decide)]
  simp only [h.reads (2 * v.write.toList.length + fuel) _ (ends_comma rest) (by omega)]
  rfl

/-- After a member and its sign the object ends. -/
theorem readMembers_closing (h : ReadsBack v) (enough : 2 * v.write.toList.length < fuel)
    (name : String) (acc : List (String × Value)) (rest : List Char) :
    readMembers (fuel + 1) acc ((writeText name ++ ":" ++ v.write).toList ++ '\x7d' :: rest)
      = some (.object (Entries.insert name v.asMaps acc), rest) := by
  obtain ⟨fuel, rfl⟩ := Nat.exists_eq_add_of_lt enough
  rw [toList_member_append, readMembers, skipBlanks_cons (by decide)]
  simp only [readText_write]
  rw [skipBlanks_cons (by decide)]
  simp only [h.reads (2 * v.write.toList.length + fuel) _ (ends_closing (.inr rfl) rest) (by omega)]
  rfl

end

/-- The texts of items as they stand in a list. -/
def itemTexts (items : List Value) : List (List Char) :=
  (Value.writeItems items).map String.toList

/-- The texts of members as they stand in an object. -/
def memberTexts (members : List (String × Value)) : List (List Char) :=
  (Value.writeMembers members).map String.toList

theorem readItems_write {v : Value} {items : List Value} (h : ∀ w ∈ v :: items, ReadsBack w)
    (fuel : Nat) (acc : List Value) (rest : List Char)
    (enough : 2 * (v.write.toList ++ trailing (itemTexts items)).length < fuel) :
    readItems (fuel + 1) acc (v.write.toList ++ (trailing (itemTexts items) ++ ']' :: rest))
      = some (.list (acc.reverse ++ Value.itemsAsMaps (v :: items)), rest) := by
  induction items generalizing v fuel acc with
  | nil =>
    have last : trailing (itemTexts []) = [] := rfl
    rw [last, List.append_nil] at enough
    rw [last, List.nil_append, readItems_closing (h v List.mem_cons_self) enough]
    simp [Value.itemsAsMaps]
  | cons w items ih =>
    have next : trailing (itemTexts (w :: items))
        = ',' :: (w.write.toList ++ trailing (itemTexts items)) := rfl
    rw [next, List.length_append, List.length_cons] at enough
    obtain ⟨fuel, rfl⟩ : ∃ f, fuel = f + 1 := ⟨fuel - 1, by omega⟩
    rw [next, List.cons_append, List.append_assoc,
      readItems_comma (h v List.mem_cons_self) (by omega),
      ih (fun u hu => h u (List.mem_cons_of_mem v hu)) fuel _ (by omega)]
    simp [Value.itemsAsMaps]

theorem readMembers_write {name : String} {v : Value} {members : List (String × Value)}
    (h : ∀ m ∈ (name, v) :: members, ReadsBack m.2) (fuel : Nat) (acc : List (String × Value))
    (rest : List Char)
    (enough : 2 * ((writeText name ++ ":" ++ v.write).toList
      ++ trailing (memberTexts members)).length < fuel) :
    readMembers (fuel + 1) acc ((writeText name ++ ":" ++ v.write).toList
        ++ (trailing (memberTexts members) ++ '\x7d' :: rest))
      = some (.object ((Value.membersAsMaps ((name, v) :: members)).foldl
          (fun es (k, a) => Entries.insert k a es) acc), rest) := by
  have inside (name : String) (v : Value) :
      v.write.toList.length ≤ (writeText name ++ ":" ++ v.write).toList.length := by
    rw [String.toList_append, List.length_append]
    exact Nat.le_add_left _ _
  induction members generalizing name v fuel acc with
  | nil =>
    have last : trailing (memberTexts []) = [] := rfl
    have first : ReadsBack v := h _ List.mem_cons_self
    have := inside name v
    rw [last, List.append_nil] at enough
    rw [last, List.nil_append, readMembers_closing first (by omega)]
    rfl
  | cons m members ih =>
    have next : trailing (memberTexts (m :: members))
        = ',' :: ((writeText m.1 ++ ":" ++ m.2.write).toList ++ trailing (memberTexts members)) :=
      rfl
    have first : ReadsBack v := h _ List.mem_cons_self
    have := inside name v
    rw [next, List.length_append, List.length_cons] at enough
    obtain ⟨fuel, rfl⟩ : ∃ f, fuel = f + 1 := ⟨fuel - 1, by omega⟩
    rw [next, List.cons_append, List.append_assoc, readMembers_comma first (by omega),
      ih (fun u hu => h u (List.mem_cons_of_mem _ hu)) fuel _ (by omega)]
    rfl

theorem readsBack_list {items : List Value} (h : ∀ v ∈ items, ReadsBack v) :
    ReadsBack (.list items) := by
  cases items with
  | nil => exact ⟨⟨'[', _, rfl, by decide⟩, fun _ _ _ _ => rfl⟩
  | cons v items =>
    have written : (Value.list (v :: items)).write.toList
        = '[' :: (v.write.toList ++ (trailing (itemTexts items) ++ [']'])) := by
      simp [Value.write, Value.writeItems, itemTexts, String.toList_append,
        String.toList_intercalate, intercalate_cons_eq]
    refine ⟨⟨'[', _, written, by decide⟩, fun fuel rest _ enough => ?_⟩
    rw [written] at enough ⊢
    simp only [List.length_cons, List.length_append, List.length_nil] at enough
    obtain ⟨fuel, rfl⟩ : ∃ f, fuel = f + 1 := ⟨fuel - 1, by omega⟩
    have read := readItems_write h fuel [] rest (by rw [List.length_append]; omega)
    -- The list is not taken for an empty one.
    obtain ⟨c, cs, split, visible, other⟩ := (h v List.mem_cons_self).starts
    simp only [split, List.cons_append, List.append_assoc] at read ⊢
    rw [readValue, skipBlanks_cons (by decide)]
    simp only
    rw [skipBlanks_cons visible]
    simp [other, read, Value.asMaps]

theorem readsBack_object {members : List (String × Value)} (h : ∀ m ∈ members, ReadsBack m.2) :
    ReadsBack (.object members) := by
  cases members with
  | nil => exact ⟨⟨'\x7b', _, rfl, by decide⟩, fun _ _ _ _ => rfl⟩
  | cons m members =>
    obtain ⟨name, v⟩ := m
    have written : (Value.object ((name, v) :: members)).write.toList
        = '\x7b' :: ((writeText name ++ ":" ++ v.write).toList
          ++ (trailing (memberTexts members) ++ ['\x7d'])) := by
      simp [Value.write, Value.writeMembers, memberTexts, String.toList_append,
        String.toList_intercalate, intercalate_cons_eq]
    refine ⟨⟨'\x7b', _, written, by decide⟩, fun fuel rest _ enough => ?_⟩
    rw [written] at enough ⊢
    simp only [List.length_cons, List.length_append, List.length_nil] at enough
    obtain ⟨fuel, rfl⟩ : ∃ f, fuel = f + 1 := ⟨fuel - 1, by omega⟩
    have read := readMembers_write h fuel [] rest (by rw [List.length_append]; omega)
    simp only [List.cons_append, List.append_assoc, List.nil_append, toList_member_append] at read ⊢
    rw [readValue, skipBlanks_cons (by decide)]
    simp only
    rw [skipBlanks_cons (by decide)]
    exact read

theorem Exact.readsBack {v : Value} (h : Exact v) : ReadsBack v := by
  induction h with
  | null => exact readsBack_null
  | bool b => exact readsBack_bool b
  | int word => exact readsBack_int word
  | text s => exact readsBack_text s
  | list _ ih => exact readsBack_list ih
  | object _ ih => exact readsBack_object ih

/-- **The round trip.**  A value whose numbers fit words is read from its text, with the members of
each object as a map. -/
theorem read_write {v : Value} (h : Exact v) : read v.write = some v.asMaps := by
  have whole := h.readsBack.reads (2 * v.write.toList.length + 1) [] nofun (by omega)
  rw [List.append_nil] at whole
  simp only [read, whole]
  rfl

end Courier.Json
