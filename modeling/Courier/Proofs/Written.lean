/-
# Written documents — a value as it stands in a text, and what is shown of it

The text of a JSON value may follow any sign of a document (`mayFollow_write`): numbers have no
quotes, and what is written between quotes escapes its own.  So in the text of an object each member
stands at a place where a member may begin, and two objects that differ in a secret are shown alike,
if neither secret holds a quote (`excerpt_write`).
-/
import Courier.Proofs.Document

namespace Courier.Http

open Courier.Json (Value Number escape hex4 writeText)
open Courier.Text (isBlank)

variable {cs ds s : List Char}

/-! ## Texts without quotes -/

theorem quote_not_mem_toDigits (n : Nat) : '\x22' ∉ Nat.toDigits 10 n := by
  intro mem
  have digit : '\x22'.isDigit = true := Nat.isDigit_of_mem_toDigits (by decide) (by decide) mem
  exact absurd digit (by decide)

theorem quote_not_mem_repr (n : Nat) : '\x22' ∉ n.repr.toList := by
  rw [Nat.repr, String.toList_ofList]
  exact quote_not_mem_toDigits n

theorem quote_not_mem_positional (c : Nat) (e : Int) :
    '\x22' ∉ (Decimal.positional c e).toList := by
  have digits := quote_not_mem_toDigits c
  have zeros (n : Nat) : '\x22' ∉ List.replicate n '0' := fun mem =>
    absurd (List.eq_of_mem_replicate mem) (by decide)
  rw [Decimal.positional]
  split
  · simp [digits]
  · have padded : '\x22' ∉ List.replicate ((-e).toNat + 1 - (Nat.toDigits 10 c).length) '0'
        ++ Nat.toDigits 10 c := by
      rw [List.mem_append, not_or]
      exact ⟨zeros _, digits⟩
    simp only [String.toList_ofList, List.mem_append, List.mem_cons, not_or]
    exact ⟨fun mem => padded (List.mem_of_mem_take mem), by decide,
      fun mem => padded (List.mem_of_mem_drop mem)⟩

theorem quote_not_mem_scientific (c : Nat) (e : Int) :
    '\x22' ∉ (Decimal.scientific c e).toList := by
  have digits := quote_not_mem_toDigits c
  rw [Decimal.scientific]
  split
  · decide
  · rename_i first rest split
    rw [split, List.mem_cons, not_or] at digits
    have tail : '\x22' ∉ if rest = [] then [] else '.' :: rest := by
      split
      · exact List.not_mem_nil
      · simpa using digits.2
    have sign (p : Prop) [Decidable p] : '\x22' ∉ (if p then "-" else "+").toList := by
      split
      · decide
      · decide
    simp only [String.toList_append, String.toList_ofList, List.mem_append, List.mem_cons, not_or]
    exact ⟨⟨⟨⟨digits.1, tail⟩, by decide⟩, sign _⟩, quote_not_mem_repr _⟩

theorem quote_not_mem_style (style : Decimal.Style) (f : Float) :
    '\x22' ∉ (style.write f).toList := by
  have sign (b : Bool) : '\x22' ∉ (if b = true then "-" else "").toList := by
    cases b with
    | true => decide
    | false => decide
  have whole (p : Prop) [Decidable p] : '\x22' ∉ (if p then ".0" else "").toList := by
    split
    · decide
    · decide
  simp only [Decimal.Style.write]
  split
  · decide
  · rw [String.toList_append, List.mem_append, not_or]
    exact ⟨sign _, by decide⟩
  · split
    · rw [String.toList_append, List.mem_append, not_or]
      exact ⟨sign _, quote_not_mem_scientific _ _⟩
    · simp only [String.toList_append, List.mem_append, not_or]
      exact ⟨⟨sign _, quote_not_mem_positional _ _⟩, whole _⟩

theorem quote_not_mem_number : ∀ n : Number, '\x22' ∉ n.write.toList
  | .int i => by
    show '\x22' ∉ i.repr.toList
    rw [Int.repr_eq_if]
    split
    · exact quote_not_mem_repr _
    · rw [String.toList_append, List.mem_append, not_or]
      exact ⟨by decide, quote_not_mem_repr _⟩
  | .float f => quote_not_mem_style Decimal.compact f

/-! ## What is written between quotes -/

theorem inner_escape (c : Char) : Inner (escape c) := by
  have code : ∀ n < 0x20, '\x22' ∉ hex4 n ∧ '\\' ∉ hex4 n := by decide
  rw [escape]
  split_ifs with quote backslash _ _ _ _ _ control
  -- Most characters with an escape have one letter for it.
  iterate 7 exact .escape .nil
  · have digits := code c.toNat control
    exact .escape (inner_of_plain digits.1 digits.2)
  · exact .plain quote backslash .nil

theorem inner_flatMap_escape (cs : List Char) : Inner (cs.flatMap escape) := by
  induction cs with
  | nil => exact .nil
  | cons c cs ih => exact (inner_escape c).append ih

theorem toList_writeText (s : String) :
    (writeText s).toList = '\x22' :: (s.toList.flatMap escape ++ ['\x22']) := by
  simp [writeText, String.toList_append]

/-- What is written of a text without quotes has none. -/
theorem quote_not_mem_flatMap_escape (h : '\x22' ∉ cs) : '\x22' ∉ cs.flatMap escape := by
  have code : ∀ n < 0x20, '\x22' ∉ hex4 n := by decide
  intro mem
  obtain ⟨c, hc, mem⟩ := List.mem_flatMap.1 mem
  have other : c ≠ '\x22' := fun e => h (e ▸ hc)
  rw [escape, if_neg other] at mem
  split_ifs at mem with _ _ _ _ _ _ control
  iterate 6 exact absurd mem (by decide)
  · exact (List.mem_append.1 mem).elim (by decide) (code c.toNat control)
  · exact other (List.mem_singleton.1 mem).symm

/-- The name of a secret is written as it is. -/
theorem flatMap_escape_of_token (h : ∀ c ∈ cs, isTokenChar c = true) : cs.flatMap escape = cs := by
  have same : ∀ c, isTokenChar c = true → escape c = [c] := by
    intro c token
    have visible : ¬c.toNat < 0x20 := by
      have := toNat_of_isTokenChar token
      omega
    have other {d : Char} (hd : isTokenChar d = false) : c ≠ d := by
      rintro rfl
      rw [token] at hd
      cases hd
    rw [escape, if_neg (other (by decide)), if_neg (other (by decide)), if_neg (other (by decide)),
      if_neg (other (by decide)), if_neg (other (by decide)), if_neg (other (by decide)),
      if_neg (other (by decide)), if_neg visible]
  induction cs with
  | nil => rfl
  | cons c cs ih =>
    rw [List.forall_mem_cons] at h
    rw [List.flatMap_cons, same c h.1, ih h.2, List.singleton_append]

/-! ## Values -/

/-- A text may stand wherever a sign of a document stands before it. -/
def MayFollow (ds : List Char) : Prop :=
  ∀ cs, Outside cs → (∀ c ∈ cs.getLast?, isTokenChar c = false) → Outside (cs ++ ds)

theorem mayFollow_of_plain (h : '\x22' ∉ ds) : MayFollow ds := fun _ outside _ =>
  outside_append outside h

theorem mayFollow_writeText (s : String) : MayFollow (writeText s).toList := by
  intro cs outside sign
  rw [toList_writeText]
  exact .quoted outside sign (inner_flatMap_escape _)

/-- A sign that is no quote, and what may follow a sign. -/
theorem MayFollow.after_sign (h : MayFollow ds) (hs : MayFollow s) (d : Char)
    (token : isTokenChar d = false) (quote : d ≠ '\x22') : MayFollow (s ++ d :: ds) := by
  intro cs outside sign
  have before : Outside (cs ++ s ++ [d]) := .char (hs cs outside sign) quote
  simpa using h _ before (Text.finish_concat token _)

/-- Texts with commas between them may follow a sign if each of them may. -/
theorem mayFollow_intercalate : ∀ {texts : List (List Char)}, (∀ t ∈ texts, MayFollow t) →
    MayFollow ([','].intercalate texts)
  | [], _ => mayFollow_of_plain (by decide)
  | [t], h => by
    rw [List.intercalate_singleton]
    exact h t List.mem_cons_self
  | t :: u :: texts, h => by
    rw [List.forall_mem_cons] at h
    rw [List.intercalate_cons_cons, List.append_assoc]
    exact (mayFollow_intercalate h.2).after_sign h.1 ',' (by decide) (by decide)

/-- What stands between brackets or braces may follow a sign with them. -/
theorem mayFollow_between (h : MayFollow ds) (first last : Char) (token : isTokenChar first = false)
    (quote : first ≠ '\x22') (quote' : last ≠ '\x22') : MayFollow (first :: (ds ++ [last])) := by
  have opened : MayFollow (first :: ds) :=
    h.after_sign (mayFollow_of_plain List.not_mem_nil) first token quote
  intro cs outside sign
  simpa using Outside.char (opened cs outside sign) quote'

mutual
/-- The text of a value may follow a sign of a document. -/
theorem mayFollow_write : ∀ v : Value, MayFollow v.write.toList
  | .null => mayFollow_of_plain (by decide)
  | .bool true => mayFollow_of_plain (by decide)
  | .bool false => mayFollow_of_plain (by decide)
  | .number n => mayFollow_of_plain (quote_not_mem_number n)
  | .text s => mayFollow_writeText s
  | .list items => by
    have inside := mayFollow_intercalate (mayFollow_writeItems items)
    have list := mayFollow_between inside '[' ']' (by decide) (by decide) (by decide)
    simpa [Value.write, String.toList_append, String.toList_intercalate] using list
  | .object members => by
    have inside := mayFollow_intercalate (mayFollow_writeMembers members)
    have object := mayFollow_between inside '\x7b' '\x7d' (by decide) (by decide) (by decide)
    simpa [Value.write, String.toList_append, String.toList_intercalate] using object

theorem mayFollow_writeItems : ∀ items : List Value,
    ∀ t ∈ (Value.writeItems items).map String.toList, MayFollow t
  | [], _, mem => by cases mem
  | v :: vs, t, mem => by
    rcases List.mem_cons.1 mem with rfl | mem
    · exact mayFollow_write v
    · exact mayFollow_writeItems vs t mem

theorem mayFollow_writeMembers : ∀ members : List (String × Value),
    ∀ t ∈ (Value.writeMembers members).map String.toList, MayFollow t
  | [], _, mem => by cases mem
  | (name, v) :: rest, t, mem => by
    rcases List.mem_cons.1 mem with rfl | mem
    · have member := (mayFollow_write v).after_sign (mayFollow_writeText name) ':' (by decide)
        (by decide)
      simpa [String.toList_append] using member
    · exact mayFollow_writeMembers rest t mem
end

/-! ## Secrets in an object -/

theorem writeMembers_append (ms ns : List (String × Value)) :
    Value.writeMembers (ms ++ ns) = Value.writeMembers ms ++ Value.writeMembers ns := by
  induction ms with
  | nil => rfl
  | cons m ms ih =>
    obtain ⟨name, v⟩ := m
    show _ :: Value.writeMembers (ms ++ ns) = _ :: (Value.writeMembers ms ++ _)
    rw [ih]

/-- Texts with a comma after each. -/
def leading (texts : List (List Char)) : List Char := texts.flatMap (· ++ [','])

/-- Texts with a comma before each. -/
def trailing (texts : List (List Char)) : List Char := texts.flatMap (',' :: ·)

theorem intercalate_cons_eq (t : List Char) (texts : List (List Char)) :
    [','].intercalate (t :: texts) = t ++ trailing texts := by
  induction texts generalizing t with
  | nil => rw [List.intercalate_singleton, trailing, List.flatMap_nil, List.append_nil]
  | cons u texts ih =>
    rw [List.intercalate_cons_cons, ih]
    simp [trailing]

theorem intercalate_append_cons (ts us : List (List Char)) (t : List Char) :
    [','].intercalate (ts ++ t :: us) = leading ts ++ (t ++ trailing us) := by
  induction ts with
  | nil => exact intercalate_cons_eq t us
  | cons s ts ih =>
    have more : ts ++ t :: us ≠ [] := by simp
    obtain ⟨u, rest, split⟩ := List.exists_cons_of_ne_nil more
    rw [List.cons_append, split, List.intercalate_cons_cons, ← split, ih]
    simp [leading]

theorem mayFollow_leading {texts : List (List Char)} (h : ∀ t ∈ texts, MayFollow t) :
    MayFollow (leading texts) := by
  induction texts with
  | nil => exact mayFollow_of_plain List.not_mem_nil
  | cons t texts ih =>
    rw [List.forall_mem_cons] at h
    simpa [leading] using (ih h.2).after_sign h.1 ',' (by decide) (by decide)

theorem afterSign_leading (texts : List (List Char)) : AfterSign ('\x7b' :: leading texts) := by
  rcases List.eq_nil_or_concat texts with rfl | ⟨ts, t, rfl⟩
  · exact ⟨[], '\x7b', [], .inl rfl, by decide, rfl⟩
  · have comma : '\x7b' :: leading (ts.concat t) = '\x7b' :: (leading ts ++ t) ++ [','] := by
      simp [leading]
    exact ⟨_, ',', [], .inr rfl, by decide, comma⟩

/-- An object around the text of a member that has the name of a secret. -/
def Setting.ofObject (before after : List (String × Value)) (name : String)
    (secret : name.toList ∈ secretSpellings) : Setting where
  start := '\x7b' :: leading ((Value.writeMembers before).map String.toList)
  name := name.toList
  before := []
  after := []
  rest := trailing ((Value.writeMembers after).map String.toList) ++ ['\x7d']
  closed := by
    have members := mayFollow_leading (mayFollow_writeMembers before)
    exact sealed_of_outside
      (members ['\x7b'] (.char .nil (by decide)) (Text.finish_concat (by decide) []))
  sign := afterSign_leading _
  secret := secret
  blankBefore := by decide
  blankAfter := by decide

theorem write_object (before after : List (String × Value)) (name value : String)
    (secret : name.toList ∈ secretSpellings) :
    (Value.object (before ++ (name, .text value) :: after)).write.toList
      = (Setting.ofObject before after name secret).text (value.toList.flatMap escape) := by
  have member : Value.writeMembers ((name, .text value) :: after)
      = (writeText name ++ ":" ++ writeText value) :: Value.writeMembers after := rfl
  have spelled := flatMap_escape_of_token (isTokenChar_of_mem_secretSpellings secret)
  rw [Value.write, writeMembers_append, member]
  simp only [String.toList_append, String.toList_intercalate, List.map_append, List.map_cons,
    toList_writeText, spelled]
  rw [show ",".toList = [','] from rfl, intercalate_append_cons]
  simp [Setting.text, Setting.opening, Setting.ofObject]

/-- The secrets of an object that hold no quote leave no trace in what is shown of its text. -/
theorem excerpt_write {before after : List (String × Value)} {name value value' : String}
    (secret : name.toList ∈ secretSpellings)
    (hvalue : '\x22' ∉ value.toList) (hvalue' : '\x22' ∉ value'.toList) :
    excerpt (Value.object (before ++ (name, .text value) :: after)).write
      = excerpt (Value.object (before ++ (name, .text value') :: after)).write := by
  rw [excerpt, excerpt, write_object before after name value secret,
    write_object before after name value' secret,
    Setting.redact_text _ (quote_not_mem_flatMap_escape hvalue),
    Setting.redact_text _ (quote_not_mem_flatMap_escape hvalue')]

end Courier.Http
