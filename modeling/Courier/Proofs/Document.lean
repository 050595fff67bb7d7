/-
# Documents — the value of a secret, up to the first quote in it

A member of a document whose name is that of a secret is replaced up to the first quote after the
one where its value begins.  Where the member stands in the document, and what stands before it,
makes no difference: a credential that begins earlier ends earlier.  For in a document a quoted text
is closed before the next member begins, and the last quote but one stands either where that text
begins, which is not right after a word, or behind a backslash.  So the last quote is not the one in
front of a secret's value (`Sealed`), and the first replacement keeps this (`Sealed.sweep`).

A value without quotes therefore leaves no trace (`excerpt_member`).  A quote in a value is
written behind a backslash, which the pattern of a quoted member does not know: what follows it is
shown (`excerpt_escaped_quote`).
-/
import Courier.Http.Response
import Courier.Json.Reader
import Courier.Proofs.Secrecy

namespace Courier.Http

open Courier.Text (isBlank squeeze trimRight)

variable {cs ds s t rest w : List Char}

/-! ## Places in a document -/

/-- What may stand between the quotes of a quoted text: a backslash takes in what follows it. -/
inductive Inner : List Char → Prop
  | nil : Inner []
  | plain {c : Char} {cs : List Char} : c ≠ '\x22' → c ≠ '\\' → Inner cs → Inner (c :: cs)
  | escape {c : Char} {cs : List Char} : Inner cs → Inner ('\\' :: c :: cs)

/-- A beginning of a document that ends outside of the quoted texts, of which none follows right
after a word. -/
inductive Outside : List Char → Prop
  | nil : Outside []
  | char {c : Char} {cs : List Char} : Outside cs → c ≠ '\x22' → Outside (cs ++ [c])
  | quoted {cs s : List Char} : Outside cs → (∀ c ∈ cs.getLast?, isTokenChar c = false) →
      Inner s → Outside (cs ++ '\x22' :: (s ++ ['\x22']))

/-- A text that ends in a brace that opens an object, or in a comma, up to blanks. -/
def AfterSign (cs : List Char) : Prop :=
  ∃ before sign blanks, (sign = '\x7b' ∨ sign = ',') ∧ blanks ∈ runs 0 isBlank
    ∧ cs = before ++ sign :: blanks

theorem Inner.append (hs : Inner s) (ht : Inner cs) : Inner (s ++ cs) := by
  induction hs with
  | nil => exact ht
  | plain quote backslash _ ih => exact .plain quote backslash ih
  | escape _ ih => exact .escape ih

theorem inner_of_plain (quote : '\x22' ∉ cs) (backslash : '\\' ∉ cs) : Inner cs := by
  induction cs with
  | nil => exact .nil
  | cons c cs ih =>
    rw [List.mem_cons, not_or] at quote backslash
    exact .plain (Ne.symm quote.1) (Ne.symm backslash.1) (ih quote.2 backslash.2)

theorem outside_append (h : Outside cs) (hds : '\x22' ∉ ds) : Outside (cs ++ ds) := by
  induction ds generalizing cs with
  | nil => rwa [List.append_nil]
  | cons d ds ih =>
    rw [List.mem_cons, not_or] at hds
    rw [← List.singleton_append, ← List.append_assoc]
    exact ih (.char h (Ne.symm hds.1)) hds.2

/-! ## The last quotes -/

/-- The last character of a kind is the same, however a text is cut there. -/
theorem append_cons_inj_of_last (test : Char → Bool) {c c' : Char} {a a' b b' : List Char}
    (hc : test c = true) (hc' : test c' = true) (hb : ∀ d ∈ b, test d = false)
    (hb' : ∀ d ∈ b', test d = false) (h : a ++ c :: b = a' ++ c' :: b') :
    a = a' ∧ c = c' ∧ b = b' := by
  rcases List.append_eq_append_iff.1 h with ⟨m, rfl, hm⟩ | ⟨m, rfl, hm⟩
  · cases m with
    | nil =>
      obtain ⟨same, left⟩ := List.cons.inj hm
      exact ⟨(List.append_nil a).symm, same, left⟩
    | cons d m =>
      obtain ⟨-, rfl⟩ := List.cons.inj hm
      have later : test c' = false := hb c' (by simp)
      rw [hc'] at later
      cases later
  · cases m with
    | nil =>
      obtain ⟨same, left⟩ := List.cons.inj hm
      exact ⟨List.append_nil a', same.symm, left.symm⟩
    | cons d m =>
      obtain ⟨-, rfl⟩ := List.cons.inj hm
      have later : test c = false := hb' c (by simp)
      rw [hc] at later
      cases later

theorem append_quote_inj {a a' b b' : List Char} (hb : '\x22' ∉ b) (hb' : '\x22' ∉ b')
    (h : a ++ '\x22' :: b = a' ++ '\x22' :: b') : a = a' ∧ b = b' := by
  have other : ∀ {b : List Char}, '\x22' ∉ b → ∀ d ∈ b, decide (d = '\x22') = false := by
    intro b hb d hd
    exact decide_eq_false fun e => hb (e ▸ hd)
  obtain ⟨same, -, left⟩ := append_cons_inj_of_last (· = '\x22') (decide_eq_true rfl)
    (decide_eq_true rfl) (other hb) (other hb') h
  exact ⟨same, left⟩

/-- A text has no quote, or the last but one stands right after no word. -/
def Sealed (cs : List Char) : Prop :=
  '\x22' ∉ cs ∨ ∃ x u t, cs = x ++ '\x22' :: (u ++ '\x22' :: t) ∧ '\x22' ∉ u ∧ '\x22' ∉ t
    ∧ ∀ c ∈ x.getLast?, isTokenChar c = false

/-- The last quote between the quotes of a quoted text stands behind a backslash. -/
theorem Inner.last_quote (h : Inner s) (quote : '\x22' ∈ s) :
    ∃ x u, s = x ++ '\\' :: '\x22' :: u ∧ '\x22' ∉ u := by
  induction h with
  | nil => cases quote
  | @plain c cs hc _ _ ih =>
    obtain ⟨x, u, rfl, hu⟩ := ih ((List.mem_cons.1 quote).resolve_left (Ne.symm hc))
    exact ⟨c :: x, u, rfl, hu⟩
  | @escape c cs _ ih =>
    by_cases later : '\x22' ∈ cs
    · obtain ⟨x, u, rfl, hu⟩ := ih later
      exact ⟨'\\' :: c :: x, u, rfl, hu⟩
    · have escaped : '\x22' = c := by
        simpa [later] using quote
      exact ⟨[], cs, by rw [escaped]; rfl, later⟩

theorem sealed_of_outside (h : Outside cs) : Sealed cs := by
  induction h with
  | nil => exact .inl List.not_mem_nil
  | @char c cs _ hc ih =>
    rcases ih with none | ⟨x, u, t, rfl, hu, ht, word⟩
    · exact .inl (by simp [none, Ne.symm hc])
    · exact .inr ⟨x, u, t ++ [c], by simp, hu, by simp [ht, Ne.symm hc], word⟩
  | @quoted cs s _ word inner _ =>
    -- What was there before does not matter any more: the last two quotes are new.
    right
    by_cases quote : '\x22' ∈ s
    · obtain ⟨x, u, rfl, hu⟩ := inner.last_quote quote
      have backslash : isTokenChar '\\' = false := by decide
      exact ⟨cs ++ '\x22' :: x ++ ['\\'], u, [], by simp, hu, List.not_mem_nil,
        Text.finish_concat backslash _⟩
    · exact ⟨cs, s, [], rfl, quote, List.not_mem_nil, word⟩

theorem quote_not_mem_around_colon {before after : List Char} (hbefore : before ∈ runs 0 isBlank)
    (hafter : after ∈ runs 0 isBlank) : '\x22' ∉ before ++ ':' :: after := by
  have blank : '\x22' ∉ before := not_mem_of_test hbefore.2 (by decide)
  have blank' : '\x22' ∉ after := not_mem_of_test hafter.2 (by decide)
  simp [blank, blank']

/-- After the quote in front of a secret's value another quote follows. -/
theorem Sealed.closed (h : Sealed cs) {p : List Char} (hp : p ∈ openings) (hs : p ++ t <:+ cs) :
    '\x22' ∈ t := by
  obtain ⟨name, hname, before, hbefore, after, hafter, rfl⟩ := mem_openings.1 hp
  obtain ⟨z, rfl⟩ := hs
  by_contra ht
  rcases h with none | ⟨x, u, t', split, hu, ht', word⟩
  · exact none (by simp)
  · have inside := quote_not_mem_around_colon hbefore hafter
    have regrouped : (z ++ '\x22' :: name ++ '\x22' :: (before ++ ':' :: after)) ++ '\x22' :: t
        = (x ++ '\x22' :: u) ++ '\x22' :: t' := by
      simpa using split
    obtain ⟨lastButOne, -⟩ := append_quote_inj ht ht' regrouped
    obtain ⟨rfl, -⟩ := append_quote_inj inside hu lastButOne
    -- The quote after the name follows right after a word.
    obtain ⟨c, v, -, rfl⟩ := beginsWith_secretSpellings name hname
    have last : (z ++ '\x22' :: (c :: v)).getLast?
        = some ((c :: v).getLast (List.cons_ne_nil c v)) := by
      rw [List.getLast?_append_of_ne_nil _ (List.cons_ne_nil _ _),
        List.getLast?_cons_of_ne_nil (List.cons_ne_nil c v), List.getLast?_eq_some_getLast]
    have token : isTokenChar ((c :: v).getLast (List.cons_ne_nil c v)) = true :=
      isTokenChar_of_mem_secretSpellings hname _ (List.getLast_mem _)
    rw [word _ last] at token
    cases token

/-! ## The first replacement -/

/-- A text with its blanks collapsed and its bearer tokens replaced. -/
def sweep (afterWord : Bool) (cs : List Char) : List Char :=
  replaceAll bearer? (squeeze afterWord cs)

/-- What is made of a text up to a character that is no blank and in no token, and after it. -/
theorem sweep_append_cons {d : Char} (token : isTokenChar d = false) (blank : isBlank d = false)
    (afterWord : Bool) (cs ds : List Char) :
    sweep afterWord (cs ++ d :: ds) = sweep afterWord cs ++ d :: sweep true ds := by
  rw [sweep, Text.squeeze_append_cons blank, replaceAll_bearer_append_cons token blank, sweep,
    sweep]

theorem sweep_append_quote (afterWord : Bool) (cs ds : List Char) :
    sweep afterWord (cs ++ '\x22' :: ds) = sweep afterWord cs ++ '\x22' :: sweep true ds :=
  sweep_append_cons (by decide) (by decide) afterWord cs ds

theorem not_mem_sweep {c : Char} {afterWord : Bool} (h : c ∉ cs) (space : c ≠ ' ')
    (unmarked : c ∉ mark) : c ∉ sweep afterWord cs := by
  intro mem
  have before : c ∈ squeeze afterWord cs :=
    (marked_replaceAll kind_bearer _).mem kind_bearer mem unmarked
  rcases Text.mem_squeeze before with e | ⟨mem, -⟩
  · exact space e
  · exact h mem

theorem quote_not_mem_sweep {afterWord : Bool} (h : '\x22' ∉ cs) : '\x22' ∉ sweep afterWord cs :=
  not_mem_sweep h (by decide) (by decide)

theorem finish_sweep {afterWord : Bool} (h : ∀ c ∈ cs.getLast?, isTokenChar c = false) :
    ∀ c ∈ (sweep afterWord cs).getLast?, isTokenChar c = false :=
  (marked_replaceAll kind_bearer _).finish kind_bearer (by decide)
    (Text.finish_squeeze (by decide) h afterWord)

theorem Sealed.sweep (h : Sealed cs) (afterWord : Bool) : Sealed (sweep afterWord cs) := by
  rcases h with none | ⟨x, u, t, rfl, hu, ht, word⟩
  · exact .inl (quote_not_mem_sweep none)
  · rw [sweep_append_quote, sweep_append_quote]
    exact .inr ⟨_, _, _, rfl, quote_not_mem_sweep hu, quote_not_mem_sweep ht, finish_sweep word⟩

theorem sweep_blanks (h : cs ∈ runs 0 isBlank) (afterWord : Bool) :
    sweep afterWord cs ∈ runs 0 isBlank := by
  have blanks : ∀ c ∈ squeeze afterWord cs, isBlank c = true := by
    intro c hc
    rcases Text.mem_squeeze hc with rfl | ⟨mem, -⟩
    · decide
    · exact h.2 c mem
  have clear : Clear bearer? (squeeze afterWord cs) := by
    intro s hs
    refine bearer?_eq_none_of_head fun c hc => ?_
    have blank : isBlank c = true := blanks c (hs.subset (List.mem_of_mem_head? hc))
    by_contra token
    rw [isBlank_of_isTokenChar (Bool.eq_true_of_not_eq_false token)] at blank
    cases blank
  rw [sweep, replaceAll_of_clear clear]
  exact ⟨Nat.zero_le _, blanks⟩

theorem sweep_secretSpelling (h : w ∈ secretSpellings) : sweep true w = w := by
  have token := isTokenChar_of_mem_secretSpellings h
  have words : ∀ c ∈ w, isBlank c = false := fun c hc => isBlank_of_isTokenChar (token c hc)
  have nonempty : w ≠ [] := by
    obtain ⟨c, v, -, rfl⟩ := beginsWith_secretSpellings w h
    exact List.cons_ne_nil c v
  have squeezed : squeeze true w = w := Text.squeeze_of_word words nonempty true
  have clear : Clear bearer? w := by
    refine takes_bearer?.clear_iff.2 fun v hv inside => ?_
    obtain ⟨_, -, _, htail, rfl⟩ := Language.mem_mul.1 hv
    obtain ⟨b, hb, _, -, rfl⟩ := Language.mem_mul.1 htail
    obtain ⟨c, b, hc, rfl⟩ := beginsWith_runs 0 b hb
    have word : isBlank c = false := words c (inside.subset (by simp))
    rw [hc] at word
    cases word
  rw [sweep, squeezed, replaceAll_of_clear clear]

theorem AfterSign.sweep (h : AfterSign cs) (afterWord : Bool) : AfterSign (sweep afterWord cs) := by
  obtain ⟨before, sign, blanks, hsign, hblanks, rfl⟩ := h
  have hard : isTokenChar sign = false ∧ isBlank sign = false := by
    rcases hsign with rfl | rfl
    · decide
    · decide
  rw [sweep_append_cons hard.1 hard.2]
  exact ⟨_, sign, _, hsign, sweep_blanks hblanks true, rfl⟩

/-! ## The second replacement -/

/-- A member in a text is the same, whatever follows the text, if the text has the quote where the
value ends and nothing in front of a value goes on over the end of the text. -/
theorem local_quotedSecret (closed : ∀ p ∈ openings, ∀ t, s = p ++ t → '\x22' ∈ t)
    (apart : ∀ m u, rest = m ++ u → s ++ m ∈ openings → m = []) : Local quotedSecret? s rest := by
  have opening : Local opening? s rest := by
    cases taken : opening? s with
    | some t =>
      obtain ⟨p, hp, rfl⟩ := reads_opening?.sound taken
      rw [Local, taken, List.append_assoc, reads_opening?.exact hp]
      rfl
    | none =>
      -- One that is found in the whole would end in what follows, or be there without it.
      rw [Local, taken]
      refine Option.eq_none_iff_forall_ne_some.2 fun u found => ?_
      obtain ⟨p, hp, split⟩ := reads_opening?.sound found
      rcases List.append_eq_append_iff.1 split with ⟨m, rfl, beyond⟩ | ⟨m, rfl, -⟩
      · have none : m = [] := apart m u beyond hp
        rw [none, List.append_nil] at hp
        exact reads_opening?.eq_none_iff.1 taken s hp List.prefix_rfl
      · exact reads_opening?.eq_none_iff.1 taken p hp (List.prefix_append p m)
  rw [quotedSecret?_eq]
  refine Local.bind opening ?_
  intro t taken
  obtain ⟨p, hp, rfl⟩ := reads_opening?.sound taken
  have quote : '\x22' ∈ t := closed p hp t rfl
  obtain ⟨v, after, rfl, hv⟩ := List.eq_append_cons_of_mem quote
  refine Local.bind (local_takeRun? 0 (.inl ⟨'\x22', quote, by decide⟩)) ?_
  intro u taken
  have value : v ∈ runs 0 (· ≠ '\x22') :=
    ⟨Nat.zero_le _, fun c hc => decide_eq_true fun e => hv (e ▸ hc)⟩
  rw [takeRun?_append value, List.dropWhile_cons_of_neg (by decide)] at taken
  obtain rfl := Option.some.inj taken
  rfl

/-- A text is cut at its first quote or at a later one. -/
theorem append_quote_cases {n a b d : List Char} (hn : '\x22' ∉ n)
    (h : a ++ '\x22' :: b = n ++ '\x22' :: d) :
    a = n ∧ b = d ∨ ∃ k, a = n ++ '\x22' :: k ∧ d = k ++ '\x22' :: b := by
  rcases List.append_eq_append_iff.1 h with ⟨m, rfl, hm⟩ | ⟨m, rfl, hm⟩
  · cases m with
    | nil => exact .inl ⟨(List.append_nil a).symm, (List.cons.inj hm).2⟩
    | cons c m =>
      obtain ⟨rfl, -⟩ := List.cons.inj hm
      exact absurd (by simp) hn
  · cases m with
    | nil => exact .inl ⟨List.append_nil n, (List.cons.inj hm).2.symm⟩
    | cons c m =>
      obtain ⟨rfl, later⟩ := List.cons.inj hm
      exact .inr ⟨m, rfl, later⟩

/-- What stands in front of a value and is cut at a quote ends in a name or after a colon there. -/
theorem ends_of_mem_openings {m : List Char} (h : s ++ '\x22' :: m ∈ openings) (nonempty : s ≠ []) :
    (∃ c ∈ s.getLast?, isTokenChar c = true)
      ∨ ∃ x blanks, blanks ∈ runs 0 isBlank ∧ s = x ++ ':' :: blanks := by
  obtain ⟨name, hname, before, hbefore, after, hafter, split⟩ := mem_openings.1 h
  obtain ⟨c, s, rfl⟩ := List.exists_cons_of_ne_nil nonempty
  obtain ⟨rfl, tail⟩ := List.cons.inj split
  have token := isTokenChar_of_mem_secretSpellings hname
  rcases append_quote_cases (not_mem_of_test token (by decide)) tail with ⟨rfl, -⟩ | ⟨k, rfl, more⟩
  · left
    obtain ⟨c, v, -, rfl⟩ := beginsWith_secretSpellings s hname
    have last := List.getLast?_eq_some_getLast (List.cons_ne_nil c v)
    exact ⟨_, last, token _ (List.getLast_mem _)⟩
  · right
    have inside := quote_not_mem_around_colon hbefore hafter
    have regrouped : k ++ '\x22' :: m = before ++ ':' :: after ++ '\x22' :: [] := by
      simpa using more.symm
    rcases append_quote_cases inside regrouped with ⟨rfl, -⟩ | ⟨k, -, none⟩
    · exact ⟨'\x22' :: (name ++ '\x22' :: before), after, hafter, by simp⟩
    · simp at none

/-- Nothing in front of a value goes on over a place where a member may begin. -/
theorem AfterSign.apart (h : AfterSign cs) (hs : s <:+ cs) (nonempty : s ≠ []) {m : List Char} :
    s ++ '\x22' :: m ∉ openings := by
  intro hm
  obtain ⟨y, sign, blanks, hsign, hblanks, rfl⟩ := h
  obtain ⟨z, split⟩ := hs
  have hard : isTokenChar sign = false ∧ isBlank sign = false ∧ sign ≠ ':' := by
    rcases hsign with rfl | rfl
    · decide
    · decide
  rcases ends_of_mem_openings hm nonempty with ⟨c, last, token⟩ | ⟨x, blanks', hblanks', rfl⟩
  · have mem : c ∈ sign :: blanks := by
      have last' : (y ++ sign :: blanks).getLast? = some c := by
        rw [← split, List.getLast?_append_of_ne_nil _ nonempty]
        exact last
      rw [List.getLast?_append_of_ne_nil _ (List.cons_ne_nil _ _)] at last'
      exact List.mem_of_getLast? last'
    rcases List.mem_cons.1 mem with rfl | blank
    · rw [hard.1] at token
      cases token
    · have word := isBlank_of_isTokenChar token
      rw [hblanks.2 c blank] at word
      cases word
  · have regrouped : (z ++ x) ++ ':' :: blanks' = y ++ sign :: blanks := by
      rw [List.append_assoc]
      exact split
    have no : ∀ {b : List Char}, b ∈ runs 0 isBlank → ∀ d ∈ b, (!isBlank d) = false := by
      intro b hb d hd
      rw [hb.2 d hd]
      rfl
    obtain ⟨-, colon, -⟩ := append_cons_inj_of_last (fun c => !isBlank c) (by decide)
      (by rw [hard.2.1]; rfl) (no hblanks') (no hblanks) regrouped
    exact hard.2.2 colon.symm

/-! ## A value without quotes -/

/-- A text around the value of a member that has the name of a secret. -/
structure Setting where
  start : List Char
  name : List Char
  before : List Char
  after : List Char
  rest : List Char
  closed : Sealed start
  sign : AfterSign start
  secret : name ∈ secretSpellings
  blankBefore : before ∈ runs 0 isBlank
  blankAfter : after ∈ runs 0 isBlank

namespace Setting

/-- What stands in front of the value. -/
def opening (d : Setting) : List Char :=
  '\x22' :: (d.name ++ '\x22' :: (d.before ++ ':' :: (d.after ++ ['\x22'])))

/-- The text with a value written between its quotes. -/
def text (d : Setting) (value : List Char) : List Char :=
  d.start ++ (d.opening ++ (value ++ '\x22' :: d.rest))

theorem opening_mem (d : Setting) : d.opening ∈ openings :=
  mem_openings.2 ⟨d.name, d.secret, d.before, d.blankBefore, d.after, d.blankAfter, rfl⟩

/-- What the first replacement makes of what stands around a value. -/
def swept (d : Setting) : Setting where
  start := sweep false d.start
  name := d.name
  before := sweep true d.before
  after := sweep true d.after
  rest := replaceAll bearer? (trimRight (squeeze true d.rest))
  closed := d.closed.sweep false
  sign := d.sign.sweep false
  secret := d.secret
  blankBefore := sweep_blanks d.blankBefore true
  blankAfter := sweep_blanks d.blankAfter true

/-- The first replacement works on a value by itself. -/
theorem replaceAll_bearer_text (d : Setting) (value : List Char) :
    replaceAll bearer? (Text.collapseBlanks (d.text value)) = d.swept.text (sweep true value) := by
  have colon (cs ds : List Char) :
      sweep true (cs ++ ':' :: ds) = sweep true cs ++ ':' :: sweep true ds :=
    sweep_append_cons (by decide) (by decide) true cs ds
  have regrouped : d.text value = (d.start ++ '\x22' :: (d.name ++ '\x22' :: (d.before
      ++ ':' :: (d.after ++ '\x22' :: value)))) ++ '\x22' :: d.rest := by
    simp [text, opening]
  rw [regrouped, Text.collapseBlanks_append_cons (by decide),
    replaceAll_bearer_append_cons (by decide) (by decide), ← sweep, sweep_append_quote,
    sweep_append_quote, sweep_secretSpelling d.secret, colon, sweep_append_quote]
  simp [swept, text, opening]

/-- The second replacement does not get to see a value without quotes. -/
theorem replaceAll_quotedSecret_text (d : Setting) {value : List Char} (hvalue : '\x22' ∉ value) :
    replaceAll quotedSecret? (d.text value)
      = replaceAll quotedSecret? d.start ++ (mark ++ replaceAll quotedSecret? d.rest) := by
  have inside : value ∈ runs 0 (· ≠ '\x22') :=
    ⟨Nat.zero_le _, fun c hc => decide_eq_true fun e => hvalue (e ▸ hc)⟩
  have taken : quotedSecret? (d.opening ++ (value ++ '\x22' :: d.rest)) = some d.rest := by
    rw [quotedSecret?_eq]
    show ((opening? _).bind _) = _
    rw [reads_opening?.exact d.opening_mem, Option.bind_some, takeRun?_append inside,
      List.dropWhile_cons_of_neg (by decide), Option.bind_some]
    rfl
  rw [text, replaceAll_append kind_quotedSecret, replaceAll_of_some kind_quotedSecret taken]
  -- No credential that begins before the member reaches it.
  intro s nonempty hs
  refine local_quotedSecret ?_ ?_
  · rintro p hp t rfl
    exact d.closed.closed hp hs
  · intro m u beyond hm
    by_contra ne
    obtain ⟨c, m, rfl⟩ := List.exists_cons_of_ne_nil ne
    obtain ⟨rfl, -⟩ := List.cons.inj beyond
    exact d.sign.apart hs nonempty hm

theorem redact_text (d : Setting) {value : List Char} (hvalue : '\x22' ∉ value) :
    redact (d.text value) = replaceAll parameterSecret? (replaceAll quotedSecret? d.swept.start
      ++ (mark ++ replaceAll quotedSecret? d.swept.rest)) := by
  rw [redact_eq, replaceAll_bearer_text,
    replaceAll_quotedSecret_text _ (quote_not_mem_sweep hvalue)]

end Setting

/-- **A value without quotes leaves no trace.**  In a document, a member that has the name of a
secret holds a text; with another text in its place the same is shown, and the same is said of the
answer of a server that refuses.  What follows the first quote in a value would be in `rest`. -/
theorem excerpt_member {start name before after rest value value' : String}
    (outside : Outside start.toList) (sign : AfterSign start.toList)
    (secret : name.toList ∈ secretSpellings)
    (blankBefore : before.toList ∈ runs 0 isBlank) (blankAfter : after.toList ∈ runs 0 isBlank)
    (hvalue : '\x22' ∉ value.toList) (hvalue' : '\x22' ∉ value'.toList) :
    let text := fun value : String => start ++ "\"" ++ name ++ "\"" ++ before ++ ":" ++ after
      ++ "\"" ++ value ++ "\"" ++ rest
    excerpt (text value) = excerpt (text value')
      ∧ ∀ transport status mediaType mediaType' bytes bytes', ¬(200 ≤ status ∧ status < 300) →
        decodeText mediaType bytes = text value → decodeText mediaType' bytes' = text value' →
        Response.check transport ⟨status, mediaType, .bytes bytes⟩
          = Response.check transport ⟨status, mediaType', .bytes bytes'⟩ := by
  intro text
  let d : Setting := ⟨start.toList, name.toList, before.toList, after.toList, rest.toList,
    sealed_of_outside outside, sign, secret, blankBefore, blankAfter⟩
  have whole : ∀ value : String, (text value).toList = d.text value.toList := by
    intro value
    simp [text, d, Setting.text, Setting.opening, String.toList_append]
  have same : excerpt (text value) = excerpt (text value') := by
    rw [excerpt, excerpt, whole, whole, d.redact_text hvalue, d.redact_text hvalue']
  refine ⟨same, ?_⟩
  intro transport status mediaType mediaType' bytes bytes' refused decoded decoded'
  have refuses : (200 ≤ status && status < 300) = false := by
    simpa using refused
  simp only [Response.check, refuses, Bool.false_eq_true, if_false, decoded, decoded', same]

/-- Two values in a member behind an escaped quote: a token, and an escape with a parameter. -/
theorem excerpt_member_behind_escape :
    let text := fun value : String => "\x7b\"a\":\"x\\\"y\", " ++ "\"" ++ "Api_Key" ++ "\"" ++ " "
      ++ ":" ++ "\n" ++ "\"" ++ value ++ "\"" ++ ",\"b\":\"\"\x7d"
    excerpt (text "bearer 12345678") = excerpt (text "c\\u0022&token=d") := by
  have inside : Inner "a".toList := inner_of_plain (by decide) (by decide)
  have plain : Inner "x".toList := inner_of_plain (by decide) (by decide)
  have escaped : Inner "x\\\"y".toList :=
    plain.append (.escape (inner_of_plain (by decide) (by decide)))
  have name : Outside "\x7b\"a\"".toList :=
    .quoted (.char .nil (by decide)) (Text.finish_concat (by decide) []) inside
  have value : Outside "\x7b\"a\":\"x\\\"y\"".toList :=
    .quoted (.char name (by decide)) (Text.finish_concat (by decide) _) escaped
  have start : Outside "\x7b\"a\":\"x\\\"y\", ".toList :=
    outside_append value (by decide : '\x22' ∉ ", ".toList)
  have sign : AfterSign "\x7b\"a\":\"x\\\"y\", ".toList :=
    ⟨"\x7b\"a\":\"x\\\"y\"".toList, ',', [' '], .inr rfl, by decide, by decide⟩
  have secret : "Api_Key".toList ∈ secretSpellings :=
    mem_secretSpellings.2 ⟨"api_key", by decide, by decide⟩
  exact (excerpt_member start sign secret (by decide) (by decide) (by decide) (by decide)).1

/-- A quote in a value is written behind a backslash, and what follows it is shown. -/
theorem excerpt_escaped_quote :
    let text := fun value => "\x7b\"token\":\"" ++ value ++ "\"\x7d"
    Json.read (text "a\\\"b") = some (.object [("token", .text "a\"b")])
      ∧ Json.read (text "c") = some (.object [("token", .text "c")])
      ∧ excerpt (text "a\\\"b") = "\x7b[REDACTED]b\"\x7d"
      ∧ excerpt (text "c") = "\x7b[REDACTED]\x7d" := by
  refine ⟨?_, ?_, ?_, ?_⟩
  · cbv
  · cbv
  · decide +kernel
  · decide +kernel

end Courier.Http
