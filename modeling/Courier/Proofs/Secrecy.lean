/-
# Secrecy — a bearer token leaves no trace but its mark

Whether a credential begins at some place of a text hangs only on what it could reach from there.
So a text may be cut where nothing that begins before the cut can reach beyond it, and what
replacing makes of the whole is what it makes of the parts (`replaceAll_append`).  `Local` says this
of one place: what follows the cut is handed on as it is.

A bearer token stands behind such a cut.  What begins before it stops at the character that ends the
text before; if this is a blank, the word `bearer` would have to be the token of another, and it is
too short for that (`local_bearer`).  So the token is taken whole, and two tokens in the same place
are replaced by the same mark before anything else is looked at (`excerpt_bearer`).
-/
import Courier.Proofs.Redaction

namespace Courier.Http

open Courier.Text (isBlank squeeze trimRight)

variable {cs s t rest w : List Char}

/-! ## Cuts -/

/-- What is taken off the front of a text does not depend on what follows it. -/
def Local (take? : List Char → Option (List Char)) (s rest : List Char) : Prop :=
  take? (s ++ rest) = (take? s).map (· ++ rest)

/-- A run at the end of a text does not go on in what follows. -/
def Stops (test : Char → Bool) (s rest : List Char) : Prop :=
  (∃ c ∈ s, test c = false) ∨ ∀ c ∈ rest.head?, test c = false

section

variable {f g : List Char → Option (List Char)}

theorem Local.bind (hf : Local f s rest) (hg : ∀ t, f s = some t → Local g t rest) :
    Local (fun cs => (f cs).bind g) s rest := by
  show (f (s ++ rest)).bind g = ((f s).bind g).map (· ++ rest)
  rw [hf]
  cases h : f s with
  | none => rfl
  | some t => exact hg t h

end

section

variable {test : Char → Bool}

theorem Stops.tail {c : Char} (h : Stops test (c :: s) rest) (hc : test c = true) :
    Stops test s rest := by
  rcases h with ⟨d, hd, stop⟩ | stop
  · rcases List.mem_cons.1 hd with rfl | hd
    · rw [hc] at stop
      cases stop
    · exact .inl ⟨d, hd, stop⟩
  · exact .inr stop

/-- A run that stops is the same, whatever follows. -/
theorem span_append_of_stops (h : Stops test s rest) :
    (s ++ rest).takeWhile test = s.takeWhile test
      ∧ (s ++ rest).dropWhile test = s.dropWhile test ++ rest := by
  induction s with
  | nil =>
    rcases h with ⟨c, hc, -⟩ | stop
    · cases hc
    · cases rest with
      | nil => exact ⟨rfl, rfl⟩
      | cons d rest => simp [stop d rfl]
  | cons c s ih =>
    cases hc : test c with
    | true => simpa [hc] using ih (h.tail hc)
    | false => simp [hc]

theorem local_takeRun? (least : Nat) (h : Stops test s rest) :
    Local (takeRun? least test) s rest := by
  obtain ⟨same, left⟩ := span_append_of_stops h
  rw [Local, takeRun?, takeRun?, same, left]
  split <;> rfl

theorem local_takeWord? {word : List Char}
    (letters : ∀ l ∈ word, ∀ c, foldsTo l c = true → test c = true) (h : Stops test s rest) :
    Local (takeWord? word) s rest := by
  induction word generalizing s with
  | nil => rfl
  | cons letter word ih =>
    rw [List.forall_mem_cons] at letters
    cases s with
    | nil =>
      rcases h with ⟨c, hc, -⟩ | stop
      · cases hc
      · cases rest with
        | nil => rfl
        | cons d rest =>
          have other : ¬foldsTo letter d = true := fun hd =>
            Bool.false_ne_true ((stop d rfl).symm.trans (letters.1 d hd))
          show takeWord? (letter :: word) (d :: rest) = _
          rw [takeWord?, if_neg other]
          rfl
    | cons c s =>
      rw [Local, List.cons_append, takeWord?, takeWord?]
      split
      · rename_i hc
        exact ih letters.2 (h.tail (letters.1 c hc))
      · rfl

end

/-- What replacing makes of a text up to a cut that nothing reaches across. -/
theorem replaceAll_append {take? : List Char → Option (List Char)} {L : Language Char}
    (kind : Kind take? L) (h : ∀ s, s ≠ [] → s <:+ cs → Local take? s rest) :
    replaceAll take? (cs ++ rest) = replaceAll take? cs ++ replaceAll take? rest := by
  have marked : ∀ {cs out}, Marked take? cs out → (∀ s, s ≠ [] → s <:+ cs → Local take? s rest) →
      Marked take? (cs ++ rest) (out ++ replaceAll take? rest) := by
    intro cs out marked
    induction marked with
    | nil => exact fun _ => marked_replaceAll kind rest
    | @keep c cs out none tail ih =>
      intro h
      have still : take? (c :: cs ++ rest) = .none := by
        rw [h (c :: cs) (List.cons_ne_nil c cs) List.suffix_rfl, none]
        rfl
      exact .keep still (ih fun s ne hs => h s ne (hs.trans (List.suffix_cons c cs)))
    | @hide cs left out taken tail ih =>
      intro h
      obtain ⟨c, v, -, -, rfl⟩ := kind.ne_nil taken
      have still : take? (c :: v ++ left ++ rest) = some (left ++ rest) := by
        rw [h (c :: v ++ left) (List.cons_ne_nil _ _) List.suffix_rfl, taken]
        rfl
      rw [List.append_assoc mark]
      exact .hide still (ih fun s ne hs => h s ne (hs.trans (List.suffix_append (c :: v) left)))
  exact (marked (marked_replaceAll kind cs) h).eq kind

/-! ## Behind a cut -/

theorem isTokenChar_of_bearer {l c : Char} (hl : l ∈ "bearer".toList) (h : foldsTo l c = true) :
    isTokenChar c = true :=
  isTokenChar_of_foldsTo (isTokenChar_of_mem_bearer l hl) h

/-- What ends a text stays at its end when something else is taken off the front. -/
theorem getLast?_of_append {e : Char} (h : (w ++ t).getLast? = some e) (hw : e ∉ w) :
    t.getLast? = some e := by
  by_cases empty : t = []
  · rw [empty, List.append_nil] at h
    exact absurd (List.mem_of_getLast? h) hw
  · rwa [List.getLast?_append_of_ne_nil _ empty] at h

/-- No bearer token that begins in a text reaches beyond it, if the text ends outside of tokens and
what follows is neither blank nor long enough for a token. -/
theorem local_bearer {e : Char} (last : s.getLast? = some e) (he : isTokenChar e = false)
    (word : ∀ c ∈ rest.head?, isBlank c = false) (short : takeRun? 8 isTokenChar rest = none) :
    Local bearer? s rest := by
  have ends : ∀ {s : List Char}, s.getLast? = some e → Stops isTokenChar s rest := fun last =>
    .inl ⟨e, List.mem_of_getLast? last, he⟩
  refine Local.bind (local_takeWord? (fun l hl c => isTokenChar_of_bearer hl) (ends last)) ?_
  intro t taken
  obtain ⟨w, hw, rfl⟩ := (reads_takeWord? _).sound taken
  have last : t.getLast? = some e := getLast?_of_append last
    (not_mem_of_test (isTokenChar_of_mem_bearerSpelling hw) he)
  refine Local.bind (local_takeRun? 1 (.inr word)) ?_
  intro u taken
  obtain ⟨b, hb, rfl⟩ := takes_takeRun?.sound taken
  by_cases empty : u = []
  · -- The blanks go up to the cut.
    rw [empty, Local, List.nil_append, short]
    rfl
  · have last : u.getLast? = some e := by
      rwa [List.getLast?_append_of_ne_nil _ empty] at last
    exact local_takeRun? 8 (ends last)

/-- A text that begins with no character of a token begins with no bearer token. -/
theorem bearer?_eq_none_of_head (h : ∀ c ∈ cs.head?, isTokenChar c = false) :
    bearer? cs = none := by
  refine takes_bearer?.eq_none_iff.2 ?_
  rintro w hw ⟨rest, rfl⟩
  obtain ⟨c, v, hc, rfl⟩ := beginsWith_spellings.mul w hw
  have token : isTokenChar c = true := isTokenChar_of_foldsTo (by decide) hc
  rw [h c rfl] at token
  cases token

/-- What is replaced up to a character that belongs to no token, and after it. -/
theorem replaceAll_bearer_append_cons {d : Char} (token : isTokenChar d = false)
    (blank : isBlank d = false) (cs rest : List Char) :
    replaceAll bearer? (cs ++ d :: rest)
      = replaceAll bearer? cs ++ d :: replaceAll bearer? rest := by
  have cut {test : Char → Bool} (h : test d = false) (s : List Char) : Stops test s (d :: rest) :=
    .inr fun c hc => Option.some.inj hc ▸ h
  have here : bearer? (d :: rest) = none :=
    bearer?_eq_none_of_head fun c hc => Option.some.inj hc ▸ token
  rw [replaceAll_append kind_bearer, replaceAll_cons_of_none here]
  intro s _ _
  refine Local.bind (local_takeWord? (fun l hl c => isTokenChar_of_bearer hl) (cut token s)) ?_
  intro t _
  refine Local.bind (local_takeRun? 1 (cut blank t)) fun u _ => local_takeRun? 8 (cut token u)

/-! ## A bearer token in a text -/

/-- A text with a bearer token, when its blanks are collapsed. -/
theorem collapseBlanks_bearer {pre word t : List Char} (post : List Char)
    (hword : word ∈ spellings "bearer".toList) (ht : t ∈ runs 8 isTokenChar) :
    Text.collapseBlanks (pre ++ (word ++ ' ' :: (t ++ post)))
      = squeeze false pre ++ (word ++ ' ' :: (t ++ trimRight (squeeze true post))) := by
  have letters : ∀ c ∈ word, isBlank c = false := fun c hc =>
    isBlank_of_isTokenChar (isTokenChar_of_mem_bearerSpelling hword c hc)
  have token : ∀ c ∈ t, isBlank c = false := fun c hc => isBlank_of_isTokenChar (ht.2 c hc)
  have nonempty : t ≠ [] := ne_nil_of_mem_runs ht
  have wordNonempty : word ≠ [] := List.ne_nil_of_length_pos (by
    rw [length_of_mem_spellings hword]
    decide)
  have finish : ∀ c ∈ (pre ++ (word ++ ' ' :: t)).getLast?, isBlank c = false := by
    intro c hc
    rw [List.getLast?_append_of_ne_nil _ (by simp),
      List.getLast?_append_of_ne_nil _ (List.cons_ne_nil _ _),
      List.getLast?_cons_of_ne_nil nonempty] at hc
    exact token c (List.mem_of_getLast? hc)
  have squeezed : squeeze false t = t := Text.squeeze_of_word token nonempty false
  have whole : pre ++ (word ++ ' ' :: (t ++ post)) = pre ++ (word ++ ' ' :: t) ++ post := by simp
  rw [whole, Text.collapseBlanks_append (by simp) finish,
    Text.squeeze_append_word letters wordNonempty, Text.squeeze_cons_of_blank (by decide), squeezed]
  simp

/-- A bearer token is taken as a whole, if what follows does not go on with it. -/
theorem bearer?_append {word t after : List Char}
    (hafter : ∀ c ∈ after.head?, isTokenChar c = false)
    (hword : word ∈ spellings "bearer".toList) (ht : t ∈ runs 8 isTokenChar) :
    bearer? (word ++ ' ' :: (t ++ after)) = some after := by
  have stops : after.dropWhile isTokenChar = after := by
    cases after with
    | nil => rfl
    | cons c after => exact List.dropWhile_cons_of_neg (by simp [hafter c rfl])
  have blanks : takeRun? 1 isBlank (' ' :: (t ++ after)) = some (t ++ after) := by
    obtain ⟨c, v, hc, rfl⟩ := beginsWith_runs 7 t ht
    have space : [' '] ∈ runs 1 isBlank := by decide
    rw [← List.singleton_append, takeRun?_append space, List.cons_append,
      List.dropWhile_cons_of_neg (by simp [isBlank_of_isTokenChar hc])]
  show ((takeWord? "bearer".toList (word ++ ' ' :: (t ++ after))).bind fun cs =>
    (takeRun? 1 isBlank cs).bind (takeRun? 8 isTokenChar)) = some after
  rw [(reads_takeWord? _).exact hword, Option.bind_some, blanks, Option.bind_some,
    takeRun?_append ht, stops]

/-- The word `bearer` before a blank is too short for a token. -/
theorem takeRun?_bearer {word : List Char} (hword : word ∈ spellings "bearer".toList)
    (rest : List Char) : takeRun? 8 isTokenChar (word ++ ' ' :: rest) = none := by
  have six : word.length = 6 := length_of_mem_spellings hword
  have run : (word ++ ' ' :: rest).takeWhile isTokenChar = word := by
    rw [List.takeWhile_append_of_pos (isTokenChar_of_mem_bearerSpelling hword),
      List.takeWhile_cons_of_neg (by decide), List.append_nil]
  rw [takeRun?, run, if_neg (by omega)]

/-- A bearer token in a collapsed text is replaced by its mark, and the texts around it by
themselves. -/
theorem replaceAll_bearer_append {before word t after : List Char}
    (hbefore : ∀ c ∈ before.getLast?, isTokenChar c = false)
    (hafter : ∀ c ∈ after.head?, isTokenChar c = false)
    (hword : word ∈ spellings "bearer".toList) (ht : t ∈ runs 8 isTokenChar) :
    replaceAll bearer? (before ++ (word ++ ' ' :: (t ++ after)))
      = replaceAll bearer? before ++ (mark ++ replaceAll bearer? after) := by
  have start : ∀ c ∈ (word ++ ' ' :: (t ++ after)).head?, isBlank c = false := by
    have letters := isTokenChar_of_mem_bearerSpelling hword
    obtain ⟨c, v, -, rfl⟩ := beginsWith_spellings word hword
    intro d hd
    rw [← Option.some.inj hd]
    exact isBlank_of_isTokenChar (letters c List.mem_cons_self)
  rw [replaceAll_append kind_bearer,
    replaceAll_of_some kind_bearer (bearer?_append hafter hword ht)]
  -- The word is a cut: what begins before it ends before it.
  intro s nonempty hs
  obtain ⟨v, rfl⟩ := hs
  have last := List.getLast?_eq_some_getLast nonempty
  refine local_bearer last (hbefore _ ?_) start (takeRun?_bearer hword _)
  rw [List.getLast?_append_of_ne_nil _ nonempty]
  exact last

/-- **A bearer token leaves no trace.**  A token stands behind the word `bearer`, in any case, in
a text that may hold anything else, markers and other credentials included; the text before ends and
the text after begins outside of tokens.  With another token in its place the same is shown. -/
theorem excerpt_bearer {pre word token token' post : String}
    (hpre : ∀ c ∈ pre.toList.getLast?, isTokenChar c = false)
    (hpost : ∀ c ∈ post.toList.head?, isTokenChar c = false)
    (hword : word.toList ∈ spellings "bearer".toList)
    (htoken : token.toList ∈ runs 8 isTokenChar) (htoken' : token'.toList ∈ runs 8 isTokenChar) :
    excerpt (pre ++ word ++ " " ++ token ++ post)
      = excerpt (pre ++ word ++ " " ++ token' ++ post) := by
  have space : isTokenChar ' ' = false := by decide
  have hidden : ∀ token : String, token.toList ∈ runs 8 isTokenChar →
      redact (pre ++ word ++ " " ++ token ++ post).toList
        = replaceAll parameterSecret? (replaceAll quotedSecret?
            (replaceAll bearer? (squeeze false pre.toList)
              ++ (mark ++ replaceAll bearer? (trimRight (squeeze true post.toList))))) := by
    intro token htoken
    have whole : (pre ++ word ++ " " ++ token ++ post).toList
        = pre.toList ++ (word.toList ++ ' ' :: (token.toList ++ post.toList)) := by
      simp [String.toList_append]
    have ends := Text.finish_squeeze space hpre false
    have starts := Text.start_squeeze space hpost
    rw [redact_eq, whole, collapseBlanks_bearer _ hword htoken,
      replaceAll_bearer_append ends starts hword htoken]
  rw [excerpt, excerpt, hidden token htoken, hidden token' htoken']

/-- Two tokens between other credentials: a member and a token before them, a parameter behind. -/
theorem excerpt_bearer_between_credentials :
    let pre := "[REDACTED] \x7b\"token\": \"x\"\x7d\n bearer abcdefgh\t"
    let post := "\u0085&password=hunter2 "
    (∀ c ∈ pre.toList.getLast?, isTokenChar c = false)
      ∧ (∀ c ∈ post.toList.head?, isTokenChar c = false)
      ∧ excerpt (pre ++ "beaRER" ++ " " ++ "abc.DEF-12_" ++ post)
        = excerpt (pre ++ "beaRER" ++ " " ++ "0123456789" ++ post) := by
  intro pre post
  have last : pre.toList.getLast? = some '\t' := by decide
  have first : post.toList.head? = some '\u0085' := by decide
  have hpre : ∀ c ∈ pre.toList.getLast?, isTokenChar c = false := by
    intro c hc
    rw [last] at hc
    exact Option.some.inj hc ▸ (by decide)
  have hpost : ∀ c ∈ post.toList.head?, isTokenChar c = false := by
    intro c hc
    rw [first] at hc
    exact Option.some.inj hc ▸ (by decide)
  exact ⟨hpre, hpost, excerpt_bearer hpre hpost (by decide) (by decide) (by decide)⟩

end Courier.Http
