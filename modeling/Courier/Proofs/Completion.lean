/-
# Completion — what a delivered message owes to its caller, and what to properties

Where a pipeline fills in from properties, every field of a message that a transport gets comes from
one of two places.  If it was set, it is the caller's, and no property is asked for.  If it was not,
it comes from the first prefix whose property is there and not blank (`Filler.Finds`), and the
properties that are asked for are those up to this one.  Only numbers are changed after that, each
in its place, and only where a layer turns them into addresses (`Addressing.Applied`).

A list is read from a property whose outer blanks are gone; that makes no difference to its items
(`Text.commaItems_trim`).
-/
import Courier.Proofs.Finality

namespace Courier

/-! ## Items between commas -/

namespace Text

variable {c : Char} {cs : List Char}

theorem trimChars_cons_of_blank (h : isBlank c = true) : trimChars (c :: cs) = trimChars cs := by
  rw [trimChars, trimLeft, List.dropWhile_cons_of_pos h, ← trimLeft, ← trimChars]

theorem trimRight_concat_of_blank (h : isBlank c = true) :
    trimRight (cs ++ [c]) = trimRight cs := by
  rw [trimRight_eq, trimRight_eq, List.rdropWhile_concat_pos isBlank cs c h]

theorem trimChars_concat_of_blank (h : isBlank c = true) :
    trimChars (cs ++ [c]) = trimChars cs := by
  rw [trimChars, trimChars, trimLeft, List.dropWhile_append]
  cases left : cs.dropWhile isBlank with
  | nil => simp [h, trimLeft, left]
  | cons d ds =>
    rw [List.isEmpty_cons, if_neg Bool.false_ne_true, trimRight_concat_of_blank h, trimLeft, left]

theorem ne_comma_of_blank (h : isBlank c = true) : c ≠ ',' := by
  rintro rfl
  exact absurd h (by decide)

/-- The pieces between commas, without the blanks around them. -/
def pieces (cs : List Char) : List (List Char) := (cs.splitOn ',').map trimChars

/-- A character that is no comma belongs to the last piece of what is before it. -/
theorem splitOn_concat (h : c ≠ ',') (cs : List Char) : ∃ init last,
    cs.splitOn ',' = init ++ [last] ∧ (cs ++ [c]).splitOn ',' = init ++ [last ++ [c]] := by
  induction cs with
  | nil =>
    refine ⟨[], [], List.splitOn_nil _, ?_⟩
    simp [List.splitOn_cons_eq_if_modifyHead, h]
  | cons d cs ih =>
    obtain ⟨init, last, before, after⟩ := ih
    rw [List.cons_append, List.splitOn_cons_eq_if_modifyHead, List.splitOn_cons_eq_if_modifyHead,
      before, after]
    split
    · exact ⟨[] :: init, last, rfl, rfl⟩
    · cases init with
      | nil => exact ⟨[], d :: last, rfl, rfl⟩
      | cons first init => exact ⟨(d :: first) :: init, last, rfl, rfl⟩

theorem pieces_concat_of_blank (h : isBlank c = true) (cs : List Char) :
    pieces (cs ++ [c]) = pieces cs := by
  obtain ⟨init, last, before, after⟩ := splitOn_concat (ne_comma_of_blank h) cs
  rw [pieces, pieces, before, after, List.map_append, List.map_append]
  simp [trimChars_concat_of_blank h]

theorem pieces_cons_of_blank (h : isBlank c = true) (cs : List Char) :
    pieces (c :: cs) = pieces cs := by
  obtain ⟨first, rest, split⟩ := List.exists_cons_of_ne_nil (List.splitOn_ne_nil ',' cs)
  rw [pieces, pieces, List.splitOn_cons_eq_if_modifyHead, split]
  simp [ne_comma_of_blank h, trimChars_cons_of_blank h]

theorem pieces_trimLeft (cs : List Char) : pieces (trimLeft cs) = pieces cs := by
  induction cs with
  | nil => rfl
  | cons c cs ih =>
    cases h : isBlank c with
    | true => rw [trimLeft, List.dropWhile_cons_of_pos h, ← trimLeft, ih, pieces_cons_of_blank h]
    | false => rw [trimLeft, List.dropWhile_cons_of_neg (by simp [h])]

theorem pieces_trimRight (cs : List Char) : pieces (trimRight cs) = pieces cs := by
  induction cs using List.reverseRecOn with
  | nil => rfl
  | append_singleton cs c ih =>
    cases h : isBlank c with
    | true => rw [trimRight_concat_of_blank h, ih, pieces_concat_of_blank h]
    | false => rw [trimRight_eq, List.rdropWhile_concat_neg isBlank cs c (by simp [h])]

/-- The items of a text do not depend on the blanks around it. -/
theorem commaItems_trim (s : String) : commaItems (trim s) = commaItems s := by
  have same : pieces (trim s).toList = pieces s.toList := by
    rw [trim, String.toList_ofList, trimChars, pieces_trimRight, pieces_trimLeft]
  rw [commaItems, commaItems, ← pieces, ← pieces, same]

end Text

/-! ## Properties under prefixes -/

/-- Nothing is to be had under a key: no text, or a blank one. -/
def Environment.Lacks (env : Environment) (key : String) : Prop :=
  ∀ s ∈ env.property key, Text.isBlankText s = true

namespace Filler

variable {env : Environment} {prefixes : List String} {field : String}

/-- A search for a field over prefixes: the first text that is to be had, and all that was asked. -/
inductive Finds (env : Environment) (field : String) :
    List String → Option String → List Lookup → Prop
  | found {before after : List String} {p s : String}
      (earlier : ∀ q ∈ before, env.Lacks (q ++ "." ++ field))
      (here : env.property (p ++ "." ++ field) = some s) (text : Text.isBlankText s = false) :
      Finds env field (before ++ p :: after) (some s)
        ((before ++ [p]).map fun q => .property (q ++ "." ++ field))
  | nothing {prefixes : List String} (all : ∀ q ∈ prefixes, env.Lacks (q ++ "." ++ field)) :
      Finds env field prefixes none (prefixes.map fun q => .property (q ++ "." ++ field))

/-- A prefix that has nothing is asked, and then the others. -/
theorem Finds.cons {p : String} {found : Option String} {asked : List Lookup}
    (lacks : env.Lacks (p ++ "." ++ field)) (h : Finds env field prefixes found asked) :
    Finds env field (p :: prefixes) found (.property (p ++ "." ++ field) :: asked) := by
  cases h with
  | @found before after q s earlier here text =>
    show Finds env field ((p :: before) ++ q :: after) (some s)
      (((p :: before) ++ [q]).map fun q => .property (q ++ "." ++ field))
    refine Finds.found ?_ here text
    intro r hr
    rcases List.mem_cons.1 hr with rfl | hr
    · exact lacks
    · exact earlier r hr
  | nothing all =>
    show Finds env field (p :: prefixes) none
      ((p :: prefixes).map fun q => .property (q ++ "." ++ field))
    refine Finds.nothing ?_
    intro r hr
    rcases List.mem_cons.1 hr with rfl | hr
    · exact lacks
    · exact all r hr

theorem nonBlank?_eq_none {env : Environment} {key : String}
    (h : nonBlank? (env.property key) = none) : env.Lacks key := by
  intro s hs
  rw [hs, nonBlank?] at h
  by_contra text
  rw [if_neg text] at h
  cases h

theorem nonBlank?_eq_some {value : Option String} {t : String} (h : nonBlank? value = some t) :
    ∃ s, value = some s ∧ Text.isBlankText s = false ∧ t = Text.trim s := by
  cases value with
  | none => cases h
  | some s =>
    rw [nonBlank?] at h
    split at h
    · cases h
    · rename_i text
      exact ⟨s, rfl, by simpa using text, (Option.some.inj h).symm⟩

/-- The first property is what a search finds, without its outer blanks. -/
theorem finds_firstProperty (env : Environment) (field : String) (prefixes : List String) :
    ∃ found, Finds env field prefixes found (firstProperty env field prefixes).trace
      ∧ (firstProperty env field prefixes).value = found.map Text.trim := by
  induction prefixes with
  | nil => exact ⟨none, Finds.nothing nofun, rfl⟩
  | cons p ps ih =>
    rw [firstProperty, Traced.value_bind, Traced.trace_bind]
    simp only [Environment.askProperty, Traced.value_one, Traced.trace_one]
    cases h : nonBlank? (env.property (p ++ "." ++ field)) with
    | some t =>
      obtain ⟨s, here, text, rfl⟩ := nonBlank?_eq_some h
      have first : Finds env field ([] ++ p :: ps) (some s)
          (([] ++ [p]).map fun q => .property (q ++ "." ++ field)) := Finds.found nofun here text
      exact ⟨some s, first, rfl⟩
    | none =>
      obtain ⟨found, search, value⟩ := ih
      exact ⟨found, search.cons (nonBlank?_eq_none h), value⟩

/-! ## Fields -/

/-- What becomes of a field that holds one value, and what is asked for that. -/
inductive Fills {α : Type} (make : String → α) (env : Environment) (prefixes : List String)
    (field : String) : Option α → Option α → List Lookup → Prop
  | kept (a : α) : Fills make env prefixes field (some a) (some a) []
  | found {s : String} {asked : List Lookup} (search : Finds env field prefixes (some s) asked) :
      Fills make env prefixes field none (some (make (Text.trim s))) asked
  | missing {asked : List Lookup} (search : Finds env field prefixes none asked) :
      Fills make env prefixes field none none asked

/-- What becomes of a field that holds a list, and what is asked for that. -/
inductive FillsList {α : Type} (make : String → α) (env : Environment) (prefixes : List String)
    (field : String) : List α → List α → List Lookup → Prop
  | kept {as : List α} (items : as ≠ []) : FillsList make env prefixes field as as []
  | found {s : String} {asked : List Lookup} (search : Finds env field prefixes (some s) asked) :
      FillsList make env prefixes field [] ((Text.commaItems s).map make) asked
  | missing {asked : List Lookup} (search : Finds env field prefixes none asked) :
      FillsList make env prefixes field [] [] asked

theorem fills_orAsk {α : Type} (make : String → α) (env : Environment) (prefixes : List String)
    (field : String) (o : Option α) :
    Fills make env prefixes field o
      (orAsk ((·.map make) <$> (propertySource env prefixes).value field) o).value
      (orAsk ((·.map make) <$> (propertySource env prefixes).value field) o).trace := by
  cases o with
  | some a => exact Fills.kept a
  | none =>
    obtain ⟨found, search, value⟩ := finds_firstProperty env field prefixes
    rw [orAsk, Traced.value_map, Traced.trace_map]
    show Fills make env prefixes field none ((firstProperty env field prefixes).value.map make) _
    rw [value]
    cases found with
    | some s => exact Fills.found search
    | none => exact Fills.missing search

theorem fillsList_orAskList {α : Type} (make : String → α) (env : Environment)
    (prefixes : List String) (field : String) (as : List α) :
    FillsList make env prefixes field as
      (orAskList ((·.map make) <$> (propertySource env prefixes).list field) as).value
      (orAskList ((·.map make) <$> (propertySource env prefixes).list field) as).trace := by
  cases as with
  | cons a as => exact FillsList.kept (List.cons_ne_nil a as)
  | nil =>
    obtain ⟨found, search, value⟩ := finds_firstProperty env field prefixes
    rw [orAskList, Traced.value_map, Traced.trace_map]
    simp only [propertySource, Traced.value_bind, Traced.trace_bind, value]
    cases found with
    | some s =>
      rw [Option.map_some, Traced.trace_pure, List.append_nil, Traced.value_pure,
        Text.commaItems_trim]
      exact FillsList.found search
    | none =>
      rw [Option.map_none, Traced.trace_pure, List.append_nil]
      exact FillsList.missing search

end Filler

/-! ## Messages -/

open Filler (propertySource Fills FillsList)

variable {env : Environment} {prefixes : List String}

/-- What becomes of the numbers of a text, and what is asked for them, in this order. -/
def Sms.Filled (env : Environment) (prefixes : List String) (m m' : Sms) (asked : List Lookup) :
    Prop :=
  ∃ sender recipients,
    Fills PhoneNumber.raw env prefixes "from" m.sender m'.sender sender
      ∧ FillsList PhoneNumber.raw env prefixes "to" m.recipients m'.recipients recipients
      ∧ asked = sender ++ recipients

/-- What becomes of the fields of a letter, and what is asked for them, in this order; there are no
properties for copies. -/
structure Email.Filled (env : Environment) (prefixes : List String) (m m' : Email)
    (asked : List Lookup) : Prop where
  cc : m'.cc = m.cc
  bcc : m'.bcc = m.bcc
  fields : ∃ sender subject recipients,
    Fills id env prefixes "from" m.sender m'.sender sender
      ∧ Fills id env prefixes "subject" m.subject m'.subject subject
      ∧ FillsList id env prefixes "to" m.recipients m'.recipients recipients
      ∧ asked = sender ++ subject ++ recipients

theorem Sms.filled_fill (env : Environment) (prefixes : List String) (m : Sms) :
    Sms.Filled env prefixes m (m.fill (propertySource env prefixes)).value
      (m.fill (propertySource env prefixes)).trace := by
  refine ⟨_, _, Filler.fills_orAsk PhoneNumber.raw env prefixes "from" m.sender,
    Filler.fillsList_orAskList PhoneNumber.raw env prefixes "to" m.recipients, ?_⟩
  simp only [fill, Traced.trace_bind, Traced.trace_pure, List.append_nil]

theorem Email.filled_fill (env : Environment) (prefixes : List String) (m : Email) :
    Email.Filled env prefixes m (m.fill (propertySource env prefixes)).value
      (m.fill (propertySource env prefixes)).trace := by
  have sender := Filler.fills_orAsk id env prefixes "from" m.sender
  have subject := Filler.fills_orAsk id env prefixes "subject" m.subject
  have recipients := Filler.fillsList_orAskList id env prefixes "to" m.recipients
  simp only [Option.map_id_fun, List.map_id_fun, id_map] at sender subject recipients
  refine ⟨rfl, rfl, _, _, _, sender, subject, recipients, ?_⟩
  simp only [fill, Traced.trace_bind, Traced.trace_pure, List.append_nil, List.append_assoc]

/-- What becomes of the numbers of a filled text: addresses, each in its place, if there is a layer
for that, and else nothing. -/
inductive Addressing.Applied : Option Addressing → Sms → Sms → Prop
  | absent {m m' : Sms} (sender : m'.sender = m.sender)
      (recipients : m'.recipients = m.recipients) : Applied none m m'
  | present {a : Addressing} {m m' : Sms} (sender : Option.Rel a.sender.Makes m.sender m'.sender)
      (recipients : List.Forall₂ a.recipient.Makes m.recipients m'.recipients) :
      Applied (some a) m m'

/-! ## What is asked -/

variable {M : Type}

theorem Step.lookups_andThen {ε α β : Type} (x : Traced (Step M) (Except ε α))
    {f : α → Traced (Step M) (Except ε β)} (silent : ∀ a, Step.lookups (f a).trace = []) :
    Step.lookups (x.andThen f).trace = Step.lookups x.trace := by
  cases h : x.value with
  | error e => rw [Traced.andThen_of_error h]
  | ok a => rw [Traced.andThen_of_ok h, Step.lookups_append, silent, List.append_nil]

theorem Layer.kind_ne_of_mem_toList {α : Type} {mk : α → Layer M} {k : LayerKind}
    (h : ∀ a, (mk a).kind ≠ k) (o : Option α) : ∀ x ∈ (o.map mk).toList, x.kind ≠ k := by
  intro x hx
  obtain ⟨a, -, rfl⟩ := Option.map_eq_some_iff.1 (Option.mem_toList.1 hx)
  exact h a

variable [Message M]

namespace Layer

theorem lookups_filler (f : Filler M) (m : M) :
    Step.lookups ((filler f).pass m).trace = (f.fill m).trace := by
  simp only [pass, Traced.trace_bind, Traced.trace_mapSteps, Traced.trace_step, Traced.trace_pure,
    Step.lookups_append, Step.lookups_map_lookup]
  exact List.append_nil _

/-- Layers that do not fill anything in ask for nothing. -/
theorem lookups_pass_eq_nil {x : Layer M} (h : x.kind ≠ .filler) (m : M) :
    Step.lookups (x.pass m).trace = [] := by
  cases x with
  | filler f => exact absurd rfl h
  | content t =>
    simp only [pass, Traced.trace_bind, Traced.trace_mapSteps, Step.lookups_append,
      Step.lookups_map_log, List.nil_append]
    split <;> rfl
  | numbers t =>
    simp only [pass, Traced.trace_bind, Traced.trace_mapSteps, Step.lookups_append,
      Step.lookups_map_log, List.nil_append]
    split <;> rfl

theorem lookups_passAll_eq_nil {xs : List (Layer M)} (h : ∀ x ∈ xs, x.kind ≠ .filler) :
    ∀ m : M, Step.lookups (passAll xs m).trace = [] := by
  induction xs with
  | nil => exact fun _ => rfl
  | cons x xs ih =>
    intro m
    have rest := ih fun y hy => h y (List.mem_cons_of_mem x hy)
    rw [passAll, Step.lookups_andThen _ rest, lookups_pass_eq_nil (h x List.mem_cons_self)]

end Layer

/-- Of all the layers the filler alone asks for anything. -/
theorem Layers.lookups_pass {l : Layers M} {f : Filler M} (h : l.filler? = some f) (m : M) :
    Step.lookups (l.pass m).trace = (f.fill m).trace := by
  have content : ∀ x ∈ (l.content?.map (Layer.content (M := M))).toList, x.kind ≠ .filler :=
    Layer.kind_ne_of_mem_toList (fun _ => by simp [Layer.kind]) _
  have numbers : ∀ x ∈ (l.numbers?.map Layer.numbers).toList, x.kind ≠ .filler :=
    Layer.kind_ne_of_mem_toList (fun _ => by simp [Layer.kind]) _
  rw [pass_eq, h, Step.lookups_andThen]
  · exact (Step.lookups_andThen _ fun _ => rfl).trans (Layer.lookups_filler f m)
  · intro m
    rw [Step.lookups_andThen _ (Layer.lookups_passAll_eq_nil numbers),
      Layer.lookups_passAll_eq_nil content]

theorem Resolver.lookups_send (r : Resolver M) (m : M) :
    Step.lookups (r.send m).trace = (r.resolve m).trace := by
  rw [send, Traced.trace_bind, Step.lookups_append]
  show (r.resolve m).trace ++ _ = _
  cases (r.choose m).value <;> exact List.append_nil _

/-! ## Pipelines -/

namespace Plan

/-- What a pipeline makes of every message that a transport gets: its fields are settled by the
fields of the message that was submitted, a text stays as it was, and what is asked besides that is
asked for conditions. -/
structure Completes (p : Plan M) (Fields : M → M → List Lookup → Prop) : Prop where
  fields : ∀ m, ∀ d ∈ Step.deliveries (p.build.value.sender.send m).trace, ∃ asked,
    Fields m d.2.1 asked
      ∧ Step.lookups (p.build.value.sender.send m).trace = asked ++ (p.resolver.resolve d.2.1).trace
  text : ∀ m s, Message.content m = .text s →
    ∀ d ∈ Step.deliveries (p.build.value.sender.send m).trace, Message.content d.2.1 = .text s

/-- A message that passes asks what its filler asks, and then what conditions ask. -/
theorem lookups_send {p : Plan M} {f : Filler M} (filler : p.layers.filler? = some f) {m m' : M}
    (passed : p.layers.outcome m = .ok m') : Step.lookups (p.build.value.sender.send m).trace
      = (f.fill m).trace ++ (p.resolver.resolve m').trace := by
  show Step.lookups ((p.layers.compose p.resolver.toSender).send m).trace = _
  rw [Layers.compose_send, Traced.andThen_of_ok ((p.layers.value_pass m).trans passed),
    Step.lookups_append, Layers.lookups_pass filler]
  exact congrArg _ (Resolver.lookups_send p.resolver m')

end Plan

namespace Layers

theorem filled_eq {l : Layers M} (filler : l.filler? = some (.properties env prefixes)) (m : M) :
    l.filled m = (Message.fill (propertySource env prefixes) m).value := by
  rw [Layers.filled, filler]
  rfl

theorem applied_of_addressed {l : Layers Sms} {a? : Option Addressing} {m m' : Sms}
    (numbers : l.numbers? = a?.map fun a => ⟨a.translateSms⟩) (h : l.addressed m = .ok m') :
    Addressing.Applied a? m m' := by
  unfold addressed at h
  rw [numbers] at h
  cases a? with
  | none =>
    obtain rfl := Except.ok.inj h
    exact .absent rfl rfl
  | some a =>
    have made := Addressing.makes_of_value_translateSms h
    exact .present made.sender made.recipients

end Layers

/-- What settles the fields of a filled message, whatever its body, settles those of what is
delivered. -/
theorem Plan.completes_of_addressed {M : Type} [Deliverable M] [LawfulMessage M] [LawfulBody M]
    {p : Plan M} {Fields : M → M → List Lookup → Prop}
    (filler : p.layers.filler? = some (.properties env prefixes))
    (content : ContentTranslator.Stock p.layers.content?)
    (numbers : ∀ t ∈ p.layers.numbers?, t.KeepsBody)
    (settled : ∀ m m' c, p.layers.addressed (Message.withContent
        (Message.fill (propertySource env prefixes) m).value c) = .ok m' →
      Fields m m' (Message.fill (propertySource env prefixes) m).trace) : p.Completes Fields := by
  have fills : ∀ f ∈ p.layers.filler?, f.KeepsBody := by
    rw [filler]
    exact Filler.Stock.keepsBody (.properties env prefixes)
  refine ⟨?_, ?_⟩
  · intro m d handed
    have passed := outcome_of_mem_deliveries handed
    obtain ⟨m₂, translated, addressed⟩ := Layers.outcome_eq_ok passed
    obtain ⟨c, rfl⟩ := Layers.exists_withContent_of_translated translated
    rw [Layers.filled_eq filler] at addressed
    exact ⟨_, settled m d.2.1 c addressed, lookups_send filler passed⟩
  · intro m s submitted d handed
    exact Layers.text_of_outcome content fills numbers submitted (outcome_of_mem_deliveries handed)

/-- What becomes of the numbers of a text that is filled in and then addressed. -/
def Sms.Completed (env : Environment) (prefixes : List String) (a? : Option Addressing)
    (m m' : Sms) (asked : List Lookup) : Prop :=
  ∃ filled, Sms.Filled env prefixes m filled asked ∧ Addressing.Applied a? filled m'

/-- **What was set stays, and the rest is found or stays open.**  In a pipeline that fills in from
properties under any prefixes, whose bodies are made final by templates or not at all, every message
that a transport gets has the fields that its caller set, and otherwise what the first prefix has
that has anything, which is all that is asked for besides what conditions ask; the numbers of a text
are then addressed where they stand, if there is a layer for it.  A text is never changed. -/
theorem Plan.completes_of_properties :
    (∀ (p : Plan Sms) env prefixes a?, p.layers.filler? = some (.properties env prefixes) →
      ContentTranslator.Stock p.layers.content? →
      p.layers.numbers? = a?.map (fun a => ⟨a.translateSms⟩) →
      p.Completes (Sms.Completed env prefixes a?))
    ∧ ∀ (p : Plan Email) env prefixes, p.layers.filler? = some (.properties env prefixes) →
      ContentTranslator.Stock p.layers.content? → p.layers.numbers? = none →
      p.Completes (Email.Filled env prefixes) := by
  constructor
  · intro p env prefixes a? filler content numbers
    have keeps : ∀ t ∈ p.layers.numbers?, t.KeepsBody := by
      rw [numbers]
      cases a? with
      | none => exact nofun
      | some a =>
        rintro t ⟨⟩
        exact fun m m' h => (Addressing.makes_of_value_translateSms h).content
    refine completes_of_addressed filler content keeps ?_
    intro m m' c addressed
    have applied := Layers.applied_of_addressed numbers addressed
    refine ⟨_, Sms.filled_fill env prefixes m, ?_⟩
    cases applied with
    | absent sender recipients => exact .absent sender recipients
    | present sender recipients => exact .present sender recipients
  · intro p env prefixes filler content numbers
    refine completes_of_addressed filler content (by simp [numbers]) ?_
    intro m m' c addressed
    rw [Layers.addressed, numbers] at addressed
    obtain rfl := Except.ok.inj addressed
    obtain ⟨cc, bcc, fields⟩ := Email.filled_fill env prefixes m
    exact ⟨cc, bcc, fields⟩

/-- An order that nobody filled in, and a letter with a subject that is blank. -/
theorem Plan.completes_of_properties_order :
    let env : Environment :=
      .of (.ofList [("sms.from", " Shop "), ("sms.to", "0171-3, ,0172"), ("mail.from", "a@b.org")])
        .detect
    let a : Addressing := .ofRules .sender (.recipient "49")
    let texts : Plan Sms := ((Plan.new .standard).setLayers
      ((Layers.empty.setFiller (.properties env ["any", "sms"])).setAddressing a)).add .always
        (.memory "texts" none)
    let letters : Plan Email := ((Plan.new .standard).setLayers
      (Layers.empty.setFiller (.properties env ["mail"]))).add .always (.memory "letters" none)
    let order : Sms := ⟨.text "hi", none, []⟩
    let sent : Sms := ⟨.text "hi", some (.addressed ⟨"Shop", .alphanumeric, .unknown⟩),
      [.addressed ⟨"491713", .international, .isdn⟩, .addressed ⟨"49172", .international, .isdn⟩]⟩
    let letter : Email := ⟨.text "hi", some " ", none, ["c@d.org"], [], ["e@f.org"]⟩
    (∃ asked, Sms.Completed env ["any", "sms"] (some a) order sent asked
        ∧ Step.lookups (texts.build.value.sender.send order).trace = asked)
      ∧ ∃ asked, Email.Filled env ["mail"] letter { letter with sender := some "a@b.org" } asked
        ∧ Step.lookups (letters.build.value.sender.send letter).trace = asked := by
  intro env a texts letters order sent letter
  constructor
  · have completes : texts.Completes (Sms.Completed env ["any", "sms"] (some a)) :=
      completes_of_properties.1 texts env _ (some a) rfl .absent rfl
    have passed : texts.layers.outcome order = .ok sent := by
      subst env a texts order sent
      rfl
    have selected : texts.Selects order sent ⟨.always, .memory "texts" none⟩ := ⟨passed, rfl⟩
    obtain ⟨asked, fields, lookups⟩ := completes.fields order ("texts", sent, [.kept])
      (selected.delivers.deliveries ▸ List.mem_singleton_self _)
    exact ⟨asked, fields, lookups.trans (List.append_nil asked)⟩
  · have completes : letters.Completes (Email.Filled env ["mail"]) :=
      completes_of_properties.2 letters env _ rfl .absent rfl
    have passed : letters.layers.outcome letter = .ok { letter with sender := some "a@b.org" } := by
      subst env letters letter
      rfl
    have selected : letters.Selects letter _ ⟨.always, .memory "letters" none⟩ := ⟨passed, rfl⟩
    obtain ⟨asked, fields, lookups⟩ := completes.fields letter ("letters", _, [.kept])
      (selected.delivers.deliveries ▸ List.mem_singleton_self _)
    exact ⟨asked, fields, lookups.trans (List.append_nil asked)⟩

end Courier
