/-
# Bindings — what a template sees

A pipeline with a layer for bodies is a computation in which the translator is unknown, and it asks
the translator for one body and once (`AsksOnce`): up to there nothing depends on the translator,
and from there everything depends on the answer alone.  No other body fits this description
(`AsksOnce.unique`), so it tells what the translator is asked for; and no second question does, as
it would leave its records twice.

That body has the source and the variables of the message, and one variable more unless the caller
has it already, which is the message as it left the filler (`Template.Sees`).  What is in it is
found by name: the sender if there is one, the recipients in order and as people see them, and of a
letter its subject if it has one and its copies (`Sms.Shows`, `Email.Shows`).  Numbers become
addresses later, and whether they do makes no difference.
-/
import Courier.Proofs.Finality

namespace Courier

open Json (Value)

variable {M : Type}

/-! ## Asking a translator -/

/-- A computation with a translator left open asks it for a body, and for nothing before or after:
what comes first is the same for all translators, and what comes last depends on the answer. -/
def AsksOnce (run : ContentTranslator → Traced (Step M) (Except SendError Unit)) (c : Content) :
    Prop :=
  ∃ (before : List (Step M))
    (after : Except ContentError Content → Traced (Step M) (Except SendError Unit)),
    (∀ s ∈ before, s.IsInternal) ∧ ∀ t, run t
      = ⟨(after (t.translate c).value).value,
          before ++ ((t.translate c).trace.map .log ++ (after (t.translate c).value).trace)⟩

namespace ContentTranslator

/-- Refuses every body. -/
def mute : ContentTranslator := ⟨fun _ => pure (.error (.render ""))⟩

open Classical in
/-- Refuses every body, and records when it is asked for a certain one. -/
noncomputable def recorder (c : Content) : ContentTranslator :=
  ⟨fun c' => ⟨.error (.render ""),
    if c' = c then [Layer.untranslated (M := Sms) (.render "")] else []⟩⟩

theorem trace_recorder_self (c : Content) :
    ((recorder c).translate c).trace = [Layer.untranslated (M := Sms) (.render "")] := if_pos rfl

theorem trace_recorder_ne {c c' : Content} (h : c' ≠ c) : ((recorder c).translate c').trace = [] :=
  if_neg h

end ContentTranslator

/-- A computation that asks once asks for one body. -/
theorem AsksOnce.unique {run : ContentTranslator → Traced (Step M) (Except SendError Unit)}
    {c c' : Content} (h : AsksOnce run c) (h' : AsksOnce run c') : c' = c := by
  obtain ⟨before, after, -, asks⟩ := h
  obtain ⟨before', after', -, asks'⟩ := h'
  by_contra other
  -- A record at `c` makes the run longer by one step if `c` is asked for, and no longer if `c'` is.
  have plain := congrArg List.length (congrArg Traced.trace ((asks .mute).symm.trans (asks' .mute)))
  have marked := congrArg List.length
    (congrArg Traced.trace ((asks (.recorder c)).symm.trans (asks' (.recorder c))))
  simp only [ContentTranslator.trace_recorder_self, ContentTranslator.trace_recorder_ne other,
    List.length_append, List.length_map, List.length_cons, List.length_nil] at marked
  simp only [ContentTranslator.mute, Traced.trace_pure, Traced.value_pure, List.length_append,
    List.length_map, List.length_nil] at plain
  simp only [ContentTranslator.recorder] at marked
  omega

/-! ## Layers around a translator -/

namespace Layers

theorem content?_set (l : Layers M) (t : ContentTranslator) :
    (l.setContentTranslator t).get? .contentTranslator = some (.content t) :=
  get?_set_self l (.content t)

/-- Layers that agree on every kind are the same. -/
theorem eq_of_get? {l l' : Layers M} (h : ∀ k, l'.get? k = l.get? k) : l' = l := by
  have entries : l'.entries = l.entries := by rw [entries_eq l', entries_eq l, funext h]
  cases l
  cases l'
  cases entries
  rfl

/-- Setting the translator that is there changes nothing. -/
theorem setContentTranslator_self {l : Layers M} {t : ContentTranslator}
    (h : l.content? = some t) : l.setContentTranslator t = l := by
  refine eq_of_get? fun k => ?_
  by_cases hk : k = .contentTranslator
  · rw [hk, content?_set, get?_contentTranslator, h]
    rfl
  · exact get?_set_ne l (Ne.symm hk)

end Layers

variable [Message M]

namespace Layer

/-- What a layer for bodies does once its translator has answered. -/
def afterAnswer (inner : Sender M) (m : M) :
    Except ContentError Content → Traced (Step M) (Except SendError Unit)
  | .error e => do
    Traced.step (.log (untranslated (M := M) e))
    return .error (.content e)
  | .ok body => inner.send (Message.withContent m body)

theorem translateContent_send (t : ContentTranslator) (inner : Sender M) (m : M) :
    (translateContent t inner).send m
      = ⟨(afterAnswer inner m
            (t.translate ((Message.content m).withMessage (Message.fields m))).value).value,
          (t.translate ((Message.content m).withMessage (Message.fields m))).trace.map .log
            ++ (afterAnswer inner m
              (t.translate ((Message.content m).withMessage (Message.fields m))).value).trace⟩ := by
  show Bind.bind _ _ = _
  simp only [bind, Traced.value_mapSteps, Traced.trace_mapSteps]
  cases (t.translate ((Message.content m).withMessage (Message.fields m))).value <;> rfl

end Layer

namespace Layers

/-- A filler takes its steps, and the sender inside gets the filled message. -/
theorem aroundSome_filler (l : Layers M) (m : M) : ∃ before : List (Step M),
    (∀ s ∈ before, s.IsInternal) ∧ ∀ inner : Sender M,
      (Layer.aroundSome (l.get? .filler) inner).send m
        = ⟨(inner.send (l.filled m)).value, before ++ (inner.send (l.filled m)).trace⟩ := by
  rw [get?_filler]
  unfold filled
  cases l.filler? with
  | none => exact ⟨[], nofun, fun _ => rfl⟩
  | some f =>
    have value : ((Layer.filler f).pass m).value = .ok (f.fill m).value := rfl
    refine ⟨((Layer.filler f).pass m).trace, Layer.pass_quiet _ m, ?_⟩
    intro inner
    show ((Layer.filler f).around inner).send m = _
    rw [Layer.around_send, Traced.andThen_of_ok value]

/-- With a translator of bodies among its layers, a sender asks it for the body of the filled
message, which sees the fields of that message. -/
theorem asksOnce_compose (l : Layers M) (base : Sender M) (m : M) :
    AsksOnce (fun t => ((l.setContentTranslator t).compose base).send m)
      ((Message.content (l.filled m)).withMessage (Message.fields (l.filled m))) := by
  obtain ⟨before, quiet, fills⟩ := l.aroundSome_filler m
  refine ⟨before, Layer.afterAnswer (Layer.aroundSome (l.get? .phoneNumberTranslator) base)
    (l.filled m), quiet, ?_⟩
  intro t
  have filler : (l.setContentTranslator t).get? .filler = l.get? .filler :=
    get?_set_ne l (by simp [Layer.kind])
  have numbers : (l.setContentTranslator t).get? .phoneNumberTranslator
      = l.get? .phoneNumberTranslator := get?_set_ne l (by simp [Layer.kind])
  dsimp only
  rw [compose_eq, filler, numbers, content?_set, fills]
  show Traced.mk (Sender.send (Layer.translateContent t _) _).value
    (before ++ (Sender.send (Layer.translateContent t _) _).trace) = _
  rw [Layer.translateContent_send]

end Layers

/-! ## Variables -/

namespace Entries

variable {α : Type} {k : String} {a : α} {es : List (String × α)}

/-- A new key is put among the others, which stay. -/
theorem perm_insert (h : find? k es = none) : (insert k a es).Perm ((k, a) :: es) := by
  induction es with
  | nil => exact .refl _
  | cons e es ih =>
    obtain ⟨k', a'⟩ := e
    rw [find?] at h
    split at h
    · cases h
    · rename_i other
      rw [insert, if_neg other]
      split
      · exact .refl _
      · exact ((ih h).cons _).trans (.swap _ _ _)

/-- Entries are sorted if their keys are. -/
theorem sorted_of_keys (ks : List String) (keys : es.map (·.1) = ks)
    (h : ks.Pairwise (· < ·)) : Sorted es := by
  subst keys
  exact List.pairwise_map.1 h

end Entries

/-- A template and what is made of it for a translator that is to see some fields. -/
inductive Template.Sees (fields : List (String × Value)) : Template → Template → Prop
  /-- The caller has the variable already, and nothing changes. -/
  | own {t : Template} {v : Value} (defined : Entries.find? messageVariable t.bindings = some v) :
      Sees fields t t
  /-- The fields are one variable more. -/
  | added {source : TemplateSource} {own bindings : List (String × Value)}
      (undefined : Entries.find? messageVariable own = none)
      (more : bindings.Perm ((messageVariable, .object fields) :: own))
      (sorted : Entries.Sorted own → Entries.Sorted bindings) :
      Sees fields ⟨source, own⟩ ⟨source, bindings⟩

/-- A body and what a translator is asked for that is to see some fields. -/
inductive Content.Shown (fields : List (String × Value)) : Content → Content → Prop
  | text (s : String) : Shown fields (.text s) (.text s)
  | template {t t' : Template} (sees : t.Sees fields t') :
      Shown fields (.template t) (.template t')

theorem Content.shown_withMessage (fields : List (String × Value)) (c : Content) :
    c.Shown fields (c.withMessage fields) := by
  cases c with
  | text s => exact .text s
  | template t =>
    obtain ⟨source, bindings⟩ := t
    refine .template ?_
    cases h : Entries.find? messageVariable bindings with
    | some v =>
      have same : Entries.insertMissing messageVariable (.object fields) bindings = bindings := by
        rw [Entries.insertMissing, h]
      show Template.Sees fields _ ⟨source, Entries.insertMissing _ _ _⟩
      rw [same]
      exact .own h
    | none =>
      have put : Entries.insertMissing messageVariable (.object fields) bindings
          = Entries.insert messageVariable (.object fields) bindings := by
        rw [Entries.insertMissing, h]
      show Template.Sees fields _ ⟨source, Entries.insertMissing _ _ _⟩
      rw [put]
      exact .added h (Entries.perm_insert h) (Entries.sorted_insert _ _)

/-! ## Fields -/

/-- The fields of a text: its sender if it has one, and its recipients in order, both as people see
them; each once, and nothing else. -/
structure Sms.Shows (m : Sms) (fields : List (String × Value)) : Prop where
  sender : Entries.find? "from" fields = m.sender.map fun p => .text p.display
  recipients : Entries.find? "to" fields = some (.list (m.recipients.map fun p => .text p.display))
  others : ∀ k, k ≠ "from" → k ≠ "to" → Entries.find? k fields = none
  sorted : Entries.Sorted fields

/-- The fields of a letter: its sender and its subject if it has them, and its recipients and copies
in order; each once, and nothing else. -/
structure Email.Shows (m : Email) (fields : List (String × Value)) : Prop where
  sender : Entries.find? "from" fields = m.sender.map .text
  subject : Entries.find? "subject" fields = m.subject.map .text
  recipients : Entries.find? "to" fields = some (.list (m.recipients.map .text))
  cc : Entries.find? "cc" fields = some (.list (m.cc.map .text))
  bcc : Entries.find? "bcc" fields = some (.list (m.bcc.map .text))
  others : ∀ k, k ≠ "from" → k ≠ "subject" → k ≠ "to" → k ≠ "cc" → k ≠ "bcc" →
    Entries.find? k fields = none
  sorted : Entries.Sorted fields

theorem Sms.shows_fields (m : Sms) : m.Shows m.fields := by
  obtain ⟨content, sender, recipients⟩ := m
  cases sender with
  | none =>
    refine ⟨rfl, ?_, ?_, ?_⟩
    · simp [fields, sender?, shownRecipients, Entries.find?, Json.Value.texts]
    · intro k _ h
      simp [fields, sender?, Entries.find?, h]
    · exact Entries.sorted_of_keys ["to"] rfl (by decide)
  | some p =>
    refine ⟨rfl, ?_, ?_, ?_⟩
    · simp [fields, sender?, shownRecipients, Entries.find?, Json.Value.texts]
    · intro k h h'
      simp [fields, sender?, Entries.find?, h, h']
    · exact Entries.sorted_of_keys ["from", "to"] rfl (by decide)

theorem Email.shows_fields (m : Email) : m.Shows m.fields := by
  obtain ⟨content, subject, sender, recipients, cc, bcc⟩ := m
  constructor
  case sender => cases sender <;> cases subject <;> rfl
  case subject => cases sender <;> cases subject <;> rfl
  case recipients => cases sender <;> cases subject <;> rfl
  case cc => rfl
  case bcc => rfl
  case others =>
    intro k h₁ h₂ h₃ h₄ h₅
    cases sender <;> cases subject <;> simp [fields, Entries.find?, h₁, h₂, h₃, h₄, h₅]
  case sorted =>
    cases sender with
    | none =>
      cases subject with
      | none => exact Entries.sorted_of_keys ["bcc", "cc", "to"] rfl (by decide)
      | some _ => exact Entries.sorted_of_keys ["bcc", "cc", "subject", "to"] rfl (by decide)
    | some _ =>
      cases subject with
      | none => exact Entries.sorted_of_keys ["bcc", "cc", "from", "to"] rfl (by decide)
      | some _ =>
        exact Entries.sorted_of_keys ["bcc", "cc", "from", "subject", "to"] rfl (by decide)

/-! ## Pipelines -/

/-- What the templates of a pipeline see, whatever translates them. -/
structure Plan.ShowsTemplates (p : Plan M) (Shows : M → List (String × Value) → Prop) : Prop where
  /-- The translator is asked once, for the body of the filled message with the fields that this
  message has. -/
  asks : ∀ m, ∃ fields c, Shows (p.layers.filled m) fields
    ∧ (Message.content (p.layers.filled m)).Shown fields c
    ∧ ∀ c', AsksOnce (fun t => (p.withContentTranslator t).build.value.sender.send m) c' ↔ c' = c
  /-- A pipeline that has a translator is one of those that are spoken of. -/
  own : ∀ t, p.layers.content? = some t → p.withContentTranslator t = p
  /-- The body of the filled message is that of the message, if the filler leaves bodies alone. -/
  body : (∀ f ∈ p.layers.filler?, f.KeepsBody) →
    ∀ m, Message.content (p.layers.filled m) = Message.content m
  /-- The fillers that there are do. -/
  stock : Filler.Stock p.layers.filler? → ∀ f ∈ p.layers.filler?, f.KeepsBody

theorem Plan.showsTemplates_of_fields {M : Type} [Deliverable M] [LawfulBody M] {p : Plan M}
    {Shows : M → List (String × Value) → Prop} (shows : ∀ m, Shows m (Message.fields m)) :
    p.ShowsTemplates Shows := by
  refine ⟨?_, ?_, fun fills => Layers.content_filled fills, Filler.Stock.keepsBody⟩
  · intro m
    have asks : AsksOnce (fun t => (p.withContentTranslator t).build.value.sender.send m)
        ((Message.content (p.layers.filled m)).withMessage (Message.fields (p.layers.filled m))) :=
      p.layers.asksOnce_compose p.resolver.toSender m
    refine ⟨_, _, shows _, Content.shown_withMessage _ _, ?_⟩
    intro c'
    constructor
    · intro other
      exact asks.unique other
    · rintro rfl
      exact asks
  · intro t present
    show { p with layers := p.layers.setContentTranslator t } = p
    rw [Layers.setContentTranslator_self present]

/-- **A template sees its caller's variables and the message as it was filled in.**  In every
pipeline, whatever its filler is and whether or not it turns numbers into addresses, the translator
in its layer for bodies is asked once for every message: for a text as it is, and for a template
with its source, with the variables of its caller, and, unless the caller has a variable of that
name, with the fields that the message has once it is filled in and before any number is an
address. -/
theorem Plan.showsTemplates :
    (∀ p : Plan Sms, p.ShowsTemplates Sms.Shows) ∧ ∀ p : Plan Email, p.ShowsTemplates Email.Shows :=
  ⟨fun _ => showsTemplates_of_fields Sms.shows_fields,
    fun _ => showsTemplates_of_fields Email.shows_fields⟩

end Courier
