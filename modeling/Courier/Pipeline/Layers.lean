/-
# Layers — what happens to a message before a transport is chosen

A pipeline has at most one layer of each kind.  Filling is outermost, then the body is made final,
then numbers become addresses; in whatever order the layers were set, they are kept in this one and
`compose` wraps a sender in them from the inside out.  Setting a kind again replaces its layer.
-/
import Courier.Address.Translate
import Courier.Filler
import Courier.Pipeline.Sender

namespace Courier

/-! ## Kinds -/

/-- The kinds of layer, the outermost first. -/
inductive LayerKind where
  | filler
  | contentTranslator
  | phoneNumberTranslator
  deriving DecidableEq, Repr

/-- All kinds, the outermost first. -/
def LayerKind.all : List LayerKind := [.filler, .contentTranslator, .phoneNumberTranslator]

/-- How many kinds lie outside of a kind. -/
def LayerKind.depth : LayerKind → Nat
  | .filler => 0
  | .contentTranslator => 1
  | .phoneNumberTranslator => 2

theorem LayerKind.depth_inj {j k : LayerKind} (h : j.depth = k.depth) : j = k := by
  cases j <;> cases k <;> first | rfl | exact absurd h (by decide)

/-- The name of a kind, which is the name of its sender. -/
def LayerKind.name : LayerKind → String
  | .filler => "filler"
  | .contentTranslator => "content-translator"
  | .phoneNumberTranslator => "phone-number-translator"

/-- The name of a kind in documents. -/
def LayerKind.key : LayerKind → String
  | .filler => "filler"
  | .contentTranslator => "content_translator"
  | .phoneNumberTranslator => "phone_number_translator"

/-- The name of a kind in diagnostics. -/
def LayerKind.label : LayerKind → String
  | .filler => "Filler"
  | .contentTranslator => "ContentTranslator"
  | .phoneNumberTranslator => "PhoneNumberTranslator"

/-! ## Stages -/

/-- Makes the body of a message final. -/
structure ContentTranslator where
  translate : Content → Traced LogRecord (Except ContentError Content)

/-- Turns the numbers of a message into addresses. -/
structure NumberTranslator (M : Type) where
  translate : M → Traced LogRecord (Except AddressingError M)

/-- The variable in which a template finds the message. -/
def messageVariable : String := "message"

/-- A body whose template, if it is one, sees the fields of the message. -/
def Content.withMessage (fields : List (String × Json.Value)) : Content → Content
  | .text s => .text s
  | .template t =>
    .template { t with
      bindings := Entries.insertMissing messageVariable (.object fields) t.bindings }

namespace Layer

variable {M : Type}

/-- The record of a filled message. -/
def filled [Message M] (m : M) : LogRecord :=
  { level := .trace
    target := "herald::sender::filler"
    message := "message filled"
    fields := [("kind", .text (Message.channel M).name), ("summary", .text (Message.summary m))] }

/-- Fills a message in before it goes on. -/
def fill [Message M] (filler : Filler M) (inner : Sender M) : Sender M where
  name := LayerKind.filler.name
  send m := do
    let m ← (filler.fill m).mapSteps .lookup
    Traced.step (.log (filled m))
    inner.send m

/-- The record of a body that cannot be made final. -/
def untranslated [Message M] (e : ContentError) : LogRecord :=
  { level := .warn
    target := "herald::sender::content"
    message := "content translation failed"
    fields := [("kind", .text (Message.channel M).name), ("error", .text e.message)] }

/-- Makes the body of a message final before it goes on. -/
def translateContent [Message M] (translator : ContentTranslator) (inner : Sender M) :
    Sender M where
  name := LayerKind.contentTranslator.name
  send m := do
    let content := (Message.content m).withMessage (Message.fields m)
    match ← (translator.translate content).mapSteps .log with
    | .error e =>
      Traced.step (.log (untranslated (M := M) e))
      return .error (.content e)
    | .ok content => inner.send (Message.withContent m content)

/-- The record of numbers that cannot be used. -/
def unaddressed (e : AddressingError) : LogRecord :=
  { level := .warn
    target := "herald::sender::phone"
    message := "phone number translation rejected message"
    fields := [("error", .text (SendError.invalidAddress e).message)] }

/-- Turns the numbers of a message into addresses before it goes on. -/
def translateNumbers (translator : NumberTranslator M) (inner : Sender M) : Sender M where
  name := LayerKind.phoneNumberTranslator.name
  send m := do
    match ← (translator.translate m).mapSteps .log with
    | .error e =>
      Traced.step (.log (unaddressed e))
      return .error (.invalidAddress e)
    | .ok m => inner.send m

end Layer

/-! ## One layer -/

/-- A layer that a pipeline can have. -/
inductive Layer (M : Type) where
  | filler (f : Filler M)
  | content (t : ContentTranslator)
  | numbers (t : NumberTranslator M)

namespace Layer

variable {M : Type}

/-- The kind of a layer. -/
def kind : Layer M → LayerKind
  | .filler _ => .filler
  | .content _ => .contentTranslator
  | .numbers _ => .phoneNumberTranslator

/-- The filler of a layer that fills. -/
def filler? : Layer M → Option (Filler M)
  | .filler f => some f
  | _ => none

/-- The translator of a layer that makes bodies final. -/
def content? : Layer M → Option ContentTranslator
  | .content t => some t
  | _ => none

/-- The translator of a layer that turns numbers into addresses. -/
def numbers? : Layer M → Option (NumberTranslator M)
  | .numbers t => some t
  | _ => none

/-- A sender with a layer around it. -/
def around [Message M] : Layer M → Sender M → Sender M
  | .filler f => fill f
  | .content t => translateContent t
  | .numbers t => translateNumbers t

/-- Puts a layer into its place, instead of the one of its kind. -/
def put (x : Layer M) : List (Layer M) → List (Layer M)
  | [] => [x]
  | y :: ys =>
    if x.kind.depth < y.kind.depth then x :: y :: ys
    else if x.kind = y.kind then x :: ys
    else y :: put x ys

theorem mem_put {x z : Layer M} {xs : List (Layer M)} (h : z ∈ put x xs) : z = x ∨ z ∈ xs := by
  induction xs with
  | nil => simpa [put] using h
  | cons y ys ih =>
    simp only [put] at h
    split at h
    · simpa using h
    · split at h
      · rcases List.mem_cons.1 h with h | h
        · exact .inl h
        · exact .inr (List.mem_cons_of_mem _ h)
      · rcases List.mem_cons.1 h with h | h
        · exact .inr (h ▸ List.mem_cons_self)
        · exact (ih h).imp id (List.mem_cons_of_mem _)

/-- The layers stand in the order of their kinds, one of each at most. -/
def Ordered (xs : List (Layer M)) : Prop := xs.Pairwise fun x y => x.kind.depth < y.kind.depth

theorem ordered_put (x : Layer M) {xs : List (Layer M)} (h : Ordered xs) : Ordered (put x xs) := by
  induction xs with
  | nil => exact List.pairwise_singleton _ _
  | cons y ys ih =>
    have ⟨hd, tl⟩ := List.pairwise_cons.1 h
    simp only [put]
    split
    · rename_i lt
      refine List.pairwise_cons.2 ⟨fun z hz => ?_, h⟩
      rcases List.mem_cons.1 hz with rfl | hz
      · exact lt
      · exact Nat.lt_trans lt (hd z hz)
    · split
      · rename_i _ eq
        exact List.pairwise_cons.2 ⟨fun z hz => eq ▸ hd z hz, tl⟩
      · rename_i nlt ne
        refine List.pairwise_cons.2 ⟨fun z hz => ?_, ih tl⟩
        rcases mem_put hz with rfl | hz
        · exact Nat.lt_of_le_of_ne (Nat.not_lt.1 nlt) fun e => ne (LayerKind.depth_inj e).symm
        · exact hd z hz

end Layer

/-! ## Layers of a pipeline -/

/-- The layers that a pipeline has, the outermost first and one of each kind at most. -/
structure Layers (M : Type) where
  entries : List (Layer M)
  ordered : Layer.Ordered entries

namespace Layers

variable {M : Type}

/-- No layer. -/
def empty : Layers M := ⟨[], List.Pairwise.nil⟩

/-- The layers with one more, instead of the one of its kind. -/
def set (l : Layers M) (x : Layer M) : Layers M :=
  ⟨Layer.put x l.entries, Layer.ordered_put x l.ordered⟩

/-- The layers with a filler. -/
def setFiller (l : Layers M) (f : Filler M) : Layers M := l.set (.filler f)

/-- The layers with a translator of bodies. -/
def setContentTranslator (l : Layers M) (t : ContentTranslator) : Layers M := l.set (.content t)

/-- The layers with a translator of numbers. -/
def setNumberTranslator (l : Layers M) (t : NumberTranslator M) : Layers M := l.set (.numbers t)

/-- The layers without one kind. -/
def remove (l : Layers M) (k : LayerKind) : Layers M :=
  ⟨l.entries.filter (·.kind ≠ k), l.ordered.filter _⟩

/-- The layer of a kind. -/
def get? (l : Layers M) (k : LayerKind) : Option (Layer M) := l.entries.find? (·.kind = k)

/-- The filler, if there is one. -/
def filler? (l : Layers M) : Option (Filler M) := (l.get? .filler).bind (·.filler?)

/-- The translator of bodies, if there is one. -/
def content? (l : Layers M) : Option ContentTranslator :=
  (l.get? .contentTranslator).bind (·.content?)

/-- The translator of numbers, if there is one. -/
def numbers? (l : Layers M) : Option (NumberTranslator M) :=
  (l.get? .phoneNumberTranslator).bind (·.numbers?)

/-- The kinds of the layers, the outermost first. -/
def kinds (l : Layers M) : List LayerKind := l.entries.map (·.kind)

/-- Wraps a sender in all the layers, in the innermost first. -/
def compose [Message M] (l : Layers M) (base : Sender M) : Sender M :=
  l.entries.foldr Layer.around base

/-- Layers in diagnostics. -/
def describe (l : Layers M) : String :=
  "PipelineLayers \x7b kinds: " ++ Text.bracketed (l.kinds.map (·.label)) ++ " \x7d"

end Layers

/-- The layers of a text, with one that turns its numbers into addresses. -/
def Layers.setAddressing (l : Layers Sms) (a : Addressing) : Layers Sms :=
  l.setNumberTranslator ⟨a.translateSms⟩

end Courier
