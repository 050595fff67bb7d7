/-
# Passage — what layers do to a message, apart from what they are wrapped around

A layer either lets a message through, changed or not, or refuses it with an error.  `pass` is that
much of it, with its trace; `compose_send` says that a composed sender is the passage followed by
the sender inside, which gets what was let through and nothing else.  So the sender inside matters
for nothing before it is reached, and for nothing at all when the message is refused.

`filled`, `translated` and `addressed` are the three stages without their traces, and `value_pass`
puts them together.  The trace of a passage holds questions and records alone: no condition is
tried and no transport gets anything (`pass_quiet`).
-/
import Courier.Proofs.Stacking

namespace Courier

/-! ## Computations that can end in an error -/

section Sequence

variable {ε δ α β κ : Type} {x : Except ε α} {f : α → Except ε β} {g : ε → δ}

theorem bind_eq_ok_iff {b : β} : x >>= f = .ok b ↔ ∃ a, x = .ok a ∧ f a = .ok b := by
  cases x with
  | error e => exact ⟨fun h => (by cases h), fun ⟨_, h, _⟩ => (by cases h)⟩
  | ok a =>
    constructor
    · exact fun h => ⟨a, rfl, h⟩
    · rintro ⟨_, same, h⟩
      obtain rfl := Except.ok.inj same
      exact h

theorem bind_eq_error_iff {e : ε} :
    x >>= f = .error e ↔ x = .error e ∨ ∃ a, x = .ok a ∧ f a = .error e := by
  cases x with
  | error e' =>
    constructor
    · exact fun h => .inl (congrArg _ (Except.error.inj h))
    · rintro (h | ⟨_, h, -⟩)
      · exact congrArg _ (Except.error.inj h)
      · cases h
  | ok a =>
    constructor
    · exact fun h => .inr ⟨a, rfl, h⟩
    · rintro (h | ⟨_, same, h⟩)
      · cases h
      · obtain rfl := Except.ok.inj same
        exact h

theorem mapError_eq_ok_iff {a : α} : x.mapError g = .ok a ↔ x = .ok a := by
  cases x <;> simp [Except.mapError]

theorem mapError_eq_error_iff {d : δ} : x.mapError g = .error d ↔ ∃ e, x = .error e ∧ d = g e := by
  cases x <;> simp [Except.mapError, eq_comm]

/-- A computation succeeds if it fails with no error. -/
theorem exists_eq_ok_iff : (∃ a, x = .ok a) ↔ ∀ e, x ≠ .error e := by
  cases x <;> simp

variable {run : κ → Except ε Unit} {ks : List κ}

/-- Checks one after the other fail with the error of the first that fails. -/
theorem forM_eq_error_iff {e : ε} :
    forM ks run = .error e ↔ ∃ before k after, ks = before ++ k :: after ∧ run k = .error e
      ∧ ∀ j ∈ before, run j = .ok () := by
  induction ks with
  | nil =>
    constructor
    · intro h; cases h
    · rintro ⟨before, k, after, h, -⟩
      cases before <;> cases h
  | cons x xs ih =>
    rw [List.forM_cons]
    cases hx : run x with
    | error e' =>
      constructor
      · intro h
        obtain rfl : e' = e := Except.error.inj h
        exact ⟨[], x, xs, rfl, hx, fun _ hj => absurd hj List.not_mem_nil⟩
      · rintro ⟨before, k, after, h, hk, passed⟩
        cases before with
        | nil =>
          obtain ⟨rfl, rfl⟩ := List.cons.inj h
          exact hx.symm.trans hk
        | cons y ys =>
          obtain ⟨rfl, rfl⟩ := List.cons.inj h
          cases hx.symm.trans (passed x List.mem_cons_self)
    | ok _ =>
      refine ih.trans ⟨?_, ?_⟩
      · rintro ⟨before, k, after, rfl, hk, passed⟩
        refine ⟨x :: before, k, after, rfl, hk, fun j hj => ?_⟩
        rcases List.mem_cons.1 hj with rfl | hj
        · exact hx
        · exact passed j hj
      · rintro ⟨before, k, after, h, hk, passed⟩
        cases before with
        | nil =>
          obtain ⟨rfl, rfl⟩ := List.cons.inj h
          cases hx.symm.trans hk
        | cons y ys =>
          obtain ⟨rfl, rfl⟩ := List.cons.inj h
          exact ⟨ys, k, after, rfl, hk, fun j hj => passed j (List.mem_cons_of_mem _ hj)⟩

/-- Checks one after the other succeed if all of them do. -/
theorem forM_eq_ok_iff : forM ks run = .ok () ↔ ∀ k ∈ ks, run k = .ok () := by
  induction ks with
  | nil => exact ⟨fun _ _ hk => absurd hk List.not_mem_nil, fun _ => rfl⟩
  | cons x xs ih =>
    rw [List.forM_cons, List.forall_mem_cons, ← ih]
    cases run x with
    | error e => exact ⟨fun h => (by cases h), fun h => (by cases h.1)⟩
    | ok _ => exact ⟨fun h => ⟨rfl, h⟩, fun h => h.2⟩

end Sequence

namespace Traced

variable {σ ε α β γ : Type}

/-- Goes on with a value, if there is one. -/
def andThen (x : Traced σ (Except ε α)) (f : α → Traced σ (Except ε β)) :
    Traced σ (Except ε β) := do
  match ← x with
  | .error e => return .error e
  | .ok a => f a

/-- A computation goes on with a value if it gives errors back and goes on with the others. -/
theorem bind_eq_andThen {x : Traced σ (Except ε α)} {g : Except ε α → Traced σ (Except ε β)}
    {f : α → Traced σ (Except ε β)} (error : ∀ e, g (.error e) = pure (.error e))
    (ok : ∀ a, g (.ok a) = f a) : x >>= g = x.andThen f := by
  refine congrArg (x >>= ·) (funext fun r => ?_)
  cases r with
  | error e => exact error e
  | ok a => exact ok a

theorem andThen_of_error {x : Traced σ (Except ε α)} {e : ε} (h : x.value = .error e)
    (f : α → Traced σ (Except ε β)) : x.andThen f = ⟨.error e, x.trace⟩ := by
  cases x with
  | mk value trace =>
    subst h
    simp [andThen, bind, pure]

theorem andThen_of_ok {x : Traced σ (Except ε α)} {a : α} (h : x.value = .ok a)
    (f : α → Traced σ (Except ε β)) :
    x.andThen f = ⟨(f a).value, x.trace ++ (f a).trace⟩ := by
  cases x with
  | mk value trace =>
    subst h
    simp [andThen, bind]

theorem value_andThen (x : Traced σ (Except ε α)) (f : α → Traced σ (Except ε β)) :
    (x.andThen f).value = x.value >>= fun a => (f a).value := by
  cases h : x.value with
  | error e => rw [andThen_of_error h]; rfl
  | ok a => rw [andThen_of_ok h]; rfl

theorem andThen_assoc (x : Traced σ (Except ε α)) (f : α → Traced σ (Except ε β))
    (g : β → Traced σ (Except ε γ)) :
    (x.andThen f).andThen g = x.andThen fun a => (f a).andThen g := by
  cases hx : x.value with
  | error e =>
    rw [andThen_of_error hx, andThen_of_error hx, andThen_of_error rfl]
  | ok a =>
    rw [andThen_of_ok hx, andThen_of_ok hx]
    cases hf : (f a).value with
    | error e => rw [andThen_of_error rfl, andThen_of_error hf]
    | ok b => rw [andThen_of_ok rfl, andThen_of_ok hf, List.append_assoc]

end Traced

/-! ## Steps -/

namespace Step

variable {M : Type}

/-- A question or a record: nothing is tried, and no transport gets anything. -/
def IsInternal : Step M → Prop
  | .lookup _ => True
  | .log _ => True
  | .tried _ _ => False
  | .handed _ _ _ => False

/-- A view that shows nothing of internal steps shows nothing of a list of them. -/
theorem filterMap_of_internal {β : Type} {view : Step M → Option β}
    (hview : ∀ s : Step M, s.IsInternal → view s = none) {steps : List (Step M)}
    (h : ∀ s ∈ steps, s.IsInternal) : steps.filterMap view = [] :=
  List.filterMap_eq_nil_iff.2 fun s hs => hview s (h s hs)

theorem evaluation?_of_internal (s : Step M) (h : s.IsInternal) : s.evaluation? = none := by
  cases s <;> first | rfl | exact h.elim

theorem delivery?_of_internal (s : Step M) (h : s.IsInternal) : s.delivery? = none := by
  cases s <;> first | rfl | exact h.elim

theorem shown?_of_internal (s : Step M) (h : s.IsInternal) : s.shown? = none := by
  cases s <;> first | rfl | exact h.elim

theorem lookups_append (steps more : List (Step M)) :
    lookups (steps ++ more) = lookups steps ++ lookups more := List.filterMap_append

theorem lookups_map_lookup (ls : List Lookup) :
    lookups (ls.map (Step.lookup : _ → Step M)) = ls := by
  rw [lookups, List.filterMap_map]
  exact List.filterMap_some

theorem lookups_map_log (rs : List LogRecord) :
    lookups (rs.map (Step.log : _ → Step M)) = [] := by
  rw [lookups, List.filterMap_map]
  exact List.filterMap_eq_nil_iff.2 fun _ _ => rfl

/-- What is handed to a transport is shown. -/
theorem mem_seen_of_mem_deliveries {steps : List (Step M)} {d : String × M × List Effect}
    (h : d ∈ deliveries steps) : d.2.1 ∈ seen steps := by
  obtain ⟨s, hs, handed⟩ := List.mem_filterMap.1 h
  refine List.mem_filterMap.2 ⟨s, hs, ?_⟩
  cases s with
  | handed name m effects =>
    obtain rfl := Option.some.inj handed
    rfl
  | _ => cases handed

end Step

namespace Traced

variable {M α β : Type}

/-- A computation that tries no condition and hands nothing to a transport. -/
def Quiet (x : Traced (Step M) α) : Prop := ∀ s ∈ x.trace, s.IsInternal

theorem quiet_pure (a : α) : (pure a : Traced (Step M) α).Quiet :=
  fun _ hs => absurd hs List.not_mem_nil

theorem quiet_log (r : LogRecord) : (step (.log r) : Traced (Step M) Unit).Quiet := by
  intro s hs
  rcases List.mem_singleton.1 hs with rfl
  trivial

theorem quiet_lookups (x : Traced Lookup α) : (x.mapSteps (.lookup : _ → Step M)).Quiet := by
  intro s hs
  obtain ⟨l, -, rfl⟩ := List.mem_map.1 hs
  trivial

theorem quiet_logs (x : Traced LogRecord α) : (x.mapSteps (.log : _ → Step M)).Quiet := by
  intro s hs
  obtain ⟨r, -, rfl⟩ := List.mem_map.1 hs
  trivial

theorem Quiet.bind {x : Traced (Step M) α} {f : α → Traced (Step M) β} (hx : x.Quiet)
    (hf : (f x.value).Quiet) : (x >>= f).Quiet :=
  fun s hs => (List.mem_append.1 hs).elim (hx s) (hf s)

theorem Quiet.andThen {ε : Type} {x : Traced (Step M) (Except ε α)}
    {f : α → Traced (Step M) (Except ε β)} (hx : x.Quiet) (hf : ∀ a, (f a).Quiet) :
    (x.andThen f).Quiet := by
  refine hx.bind ?_
  split
  · exact quiet_pure _
  · exact hf _

end Traced

/-! ## One layer -/

variable {M : Type} [Message M]

namespace Layer

/-- What a layer lets through of a message. -/
def pass : Layer M → M → Traced (Step M) (Except SendError M)
  | .filler f, m => do
    let m ← (f.fill m).mapSteps .lookup
    Traced.step (.log (filled m))
    return .ok m
  | .content t, m => do
    match ← (t.translate ((Message.content m).withMessage (Message.fields m))).mapSteps .log with
    | .error e =>
      Traced.step (.log (untranslated (M := M) e))
      return .error (.content e)
    | .ok body => return .ok (Message.withContent m body)
  | .numbers t, m => do
    match ← (t.translate m).mapSteps .log with
    | .error e =>
      Traced.step (.log (unaddressed e))
      return .error (.invalidAddress e)
    | .ok m => return .ok m

/-- A layer around a sender hands on what it lets through. -/
theorem around_send (x : Layer M) (inner : Sender M) (m : M) :
    (x.around inner).send m = (x.pass m).andThen inner.send := by
  cases x with
  | filler f => simp [around, fill, pass, Traced.andThen, bind, pure]
  | content t =>
    cases h : (t.translate ((Message.content m).withMessage (Message.fields m))).value <;>
      simp [around, translateContent, pass, Traced.andThen, bind, pure, h]
  | numbers t =>
    cases h : (t.translate m).value <;>
      simp [around, translateNumbers, pass, Traced.andThen, bind, pure, h]

theorem pass_quiet (x : Layer M) (m : M) : (x.pass m).Quiet := by
  cases x with
  | filler f =>
    exact (Traced.quiet_lookups _).bind ((Traced.quiet_log _).bind (Traced.quiet_pure _))
  | content t =>
    refine (Traced.quiet_logs _).bind ?_
    split
    · exact (Traced.quiet_log _).bind (Traced.quiet_pure _)
    · exact Traced.quiet_pure _
  | numbers t =>
    refine (Traced.quiet_logs _).bind ?_
    split
    · exact (Traced.quiet_log _).bind (Traced.quiet_pure _)
    · exact Traced.quiet_pure _

/-- What layers let through of a message, one after the other. -/
def passAll : List (Layer M) → M → Traced (Step M) (Except SendError M)
  | [], m => pure (.ok m)
  | x :: xs, m => (x.pass m).andThen (passAll xs)

theorem foldr_around_send (xs : List (Layer M)) (base : Sender M) :
    ∀ m : M, (xs.foldr around base).send m = (passAll xs m).andThen base.send := by
  induction xs with
  | nil => intro m; rfl
  | cons x xs ih =>
    intro m
    rw [List.foldr_cons, around_send, passAll, Traced.andThen_assoc]
    exact congrArg _ (funext ih)

theorem passAll_append (xs ys : List (Layer M)) :
    ∀ m : M, passAll (xs ++ ys) m = (passAll xs m).andThen (passAll ys) := by
  induction xs with
  | nil => intro m; rfl
  | cons x xs ih =>
    intro m
    rw [List.cons_append, passAll, passAll, Traced.andThen_assoc]
    exact congrArg _ (funext ih)

theorem passAll_quiet (xs : List (Layer M)) : ∀ m : M, (passAll xs m).Quiet := by
  induction xs with
  | nil => intro m; exact Traced.quiet_pure _
  | cons x xs ih => intro m; exact (pass_quiet x m).andThen ih

end Layer

/-! ## All layers -/

namespace Layers

/-- What the layers let through of a message. -/
def pass (l : Layers M) (m : M) : Traced (Step M) (Except SendError M) := Layer.passAll l.entries m

/-- A composed sender is the passage, and then the sender inside. -/
theorem compose_send (l : Layers M) (base : Sender M) (m : M) :
    (l.compose base).send m = (l.pass m).andThen base.send :=
  Layer.foldr_around_send l.entries base m

theorem pass_quiet (l : Layers M) (m : M) : (l.pass m).Quiet := Layer.passAll_quiet l.entries m

/-- A message after the filler, if there is one. -/
def filled (l : Layers M) (m : M) : M :=
  match l.filler? with
  | some f => (f.fill m).value
  | none => m

/-- A message with its body made final, if there is a translator of bodies. -/
def translated (l : Layers M) (m : M) : Except ContentError M :=
  match l.content? with
  | some t =>
    (t.translate ((Message.content m).withMessage (Message.fields m))).value.map
      (Message.withContent m)
  | none => .ok m

/-- A message with its numbers made addresses, if there is a translator of numbers. -/
def addressed (l : Layers M) (m : M) : Except AddressingError M :=
  match l.numbers? with
  | some t => (t.translate m).value
  | none => .ok m

/-- The three stages of a passage, one after the other. -/
def outcome (l : Layers M) (m : M) : Except SendError M := do
  let m₂ ← (l.translated (l.filled m)).mapError .content
  (l.addressed m₂).mapError .invalidAddress

/-- A body that cannot be made final is all that counts. -/
theorem outcome_of_untranslated {l : Layers M} {m : M} {e : ContentError}
    (h : l.translated (l.filled m) = .error e) : l.outcome m = .error (.content e) := by
  rw [outcome, h]
  rfl

/-- Once the body is final, it is the numbers that count. -/
theorem outcome_of_translated {l : Layers M} {m m₂ : M}
    (h : l.translated (l.filled m) = .ok m₂) :
    l.outcome m = (l.addressed m₂).mapError .invalidAddress := by
  rw [outcome, h]
  rfl

/-- A message that passes has a body that can be made final, and then numbers that can be used. -/
theorem outcome_eq_ok {l : Layers M} {m m' : M} (h : l.outcome m = .ok m') :
    ∃ m₂, l.translated (l.filled m) = .ok m₂ ∧ l.addressed m₂ = .ok m' := by
  obtain ⟨m₂, translated, addressed⟩ := bind_eq_ok_iff.1 h
  exact ⟨m₂, mapError_eq_ok_iff.1 translated, mapError_eq_ok_iff.1 addressed⟩

theorem pass_eq (l : Layers M) (m : M) :
    l.pass m = (Layer.passAll (l.filler?.map .filler).toList m).andThen fun m =>
      (Layer.passAll (l.content?.map .content).toList m).andThen
        (Layer.passAll (l.numbers?.map .numbers).toList) := by
  rw [pass, entries_eq_append, List.append_nil, Layer.passAll_append, get?_filler,
    get?_contentTranslator, get?_phoneNumberTranslator]
  exact congrArg _ (funext (Layer.passAll_append _ _))

theorem value_pass_filler (l : Layers M) (m : M) :
    (Layer.passAll (l.filler?.map .filler).toList m).value = .ok (l.filled m) := by
  unfold filled
  cases l.filler? <;> rfl

theorem value_pass_content (l : Layers M) (m : M) :
    (Layer.passAll (l.content?.map .content).toList m).value
      = (l.translated m).mapError .content := by
  unfold translated
  cases l.content? with
  | none => rfl
  | some t =>
    cases h : (t.translate ((Message.content m).withMessage (Message.fields m))).value <;>
      simp [Layer.passAll, Layer.pass, Traced.value_andThen, h, Except.map, Except.mapError,
        bind, Except.bind]

theorem value_pass_numbers (l : Layers M) (m : M) :
    (Layer.passAll (l.numbers?.map .numbers).toList m).value
      = (l.addressed m).mapError .invalidAddress := by
  unfold addressed
  cases l.numbers? with
  | none => rfl
  | some t =>
    cases h : (t.translate m).value <;>
      simp [Layer.passAll, Layer.pass, Traced.value_andThen, h, Except.mapError, bind,
        Except.bind]

theorem value_pass (l : Layers M) (m : M) : (l.pass m).value = l.outcome m := by
  rw [pass_eq]
  simp only [Traced.value_andThen, value_pass_filler, value_pass_content, value_pass_numbers]
  rfl

/-! ### Around a sender -/

/-- A message that is refused reaches nothing: whatever is inside, the answer is the refusal. -/
theorem send_of_error {l : Layers M} {m : M} {e : SendError} (h : l.outcome m = .error e)
    (base : Sender M) : (l.compose base).send m = ⟨.error e, (l.pass m).trace⟩ := by
  rw [compose_send, Traced.andThen_of_error ((l.value_pass m).trans h)]

/-- The sender inside matters only for what is let through. -/
theorem send_congr {l : Layers M} {m : M} {base base' : Sender M}
    (h : ∀ m', l.outcome m = .ok m' → base.send m' = base'.send m') :
    (l.compose base).send m = (l.compose base').send m := by
  cases ho : l.outcome m with
  | error e => rw [send_of_error ho, send_of_error ho]
  | ok m' =>
    have value := (l.value_pass m).trans ho
    rw [compose_send, compose_send, Traced.andThen_of_ok value, Traced.andThen_of_ok value, h m' ho]

theorem value_send_of_ok {l : Layers M} {m m' : M} (h : l.outcome m = .ok m') (base : Sender M) :
    ((l.compose base).send m).value = (base.send m').value := by
  rw [compose_send, Traced.andThen_of_ok ((l.value_pass m).trans h)]

/-- Of a message that passes, a view that shows nothing of internal steps shows what it does of the
sender inside. -/
theorem filterMap_send_of_ok {β : Type} {view : Step M → Option β}
    (hview : ∀ s : Step M, s.IsInternal → view s = none) {l : Layers M} {m m' : M}
    (h : l.outcome m = .ok m') (base : Sender M) :
    ((l.compose base).send m).trace.filterMap view = (base.send m').trace.filterMap view := by
  rw [compose_send, Traced.andThen_of_ok ((l.value_pass m).trans h), List.filterMap_append,
    Step.filterMap_of_internal hview (l.pass_quiet m), List.nil_append]

end Layers

end Courier
