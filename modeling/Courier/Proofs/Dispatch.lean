/-
# Dispatch — one message, one transport at most

The resolver hands a message to the first implementation whose condition holds of it
(`value_firstMatch`), and tries the conditions up to that one and no others
(`evaluations_firstMatch`).  Together with the passage through the layers this gives what a whole
pipeline does with a message: it is refused by a layer, or nothing matches it, or exactly one
transport gets it, once, and the transport's answer is the answer.
-/
import Courier.Assembly.Plan
import Courier.Proofs.Passage

namespace Courier

variable {M : Type}

/-! ## How a send ends -/

/-- A transport gets a message, once, no other transport gets any, and its answer is the answer. -/
structure Delivers (sent : Traced (Step M) (Except SendError Unit)) (t : Transport M) (m : M) :
    Prop where
  answer : sent.value = (t.deliver m).result
  deliveries : Step.deliveries sent.trace = [(t.name, m, (t.deliver m).effects)]

/-- An error is the answer, and no transport gets anything. -/
structure Fails (sent : Traced (Step M) (Except SendError Unit)) (e : SendError) : Prop where
  answer : sent.value = .error e
  deliveries : Step.deliveries sent.trace = []

theorem Delivers.length_le {sent : Traced (Step M) (Except SendError Unit)} {t : Transport M}
    {m : M} (h : Delivers sent t m) : (Step.deliveries sent.trace).length ≤ 1 := by
  rw [h.deliveries]; exact Nat.le_refl 1

theorem Fails.length_le {sent : Traced (Step M) (Except SendError Unit)} {e : SendError}
    (h : Fails sent e) : (Step.deliveries sent.trace).length ≤ 1 := by
  rw [h.deliveries]; exact Nat.zero_le 1

/-! ## The resolver -/

namespace Resolver

/-- The implementations whose conditions are tried on a message: the first that holds is the
last. -/
def tried (env : Environment) (m : M) : List (Implementation M) → List (Implementation M)
  | [] => []
  | i :: is => if i.condition.holds env m then [i] else i :: tried env m is

theorem value_firstMatch (env : Environment) (m : M) (is : List (Implementation M)) :
    (firstMatch env m is).value = is.find? fun i => i.condition.holds env m := by
  induction is with
  | nil => rfl
  | cons i is ih =>
    cases h : i.condition.holds env m with
    | true =>
      have value : (i.condition.evaluate env m).value = true := h
      simp [firstMatch, value, h]
    | false =>
      have value : (i.condition.evaluate env m).value = false := h
      simp [firstMatch, value, h, ih]

/-- Implementations after others are tried only on what none of the others takes. -/
theorem tried_append (env : Environment) (m : M) (is js : List (Implementation M)) :
    tried env m (is ++ js) = tried env m is
      ++ if (is.find? fun i => i.condition.holds env m).isSome then [] else tried env m js := by
  induction is with
  | nil => rfl
  | cons i is ih =>
    cases h : i.condition.holds env m with
    | true => simp [tried, h]
    | false => simp [tried, h, ih]

/-- The implementation that takes a message is tried last, after all that stand before it. -/
theorem tried_eq_take {env : Environment} {m : M} {i : Implementation M} :
    ∀ {is : List (Implementation M)}, is.find? (fun i => i.condition.holds env m) = some i →
      ∃ k : Fin is.length, is[k] = i ∧ tried env m is = is.take (k + 1)
  | [], h => by cases h
  | j :: js, h => by
    cases hj : j.condition.holds env m with
    | true =>
      simp only [List.find?_cons, hj] at h
      exact ⟨⟨0, Nat.zero_lt_succ _⟩, Option.some.inj h, by simp [tried, hj]⟩
    | false =>
      simp only [List.find?_cons, hj] at h
      obtain ⟨k, hk, take⟩ := tried_eq_take h
      exact ⟨k.succ, hk, by simp [tried, hj, take]⟩

/-- The steps of a search: each condition that is tried, and then what it asks. -/
theorem trace_firstMatch (env : Environment) (m : M) (is : List (Implementation M)) :
    (firstMatch env m is).trace = (tried env m is).flatMap fun i =>
      .tried i.condition m :: (i.condition.evaluate env m).trace.map .lookup := by
  induction is with
  | nil => rfl
  | cons i is ih =>
    cases h : i.condition.holds env m with
    | true =>
      have value : (i.condition.evaluate env m).value = true := h
      simp [firstMatch, tried, value, h]
    | false =>
      have value : (i.condition.evaluate env m).value = false := h
      simp [firstMatch, tried, value, h, ih]

/-- A view that shows nothing of internal steps shows of a search the conditions that are tried. -/
theorem filterMap_firstMatch {β : Type} {view : Step M → Option β}
    (hview : ∀ s : Step M, s.IsInternal → view s = none) (env : Environment) (m : M)
    (is : List (Implementation M)) :
    (firstMatch env m is).trace.filterMap view
      = (tried env m is).filterMap fun i => view (.tried i.condition m) := by
  rw [trace_firstMatch]
  induction tried env m is with
  | nil => rfl
  | cons i is ih =>
    -- what a condition asks is internal, so of its steps only the trial can be shown
    have asked : ((i.condition.evaluate env m).trace.map Step.lookup).filterMap view = [] :=
      Step.filterMap_of_internal hview (Traced.quiet_lookups (i.condition.evaluate env m))
    rw [List.flatMap_cons, List.filterMap_append, ih, List.filterMap_cons, List.filterMap_cons]
    cases view (.tried i.condition m) with
    | none => exact congrArg (· ++ _) asked
    | some b => exact congrArg (b :: · ++ _) asked

theorem deliveries_firstMatch (env : Environment) (m : M) (is : List (Implementation M)) :
    Step.deliveries (firstMatch env m is).trace = [] :=
  (filterMap_firstMatch Step.delivery?_of_internal env m is).trans
    (List.filterMap_eq_nil_iff.2 fun _ _ => rfl)

theorem evaluations_firstMatch (env : Environment) (m : M) (is : List (Implementation M)) :
    Step.evaluations (firstMatch env m is).trace
      = (tried env m is).map fun i => (i.condition, m) :=
  (filterMap_firstMatch Step.evaluation?_of_internal env m is).trans
    (congrFun List.filterMap_eq_map (tried env m is))

/-- A search shows conditions its message and no other. -/
theorem eq_of_mem_seen_firstMatch {env : Environment} {m m' : M} {is : List (Implementation M)}
    (h : m' ∈ Step.seen (firstMatch env m is).trace) : m' = m := by
  rw [Step.seen, filterMap_firstMatch Step.shown?_of_internal] at h
  obtain ⟨i, -, shown⟩ := List.mem_filterMap.1 h
  exact (Option.some.inj shown).symm

/-- A search that has found an implementation is over. -/
theorem firstMatch_append {env : Environment} {m : M} {is : List (Implementation M)}
    {i : Implementation M} (h : is.find? (fun i => i.condition.holds env m) = some i)
    (js : List (Implementation M)) : firstMatch env m (is ++ js) = firstMatch env m is := by
  have value : (firstMatch env m (is ++ js)).value = (firstMatch env m is).value := by
    rw [value_firstMatch, value_firstMatch, List.find?_append, h, Option.some_or]
  have trace : (firstMatch env m (is ++ js)).trace = (firstMatch env m is).trace := by
    rw [trace_firstMatch, trace_firstMatch, tried_append, h, Option.isSome_some, if_pos rfl,
      List.append_nil]
  exact congrArg₂ Traced.mk value trace

variable [Message M]

/-- A send that finds no implementation fails, and records it. -/
theorem send_eq_of_none {r : Resolver M} {m : M}
    (h : r.implementations.find? (fun i => i.condition.holds r.env m) = none) :
    r.send m = ⟨.error (.noMatchingImplementation (Message.channel M) (Message.summary m)),
      (firstMatch r.env m r.implementations).trace ++ [.log r.unmatched]⟩ := by
  have value := (value_firstMatch r.env m r.implementations).trans h
  simp [send, choose, bind, pure, value, Traced.step]

/-- A send that finds one records it, and hands the message over. -/
theorem send_eq_of_some {r : Resolver M} {m : M} {i : Implementation M}
    (h : r.implementations.find? (fun i => i.condition.holds r.env m) = some i) :
    r.send m = ⟨(i.transport.deliver m).result, (firstMatch r.env m r.implementations).trace ++
      [.log (selected i), .handed i.transport.name m (i.transport.deliver m).effects]⟩ := by
  have value := (value_firstMatch r.env m r.implementations).trans h
  simp [send, choose, bind, pure, value, Traced.step, Transport.toSender, Traced.one]

/-- What stands behind an implementation that takes a message does not matter to it. -/
theorem send_append {r : Resolver M} {m : M} {i : Implementation M}
    (h : r.implementations.find? (fun i => i.condition.holds r.env m) = some i)
    (js : List (Implementation M)) :
    ({ r with implementations := r.implementations ++ js } : Resolver M).send m = r.send m := by
  have found : (r.implementations ++ js).find? (fun i => i.condition.holds r.env m) = some i := by
    rw [List.find?_append, h, Option.some_or]
  rw [send_eq_of_some h, send_eq_of_some (r := ⟨r.env, r.implementations ++ js⟩) found,
    firstMatch_append h]

/-- If no condition holds, the error names the channel and sums up the message. -/
theorem send_of_none {r : Resolver M} {m : M}
    (h : r.implementations.find? (fun i => i.condition.holds r.env m) = none) :
    Fails (r.send m) (.noMatchingImplementation (Message.channel M) (Message.summary m)) where
  answer := by rw [send_eq_of_none h]
  deliveries := by
    rw [send_eq_of_none h, Step.deliveries, List.filterMap_append]
    exact congrArg (· ++ []) (deliveries_firstMatch r.env m r.implementations)

/-- The first implementation whose condition holds gets the message, and no other does. -/
theorem send_of_some {r : Resolver M} {m : M} {i : Implementation M}
    (h : r.implementations.find? (fun i => i.condition.holds r.env m) = some i) :
    Delivers (r.send m) i.transport m where
  answer := by rw [send_eq_of_some h]
  deliveries := by
    rw [send_eq_of_some h, Step.deliveries, List.filterMap_append]
    exact congrArg (· ++ [_]) (deliveries_firstMatch r.env m r.implementations)

theorem evaluations_send_of_some {r : Resolver M} {m : M} {i : Implementation M}
    (h : r.implementations.find? (fun i => i.condition.holds r.env m) = some i) :
    Step.evaluations (r.send m).trace
      = (tried r.env m r.implementations).map fun i => (i.condition, m) := by
  rw [send_eq_of_some h, Step.evaluations, List.filterMap_append]
  exact (List.append_nil _).trans (evaluations_firstMatch r.env m r.implementations)

/-- A resolver shows conditions and transports its message and no other. -/
theorem eq_of_mem_seen {r : Resolver M} {m m' : M} (h : m' ∈ Step.seen (r.send m).trace) :
    m' = m := by
  cases hi : r.implementations.find? fun i => i.condition.holds r.env m with
  | none =>
    rw [send_eq_of_none hi, Step.seen, List.filterMap_append] at h
    rcases List.mem_append.1 h with searched | last
    · exact eq_of_mem_seen_firstMatch searched
    · cases last
  | some i =>
    rw [send_eq_of_some hi, Step.seen, List.filterMap_append] at h
    rcases List.mem_append.1 h with searched | last
    · exact eq_of_mem_seen_firstMatch searched
    · exact List.mem_singleton.1 last

end Resolver

/-! ## Pipelines -/

namespace Plan

variable [Message M]

/-- A message that a layer refuses gets to no condition and to no transport. -/
theorem send_of_refused {p : Plan M} {m : M} {e : SendError} (h : p.layers.outcome m = .error e) :
    Fails (p.pipeline.sender.send m) e
      ∧ Step.evaluations (p.pipeline.sender.send m).trace = [] := by
  rw [pipeline, Layers.send_of_error h]
  have quiet := p.layers.pass_quiet m
  exact ⟨⟨rfl, Step.filterMap_of_internal Step.delivery?_of_internal quiet⟩,
    Step.filterMap_of_internal Step.evaluation?_of_internal quiet⟩

/-- A message that passes the layers is delivered by the first implementation whose condition
holds of it as it leaves them. -/
theorem send_of_match {p : Plan M} {m m' : M} {i : Implementation M}
    (h : p.layers.outcome m = .ok m')
    (hi : p.resolver.implementations.find? (fun i => i.condition.holds p.env m') = some i) :
    Delivers (p.pipeline.sender.send m) i.transport m' := by
  have inner := Resolver.send_of_some hi
  exact ⟨(Layers.value_send_of_ok h _).trans inner.answer,
    (Layers.filterMap_send_of_ok Step.delivery?_of_internal h _).trans inner.deliveries⟩

theorem send_of_no_match {p : Plan M} {m m' : M} (h : p.layers.outcome m = .ok m')
    (hi : p.resolver.implementations.find? (fun i => i.condition.holds p.env m') = none) :
    Fails (p.pipeline.sender.send m)
      (.noMatchingImplementation (Message.channel M) (Message.summary m')) := by
  have inner := Resolver.send_of_none hi
  exact ⟨(Layers.value_send_of_ok h _).trans inner.answer,
    (Layers.filterMap_send_of_ok Step.delivery?_of_internal h _).trans inner.deliveries⟩

/-- Conditions and transports see a message only as it leaves the layers. -/
theorem outcome_of_seen {p : Plan M} {m m' : M}
    (h : m' ∈ Step.seen (p.pipeline.sender.send m).trace) : p.layers.outcome m = .ok m' := by
  cases ho : p.layers.outcome m with
  | error e =>
    have nothing := Step.filterMap_of_internal Step.shown?_of_internal (p.layers.pass_quiet m)
    rw [pipeline, Layers.send_of_error ho, Step.seen, nothing] at h
    cases h
  | ok m₃ =>
    rw [pipeline, Step.seen, Layers.filterMap_send_of_ok Step.shown?_of_internal ho] at h
    exact congrArg _ (Resolver.eq_of_mem_seen h).symm

theorem outcome_of_mem_deliveries {p : Plan M} {m : M} {d : String × M × List Effect}
    (h : d ∈ Step.deliveries (p.pipeline.sender.send m).trace) :
    p.layers.outcome m = .ok d.2.1 :=
  outcome_of_seen (Step.mem_seen_of_mem_deliveries h)

/-- **What a pipeline does with a message.**  At most one transport gets something, at most once.
A body that cannot be made final is the first thing that fails, numbers that cannot be used the
second, and then no condition is tried either; a message that passes goes to the first
implementation whose condition holds of it as it leaves the layers, and if there is none the error
sums it up as it leaves them. -/
theorem send_build (p : Plan M) (m : M) :
    let sent := p.build.value.sender.send m
    (Step.deliveries sent.trace).length ≤ 1 ∧
      match p.layers.translated (p.layers.filled m) with
      | .error e => Fails sent (.content e) ∧ Step.evaluations sent.trace = []
      | .ok m₂ =>
        match p.layers.addressed m₂ with
        | .error e => Fails sent (.invalidAddress e) ∧ Step.evaluations sent.trace = []
        | .ok m₃ =>
          match p.resolver.implementations.find? (fun i => i.condition.holds p.env m₃) with
          | none =>
            Fails sent (.noMatchingImplementation (Message.channel M) (Message.summary m₃))
          | some i => Delivers sent i.transport m₃ := by
  show (Step.deliveries (p.pipeline.sender.send m).trace).length ≤ 1 ∧ _
  cases h₂ : p.layers.translated (p.layers.filled m) with
  | error e =>
    have refused := send_of_refused (Layers.outcome_of_untranslated h₂)
    exact ⟨refused.1.length_le, refused⟩
  | ok m₂ =>
    have outcome := Layers.outcome_of_translated h₂
    cases h₃ : p.layers.addressed m₂ with
    | error e =>
      rw [h₃] at outcome
      have refused := send_of_refused outcome
      simp only [h₃]
      exact ⟨refused.1.length_le, refused⟩
    | ok m₃ =>
      rw [h₃] at outcome
      simp only [h₃]
      cases hi : p.resolver.implementations.find? (fun i => i.condition.holds p.env m₃) with
      | none =>
        have failed := send_of_no_match outcome hi
        exact ⟨failed.length_le, failed⟩
      | some i =>
        have delivered := send_of_match outcome hi
        exact ⟨delivered.length_le, delivered⟩

end Plan

end Courier
