/-
# Precedence — what one registration changes

A resolver tries its implementations in the order of their registration, and the first whose
condition holds takes the message.  So an implementation is taken at its place iff its condition
holds and none before it does (`Resolver.takes_iff`); where it is not taken, the message goes where
it goes without it; and nothing behind the one that is taken is tried or asked (`Resolver.Tries`).

Two implementations can be equal, so what a message resolves to does not tell which of them took
it.  `Resolver.Takes` tells the place as well, by the conditions that were tried on the way.
-/
import Courier.Proofs.Dispatch

namespace Courier

namespace Resolver

variable {M : Type}

/-! ## Registering -/

/-- The resolver after some registrations, nothing being there before. -/
def ofImplementations (env : Environment) (is : List (Implementation M)) : Resolver M :=
  is.foldl (fun r i => r.register i.condition i.transport) (new env)

theorem ofImplementations_eq (env : Environment) (is : List (Implementation M)) :
    ofImplementations env is = ⟨env, is⟩ := by
  have after : ∀ (is : List (Implementation M)) (r : Resolver M),
      is.foldl (fun r i => r.register i.condition i.transport) r
        = ⟨r.env, r.implementations ++ is⟩ := by
    intro is
    induction is with
    | nil =>
      intro r
      rw [List.append_nil, List.foldl_nil]
    | cons i is ih =>
      intro r
      rw [List.foldl_cons, ih, register, List.append_assoc]
      rfl
  exact after is (new env)

/-! ## What is tried -/

/-- The implementations that are tried on a message: all up to the first whose condition holds and
this one, or all if there is none. -/
inductive Tries (env : Environment) (m : M) :
    List (Implementation M) → List (Implementation M) → Prop
  | upTo {before after : List (Implementation M)} {i : Implementation M} :
      (∀ j ∈ before, j.condition.holds env m = false) → i.condition.holds env m = true →
      Tries env m (before ++ i :: after) (before ++ [i])
  | all {is : List (Implementation M)} :
      (∀ j ∈ is, j.condition.holds env m = false) → Tries env m is is

/-- Implementations that do not take the message are all tried, and then the others. -/
theorem tried_append_of_holds_eq_false {env : Environment} {m : M}
    {before : List (Implementation M)} (earlier : ∀ j ∈ before, j.condition.holds env m = false)
    (js : List (Implementation M)) : tried env m (before ++ js) = before ++ tried env m js := by
  induction before with
  | nil => rfl
  | cons j before ih =>
    have hj : j.condition.holds env m = false := earlier j List.mem_cons_self
    have rest := ih fun k hk => earlier k (List.mem_cons_of_mem _ hk)
    rw [List.cons_append, tried, if_neg (by simp [hj]), rest, List.cons_append]

theorem tried_append_cons {env : Environment} {m : M} {before : List (Implementation M)}
    {i : Implementation M} (earlier : ∀ j ∈ before, j.condition.holds env m = false)
    (holds : i.condition.holds env m = true) (after : List (Implementation M)) :
    tried env m (before ++ i :: after) = before ++ [i] := by
  rw [tried_append_of_holds_eq_false earlier, tried, if_pos holds]

/-- The first implementation whose condition holds has others before it, none of whose does. -/
theorem split_of_find? {env : Environment} {m : M} {is : List (Implementation M)}
    {i : Implementation M} (h : is.find? (fun i => i.condition.holds env m) = some i) :
    i.condition.holds env m = true ∧ ∃ before after, is = before ++ i :: after
      ∧ ∀ j ∈ before, j.condition.holds env m = false := by
  obtain ⟨holds, before, after, split, earlier⟩ := List.find?_eq_some_iff_append.1 h
  refine ⟨holds, before, after, split, ?_⟩
  intro j hj
  simpa using earlier j hj

theorem tries_tried (env : Environment) (m : M) (is : List (Implementation M)) :
    Tries env m is (tried env m is) := by
  cases found : is.find? fun i => i.condition.holds env m with
  | some i =>
    obtain ⟨holds, before, after, rfl, earlier⟩ := split_of_find? found
    rw [tried_append_cons earlier holds]
    exact Tries.upTo earlier holds
  | none =>
    have nobody : ∀ j ∈ is, j.condition.holds env m = false := by
      intro j hj
      simpa using List.find?_eq_none.1 found j hj
    have whole := tried_append_of_holds_eq_false nobody []
    rw [List.append_nil, tried, List.append_nil] at whole
    rw [whole]
    exact Tries.all nobody

theorem lookups_firstMatch (env : Environment) (m : M) (is : List (Implementation M)) :
    Step.lookups (firstMatch env m is).trace
      = (tried env m is).flatMap fun i => (i.condition.evaluate env m).trace := by
  rw [trace_firstMatch, Step.lookups, List.filterMap_flatMap]
  refine congrArg (fun f => (tried env m is).flatMap f) (funext fun i => ?_)
  -- The trial itself is no question; what the condition asks comes back as it was.
  exact Step.lookups_map_lookup _

/-! ## What takes a message -/

variable [Message M]

theorem trace_choose (r : Resolver M) (m : M) :
    (r.choose m).trace = (firstMatch r.env m r.implementations).trace := by
  rw [choose, Traced.trace_bind]
  cases (firstMatch r.env m r.implementations).value <;> exact List.append_nil _

theorem value_resolve (r : Resolver M) (m : M) :
    (r.resolve m).value = match r.implementations.find? (fun i => i.condition.holds r.env m) with
      | some i => .ok i
      | none => .error (.noMatchingImplementation (Message.channel M) (Message.summary m)) := by
  rw [← value_firstMatch]
  show (r.choose m).value = _
  rw [choose, Traced.value_bind]
  cases (firstMatch r.env m r.implementations).value <;> rfl

theorem value_resolve_eq_ok_iff {r : Resolver M} {m : M} {i : Implementation M} :
    (r.resolve m).value = .ok i
      ↔ r.implementations.find? (fun i => i.condition.holds r.env m) = some i := by
  rw [value_resolve]
  cases r.implementations.find? fun i => i.condition.holds r.env m with
  | some j => simp
  | none => simp

/-- The implementation at a place takes a message: the message resolves to it, and the conditions
that are tried are those up to this place. -/
structure Takes (r : Resolver M) (m : M) (k : Nat) (i : Implementation M) : Prop where
  place : r.implementations[k]? = some i
  resolved : (r.resolve m).value = .ok i
  tried : Step.evaluations (r.choose m).trace
    = (r.implementations.take (k + 1)).map fun j => (j.condition, m)

theorem takes_iff {r : Resolver M} {m : M} {k : Nat} {i : Implementation M} :
    r.Takes m k i ↔ r.implementations[k]? = some i ∧ i.condition.holds r.env m = true
      ∧ ∀ j ∈ r.implementations.take k, j.condition.holds r.env m = false := by
  constructor
  · rintro ⟨place, resolved, evaluated⟩
    obtain ⟨holds, before, after, split, earlier⟩ :=
      split_of_find? (value_resolve_eq_ok_iff.1 resolved)
    refine ⟨place, holds, ?_⟩
    -- As many conditions were tried as stand up to the first that holds, so that is the place.
    have inside : k < r.implementations.length := (List.getElem?_eq_some_iff.1 place).1
    have count := congrArg List.length evaluated
    rw [trace_choose, evaluations_firstMatch, split, tried_append_cons earlier holds] at count
    rw [split] at inside ⊢
    simp only [List.length_map, List.length_append, List.length_take, List.length_cons,
      List.length_nil] at count inside
    obtain rfl : k = before.length := by omega
    rw [List.take_left']
    · exact earlier
    · rfl
  · rintro ⟨place, holds, earlier⟩
    obtain ⟨inside, rfl⟩ := List.getElem?_eq_some_iff.1 place
    have split : r.implementations
        = r.implementations.take k ++ r.implementations[k] :: r.implementations.drop (k + 1) := by
      rw [List.getElem_cons_drop, List.take_append_drop]
    refine ⟨place, value_resolve_eq_ok_iff.2 ?_, ?_⟩
    · refine List.find?_eq_some_iff_append.2 ⟨holds, _, _, split, ?_⟩
      intro j hj
      simp [earlier j hj]
    · rw [trace_choose, evaluations_firstMatch]
      have tried : tried r.env m r.implementations
          = r.implementations.take k ++ [r.implementations[k]] := by
        conv_lhs => rw [split]
        exact tried_append_cons earlier holds _
      rw [tried, List.take_append_getElem]

/-! ## One registration among others -/

/-- Where an implementation is put in and does not take a message, what takes the message takes it
as before, and stands one place further if it stands behind. -/
theorem takes_insert {env : Environment} {m : M} {before after : List (Implementation M)}
    {i : Implementation M}
    (passed : i.condition.holds env m = true → ∃ j ∈ before, j.condition.holds env m = true)
    {k : Nat} {j : Implementation M} (h : (⟨env, before ++ after⟩ : Resolver M).Takes m k j) :
    (⟨env, before ++ i :: after⟩ : Resolver M).Takes m (if k < before.length then k else k + 1)
      j := by
  obtain ⟨place, holds, earlier⟩ := takes_iff.1 h
  refine takes_iff.2 ?_
  dsimp only at place holds earlier ⊢
  by_cases hk : k < before.length
  · rw [if_pos hk]
    rw [List.getElem?_append_left hk] at place ⊢
    rw [List.take_append_of_le_length (Nat.le_of_lt hk)] at earlier ⊢
    exact ⟨place, holds, earlier⟩
  · rw [if_neg hk]
    obtain ⟨d, rfl⟩ := Nat.exists_eq_add_of_le (Nat.le_of_not_lt hk)
    rw [List.getElem?_append_right (by omega)] at place ⊢
    rw [List.take_append, List.take_of_length_le (by omega)] at earlier ⊢
    rw [show before.length + d - before.length = d by omega] at place earlier
    rw [show before.length + d + 1 - before.length = d + 1 by omega]
    refine ⟨place, holds, ?_⟩
    intro x hx
    rcases List.mem_append.1 hx with hx | hx
    · exact earlier x (List.mem_append_left _ hx)
    · rcases List.mem_cons.1 hx with rfl | hx
      · -- If this one held, another before it would have, and that would be the one that takes.
        rw [Bool.eq_false_iff]
        intro hold
        obtain ⟨y, hy, holdy⟩ := passed hold
        rw [earlier y (List.mem_append_left _ hy)] at holdy
        cases holdy
      · exact earlier x (List.mem_append_right _ hx)

theorem value_resolve_insert {env : Environment} {m : M} {before after : List (Implementation M)}
    {i : Implementation M}
    (passed : i.condition.holds env m = true → ∃ j ∈ before, j.condition.holds env m = true) :
    ((⟨env, before ++ i :: after⟩ : Resolver M).resolve m).value
      = ((⟨env, before ++ after⟩ : Resolver M).resolve m).value := by
  rw [value_resolve, value_resolve]
  dsimp only
  rw [List.find?_append, List.find?_append]
  cases found : before.find? fun i => i.condition.holds env m with
  | some j => rw [Option.some_or, Option.some_or]
  | none =>
    have nobody := List.find?_eq_none.1 found
    have fails : ¬ i.condition.holds env m = true := by
      intro hold
      obtain ⟨j, hj, holdj⟩ := passed hold
      exact nobody j hj holdj
    rw [List.find?_cons, Bool.eq_false_iff.2 fails]

/-- How the order of some registrations settles where a message goes. -/
structure InOrder (env : Environment) (is : List (Implementation M)) (m : M) : Prop where
  /-- The conditions that are tried, and what they ask, one after the other. -/
  searched : ∃ tried, Tries env m is tried
    ∧ Step.evaluations ((ofImplementations env is).choose m).trace
      = tried.map (fun i => (i.condition, m))
    ∧ ((ofImplementations env is).resolve m).trace
      = tried.flatMap fun i => (i.condition.evaluate env m).trace
  /-- An implementation is taken at its place iff it holds and none before it does. -/
  taken : ∀ before i after, is = before ++ i :: after →
    ((ofImplementations env is).Takes m before.length i
      ↔ i.condition.holds env m = true ∧ ∀ j ∈ before, j.condition.holds env m = false)
  /-- One that is not taken might as well not be there. -/
  passed : ∀ before i after, is = before ++ i :: after →
    ¬ (ofImplementations env is).Takes m before.length i →
    ((ofImplementations env is).resolve m).value
        = ((ofImplementations env (before ++ after)).resolve m).value
      ∧ ∀ k j, (ofImplementations env (before ++ after)).Takes m k j →
        (ofImplementations env is).Takes m (if k < before.length then k else k + 1) j
  /-- What is registered at the end changes nothing for a message that was resolved before. -/
  settled : ∀ i more, ((ofImplementations env is).resolve m).value = .ok i →
    (ofImplementations env (is ++ more)).choose m = (ofImplementations env is).choose m
      ∧ (ofImplementations env (is ++ more)).resolve m = (ofImplementations env is).resolve m
  /-- A second one with the same condition is never taken. -/
  repeated : ∀ before i between d after, is = before ++ i :: between ++ d :: after →
    d.condition = i.condition →
    ¬ (ofImplementations env is).Takes m (before ++ i :: between).length d

theorem taken_iff {env : Environment} {m : M} {before after : List (Implementation M)}
    {i : Implementation M} :
    (⟨env, before ++ i :: after⟩ : Resolver M).Takes m before.length i
      ↔ i.condition.holds env m = true ∧ ∀ j ∈ before, j.condition.holds env m = false := by
  rw [takes_iff]
  dsimp only
  rw [List.take_left' rfl, List.getElem?_append_right (Nat.le_refl _), Nat.sub_self]
  exact and_iff_right rfl

theorem choose_append {env : Environment} {m : M} {is : List (Implementation M)}
    {i : Implementation M} (h : ((⟨env, is⟩ : Resolver M).resolve m).value = .ok i)
    (more : List (Implementation M)) :
    (⟨env, is ++ more⟩ : Resolver M).choose m = (⟨env, is⟩ : Resolver M).choose m := by
  have same : firstMatch env m (is ++ more) = firstMatch env m is :=
    firstMatch_append (value_resolve_eq_ok_iff.1 h) more
  rw [choose, choose]
  dsimp only
  rw [same]

/-- **First come, first served.**  Whatever was registered, the conditions are tried in the order of
their registration up to the first that holds, and only these ask the environment.  So an
implementation is taken if and only if it holds and none before it does; where it is not taken, the
message goes where it would go without it; what is registered later changes nothing for a message
that is taken; and a condition that was registered before is never the one that takes. -/
theorem inOrder (env : Environment) (is : List (Implementation M)) (m : M) : InOrder env is m := by
  refine ⟨?_, ?_, ?_, ?_, ?_⟩
  · refine ⟨tried env m is, tries_tried env m is, ?_, ?_⟩
    · rw [ofImplementations_eq, trace_choose, evaluations_firstMatch]
    · show Step.lookups ((ofImplementations env is).choose m).trace = _
      rw [ofImplementations_eq, trace_choose, lookups_firstMatch]
  · rintro before i after rfl
    rw [ofImplementations_eq]
    exact taken_iff
  · rintro before i after rfl left
    rw [ofImplementations_eq, taken_iff, not_and] at left
    rw [ofImplementations_eq, ofImplementations_eq]
    have passed : i.condition.holds env m = true →
        ∃ j ∈ before, j.condition.holds env m = true := by
      intro holds
      by_contra nobody
      refine left holds fun j hj => ?_
      rw [Bool.eq_false_iff]
      intro holdj
      exact nobody ⟨j, hj, holdj⟩
    exact ⟨value_resolve_insert passed, fun k j => takes_insert passed⟩
  · intro i more resolved
    rw [ofImplementations_eq] at resolved
    rw [ofImplementations_eq, ofImplementations_eq]
    have same := choose_append resolved more
    refine ⟨same, ?_⟩
    rw [resolve, resolve, same]
  · rintro before i between d after rfl again
    rw [ofImplementations_eq, taken_iff]
    rintro ⟨holds, earlier⟩
    -- The first of the two stands before the second, and holds where the second does.
    have first := earlier i (List.mem_append_right _ List.mem_cons_self)
    rw [again, first] at holds
    cases holds

end Resolver

end Courier
