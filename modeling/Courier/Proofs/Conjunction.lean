/-
# Conjunctions — only the leaves of a condition matter, and their order

A condition is a tree of joins, and evaluation, the required keys and the required names go through
it in three traversals of their own.  All three read the same list: the leaves from left to right.
So how conditions were grouped when they were joined shows nowhere (`Condition.determined`).

The step is `evaluate_eq_evaluateAll_leaves`: a tree is evaluated like the list of its leaves,
because a list that is evaluated after another goes on exactly where the other came out true
(`evaluateAll_append`).  What a list of leaves asks is then an induction along the list, up to the
first leaf that is false (`evaluates_evaluateAll`).
-/
import Courier.Condition

namespace Courier

namespace Condition

variable {M : Type}

/-! ## Leaves -/

/-- A condition that joins no others. -/
inductive IsLeaf : Condition M → Prop
  | fixed (b : Bool) : IsLeaf (.fixed b)
  | property (key : String) : IsLeaf (.property key)
  | capability (name : String) : IsLeaf (.capability name)
  | matching (test : M → Bool) : IsLeaf (.matching test)

/-- A leaf that is true of a message in an environment. -/
inductive Satisfied (env : Environment) (m : M) : Condition M → Prop
  | fixed : Satisfied env m (.fixed true)
  | property {key value : String} : env.property key = some value → Satisfied env m (.property key)
  | capability {name : String} : env.capability name = true → Satisfied env m (.capability name)
  | matching {test : M → Bool} : test m = true → Satisfied env m (.matching test)

/-- The question that a leaf puts to the environment. -/
def asked? : Condition M → Option Lookup
  | .property key => some (.property key)
  | .capability name => some (.capability name)
  | _ => none

/-- The key of the property that a leaf asks for. -/
def key? : Condition M → Option String
  | .property key => some key
  | _ => none

/-- The name of the capability that a leaf asks for. -/
def name? : Condition M → Option String
  | .capability name => some name
  | _ => none

theorem leavesAll_append (cs ds : List (Condition M)) :
    leavesAll (cs ++ ds) = leavesAll cs ++ leavesAll ds := by
  induction cs with
  | nil => rfl
  | cons c cs ih => rw [List.cons_append, leavesAll, leavesAll, ih, List.append_assoc]

/-- A join has the leaves of both sides, whether the left side takes the right one in or not. -/
theorem leaves_and (c d : Condition M) : (c.and d).leaves = c.leaves ++ d.leaves := by
  have one (d : Condition M) : leavesAll [d] = d.leaves := by
    rw [leavesAll, leavesAll, List.append_nil]
  cases c with
  | all cs => exact (leavesAll_append cs [d]).trans (congrArg (leavesAll cs ++ ·) (one d))
  | fixed b => exact congrArg ([.fixed b] ++ ·) (one d)
  | property key => exact congrArg ([.property key] ++ ·) (one d)
  | capability name => exact congrArg ([.capability name] ++ ·) (one d)
  | matching test => exact congrArg ([.matching test] ++ ·) (one d)

mutual
theorem isLeaf_of_mem_leaves : ∀ c : Condition M, ∀ leaf ∈ c.leaves, leaf.IsLeaf
  | .fixed b, _, h => List.mem_singleton.1 h ▸ .fixed b
  | .property key, _, h => List.mem_singleton.1 h ▸ .property key
  | .capability name, _, h => List.mem_singleton.1 h ▸ .capability name
  | .all cs, leaf, h => isLeaf_of_mem_leavesAll cs leaf h
  | .matching test, _, h => List.mem_singleton.1 h ▸ .matching test

theorem isLeaf_of_mem_leavesAll : ∀ cs : List (Condition M), ∀ leaf ∈ leavesAll cs, leaf.IsLeaf
  | [], _, h => absurd h List.not_mem_nil
  | c :: cs, leaf, h => (List.mem_append.1 h).elim
      (isLeaf_of_mem_leaves c leaf) (isLeaf_of_mem_leavesAll cs leaf)
end

/-! ## The three traversals -/

theorem evaluateAll_singleton (env : Environment) (m : M) (c : Condition M) :
    evaluateAll env m [c] = evaluate env m c := by
  have h : ∀ b : Bool,
      (if b = true then pure true else pure false : Traced Lookup Bool) = pure b := by
    intro b
    cases b <;> rfl
  simp only [evaluateAll, h, bind_pure]

/-- A list after another is evaluated only where the other is true. -/
theorem evaluateAll_append (env : Environment) (m : M) (cs ds : List (Condition M)) :
    evaluateAll env m (cs ++ ds) = do
      if ← evaluateAll env m cs then evaluateAll env m ds else return false := by
  induction cs with
  | nil => simp only [List.nil_append, evaluateAll, pure_bind, if_true]
  | cons c cs ih =>
    simp only [List.cons_append, evaluateAll, ih, bind_assoc]
    refine bind_congr fun b => ?_
    cases b with
    | true => rfl
    | false => simp only [Bool.false_eq_true, if_false, pure_bind]

mutual
/-- A tree is evaluated like the list of its leaves. -/
theorem evaluate_eq_evaluateAll_leaves (env : Environment) (m : M) :
    ∀ c : Condition M, evaluate env m c = evaluateAll env m c.leaves
  | .fixed b => (evaluateAll_singleton env m (.fixed b)).symm
  | .property key => (evaluateAll_singleton env m (.property key)).symm
  | .capability name => (evaluateAll_singleton env m (.capability name)).symm
  | .all cs => evaluateAll_eq_evaluateAll_leavesAll env m cs
  | .matching test => (evaluateAll_singleton env m (.matching test)).symm

theorem evaluateAll_eq_evaluateAll_leavesAll (env : Environment) (m : M) :
    ∀ cs : List (Condition M), evaluateAll env m cs = evaluateAll env m (leavesAll cs)
  | [] => rfl
  | c :: cs => by
    have first := evaluate_eq_evaluateAll_leaves env m c
    have rest := evaluateAll_eq_evaluateAll_leavesAll env m cs
    rw [leavesAll, evaluateAll_append, ← first, ← rest, evaluateAll]
end

mutual
theorem requiredProperties_eq : ∀ c : Condition M, c.requiredProperties = c.leaves.filterMap key?
  | .fixed _ => rfl
  | .property _ => rfl
  | .capability _ => rfl
  | .all cs => requiredPropertiesAll_eq cs
  | .matching _ => rfl

theorem requiredPropertiesAll_eq : ∀ cs : List (Condition M),
    requiredPropertiesAll cs = (leavesAll cs).filterMap key?
  | [] => rfl
  | c :: cs => by
    rw [requiredPropertiesAll, leavesAll, List.filterMap_append, requiredProperties_eq c,
      requiredPropertiesAll_eq cs]
end

mutual
theorem requiredCapabilities_eq : ∀ c : Condition M,
    c.requiredCapabilities = c.leaves.filterMap name?
  | .fixed _ => rfl
  | .property _ => rfl
  | .capability _ => rfl
  | .all cs => requiredCapabilitiesAll_eq cs
  | .matching _ => rfl

theorem requiredCapabilitiesAll_eq : ∀ cs : List (Condition M),
    requiredCapabilitiesAll cs = (leavesAll cs).filterMap name?
  | [] => rfl
  | c :: cs => by
    rw [requiredCapabilitiesAll, leavesAll, List.filterMap_append, requiredCapabilities_eq c,
      requiredCapabilitiesAll_eq cs]
end

mutual
theorem copy_eq : ∀ c : Condition M, c.copy = c
  | .fixed _ => rfl
  | .property _ => rfl
  | .capability _ => rfl
  | .all cs => congrArg Condition.all (copyAll_eq cs)
  | .matching _ => rfl

theorem copyAll_eq : ∀ cs : List (Condition M), copyAll cs = cs
  | [] => rfl
  | c :: cs => by rw [copyAll, copy_eq c, copyAll_eq cs]
end

/-! ## What a list of leaves asks -/

/-- How leaves are evaluated: the answer is that all are true, and what is asked is what they ask in
their order, up to and with the first that is false. -/
structure Evaluates (env : Environment) (m : M) (leaves : List (Condition M))
    (result : Traced Lookup Bool) : Prop where
  answer : result.value = true ↔ ∀ leaf ∈ leaves, leaf.Satisfied env m
  whole : (∀ leaf ∈ leaves, leaf.Satisfied env m) → result.trace = leaves.filterMap asked?
  upToFirst : ∀ before leaf after, leaves = before ++ leaf :: after →
    (∀ l ∈ before, l.Satisfied env m) → ¬leaf.Satisfied env m →
    result.trace = (before ++ [leaf]).filterMap asked?

section

variable {env : Environment} {m : M} {leaf : Condition M}

theorem value_evaluate_leaf (h : leaf.IsLeaf) :
    (leaf.evaluate env m).value = true ↔ leaf.Satisfied env m := by
  constructor
  · intro value
    cases h with
    | fixed b => exact (show b = true from value) ▸ .fixed
    | property key =>
      obtain ⟨s, hs⟩ := Option.isSome_iff_exists.1 value
      exact .property hs
    | capability name => exact .capability value
    | matching test => exact .matching value
  · intro satisfied
    cases satisfied with
    | fixed => rfl
    | property there => exact Option.isSome_iff_exists.2 ⟨_, there⟩
    | capability there => exact there
    | matching passed => exact passed

theorem trace_evaluate_leaf (h : leaf.IsLeaf) :
    (leaf.evaluate env m).trace = [leaf].filterMap asked? := by
  cases h <;> rfl

/-- A false leaf is asked, and nothing after it. -/
theorem evaluateAll_of_not_satisfied {rest : List (Condition M)} (h : leaf.IsLeaf)
    (fails : ¬leaf.Satisfied env m) :
    evaluateAll env m (leaf :: rest) = ⟨false, [leaf].filterMap asked?⟩ := by
  have value : (leaf.evaluate env m).value = false :=
    Bool.eq_false_iff.2 fun v => fails ((value_evaluate_leaf h).1 v)
  have trace : (leaf.evaluate env m).trace = [leaf].filterMap asked? := trace_evaluate_leaf h
  rw [← trace]
  simp [evaluateAll, bind, pure, value]

/-- A true leaf is asked, and then the leaves after it. -/
theorem evaluateAll_of_satisfied {rest : List (Condition M)} (h : leaf.IsLeaf)
    (holds : leaf.Satisfied env m) :
    evaluateAll env m (leaf :: rest) = ⟨(evaluateAll env m rest).value,
      [leaf].filterMap asked? ++ (evaluateAll env m rest).trace⟩ := by
  have value : (leaf.evaluate env m).value = true := (value_evaluate_leaf h).2 holds
  have trace : (leaf.evaluate env m).trace = [leaf].filterMap asked? := trace_evaluate_leaf h
  rw [← trace]
  simp [evaluateAll, bind, value]

end

theorem evaluates_evaluateAll (env : Environment) (m : M) : ∀ leaves : List (Condition M),
    (∀ leaf ∈ leaves, leaf.IsLeaf) → Evaluates env m leaves (evaluateAll env m leaves)
  | [], _ => by
    refine ⟨⟨fun _ _ h => absurd h List.not_mem_nil, fun _ => rfl⟩, fun _ => rfl, ?_⟩
    intro before leaf after split
    exact absurd split.symm (List.append_ne_nil_of_right_ne_nil _ (List.cons_ne_nil _ _))
  | leaf :: rest, h => by
    have first : leaf.IsLeaf := h leaf List.mem_cons_self
    have ih := evaluates_evaluateAll env m rest fun l hl => h l (List.mem_cons_of_mem _ hl)
    by_cases satisfied : leaf.Satisfied env m
    · rw [evaluateAll_of_satisfied first satisfied]
      refine ⟨?_, fun all => ?_, ?_⟩
      · rw [List.forall_mem_cons, and_iff_right satisfied]
        exact ih.answer
      · rw [ih.whole fun l hl => all l (List.mem_cons_of_mem _ hl), ← List.filterMap_append]
        rfl
      · intro before l after split earlier fails
        -- The leaf that is false is not the first, which is true.
        cases before with
        | nil =>
          obtain ⟨rfl, -⟩ := List.cons.inj split
          exact absurd satisfied fails
        | cons b before =>
          obtain ⟨rfl, later⟩ := List.cons.inj split
          have trace := ih.upToFirst before l after later
            (fun l hl => earlier l (List.mem_cons_of_mem _ hl)) fails
          rw [trace, ← List.filterMap_append]
          rfl
    · rw [evaluateAll_of_not_satisfied first satisfied]
      refine ⟨⟨?_, ?_⟩, fun all => ?_, ?_⟩
      · intro value
        cases value
      · intro all
        exact absurd (all leaf List.mem_cons_self) satisfied
      · exact absurd (all leaf List.mem_cons_self) satisfied
      · intro before l after split earlier _
        cases before with
        | nil =>
          obtain ⟨rfl, -⟩ := List.cons.inj split
          rfl
        | cons b before =>
          obtain ⟨rfl, -⟩ := List.cons.inj split
          exact absurd (earlier leaf List.mem_cons_self) satisfied

/-! ## Only the leaves matter -/

/-- Two conditions that nothing tells apart. -/
structure Agree (c d : Condition M) : Prop where
  evaluate : ∀ env m, c.evaluate env m = d.evaluate env m
  properties : c.requiredProperties = d.requiredProperties
  capabilities : c.requiredCapabilities = d.requiredCapabilities

theorem agree_of_leaves {c d : Condition M} (h : c.leaves = d.leaves) : Agree c d where
  evaluate env m := by
    rw [evaluate_eq_evaluateAll_leaves, h, ← evaluate_eq_evaluateAll_leaves]
  properties := by rw [requiredProperties_eq, h, ← requiredProperties_eq]
  capabilities := by rw [requiredCapabilities_eq, h, ← requiredCapabilities_eq]

/-- A condition of which everything is determined by its leaves. -/
structure Determined (c : Condition M) : Prop where
  leaf : ∀ leaf ∈ c.leaves, leaf.IsLeaf
  evaluates : ∀ env m, Evaluates env m c.leaves (c.evaluate env m)
  properties : c.requiredProperties = c.leaves.filterMap key?
  capabilities : c.requiredCapabilities = c.leaves.filterMap name?
  joined : ∀ d, (c.and d).leaves = c.leaves ++ d.leaves
  regrouped : ∀ d, d.leaves = c.leaves → Agree d c
  copied : Agree c.copy c

/-- **Only the leaves of a condition matter, in their order.**  It is true if and only if all of
them are, asks what they ask up to and with the first that is false, and requires what they require;
a join has the leaves of both sides.  So two conditions with the same leaves agree in everything,
however they were grouped, and so does a condition with what is copied from it. -/
theorem determined (c : Condition M) : Determined c where
  leaf := isLeaf_of_mem_leaves c
  evaluates env m := by
    rw [evaluate_eq_evaluateAll_leaves]
    exact evaluates_evaluateAll env m c.leaves (isLeaf_of_mem_leaves c)
  properties := requiredProperties_eq c
  capabilities := requiredCapabilities_eq c
  joined := leaves_and c
  regrouped _ := agree_of_leaves
  copied := agree_of_leaves (congrArg leaves (copy_eq c))

end Condition

end Courier
