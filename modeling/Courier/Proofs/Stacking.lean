/-
# Stacking — layers wrap a sender in one order, in whatever order they were set

Layers are kept in a list that is ordered by their kinds.  Everything here goes through `get?`, the
layer of a kind: a call changes it for one kind and for no other (`get?_apply`), so after any calls
it is what the last call about the kind left (`get?_ofCalls`); and as the list is ordered, it is
determined by the three answers of `get?` (`entries_eq`), whatever put them there.
-/
import Courier.Pipeline.Layers
import Mathlib.Data.List.Basic

namespace Courier

variable {M : Type}

/-! ## Lists of layers that are ordered by kind -/

theorem LayerKind.ne_of_depth_lt {j k : LayerKind} (h : j.depth < k.depth) : j ≠ k :=
  fun e => Nat.lt_irrefl _ (e ▸ h)

namespace Layer

theorem find?_put_self (x : Layer M) (xs : List (Layer M)) :
    (put x xs).find? (·.kind = x.kind) = some x := by
  induction xs with
  | nil => simp [put]
  | cons y ys ih =>
    simp only [put]
    split
    · simp
    · split
      · simp
      · rename_i ne
        simpa [List.find?_cons, Ne.symm ne] using ih

theorem find?_put_ne {x : Layer M} {k : LayerKind} (h : x.kind ≠ k) (xs : List (Layer M)) :
    (put x xs).find? (·.kind = k) = xs.find? (·.kind = k) := by
  induction xs with
  | nil => simp [put, h]
  | cons y ys ih =>
    simp only [put]
    split
    · simp [h]
    · split
      · rename_i eq
        simp [h, eq ▸ h]
      · simp [List.find?_cons, ih]

/-- An ordered list is read off kind by kind, as long as the kinds that are asked for are in order
and none of the list is left out. -/
theorem eq_filterMap_find? {ks : List LayerKind} (hks : ks.Pairwise fun j k => j.depth < k.depth) :
    ∀ {xs : List (Layer M)}, Ordered xs → (∀ x ∈ xs, x.kind ∈ ks) →
      xs = ks.filterMap fun k => xs.find? (·.kind = k) := by
  induction ks with
  | nil =>
    intro xs _ hmem
    cases xs with
    | nil => rfl
    | cons x xs => exact absurd (hmem x List.mem_cons_self) List.not_mem_nil
  | cons k ks ih =>
    intro xs hxs hmem
    have ⟨hk, hks⟩ := List.pairwise_cons.1 hks
    cases xs with
    | nil => simp
    | cons x xs =>
      have ⟨hx, hxs'⟩ := List.pairwise_cons.1 hxs
      rcases List.mem_cons.1 (hmem x List.mem_cons_self) with hxk | hxk
      · -- The head has the first kind, so none of the others is its kind or that of the tail.
        have tail : ∀ y ∈ xs, y.kind ∈ ks := fun y hy =>
          (List.mem_cons.1 (hmem y (List.mem_cons_of_mem _ hy))).resolve_left fun e =>
            LayerKind.ne_of_depth_lt (hx y hy) (hxk.trans e.symm)
        have others : ks.filterMap (fun j => (x :: xs).find? (·.kind = j))
            = ks.filterMap fun j => xs.find? (·.kind = j) :=
          List.filterMap_congr fun j hj => List.find?_cons_of_neg fun e =>
            LayerKind.ne_of_depth_lt (hk j hj) (hxk.symm.trans (of_decide_eq_true e))
        rw [List.filterMap_cons_some (b := x) (by simp [hxk]), others, ← ih hks hxs' tail]
      · -- The first kind comes before that of the head, hence before all others.
        have absent : (x :: xs).find? (·.kind = k) = none := by
          refine List.find?_eq_none.2 fun y hy e => ?_
          have e : k = y.kind := (of_decide_eq_true e).symm
          rcases List.mem_cons.1 hy with rfl | hy
          · exact LayerKind.ne_of_depth_lt (hk _ hxk) e
          · exact LayerKind.ne_of_depth_lt (Nat.lt_trans (hk _ hxk) (hx y hy)) e
        have all : ∀ y ∈ x :: xs, y.kind ∈ ks := fun y hy =>
          (List.mem_cons.1 (hmem y hy)).resolve_left fun e =>
            (List.find?_eq_none.1 absent y hy) (by simpa using e)
        exact (ih hks hxs all).trans
          (List.filterMap_cons_none (f := fun j => (x :: xs).find? (·.kind = j)) absent).symm

/-- A sender with a layer around it, if there is one. -/
def aroundSome [Message M] (x : Option (Layer M)) (inner : Sender M) : Sender M :=
  match x with
  | some x => x.around inner
  | none => inner

theorem foldr_toList_append [Message M] (x : Option (Layer M)) (xs : List (Layer M))
    (base : Sender M) :
    (x.toList ++ xs).foldr around base = aroundSome x (xs.foldr around base) := by
  cases x <;> rfl

end Layer

/-! ## The layer of a kind -/

namespace Layers

@[simp] theorem get?_set_self (l : Layers M) (x : Layer M) : (l.set x).get? x.kind = some x :=
  Layer.find?_put_self x l.entries

theorem get?_set_ne (l : Layers M) {x : Layer M} {k : LayerKind} (h : x.kind ≠ k) :
    (l.set x).get? k = l.get? k :=
  Layer.find?_put_ne h l.entries

@[simp] theorem get?_remove_self (l : Layers M) (k : LayerKind) : (l.remove k).get? k = none := by
  simp [get?, remove, List.find?_eq_none]

theorem get?_remove_ne (l : Layers M) {j k : LayerKind} (h : j ≠ k) :
    (l.remove j).get? k = l.get? k := by
  simp only [get?, remove, List.find?_filter]
  refine congrArg (fun p => l.entries.find? p) (funext fun x => ?_)
  by_cases hx : x.kind = k
  · simp [hx, Ne.symm h]
  · simp [hx]

/-- The layers are those of the three kinds, in the order of the kinds. -/
theorem entries_eq (l : Layers M) : l.entries = LayerKind.all.filterMap l.get? :=
  Layer.eq_filterMap_find? (by decide) l.ordered fun x _ => by cases x.kind <;> decide

theorem kind_of_get? {l : Layers M} {k : LayerKind} {x : Layer M} (h : l.get? k = some x) :
    x.kind = k := by
  simpa using List.find?_some h

/-- A view that gives back every layer of a kind gives back the layer of that kind. -/
theorem get?_eq_map_view {α : Type} {k : LayerKind} {view : Layer M → Option α} {mk : α → Layer M}
    (h : ∀ x : Layer M, x.kind = k → (view x).map mk = some x) (l : Layers M) :
    l.get? k = ((l.get? k).bind view).map mk := by
  cases e : l.get? k with
  | none => rfl
  | some x => exact (h x (kind_of_get? e)).symm

theorem get?_filler (l : Layers M) : l.get? .filler = l.filler?.map .filler :=
  get?_eq_map_view (fun x hx => by cases x <;> first | rfl | nomatch hx) l

theorem get?_contentTranslator (l : Layers M) :
    l.get? .contentTranslator = l.content?.map .content :=
  get?_eq_map_view (fun x hx => by cases x <;> first | rfl | nomatch hx) l

theorem get?_phoneNumberTranslator (l : Layers M) :
    l.get? .phoneNumberTranslator = l.numbers?.map .numbers :=
  get?_eq_map_view (fun x hx => by cases x <;> first | rfl | nomatch hx) l

/-- The kinds of the layers are those of which there is a layer. -/
theorem kinds_eq (l : Layers M) : l.kinds = LayerKind.all.filter fun k => (l.get? k).isSome := by
  have kindOf : ∀ k, (l.get? k).map Layer.kind = if (l.get? k).isSome then some k else none := by
    intro k
    cases h : l.get? k with
    | none => rfl
    | some x => simp [kind_of_get? h]
  rw [kinds, entries_eq, List.map_filterMap, ← List.filterMap_eq_filter]
  refine List.filterMap_congr fun k _ => (kindOf k).trans ?_
  simp [Option.guard]

theorem entries_eq_append (l : Layers M) :
    l.entries = (l.get? .filler).toList ++ ((l.get? .contentTranslator).toList
      ++ ((l.get? .phoneNumberTranslator).toList ++ [])) := by
  rw [entries_eq]
  cases h₁ : l.get? .filler <;> cases h₂ : l.get? .contentTranslator <;>
    cases h₃ : l.get? .phoneNumberTranslator <;> simp [LayerKind.all, h₁, h₂, h₃]

/-- Composing wraps a sender in the layer of each kind, the filling one outermost. -/
theorem compose_eq [Message M] (l : Layers M) (base : Sender M) :
    l.compose base = Layer.aroundSome (l.get? .filler)
      (Layer.aroundSome (l.get? .contentTranslator)
        (Layer.aroundSome (l.get? .phoneNumberTranslator) base)) := by
  rw [compose, entries_eq_append, Layer.foldr_toList_append, Layer.foldr_toList_append,
    Layer.foldr_toList_append, List.foldr_nil]

end Layers

/-! ## Calls -/

/-- A call that changes the layers of a pipeline. -/
inductive LayerCall (M : Type) where
  | setFiller (f : Filler M)
  | setContentTranslator (t : ContentTranslator)
  | setNumberTranslator (t : NumberTranslator M)
  | remove (k : LayerKind)

namespace LayerCall

/-- The kind that a call is about. -/
def kind : LayerCall M → LayerKind
  | .setFiller _ => .filler
  | .setContentTranslator _ => .contentTranslator
  | .setNumberTranslator _ => .phoneNumberTranslator
  | .remove k => k

/-- The layer that a call leaves of its kind. -/
def layer? : LayerCall M → Option (Layer M)
  | .setFiller f => some (.filler f)
  | .setContentTranslator t => some (.content t)
  | .setNumberTranslator t => some (.numbers t)
  | .remove _ => none

/-- The last of some calls that is about a kind. -/
def lastOf (k : LayerKind) (calls : List (LayerCall M)) : Option (LayerCall M) :=
  (calls.filter (·.kind = k)).getLast?

/-- The layer that the last call about a kind sets, if it sets one. -/
def standing (k : LayerKind) (calls : List (LayerCall M)) : Option (Layer M) :=
  (lastOf k calls).bind (·.layer?)

end LayerCall

namespace Layers

/-- The layers after a call. -/
def apply (l : Layers M) : LayerCall M → Layers M
  | .setFiller f => l.setFiller f
  | .setContentTranslator t => l.setContentTranslator t
  | .setNumberTranslator t => l.setNumberTranslator t
  | .remove k => l.remove k

/-- The layers after some calls, none being there before. -/
def ofCalls (calls : List (LayerCall M)) : Layers M := calls.foldl apply .empty

/-- A call settles its kind and leaves the others alone. -/
theorem get?_apply (l : Layers M) (c : LayerCall M) (k : LayerKind) :
    (l.apply c).get? k = if c.kind = k then c.layer? else l.get? k := by
  by_cases h : c.kind = k
  · subst h
    rw [if_pos rfl]
    cases c with
    | setFiller f => exact get?_set_self l (.filler f)
    | setContentTranslator t => exact get?_set_self l (.content t)
    | setNumberTranslator t => exact get?_set_self l (.numbers t)
    | remove k => exact get?_remove_self l k
  · rw [if_neg h]
    cases c with
    | setFiller f => exact get?_set_ne l h
    | setContentTranslator t => exact get?_set_ne l h
    | setNumberTranslator t => exact get?_set_ne l h
    | remove j => exact get?_remove_ne l h

/-- After some calls, the layer of a kind is what the last call about it left, or as before if
there was none. -/
theorem get?_foldl_apply (calls : List (LayerCall M)) (k : LayerKind) :
    ∀ l : Layers M, (calls.foldl apply l).get? k
      = match LayerCall.lastOf k calls with
        | some c => c.layer?
        | none => l.get? k := by
  induction calls with
  | nil => intro l; rfl
  | cons c cs ih =>
    intro l
    rw [List.foldl_cons, ih (l.apply c), get?_apply]
    by_cases h : c.kind = k
    · -- The call is about the kind, so it counts unless a later one is about it too.
      rw [if_pos h, LayerCall.lastOf, LayerCall.lastOf, List.filter_cons_of_pos (by simpa using h),
        List.getLast?_cons]
      cases (cs.filter (·.kind = k)).getLast? <;> rfl
    · rw [if_neg h, LayerCall.lastOf, LayerCall.lastOf, List.filter_cons_of_neg (by simpa using h)]

theorem get?_ofCalls (calls : List (LayerCall M)) (k : LayerKind) :
    (ofCalls calls).get? k = LayerCall.standing k calls := by
  rw [ofCalls, get?_foldl_apply, LayerCall.standing]
  cases LayerCall.lastOf k calls <;> rfl

/-- **One stack for all orders of the calls.**  After any calls, the kinds are those whose last
call set a layer, in their order and each once; a sender is wrapped in just these layers, the
filling one outermost and the one for numbers innermost, each as its last call set it.  So calls
that agree on the last one about each kind give senders that do the same for every message. -/
theorem ofCalls_stack [Message M] (calls : List (LayerCall M)) :
    (ofCalls calls).kinds
        = LayerKind.all.filter (fun k => (LayerCall.standing k calls).isSome)
      ∧ (∀ base : Sender M, (ofCalls calls).compose base
          = Layer.aroundSome (LayerCall.standing .filler calls)
              (Layer.aroundSome (LayerCall.standing .contentTranslator calls)
                (Layer.aroundSome (LayerCall.standing .phoneNumberTranslator calls) base)))
      ∧ ∀ others : List (LayerCall M),
          (∀ k, LayerCall.lastOf k others = LayerCall.lastOf k calls) →
          ∀ (base : Sender M) (m : M),
            ((ofCalls others).compose base).send m = ((ofCalls calls).compose base).send m := by
  have stack : ∀ (cs : List (LayerCall M)) (base : Sender M), (ofCalls cs).compose base
      = Layer.aroundSome (LayerCall.standing .filler cs)
          (Layer.aroundSome (LayerCall.standing .contentTranslator cs)
            (Layer.aroundSome (LayerCall.standing .phoneNumberTranslator cs) base)) := by
    intro cs base
    rw [compose_eq, get?_ofCalls, get?_ofCalls, get?_ofCalls]
  refine ⟨?_, stack calls, fun others same base m => ?_⟩
  · simp only [kinds_eq, get?_ofCalls]
  · rw [stack others, stack calls]
    simp only [LayerCall.standing, same]

end Layers

end Courier
