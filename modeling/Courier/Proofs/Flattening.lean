/-
# Flattening — which leaf of a table settles a property

A leaf of a table is what is no table itself; its names on the way down, with dots between, are a
key.  Two leaves can have one key, as a name may hold dots of its own.  Tables are walked in the
order of their names and the leaf that comes last counts, so the order of texts decides: where two
such paths part, one name goes on with what the other breaks off for a dot.  The shorter of the two
is the beginning of the longer, so it comes first, and the leaf below the longer name counts
(`Toml.Outranks`).

An assignment file fills in what is left open.  There, too, the last assignment to a key counts.
-/
import Courier.Proofs.Passage
import Courier.Config
import Mathlib.Data.List.Induction
import Mathlib.Data.List.Nodup

namespace Courier

/-! ## The last pair counts -/

namespace Entries

variable {α : Type} {pairs : List (String × α)} {k k' : String} {a b : α}

/-- The last pair with a key. -/
def LastPair (pairs : List (String × α)) (k : String) (a : α) : Prop :=
  ∃ before after, pairs = before ++ (k, a) :: after ∧ ∀ e ∈ after, e.1 ≠ k

theorem lastPair_concat_self : LastPair (pairs ++ [(k, b)]) k a ↔ b = a := by
  constructor
  · rintro ⟨before, after, split, last⟩
    rcases List.eq_nil_or_concat after with rfl | ⟨init, e, rfl⟩
    · have same := List.append_inj_right' split rfl
      exact (Prod.mk.inj (List.cons.inj same).1).2
    · rw [List.concat_eq_append, ← List.cons_append, ← List.append_assoc] at split
      have same := List.append_inj_right' split rfl
      obtain rfl := (List.cons.inj same).1
      exact absurd rfl (last (k, b) (by simp))
  · rintro rfl
    exact ⟨pairs, [], rfl, nofun⟩

theorem lastPair_concat_ne (h : k' ≠ k) :
    LastPair (pairs ++ [(k', b)]) k a ↔ LastPair pairs k a := by
  constructor
  · rintro ⟨before, after, split, last⟩
    rcases List.eq_nil_or_concat after with rfl | ⟨init, e, rfl⟩
    · have same := List.append_inj_right' split rfl
      exact absurd (Prod.mk.inj (List.cons.inj same).1).1 h
    · rw [List.concat_eq_append, ← List.cons_append, ← List.append_assoc] at split
      refine ⟨before, init, List.append_inj_left' split rfl, fun e he => last e ?_⟩
      simp [he]
  · rintro ⟨before, after, rfl, last⟩
    refine ⟨before, after ++ [(k', b)], by simp, fun e he => ?_⟩
    rcases List.mem_append.1 he with he | he
    · exact last e he
    · obtain rfl := List.mem_singleton.1 he
      exact h

theorem ofList_concat : ofList (pairs ++ [(k, a)]) = insert k a (ofList pairs) := by
  simp only [ofList, List.foldl_append, List.foldl_cons, List.foldl_nil]

/-- The value of a key is that of the last pair with it. -/
theorem find?_ofList_eq_some_iff : find? k (ofList pairs) = some a ↔ LastPair pairs k a := by
  induction pairs using List.reverseRecOn with
  | nil =>
    refine ⟨fun h => (by cases h), ?_⟩
    rintro ⟨before, after, split, -⟩
    simp at split
  | append_singleton pairs e ih =>
    obtain ⟨k', b⟩ := e
    rw [ofList_concat]
    by_cases h : k' = k
    · subst h
      rw [find?_insert_self, lastPair_concat_self, Option.some_inj]
    · rw [find?_insert_ne (Ne.symm h), lastPair_concat_ne h, ih]

theorem mem_keys_ofList : k ∈ (ofList pairs).map (·.1) ↔ k ∈ pairs.map (·.1) := by
  rw [← isSome_find?]
  induction pairs using List.reverseRecOn with
  | nil => simp [ofList, find?]
  | append_singleton pairs e ih =>
    obtain ⟨k', b⟩ := e
    rw [ofList_concat]
    by_cases h : k = k'
    · subst h
      simp [find?_insert_self]
    · simp [find?_insert_ne h, ih, h]

theorem insert_of_forall_lt {es : List (String × α)} (h : ∀ e ∈ es, e.1 < k) :
    insert k a es = es ++ [(k, a)] := by
  induction es with
  | nil => rfl
  | cons e es ih =>
    have rest := ih fun e' he' => h e' (List.mem_cons_of_mem e he')
    rw [insert_of_gt (h e List.mem_cons_self), rest, List.cons_append]

theorem ofList_of_sorted {es : List (String × α)} (h : Sorted es) : ofList es = es := by
  induction es using List.reverseRecOn with
  | nil => rfl
  | append_singleton es e ih =>
    obtain ⟨sorted, -, before⟩ := List.pairwise_append.1 h
    rw [ofList_concat, ih sorted]
    exact insert_of_forall_lt fun e' he' => before e' he' e (List.mem_singleton_self e)

end Entries

namespace Toml

/-! ## Leaves -/

/-- Tables are taken apart; everything else is a leaf. -/
@[elab_as_elim]
theorem Value.byTables {motive : Value → Prop}
    (leaf : ∀ v, (∀ es, v ≠ .table es) → motive v)
    (table : ∀ es, (∀ e ∈ es, motive e.2) → motive (.table es)) (v : Value) : motive v :=
  match v with
  | .table es => table es fun e _ => byTables leaf table e.2
  | .text _ | .int _ | .float _ | .bool _ | .moment _ | .list _ => leaf _ nofun
termination_by sizeOf v
decreasing_by
  have entry := List.sizeOf_lt_of_mem ‹e ∈ es›
  have value : sizeOf e.2 < sizeOf e := by
    obtain ⟨name, v⟩ := e
    show sizeOf v < sizeOf (name, v)
    rw [Prod.mk.sizeOf_spec]
    omega
  simp only [Value.table.sizeOf_spec]
  omega

/-- A leaf of a value, and the names on the way to it. -/
inductive Value.LeafAt : Value → List String → Value → Prop
  | here {v : Value} (leaf : ∀ es, v ≠ .table es) : LeafAt v [] v
  | inside {es : Table} {name : String} {v leaf : Value} {path : List String}
      (entry : (name, v) ∈ es) (rest : LeafAt v path leaf) :
      LeafAt (.table es) (name :: path) leaf

/-- A leaf of a table, and the names on the way to it. -/
def Leaf (t : Table) (path : List String) (v : Value) : Prop := (Value.table t).LeafAt path v

/-- The text of a leaf: of a list, the texts of those of its items that have one. -/
inductive Value.Spells : Value → String → Prop
  | scalar {v : Value} {s : String} (text : v.scalarText? = some s) : Spells v s
  | list (items : List Value) :
      Spells (.list items) (",".intercalate (items.filterMap (·.scalarText?)))

/-- The names in a value, and in the tables below it, increase strictly. -/
inductive Value.InOrder : Value → Prop
  | leaf {v : Value} (h : ∀ es, v ≠ .table es) : InOrder v
  | table {es : Table} (sorted : Entries.Sorted es) (inner : ∀ e ∈ es, InOrder e.2) :
      InOrder (.table es)

/-- The names in a table, and in the tables below it, increase strictly. -/
def InOrder (t : Table) : Prop := (Value.table t).InOrder

theorem Value.leaves_of_leaf {v : Value} (h : ∀ es, v ≠ .table es) (path : List String) :
    v.leaves path = [(path, v)] := by
  cases v with
  | table es => exact absurd rfl (h es)
  | _ => rfl

theorem leavesOf_eq_flatMap (path : List String) (es : Table) :
    leavesOf path es = es.flatMap fun e => e.2.leaves (path ++ [e.1]) := by
  induction es with
  | nil => rfl
  | cons e es ih => rw [leavesOf, ih, List.flatMap_cons]

theorem Value.mem_leaves {v leaf : Value} {path p : List String} :
    (p, leaf) ∈ v.leaves path ↔ ∃ rest, p = path ++ rest ∧ v.LeafAt rest leaf := by
  induction v using Value.byTables generalizing path with
  | leaf v h =>
    rw [leaves_of_leaf h, List.mem_singleton, Prod.mk.injEq]
    constructor
    · rintro ⟨rfl, rfl⟩
      exact ⟨[], (List.append_nil _).symm, .here h⟩
    · rintro ⟨rest, rfl, at_leaf⟩
      cases at_leaf with
      | here _ => exact ⟨List.append_nil _, rfl⟩
      | inside _ _ => exact absurd rfl (h _)
  | table es ih =>
    rw [Value.leaves, leavesOf_eq_flatMap, List.mem_flatMap]
    constructor
    · rintro ⟨⟨name, v⟩, entry, member⟩
      obtain ⟨rest, rfl, inside⟩ := (ih _ entry).1 member
      exact ⟨name :: rest, by simp, .inside entry inside⟩
    · rintro ⟨rest, rfl, at_leaf⟩
      cases at_leaf with
      | here h => exact absurd rfl (h es)
      | inside entry inside => exact ⟨_, entry, (ih _ entry).2 ⟨_, by simp, inside⟩⟩

theorem mem_leavesOf {t : Table} {path : List String} {v : Value} :
    (path, v) ∈ leavesOf [] t ↔ Leaf t path v := by
  show (path, v) ∈ (Value.table t).leaves [] ↔ _
  rw [Value.mem_leaves]
  simp [Leaf]

theorem Value.LeafAt.spells {v leaf : Value} {path : List String} (h : v.LeafAt path leaf) :
    leaf.Spells leaf.leafText := by
  induction h with
  | inside _ _ ih => exact ih
  | @here v leaf =>
    cases v with
    | table es => exact absurd rfl (leaf es)
    | list items => exact .list items
    | _ => exact .scalar rfl

theorem Value.Spells.eq {v : Value} {s : String} (h : v.Spells s) : s = v.leafText := by
  cases h with
  | list items => rfl
  | scalar text =>
    cases v with
    | list items => cases text
    | table es => cases text
    | _ => exact (Option.some.inj text).symm

/-! ## Order -/

mutual
theorem Value.inOrder_sorted : ∀ v : Value, v.sorted.InOrder
  | .table es => inOrder_sortedEntries es
  | .text _ | .int _ | .float _ | .bool _ | .moment _ | .list _ => .leaf nofun

theorem inOrder_sortedEntries : ∀ es : Table, InOrder (sortedEntries es)
  | [] => .table Entries.sorted_nil nofun
  | (name, v) :: es => by
    cases inOrder_sortedEntries es with
    | leaf h => exact absurd rfl (h _)
    | table sorted inner =>
      refine .table (Entries.sorted_insert name v.sorted sorted) fun e he => ?_
      rcases Entries.mem_insert he with rfl | he
      · exact Value.inOrder_sorted v
      · exact inner e he
end

/-! ## Paths with one key -/

/-- The names on the way to a leaf, with dots between. -/
def dotted (path : List String) : String := ".".intercalate path

/-- Where two paths part, the first goes on with the longer name. -/
def Outranks (p q : List String) : Prop :=
  ∃ common s s' rest rest', p = common ++ s :: rest ∧ q = common ++ s' :: rest'
    ∧ s'.length < s.length

theorem Outranks.asymm {p q : List String} (h : Outranks p q) : ¬ Outranks q p := by
  rintro ⟨common', u, u', r, r', hq, hp, shorter⟩
  obtain ⟨common, s, s', rest, rest', rfl, rfl, longer⟩ := h
  -- Both ways of parting have the same beginning, since up to it the paths agree.
  induction common generalizing common' with
  | nil =>
    cases common' with
    | nil =>
      obtain rfl := (List.cons.inj hp).1
      obtain rfl := (List.cons.inj hq).1
      omega
    | cons c common' =>
      obtain rfl := (List.cons.inj hp).1
      obtain rfl := (List.cons.inj hq).1
      exact Nat.lt_irrefl _ longer
  | cons c common ih =>
    cases common' with
    | nil =>
      obtain rfl := (List.cons.inj hp).1
      obtain rfl := (List.cons.inj hq).1
      exact Nat.lt_irrefl _ shorter
    | cons c' common' => exact ih common' (List.cons.inj hp).2 (List.cons.inj hq).2

theorem dotted_cons {rest : List String} (h : rest ≠ []) (name : String) :
    dotted (name :: rest) = name ++ "." ++ dotted rest := by
  obtain ⟨s, rest, rfl⟩ := List.exists_cons_of_ne_nil h
  exact String.intercalate_cons_cons

theorem prefix_dotted (name : String) (rest : List String) :
    name.toList <+: (dotted (name :: rest)).toList := by
  cases rest with
  | nil => simp [dotted]
  | cons s rest =>
    rw [dotted_cons (List.cons_ne_nil s rest), String.toList_append, String.toList_append,
      List.append_assoc]
    exact List.prefix_append _ _

theorem dotted_append_inj {rest rest' : List String} (h : rest ≠ []) (h' : rest' ≠ [])
    (path : List String) :
    dotted (path ++ rest) = dotted (path ++ rest') ↔ dotted rest = dotted rest' := by
  induction path with
  | nil => exact Iff.rfl
  | cons name path ih =>
    rw [List.cons_append, List.cons_append, dotted_cons (by simp [h]), dotted_cons (by simp [h']),
      String.append_right_inj, ih]

/-- A name that comes later in its table, where the key is the same, is longer. -/
theorem length_lt_of_lt {s s' : String} {rest rest' : List String} (later : s < s')
    (same : dotted (s :: rest) = dotted (s' :: rest')) : s.length < s'.length := by
  refine Nat.lt_of_not_le fun notLonger => ?_
  have start : s'.toList <+: s.toList := by
    refine List.prefix_of_prefix_length_le (prefix_dotted s' rest') ?_ ?_
    · exact same ▸ prefix_dotted s rest
    · simpa only [String.length_toList] using notLonger
  exact List.not_lt.2 start.le (String.lt_iff.1 later)

/-- Of two leaves with one key, the one that is met later outranks the other. -/
theorem Value.pairwise_leaves {v : Value} (h : v.InOrder) (path : List String) :
    (v.leaves path).Pairwise fun a b => dotted a.1 = dotted b.1 → Outranks b.1 a.1 := by
  induction h generalizing path with
  | leaf h =>
    rw [leaves_of_leaf h]
    exact List.pairwise_singleton _ _
  | @table es sorted inner ih =>
    rw [Value.leaves, leavesOf_eq_flatMap, List.pairwise_flatMap]
    refine ⟨fun e he => ih e he (path ++ [e.1]), sorted.imp fun {e e'} later => ?_⟩
    rintro ⟨p, leaf⟩ hp ⟨q, leaf'⟩ hq same
    obtain ⟨rest, rfl, -⟩ := Value.mem_leaves.1 hp
    obtain ⟨rest', rfl, -⟩ := Value.mem_leaves.1 hq
    simp only [List.append_assoc, List.singleton_append] at same ⊢
    have tails := (dotted_append_inj (List.cons_ne_nil _ _) (List.cons_ne_nil _ _) path).1 same
    exact ⟨path, e'.1, e.1, rest', rest, rfl, rfl, length_lt_of_lt later tails⟩

/-- A name with dots of its own outranks a way that spells it in tables. -/
theorem outranks_of_quoted {s name : String} {rest : List String} (common : List String)
    (more : rest ≠ []) (same : dotted (s :: rest) = name) :
    Outranks (common ++ [name]) (common ++ s :: rest) := by
  refine ⟨common, name, s, [], rest, rfl, rfl, ?_⟩
  have split := congrArg String.length same
  rw [dotted_cons more, String.length_append, String.length_append] at split
  have dot : ".".length = 1 := rfl
  omega

/-! ## The leaf that counts -/

/-- The leaf that counts for a key: it outranks all others that have this key. -/
structure Settles (t : Table) (key : String) (path : List String) (v : Value) : Prop where
  leaf : Leaf t path v
  named : dotted path = key
  first : ∀ path' v', Leaf t path' v' → dotted path' = key → path' = path ∨ Outranks path path'

/-- The leaves of a table by their keys, in the order in which they are met. -/
def keyed (t : Table) : List (String × String) :=
  (leavesOf [] t).map fun (path, v) => (dotted path, v.leafText)

theorem mem_keys_keyed {t : Table} {key : String} :
    key ∈ (keyed t).map (·.1) ↔ ∃ path v, Leaf t path v ∧ dotted path = key := by
  simp only [keyed, List.map_map, List.mem_map, Function.comp_apply, Prod.exists, mem_leavesOf]

variable {t : Table} {key : String} {path path' : List String} {v v' : Value}

theorem Leaf.unique (h : InOrder t) (leaf : Leaf t path v) (leaf' : Leaf t path v') : v' = v := by
  have apart : (leavesOf [] t).Pairwise fun a b => a.1 ≠ b.1 := by
    refine (Value.pairwise_leaves h []).imp fun {a b} later same => ?_
    have self := later (congrArg dotted same)
    rw [same] at self
    exact self.asymm self
  have inj := List.inj_on_of_nodup_map (List.pairwise_map.2 apart)
  exact (Prod.mk.inj (inj (mem_leavesOf.2 leaf') (mem_leavesOf.2 leaf) rfl)).2

theorem Settles.unique (h : InOrder t) (settles : Settles t key path v)
    (settles' : Settles t key path' v') : path' = path ∧ v' = v := by
  have same : path' = path := by
    rcases settles.first path' v' settles'.leaf settles'.named with same | wins
    · exact same
    · rcases settles'.first path v settles.leaf settles.named with same | wins'
      · exact same.symm
      · exact absurd wins' wins.asymm
  subst same
  exact ⟨rfl, Leaf.unique h settles.leaf settles'.leaf⟩

/-- The last leaf that is met under a key outranks the others. -/
theorem exists_settles_of_lastPair (h : InOrder t) {s : String}
    (last : Entries.LastPair (keyed t) key s) :
    ∃ path v, Settles t key path v ∧ v.leafText = s := by
  obtain ⟨before, after, split, noLater⟩ := last
  obtain ⟨before, others, leaves, rfl, tail⟩ := List.map_eq_append_iff.1 split
  obtain ⟨⟨path, v⟩, after, rfl, here, rfl⟩ := List.map_eq_cons_iff.1 tail
  obtain ⟨named, text⟩ := Prod.mk.inj here
  have member : (path, v) ∈ leavesOf [] t := leaves ▸ by simp
  have order : (leavesOf [] t).Pairwise fun a b => dotted a.1 = dotted b.1 → Outranks b.1 a.1 :=
    Value.pairwise_leaves h []
  rw [leaves, List.pairwise_append] at order
  refine ⟨path, v, ⟨mem_leavesOf.1 member, named, ?_⟩, text⟩
  intro path' v' leaf' named'
  have member' := mem_leavesOf.2 leaf'
  rw [leaves] at member'
  rcases List.mem_append.1 member' with earlier | later
  · right
    exact order.2.2 _ earlier (path, v) List.mem_cons_self (named'.trans named.symm)
  · rcases List.mem_cons.1 later with same | later
    · left
      exact (Prod.mk.inj same).1
    · exact absurd named' (noLater (dotted path', v'.leafText) (List.mem_map_of_mem later))

theorem lastPair_keyed_iff (h : InOrder t) {s : String} :
    Entries.LastPair (keyed t) key s ↔ ∃ path v, Settles t key path v ∧ v.Spells s := by
  constructor
  · intro last
    obtain ⟨path, v, settles, rfl⟩ := exists_settles_of_lastPair h last
    exact ⟨path, v, settles, Value.LeafAt.spells settles.leaf⟩
  · rintro ⟨path, v, settles, spelled⟩
    have present : key ∈ (flatten t).map (·.1) :=
      Entries.mem_keys_ofList.2 (mem_keys_keyed.2 ⟨path, v, settles.leaf, settles.named⟩)
    obtain ⟨s', found⟩ := Option.isSome_iff_exists.1 ((Entries.isSome_find? key _).2 present)
    have last := Entries.find?_ofList_eq_some_iff.1 found
    obtain ⟨path', v', settles', rfl⟩ := exists_settles_of_lastPair h last
    obtain ⟨-, rfl⟩ := settles.unique h settles'
    exact spelled.eq ▸ last

/-- What it is to flatten a table: the keys are those of the leaves, and of the leaves with one key
the text of the one that outranks the others is the value, which is never one that stands in tables
under the names that another has as one name. -/
structure Flattens (t : Table) (flat : List (String × String)) : Prop where
  keys : ∀ key, key ∈ flat.map (·.1) ↔ ∃ path v, Leaf t path v ∧ dotted path = key
  values : ∀ key s, Entries.find? key flat = some s ↔ ∃ path v, Settles t key path v ∧ v.Spells s
  quoted : ∀ common name s rest v v', Leaf t (common ++ [name]) v → rest ≠ [] →
    dotted (s :: rest) = name → ∀ key, ¬ Settles t key (common ++ s :: rest) v'

theorem flattens_flatten (h : InOrder t) : Flattens t (flatten t) where
  keys _ := Entries.mem_keys_ofList.trans mem_keys_keyed
  values _ _ := Entries.find?_ofList_eq_some_iff.trans (lastPair_keyed_iff h)
  quoted := by
    intro common name s rest v v' leaf more same key settles
    have wins := outranks_of_quoted common more same
    have spelled : dotted (common ++ [name]) = key := by
      rw [← settles.named]
      refine (dotted_append_inj (List.cons_ne_nil _ _) (List.cons_ne_nil _ _) common).2 ?_
      exact (String.intercalate_singleton).trans same.symm
    rcases settles.first _ v leaf spelled with same' | wins'
    · exact wins.asymm (same' ▸ wins)
    · exact wins.asymm wins'

end Toml

/-! ## Properties of a configuration -/

namespace Properties

theorem get?_insertMissing (p : Properties) (key value k : String) :
    (p.insertMissing key value).get? k
      = (p.get? k).or (if k = key then some value else none) := by
  show Entries.find? k (Entries.insertMissing key value p.entries)
    = (Entries.find? k p.entries).or _
  unfold Entries.insertMissing
  by_cases same : k = key
  · subst same
    rw [if_pos rfl]
    cases found : Entries.find? k p.entries with
    | some s => exact found
    | none => exact Entries.find?_insert_self k value p.entries
  · rw [if_neg same, Option.or_none]
    cases Entries.find? key p.entries with
    | some s => rfl
    | none => exact Entries.find?_insert_ne same value p.entries

/-- What is there stays, and the rest comes from the other properties. -/
theorem get?_mergeMissing (p other : Properties) (k : String) :
    (p.mergeMissing other).get? k = (p.get? k).or (other.get? k) := by
  show (List.foldl _ p other.entries).get? k = (p.get? k).or (Entries.find? k other.entries)
  generalize other.entries = es
  induction es generalizing p with
  | nil => exact (Option.or_none).symm
  | cons e es ih =>
    obtain ⟨key, value⟩ := e
    rw [List.foldl_cons, ih, get?_insertMissing, Entries.find?, Option.or_assoc]
    split <;> rfl

/-- A file is there, and holds these assignments in this order. -/
def Assigned (process : EnvFile.Names) (files : Files) (path : String)
    (assigned : List (String × String)) : Prop :=
  files.has path = true ∧
    ∃ bytes, files.readBytes path = .ok bytes ∧ EnvFile.read process bytes = .ok assigned

variable {process : EnvFile.Names} {files : Files} {path : String}

theorem ofFile_eq_ok_iff {p : Properties} : ofFile process files path = .ok p
    ↔ ∃ assigned, Assigned process files path assigned ∧ p = ofList assigned := by
  constructor
  · intro h
    unfold ofFile at h
    split at h
    · cases h
    · rename_i there
      split at h
      · cases h
      · rename_i bytes bytesRead
        cases read : EnvFile.read process bytes with
        | error e =>
          rw [read] at h
          cases h
        | ok assigned =>
          rw [read] at h
          exact ⟨assigned, ⟨by simpa using there, bytes, bytesRead, read⟩, (Except.ok.inj h).symm⟩
  · rintro ⟨assigned, ⟨there, bytes, bytesRead, read⟩, rfl⟩
    simp [ofFile, there, bytesRead, read, Except.mapError, Except.map]

theorem value_load : (load process files path).value = ofFile process files path := by
  unfold load
  cases ofFile process files path <;> rfl

/-- Properties of which some are given and the others are what was assigned last. -/
structure Joins (p : Properties) (given assigned : List (String × String)) : Prop where
  keys : ∀ key, key ∈ p.keys ↔ key ∈ given.map (·.1) ∨ key ∈ assigned.map (·.1)
  values : ∀ key s, p.get? key = some s ↔ Entries.find? key given = some s
    ∨ key ∉ given.map (·.1) ∧ Entries.LastPair assigned key s

theorem joins_mergeMissing (p : Properties) (assigned : List (String × String)) :
    (p.mergeMissing (ofList assigned)).Joins p.entries assigned where
  keys key := by
    have value := congrArg Option.isSome (get?_mergeMissing p (ofList assigned) key)
    rw [Option.isSome_or, Bool.eq_iff_iff, Bool.or_eq_true] at value
    have present (p : Properties) : (p.get? key).isSome = true ↔ key ∈ p.keys :=
      Entries.isSome_find? key p.entries
    rw [present, present, present] at value
    exact value.trans (or_congr_right Entries.mem_keys_ofList)
  values key s := by
    rw [get?_mergeMissing, Option.or_eq_some_iff, ← Entries.isSome_find?,
      ← Entries.find?_ofList_eq_some_iff, Option.not_isSome_iff_eq_none]
    rfl

end Properties

namespace Config

variable {process : EnvFile.Names} {files : Files} {base : String} {c : Config}

/-- What the assignment file of a configuration assigns, if it names one. -/
inductive Assigns (process : EnvFile.Names) (files : Files) (base : String) (c : Config) :
    List (String × String) → Prop
  | unnamed (h : c.envFile = none) : Assigns process files base c []
  | named {path : String} {assigned : List (String × String)} (h : c.envFile = some path)
      (loads : Properties.Assigned process files (joinPath base path) assigned) :
      Assigns process files base c assigned

/-- Properties can be loaded if the assignment file can be, and are joined with its. -/
theorem value_loadProperties_eq_ok_iff {p : Properties} :
    (c.loadProperties process files base).value = .ok p
      ↔ ∃ assigned, c.Assigns process files base assigned
        ∧ p = c.ownProperties.mergeMissing (.ofList assigned) := by
  unfold loadProperties
  cases h : c.envFile with
  | none =>
    constructor
    · intro loaded
      exact ⟨[], .unnamed h, (Except.ok.inj loaded).symm⟩
    · rintro ⟨assigned, assigns, rfl⟩
      cases assigns with
      | unnamed _ => rfl
      | named h' _ => cases h.symm.trans h'
  | some path =>
    show completed _ (Properties.load process files (joinPath base path)).value = _ ↔ _
    rw [Properties.value_load]
    constructor
    · intro loaded
      cases read : Properties.ofFile process files (joinPath base path) with
      | error e =>
        rw [read] at loaded
        cases loaded
      | ok more =>
        rw [read] at loaded
        obtain ⟨assigned, loads, rfl⟩ := Properties.ofFile_eq_ok_iff.1 read
        exact ⟨assigned, .named h loads, (Except.ok.inj loaded).symm⟩
    · rintro ⟨assigned, assigns, rfl⟩
      cases assigns with
      | unnamed h' => cases h.symm.trans h'
      | named h' loads =>
        obtain rfl := Option.some.inj (h.symm.trans h')
        rw [Properties.ofFile_eq_ok_iff.2 ⟨assigned, loads, rfl⟩]
        rfl

theorem entries_ownProperties (c : Config) :
    c.ownProperties.entries = Toml.flatten c.properties :=
  Entries.ofList_of_sorted (Entries.sorted_ofList _)

/-- The properties of a configuration that was read are in order. -/
theorem inOrder_of_read {s : String} (h : Config.read s = .ok c) : Toml.InOrder c.properties := by
  unfold Config.read at h
  split at h
  · cases h
  · obtain ⟨c', -, made⟩ := bind_eq_ok_iff.1 (mapError_eq_ok_iff.1 h)
    obtain rfl := Except.ok.inj made
    exact Toml.inOrder_sortedEntries _

/-- **Which leaf settles a property.**  The keys of a table are the dotted ways to its leaves, and
the leaf that counts for a key is the one that, where its way parts from that of another, goes on
with the longer name.  The properties of a configuration are those of its table, which is in order
whenever it was read, and for all other keys what its assignment file assigns last. -/
theorem settles_properties :
    (∀ t, Toml.InOrder t → Toml.Flattens t (Toml.flatten t))
      ∧ (∀ s c, Config.read s = .ok c → Toml.InOrder c.properties)
      ∧ ∀ process files base (c : Config) assigned, c.Assigns process files base assigned →
        ∃ p, (c.loadProperties process files base).value = .ok p
          ∧ p.Joins (Toml.flatten c.properties) assigned := by
  refine ⟨fun t => Toml.flattens_flatten, fun s c => inOrder_of_read, ?_⟩
  intro process files base c assigned assigns
  have joins := Properties.joins_mergeMissing c.ownProperties assigned
  rw [entries_ownProperties] at joins
  exact ⟨_, value_loadProperties_eq_ok_iff.2 ⟨assigned, assigns, rfl⟩, joins⟩

/-- A table that spells one key twice, and a file that goes on with it. -/
theorem settles_properties_twice :
    let t : Toml.Table :=
      [("a", .table [("b", .text "nested"), ("c", .list [.int 1, .list [], .text "x"])]),
        ("a.b", .text "quoted")]
    let c : Config := { Config.standard with envFile := some "x.env", properties := t }
    let files : Files := ⟨[], [(["x.env"], .file "a.b=env\nk=1\nk=2\n".toUTF8)]⟩
    let assigned := [("a.b", "env"), ("k", "1"), ("k", "2")]
    Toml.InOrder t ∧ c.Assigns (fun _ => none) files "." assigned
      ∧ (∃ path v, Toml.Settles t "a.b" path v ∧ v.Spells "quoted")
      ∧ ∃ p, (c.loadProperties (fun _ => none) files ".").value = .ok p
        ∧ p.get? "a.b" = some "quoted" ∧ p.get? "a.c" = some "1,x" ∧ p.get? "k" = some "2" := by
  intro t c files assigned
  have inOrder : Toml.InOrder t := Toml.inOrder_sortedEntries t
  have loads : Properties.Assigned (fun _ => none) files "./x.env" assigned :=
    ⟨by decide +kernel, _, rfl, by decide +kernel⟩
  have assigns : c.Assigns (fun _ => none) files "." assigned := .named rfl loads
  obtain ⟨flattens, -, loaded⟩ := settles_properties
  obtain ⟨p, value, joins⟩ := loaded _ files "." c assigned assigns
  refine ⟨inOrder, assigns, ((flattens t inOrder).values "a.b" "quoted").1 (by decide +kernel), p,
    value, ?_, ?_, ?_⟩
  · exact (joins.values _ _).2 (.inl (by decide +kernel))
  · exact (joins.values _ _).2 (.inl (by decide +kernel))
  · exact (joins.values _ _).2 (.inr ⟨by decide +kernel, [_, _], [], rfl, nofun⟩)

end Config

end Courier
