/-
# Trees — how the statements of a configuration file make a table

A file is read into statements: headers of tables, headers of lists of tables, and assignments.
Names are introduced in three ways, which limits how they can go on: a table under a header of its
own is closed to dotted names, one that only a longer header implies can still get its own header,
and one that dotted names made is open to dotted names alone.
-/
import Courier.Toml.Basic

namespace Courier.Toml

/-! ## Trees -/

/-- How a table was introduced. -/
inductive Origin where
  | header
  | implied
  | dotted
  deriving DecidableEq, Repr

/-- What a name stands for while the statements are read. -/
inductive Tree where
  | value (v : Value)
  | table (origin : Origin) (entries : List (String × Tree))
  | tables (items : List (List (String × Tree)))

/-- Entries in the order in which they came up. -/
abbrev Entries := List (String × Tree)

/-- Changes what a name stands for. -/
def replace (name : String) (t : Tree) : Entries → Entries
  | [] => []
  | (n, t') :: es => if n = name then (n, t) :: es else (n, t') :: replace name t es

/-- Changes the table at the end of a path of names.  Tables that are missing on the way are made
with an origin; a path of dotted names does not lead through a table with a header.  Of a list of
tables the last one is meant. -/
def change (missing : Origin) (f : Origin → Entries → Option Entries) :
    List String → Origin → Entries → Option Entries
  | [], origin, es => f origin es
  | name :: path, _, es =>
    match es.lookup name with
    | none => do
      let inner ← change missing f path missing []
      return es ++ [(name, .table missing inner)]
    | some (.value _) => none
    | some (.tables items) => do
      let inner ← change missing f path .header ((items.getLast?).getD [])
      return replace name (.tables (items.dropLast ++ [inner])) es
    | some (.table origin inner) =>
      if missing = .dotted && origin = .header then none
      else do
        let inner ← change missing f path origin inner
        return replace name (.table origin inner) es

/-- Gives a name a value in a table; a table that dotted names lead to has to be made by them. -/
def assign (dotted : Bool) (name : String) (v : Value) (origin : Origin) (es : Entries) :
    Option Entries :=
  if (dotted && origin ≠ .dotted) || (es.lookup name).isSome then none
  else some (es ++ [(name, .value v)])

/-- Gives the last of some names a value. -/
def assignPath (names : List String) (v : Value) (origin : Origin) (es : Entries) :
    Option Entries :=
  match names.getLast? with
  | none => none
  | some name =>
    let path := names.dropLast
    change .dotted (assign (path ≠ []) name v) path origin es

/-- Opens a table under its header; it then stands last. -/
def openTable (name : String) (_ : Origin) (es : Entries) : Option Entries :=
  match es.lookup name with
  | none => some (es ++ [(name, .table .header [])])
  | some (.table .implied inner) =>
    some (es.filter (·.1 ≠ name) ++ [(name, .table .header inner)])
  | some _ => none

/-- Opens one more table of a list. -/
def openItem (name : String) (_ : Origin) (es : Entries) : Option Entries :=
  match es.lookup name with
  | none => some (es ++ [(name, .tables [[]])])
  | some (.tables items) => some (replace name (.tables (items ++ [[]])) es)
  | some _ => none

mutual
/-- The value that a tree stands for. -/
def Tree.toValue : Tree → Value
  | .value v => v
  | .table _ es => .table (entriesToTable es)
  | .tables items => .list (itemsToValues items)

/-- The table of entries. -/
def entriesToTable : List (String × Tree) → List (String × Value)
  | [] => []
  | (name, t) :: es => (name, t.toValue) :: entriesToTable es

/-- The tables of a list. -/
def itemsToValues : List (List (String × Tree)) → List Value
  | [] => []
  | es :: items => .table (entriesToTable es) :: itemsToValues items
end

/-! ## Statements -/

/-- One statement. -/
inductive Statement where
  | header (names : List String)
  | itemHeader (names : List String)
  | assignment (names : List String) (v : Value)
  deriving Repr

/-- What is known after some statements: the table so far, and the names under the last header. -/
structure Document where
  entries : Entries
  place : List String

/-- Opens what a header names. -/
def Document.open (d : Document) (names : List String)
    (opened : String → Origin → Entries → Option Entries) : Option Document := do
  let name ← names.getLast?
  return ⟨← change .implied (opened name) names.dropLast .header d.entries, names⟩

/-- The document after one more statement. -/
def Document.add (d : Document) : Statement → Option Document
  | .header names => d.open names openTable
  | .itemHeader names => d.open names openItem
  | .assignment names v => do
    return { d with
      entries := ← change .implied (assignPath names v) d.place .header d.entries }

/-- The table that statements make, if they fit together. -/
def tableOf (statements : List Statement) : Option Table :=
  (statements.foldlM Document.add ⟨[], []⟩).map fun d => entriesToTable d.entries

/-- The table between braces, where all names are dotted ones. -/
def inlineTable (assignments : List (List String × Value)) : Option Table :=
  (assignments.foldlM (fun es (names, v) => assignPath names v .header es) []).map entriesToTable

end Courier.Toml
