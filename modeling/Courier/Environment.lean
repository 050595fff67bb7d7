/-
# The environment — properties and capabilities, and the record of what is asked

`Properties` are texts by key, `Capabilities` a set of names; both keep their order.  An
`Environment` is what conditions and assembly see of them: two functions.  Each question is a
`Lookup` in the trace of the computation that asks it.
-/
import Courier.Entries
import Courier.Text.Quoted
import Courier.Traced

namespace Courier

/-! ## Properties -/

/-- Texts by key, in the order of the keys. -/
structure Properties where
  entries : List (String × String)
  sorted : Entries.Sorted entries

namespace Properties

/-- No properties. -/
def empty : Properties := ⟨[], Entries.sorted_nil⟩

/-- The properties of a list of pairs; of two pairs with one key the later counts. -/
def ofList (pairs : List (String × String)) : Properties :=
  ⟨Entries.ofList pairs, Entries.sorted_ofList pairs⟩

/-- The value of a key. -/
def get? (p : Properties) (key : String) : Option String := Entries.find? key p.entries

/-- True when a key has a value. -/
def has (p : Properties) (key : String) : Bool := (p.get? key).isSome

/-- Gives a key a value unless it has one. -/
def insertMissing (p : Properties) (key value : String) : Properties :=
  ⟨Entries.insertMissing key value p.entries, Entries.sorted_insertMissing key value p.sorted⟩

/-- Adds the properties of `other` whose keys have no value yet. -/
def mergeMissing (p other : Properties) : Properties :=
  other.entries.foldl (fun p (key, value) => p.insertMissing key value) p

/-- The keys in order. -/
def keys (p : Properties) : List String := p.entries.map (·.1)

/-- How many there are. -/
def size (p : Properties) : Nat := p.entries.length

/-- The keys in diagnostics; values are never shown. -/
def describe (p : Properties) : String :=
  "Properties \x7b keys: " ++ Text.bracketed (p.keys.map Text.quoted)
    ++ ", values: \"[REDACTED]\" \x7d"

end Properties

/-! ## Capabilities -/

/-- The names of what the program can do, in order. -/
structure Capabilities where
  names : List String
  sorted : names.Pairwise (· < ·)

namespace Capabilities

/-- Sending over HTTP. -/
def http : String := "http"

/-- Rendering templates. -/
def templates : String := "templates"

/-- Puts a name into its place. -/
def insertName (name : String) : List String → List String
  | [] => [name]
  | n :: ns => if name < n then name :: n :: ns else if name = n then n :: ns else n :: insertName name ns

theorem mem_insertName {name n : String} {ns : List String} (h : n ∈ insertName name ns) :
    n = name ∨ n ∈ ns := by
  induction ns with
  | nil => simpa [insertName] using h
  | cons m ns ih =>
    simp only [insertName] at h
    split at h
    · simpa using h
    · split at h
      · exact .inr h
      · rcases List.mem_cons.1 h with h | h
        · exact .inr (h ▸ List.mem_cons_self)
        · exact (ih h).imp id (List.mem_cons_of_mem _)

theorem sorted_insertName (name : String) {ns : List String} (h : ns.Pairwise (· < ·)) :
    (insertName name ns).Pairwise (· < ·) := by
  induction ns with
  | nil => exact List.pairwise_singleton _ _
  | cons m ns ih =>
    have ⟨hd, tl⟩ := List.pairwise_cons.1 h
    simp only [insertName]
    split
    · rename_i lt
      refine List.pairwise_cons.2 ⟨fun n hn => ?_, h⟩
      rcases List.mem_cons.1 hn with rfl | hn
      · exact lt
      · exact String.lt_trans lt (hd n hn)
    · split
      · exact h
      · rename_i nlt ne
        refine List.pairwise_cons.2 ⟨fun n hn => ?_, ih tl⟩
        rcases mem_insertName hn with rfl | hn
        · exact String.not_le.1 fun le => ne (String.le_antisymm le (String.not_lt.1 nlt))
        · exact hd n hn

/-- No capability. -/
def none : Capabilities := ⟨[], List.Pairwise.nil⟩

/-- The capabilities with one more. -/
def insert (c : Capabilities) (name : String) : Capabilities :=
  ⟨insertName name c.names, sorted_insertName name c.sorted⟩

/-- The capabilities without one. -/
def erase (c : Capabilities) (name : String) : Capabilities :=
  ⟨c.names.filter (· ≠ name), c.sorted.filter _⟩

/-- The capabilities of a list of names. -/
def ofList (names : List String) : Capabilities := names.foldl insert none

/-- What this program can do. -/
def detect : Capabilities := ofList [http, templates]

/-- True when a capability is there. -/
def has (c : Capabilities) (name : String) : Bool := c.names.contains name

/-- The names in diagnostics. -/
def describe (c : Capabilities) : String :=
  "Capabilities \x7b names: \x7b" ++ ", ".intercalate (c.names.map Text.quoted) ++ "\x7d \x7d"

end Capabilities

/-! ## Environments -/

/-- A question to the environment. -/
inductive Lookup where
  | property (key : String)
  | capability (name : String)
  deriving DecidableEq, Repr

/-- A question in words. -/
def Lookup.describe : Lookup → String
  | .property key => "property " ++ key
  | .capability name => "capability " ++ name

/-- What conditions and assembly can ask. -/
structure Environment where
  property : String → Option String
  capability : String → Bool

namespace Environment

/-- The environment of properties and capabilities. -/
def of (p : Properties) (c : Capabilities) : Environment := ⟨p.get?, c.has⟩

/-- No properties, and all that this program can do. -/
def standard : Environment := of .empty .detect

/-- Asks for the value of a property. -/
def askProperty (env : Environment) (key : String) : Traced Lookup (Option String) :=
  .one (.property key) (env.property key)

/-- Asks whether a property has a value. -/
def askHasProperty (env : Environment) (key : String) : Traced Lookup Bool :=
  .one (.property key) (env.property key).isSome

/-- Asks for a capability. -/
def askCapability (env : Environment) (name : String) : Traced Lookup Bool :=
  .one (.capability name) (env.capability name)

/-- An environment in diagnostics: nothing of it is shown. -/
def describe (_ : Environment) : String := "Environment \x7b .. \x7d"

end Environment

end Courier
