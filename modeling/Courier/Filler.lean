/-
# Fillers — fields of a message that nobody set

A filler is a function on messages whose trace holds what it asked.  `properties` takes each field
that is not set from the first prefix whose property is there and not blank; `fixedSender` sets
the sender alone.
-/
import Courier.Message.Basic

namespace Courier

/-- How a message is filled in. -/
structure Filler (M : Type) where
  fill : M → Traced Lookup M

namespace Filler

/-- A property without its outer blanks, unless nothing is left of it. -/
def nonBlank? (value : Option String) : Option String :=
  match value with
  | none => none
  | some s => if Text.isBlankText s then none else some (Text.trim s)

/-- The first property, over the prefixes in order, that is there and not blank. -/
def firstProperty (env : Environment) (field : String) :
    List String → Traced Lookup (Option String)
  | [] => pure none
  | p :: ps => do
    match nonBlank? (← env.askProperty (p ++ "." ++ field)) with
    | some s => return some s
    | none => firstProperty env field ps

/-- Fields as properties under prefixes; a list is a text with commas. -/
def propertySource (env : Environment) (prefixes : List String) : FieldSource where
  value field := firstProperty env field prefixes
  list field := do
    match ← firstProperty env field prefixes with
    | some s => return Text.commaItems s
    | none => return []

/-- Fills in from properties. -/
def properties {M : Type} [Message M] (env : Environment) (prefixes : List String) : Filler M :=
  ⟨Message.fill (propertySource env prefixes)⟩

/-- Fills in the sender. -/
def fixedSender {M : Type} [Message M] (sender : String) : Filler M :=
  ⟨fun m => pure (Message.withSender m sender)⟩

/-- The filler of properties in diagnostics. -/
def describeProperties (prefixes : List String) : String :=
  "PropertyFiller \x7b prefixes: " ++ Text.bracketed (prefixes.map Text.quoted) ++ ", .. \x7d"

/-- The filler of the sender in diagnostics. -/
def describeFixedSender (sender : String) : String :=
  "FixedSenderFiller \x7b from: " ++ Text.quoted sender ++ " \x7d"

end Filler

/-- The prefixes that are tried for a channel, the most specific first. -/
def Channel.prefixes (c : Channel) : List String := ["herald." ++ c.name, c.name]

end Courier
