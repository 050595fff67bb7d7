/-
# The resolver — the first transport whose condition holds

Implementations are tried in the order in which they were registered.  `choose` gives the first
whose condition holds, and its trace the conditions up to that one with what they asked; `resolve`
keeps of the trace only what was asked.
-/
import Courier.Condition
import Courier.Pipeline.Sender

namespace Courier

/-- A transport and the condition on which it is used. -/
structure Implementation (M : Type) where
  condition : Condition M
  transport : Transport M

/-- Implementations in the order of their registration. -/
structure Resolver (M : Type) where
  env : Environment
  implementations : List (Implementation M)

/-- An implementation in diagnostics. -/
def Implementation.describe {M : Type} (i : Implementation M) : String :=
  "Implementation \x7b name: " ++ Text.quoted i.transport.name ++ ", condition: "
    ++ i.condition.describe ++ " \x7d"

namespace Resolver

variable {M : Type}

/-- A resolver without implementations. -/
def new (env : Environment) : Resolver M := ⟨env, []⟩

/-- The record of a registration. -/
def registered (i : Implementation M) : LogRecord :=
  { level := .debug
    target := "herald::sender::resolver"
    message := "implementation registered"
    fields := [("implementation", .text i.transport.name),
      ("properties", .text (Text.bracketed (i.condition.requiredProperties.map Text.quoted))),
      ("capabilities", .text (Text.bracketed (i.condition.requiredCapabilities.map Text.quoted)))] }

/-- Adds an implementation after the others. -/
def register (r : Resolver M) (condition : Condition M) (transport : Transport M) : Resolver M :=
  { r with implementations := r.implementations ++ [⟨condition, transport⟩] }

/-- The first of some implementations whose condition holds of a message. -/
def firstMatch (env : Environment) (m : M) :
    List (Implementation M) → Traced (Step M) (Option (Implementation M))
  | [] => pure none
  | i :: is => do
    Traced.step (.tried i.condition m)
    if ← (i.condition.evaluate env m).mapSteps .lookup then return some i else firstMatch env m is

/-- The implementation for a message, or the error that there is none. -/
def choose [Message M] (r : Resolver M) (m : M) :
    Traced (Step M) (Except SendError (Implementation M)) := do
  match ← firstMatch r.env m r.implementations with
  | some i => return .ok i
  | none => return .error (.noMatchingImplementation (Message.channel M) (Message.summary m))

/-- The implementation for a message and what was asked to find it. -/
def resolve [Message M] (r : Resolver M) (m : M) :
    Traced Lookup (Except SendError (Implementation M)) :=
  ⟨(r.choose m).value, Step.lookups (r.choose m).trace⟩

/-- The names of the implementations in order. -/
def names (r : Resolver M) : List String := r.implementations.map (·.transport.name)

/-- The record that nothing matches. -/
def unmatched [Message M] (r : Resolver M) : LogRecord :=
  { level := .warn
    target := "herald::sender::resolver"
    message := "no implementation matches message"
    fields := [("kind", .text (Message.channel M).name),
      ("registered", .int r.implementations.length)] }

/-- The record of a choice. -/
def selected [Message M] (i : Implementation M) : LogRecord :=
  { level := .debug
    target := "herald::sender::resolver"
    message := "implementation selected"
    fields := [("kind", .text (Message.channel M).name),
      ("implementation", .text i.transport.name)] }

/-- Hands a message to the first implementation whose condition holds. -/
def send [Message M] (r : Resolver M) (m : M) : Traced (Step M) (Except SendError Unit) := do
  match ← r.choose m with
  | .error e =>
    Traced.step (.log r.unmatched)
    return .error e
  | .ok i =>
    Traced.step (.log (selected i))
    i.transport.toSender.send m

/-- The resolver as the innermost sender of a pipeline. -/
def toSender [Message M] (r : Resolver M) : Sender M := ⟨"implementation-resolver", r.send⟩

/-- A resolver in diagnostics. -/
def describe (r : Resolver M) : String :=
  "ImplementationResolver \x7b implementations: "
    ++ Text.bracketed (r.implementations.map (·.describe)) ++ ", .. \x7d"

end Resolver

end Courier
