/-
# Conditions — when a transport may be used

A condition is fixed, asks the environment for a property or a capability, tests the message, or
joins conditions.  `evaluate` reads it from left to right and stops at the first condition that is
false; its trace holds what was asked.

`leaves` are the conditions that are not joins, from left to right: they are all that matters for
the answer, for what is asked, and for the lists of required keys and names.
-/
import Courier.Message.Basic

namespace Courier

/-- When a transport may be used for a message. -/
inductive Condition (M : Type) where
  | fixed (b : Bool)
  | property (key : String)
  | capability (name : String)
  | all (conditions : List (Condition M))
  | matching (test : M → Bool)

namespace Condition

variable {M : Type}

/-- True for every message. -/
def always : Condition M := .fixed true

/-- True for no message. -/
def never : Condition M := .fixed false

/-- Both conditions; a join on the left takes the right one in. -/
def and : Condition M → Condition M → Condition M
  | .all cs, c => .all (cs ++ [c])
  | c₁, c₂ => .all [c₁, c₂]

mutual
/-- The same condition, made anew part by part. -/
def copy : Condition M → Condition M
  | .fixed b => .fixed b
  | .property key => .property key
  | .capability name => .capability name
  | .all cs => .all (copyAll cs)
  | .matching test => .matching test

/-- The conditions of a list, made anew. -/
def copyAll : List (Condition M) → List (Condition M)
  | [] => []
  | c :: cs => copy c :: copyAll cs
end

mutual
/-- Whether a condition holds of a message, and what was asked to find out. -/
def evaluate (env : Environment) (m : M) : Condition M → Traced Lookup Bool
  | .fixed b => pure b
  | .property key => env.askHasProperty key
  | .capability name => env.askCapability name
  | .all cs => evaluateAll env m cs
  | .matching test => pure (test m)

/-- Whether all conditions of a list hold, up to the first that does not. -/
def evaluateAll (env : Environment) (m : M) : List (Condition M) → Traced Lookup Bool
  | [] => pure true
  | c :: cs => do
    if ← evaluate env m c then evaluateAll env m cs else return false
end

/-- Whether a condition holds of a message. -/
def holds (env : Environment) (m : M) (c : Condition M) : Bool := (c.evaluate env m).value

mutual
/-- The conditions that are not joins, from left to right. -/
def leaves : Condition M → List (Condition M)
  | .all cs => leavesAll cs
  | c => [c]

/-- The leaves of a list of conditions. -/
def leavesAll : List (Condition M) → List (Condition M)
  | [] => []
  | c :: cs => leaves c ++ leavesAll cs
end

mutual
/-- The keys of the properties that a condition asks for, repeats kept. -/
def requiredProperties : Condition M → List String
  | .property key => [key]
  | .all cs => requiredPropertiesAll cs
  | _ => []

/-- The keys that a list of conditions asks for. -/
def requiredPropertiesAll : List (Condition M) → List String
  | [] => []
  | c :: cs => requiredProperties c ++ requiredPropertiesAll cs
end

mutual
/-- The names of the capabilities that a condition asks for, repeats kept. -/
def requiredCapabilities : Condition M → List String
  | .capability name => [name]
  | .all cs => requiredCapabilitiesAll cs
  | _ => []

/-- The names that a list of conditions asks for. -/
def requiredCapabilitiesAll : List (Condition M) → List String
  | [] => []
  | c :: cs => requiredCapabilities c ++ requiredCapabilitiesAll cs
end

mutual
/-- A condition in diagnostics; tests of the message are not shown. -/
def describe : Condition M → String
  | .fixed b => "Fixed(" ++ toString b ++ ")"
  | .property key => "RequiredProperty(" ++ Text.quoted key ++ ")"
  | .capability name => "RequiredCapability(" ++ Text.quoted name ++ ")"
  | .all cs => "And(" ++ Text.bracketed (describeAll cs) ++ ")"
  | .matching _ => "Matches(<predicate>)"

/-- The conditions of a list in diagnostics. -/
def describeAll : List (Condition M) → List String
  | [] => []
  | c :: cs => describe c :: describeAll cs
end

/-! ## Tests of a message -/

/-- The final text contains a piece; a template never does. -/
def textContains [Message M] (piece : String) : Condition M :=
  .matching fun m => match (Message.content m).text? with
    | some s => Text.occurs piece.toList s.toList
    | none => false

/-- The sender, as people see it, is this one. -/
def senderIs [Message M] (s : String) : Condition M :=
  .matching fun m => Message.sender? m = some s

/-- There are at least so many recipients. -/
def recipientsAtLeast [Message M] (n : Nat) : Condition M :=
  .matching fun m => n ≤ (Message.recipients m).length

end Condition

/-- All recipients have international addresses. -/
def Sms.allInternational (m : Sms) : Bool :=
  m.recipients.all fun p => match p.address? with
    | some a => a.type = .international
    | none => false

end Courier
