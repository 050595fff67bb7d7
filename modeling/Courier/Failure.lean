/-
# Failures — an error and what lies below it

A failure is shown as its own message and those of its causes, the nearest first; the causes are
numbered if there are several, and the lines of a message stand below each other.
-/
import Courier.Assembly.Service
import Courier.Log.Setup

namespace Courier

/-- An error and what lies below it. -/
structure Failure where
  message : String
  causes : List String
  deriving DecidableEq, Repr

namespace Failure

/-- An error with nothing below it. -/
def plain (message : String) : Failure := ⟨message, []⟩

/-- A message whose further lines begin with blanks. -/
def indent (blanks : String) (message : String) : String :=
  String.ofList (message.toList.flatMap fun c => if c = '\n' then '\n' :: blanks.toList else [c])

/-- A cause with its number. -/
def numbered (n : Nat) (message : String) : String :=
  let digits := toString n
  String.ofList (List.replicate (5 - digits.length) ' ') ++ digits ++ ": "
    ++ indent "       " message

/-- The failure and its causes in lines. -/
def report (f : Failure) : String :=
  f.message ++ match f.causes with
    | [] => ""
    | [cause] => "\n\nCaused by:\n    " ++ indent "    " cause
    | causes => "\n\nCaused by:\n" ++ "\n".intercalate (causes.mapIdx numbered)

/-- A send error that is the cause of a failure. -/
def ofSend (message : String) (e : SendError) : Failure := ⟨message, e.message :: e.causes⟩

/-- An error of a property file. -/
def ofProperties (e : PropertiesError) : Failure := ⟨e.message, e.causes⟩

/-- An assembly error. -/
def ofAssembly (e : AssemblyError) : Failure := ⟨"invalid messaging configuration", [e.message]⟩

end Failure

end Courier
