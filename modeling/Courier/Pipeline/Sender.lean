/-
# Senders — what takes a message, and what it did with it

A `Transport` delivers; a `Sender` is anything that a message can be given to: a transport, the
choice among transports, or a layer around another sender.  The trace of a send lists, in order,
what was asked of the environment, what was logged, which condition was tried on which message, and
which transport was handed which message.
-/
import Courier.Condition
import Courier.Http.Exchange
import Courier.Log.Record
import Courier.Send.Error

namespace Courier

/-! ## Transports -/

/-- What a transport does besides giving its answer. -/
inductive Effect where
  | log (r : LogRecord)
  | request (r : Http.Request)
  /-- The message is kept in memory. -/
  | kept

/-- The answer of a transport and what it did. -/
structure Delivery where
  result : Except SendError Unit
  effects : List Effect

/-- A way to deliver messages. -/
structure Transport (M : Type) where
  name : String
  deliver : M → Delivery

/-- Keeps every message in memory, then succeeds or fails with a given reason. -/
def Transport.memory {M : Type} (name : String) (failure : Option String) : Transport M where
  name := name
  deliver _ :=
    { result := match failure with
        | none => .ok ()
        | some reason => .error (.delivery ⟨name, reason⟩)
      effects := [.kept] }

/-! ## Senders -/

/-- One thing that happens while a message is sent. -/
inductive Step (M : Type) where
  | lookup (l : Lookup)
  | log (r : LogRecord)
  /-- The evaluation of a condition on a message begins. -/
  | tried (c : Condition M) (m : M)
  /-- A transport gets a message; `effects` is what it does with it. -/
  | handed (transport : String) (m : M) (effects : List Effect)

/-- What a message can be given to. -/
structure Sender (M : Type) where
  name : String
  send : M → Traced (Step M) (Except SendError Unit)

/-- A transport as a sender. -/
def Transport.toSender {M : Type} (t : Transport M) : Sender M where
  name := t.name
  send m := .one (.handed t.name m (t.deliver m).effects) (t.deliver m).result

/-! ## Views of a trace -/

namespace Step

variable {M : Type}

/-- What was asked, in order. -/
def lookups (steps : List (Step M)) : List Lookup :=
  steps.filterMap fun
    | .lookup l => some l
    | _ => none

/-- The condition of a step that tries one, and the message. -/
def evaluation? : Step M → Option (Condition M × M)
  | .tried c m => some (c, m)
  | _ => none

/-- Which condition was evaluated on which message, in order. -/
def evaluations (steps : List (Step M)) : List (Condition M × M) := steps.filterMap (·.evaluation?)

/-- The transport of a step that hands a message over, the message, and what is done with it. -/
def delivery? : Step M → Option (String × M × List Effect)
  | .handed name m effects => some (name, m, effects)
  | _ => none

/-- Which transport was handed which message, and what it did with it, in order. -/
def deliveries (steps : List (Step M)) : List (String × M × List Effect) :=
  steps.filterMap (·.delivery?)

/-- The message of a step that shows it to a condition or to a transport. -/
def shown? : Step M → Option M
  | .tried _ m => some m
  | .handed _ m _ => some m
  | _ => none

/-- The messages that conditions and transports saw, in order. -/
def seen (steps : List (Step M)) : List M := steps.filterMap (·.shown?)

/-- The messages that transports kept in memory, with the names of the transports. -/
def kept (steps : List (Step M)) : List (String × M) :=
  steps.flatMap fun
    | .handed name m effects => effects.filterMap fun
      | .kept => some (name, m)
      | _ => none
    | _ => []

/-- What transports logged. -/
def delivered (steps : List (Step M)) : List LogRecord :=
  steps.flatMap fun
    | .handed _ _ effects => effects.filterMap fun
      | .log r => some r
      | _ => none
    | _ => []

/-- The requests that transports made. -/
def requests (steps : List (Step M)) : List Http.Request :=
  steps.flatMap fun
    | .handed _ _ effects => effects.filterMap fun
      | .request r => some r
      | _ => none
    | _ => []

/-- Everything that was logged. -/
def records (steps : List (Step M)) : List LogRecord :=
  steps.flatMap fun
    | .log r => [r]
    | .handed _ _ effects => effects.filterMap fun
      | .log r => some r
      | _ => none
    | _ => []

end Step

end Courier
