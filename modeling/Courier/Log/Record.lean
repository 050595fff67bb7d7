/-
# Log records — what the program says about itself

A record has a level, the target it comes from, a message and fields.  The fields are document
values, so that a record can be written as JSON.
-/
import Courier.Json.Value

namespace Courier

/-- How important a record is, from the finest on. -/
inductive Level where
  | trace
  | debug
  | info
  | warn
  | error
  deriving DecidableEq, Repr

/-- The name of a level in records. -/
def Level.name : Level → String
  | .trace => "TRACE"
  | .debug => "DEBUG"
  | .info => "INFO"
  | .warn => "WARN"
  | .error => "ERROR"

/-- The rank of a level: the finer, the higher. -/
def Level.rank : Level → Nat
  | .error => 1
  | .warn => 2
  | .info => 3
  | .debug => 4
  | .trace => 5

/-- One record. -/
structure LogRecord where
  level : Level
  target : String
  message : String
  fields : List (String × Json.Value)
  deriving Repr

/-- The fields of a record, the message among them. -/
def LogRecord.fieldsJson (r : LogRecord) : Json.Value :=
  .object (("message", .text r.message) :: r.fields)

/-- A record as a document, without its time. -/
def LogRecord.toJson (r : LogRecord) : Json.Value :=
  .object [("level", .text r.level.name), ("fields", r.fieldsJson), ("target", .text r.target)]

end Courier
