/-
# The log transport — deliveries that only leave a record

A dry run writes what would have gone out, at the level of information.
-/
import Courier.Pipeline.Sender
import Courier.Transport.Payload

namespace Courier

/-- The record of a text that would have gone out. -/
def Sms.dryRun (transport : String) (m : Sms) (text : String) : LogRecord :=
  { level := .info
    target := "herald::transport::log"
    message := "sms dry-run delivery"
    fields := [("transport", .text transport),
      ("from", .text (Text.optional WireAddress.describe (m.sender.map (·.toWire)))),
      ("to", .text (Text.bracketed (m.recipients.map fun p => p.toWire.describe))),
      ("text", .text text)] }

/-- The record of a letter that would have gone out. -/
def Email.dryRun (transport : String) (m : Email) (text : String) : LogRecord :=
  { level := .info
    target := "herald::transport::log"
    message := "email dry-run delivery"
    fields := [("transport", .text transport), ("summary", .text m.summary),
      ("chars", .int text.toList.length)] }

/-- Messages that have a payload and a record of a dry run. -/
class Deliverable (M : Type) extends Message M where
  /-- The text of the payload. -/
  payloadText : String → M → Except DeliveryError String
  /-- The record of a dry run. -/
  dryRun : String → M → String → LogRecord

instance : Deliverable Sms where
  payloadText transport m := (m.payload transport).map (·.toJson.write)
  dryRun := Sms.dryRun

instance : Deliverable Email where
  payloadText transport m := (m.payload transport).map (·.toJson.write)
  dryRun := Email.dryRun

/-- Writes messages to the log and delivers nothing. -/
def Transport.log {M : Type} [Deliverable M] (name : String) : Transport M where
  name := name
  deliver m :=
    match (Message.content m).finalText name with
    | .error e => ⟨.error (.delivery e), []⟩
    | .ok text => ⟨.ok (), [.log (Deliverable.dryRun name m text)]⟩

end Courier
