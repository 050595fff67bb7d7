/-
# Addressing — raw numbers become addresses, or are refused

A translator knows the part its numbers have and the rules for it.  A raw number is classified;
an address is kept as it is; and either is refused when it is a name and names are not allowed.

`translateSms` does this for a whole text: no recipient at all is the first thing refused, then
the sender, then the recipients in their order.
-/
import Courier.Address.Classify
import Courier.Log.Record
import Courier.Send.Error

namespace Courier

/-- Rules and the part of the numbers that they are for. -/
structure AddressTranslator where
  role : Role
  rules : Rules
  deriving DecidableEq, Repr

namespace AddressTranslator

/-- Refuses names where they are not allowed. -/
def check (t : AddressTranslator) (a : Address) : Except AddressingError Address :=
  if a.type = .alphanumeric && !t.rules.allowAlphanumeric then
    .error (.alphanumericNotAllowed t.role a.number)
  else .ok a

/-- The address of a raw number. -/
def translateRaw (t : AddressTranslator) (raw : String) : Except AddressingError Address :=
  if Text.isBlankText raw then .error (.empty t.role) else t.check (t.rules.classify raw)

/-- The address of a phone number. -/
def translate (t : AddressTranslator) : PhoneNumber → Except AddressingError Address
  | .raw s => t.translateRaw s
  | .addressed a => t.check a

/-- The record of a number that became an address. -/
def record (t : AddressTranslator) (input : PhoneNumber) (a : Address) : LogRecord :=
  { level := .debug
    target := "herald::addressing::translator"
    message := "phone number classified"
    fields := [("role", .text t.role.name), ("input", .text input.display),
      ("number", .text a.number), ("ton", .text a.type.label), ("npi", .text a.plan.label)] }

/-- The address of a phone number, with a record if there is one. -/
def run (t : AddressTranslator) (p : PhoneNumber) :
    Traced LogRecord (Except AddressingError Address) :=
  match t.translate p with
  | .ok a => .one (t.record p a) (.ok a)
  | .error e => pure (.error e)

/-- The addresses of a list of numbers, up to the first that is refused. -/
def runAll (t : AddressTranslator) :
    List PhoneNumber → Traced LogRecord (Except AddressingError (List Address))
  | [] => pure (.ok [])
  | p :: ps => do
    match ← t.run p with
    | .error e => return .error e
    | .ok a =>
      match ← t.runAll ps with
      | .error e => return .error e
      | .ok as => return .ok (a :: as)

end AddressTranslator

/-- The translators of the sender and of the recipients. -/
structure Addressing where
  sender : AddressTranslator
  recipient : AddressTranslator
  deriving DecidableEq, Repr

namespace Addressing

/-- The translators of two sets of rules. -/
def ofRules (sender recipient : Rules) : Addressing := ⟨⟨.sender, sender⟩, ⟨.recipient, recipient⟩⟩

/-- The sender as an address, if there is one. -/
def runSender (a : Addressing) :
    Option PhoneNumber → Traced LogRecord (Except AddressingError (Option PhoneNumber))
  | none => pure (.ok none)
  | some p => do return (← a.sender.run p).map fun x => some (.addressed x)

/-- A text all of whose numbers are addresses. -/
def translateSms (a : Addressing) (m : Sms) : Traced LogRecord (Except AddressingError Sms) :=
  if m.recipients = [] then pure (.error .noRecipients)
  else do
    match ← a.runSender m.sender with
    | .error e => return .error e
    | .ok sender =>
      match ← a.recipient.runAll m.recipients with
      | .error e => return .error e
      | .ok recipients =>
        return .ok { m with sender, recipients := recipients.map .addressed }

end Addressing

end Courier
