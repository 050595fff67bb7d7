/-
# Payloads — what a gateway is told of a message

A payload holds the final text of a message; there is none for a message whose body is still a
template.  Senders and recipients of a text stand in it as wire addresses.
-/
import Courier.Send.Error

namespace Courier

open Json (Value)

/-- The final text of a body, or the error that it is still a template. -/
def Content.finalText (transport : String) : Content → Except DeliveryError String
  | .text s => .ok s
  | .template _ =>
    .error ⟨transport, "content is an unresolved template; enable template translation"⟩

/-- What a gateway is told of a text. -/
structure SmsPayload where
  sender : Option WireAddress
  recipients : List WireAddress
  text : String
  deriving DecidableEq, Repr

/-- What a gateway is told of a letter. -/
structure EmailPayload where
  sender : Option String
  recipients : List String
  cc : List String
  bcc : List String
  subject : Option String
  body : String
  deriving DecidableEq, Repr

/-- The payload of a text. -/
def Sms.payload (transport : String) (m : Sms) : Except DeliveryError SmsPayload := do
  let text ← m.content.finalText transport
  return ⟨m.sender.map (·.toWire), m.recipients.map (·.toWire), text⟩

/-- The payload of a letter. -/
def Email.payload (transport : String) (m : Email) : Except DeliveryError EmailPayload := do
  let body ← m.content.finalText transport
  return ⟨m.sender, m.recipients, m.cc, m.bcc, m.subject, body⟩

/-- The payload of a text as a document. -/
def SmsPayload.toJson (p : SmsPayload) : Value :=
  .object [("channel", .text Channel.sms.name),
    ("from", match p.sender with
      | some w => w.toJson
      | none => .null),
    ("to", .list (p.recipients.map (·.toJson))),
    ("text", .text p.text)]

/-- A list as a member of a document, left out when it is empty. -/
def unlessEmpty (name : String) (items : List String) : List (String × Value) :=
  if items.isEmpty then [] else [(name, Value.texts items)]

/-- The payload of a letter as a document. -/
def EmailPayload.toJson (p : EmailPayload) : Value :=
  .object ([("channel", .text Channel.email.name), ("from", .ofText? p.sender),
      ("to", Value.texts p.recipients)]
    ++ unlessEmpty "cc" p.cc ++ unlessEmpty "bcc" p.bcc
    ++ [("subject", .ofText? p.subject), ("body", .text p.body)])

end Courier
