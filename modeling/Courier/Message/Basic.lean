/-
# Messages — texts to phones and letters to mailboxes

`Sms` and `Email` are the two kinds of message, one for each channel.  The class `Message` is what
the layers of a pipeline need of either: its body, its fields, a summary, and how fields that are
not set are filled in.
-/
import Courier.Address.Basic
import Courier.Message.Content
import Courier.Environment

namespace Courier

open Json (Value)

/-- The kinds of message. -/
inductive Channel where
  | sms
  | email
  deriving DecidableEq, Repr

/-- The name of a channel. -/
def Channel.name : Channel → String
  | .sms => "sms"
  | .email => "email"

/-- A text to phones. -/
structure Sms where
  content : Content
  sender : Option PhoneNumber
  recipients : List PhoneNumber
  deriving Repr

/-- A letter to mailboxes. -/
structure Email where
  content : Content
  subject : Option String
  sender : Option String
  recipients : List String
  cc : List String
  bcc : List String
  deriving Repr

/-- How fields are looked up by name: one value, or a list. -/
structure FieldSource where
  value : String → Traced Lookup (Option String)
  list : String → Traced Lookup (List String)

/-- What the layers of a pipeline need of a message. -/
class Message (M : Type) where
  channel : Channel
  content : M → Content
  withContent : M → Content → M
  /-- Who sends it, as people see it. -/
  sender? : M → Option String
  /-- Whom it goes to, as people see them. -/
  recipients : M → List String
  /-- Sets the sender, unless it is set. -/
  withSender : M → String → M
  summary : M → String
  /-- The fields that a template can see, in the order of their names. -/
  fields : M → List (String × Value)
  /-- Fills the fields that are not set. -/
  fill : FieldSource → M → Traced Lookup M
  toJson : M → Value

/-- What is set stays; what is not is asked for. -/
def orAsk (ask : Traced Lookup (Option α)) : Option α → Traced Lookup (Option α)
  | some a => pure (some a)
  | none => ask

/-- A list with items stays; an empty one is asked for. -/
def orAskList (ask : Traced Lookup (List α)) : List α → Traced Lookup (List α)
  | [] => ask
  | a :: as => pure (a :: as)

/-- A sender in a summary. -/
def orUnset (sender : Option String) : String := sender.getD "<unset>"

namespace Sms

/-- The sender as people see it. -/
def sender? (m : Sms) : Option String := m.sender.map (·.display)

/-- The recipients as people see them. -/
def shownRecipients (m : Sms) : List String := m.recipients.map (·.display)

/-- A text in one line. -/
def summary (m : Sms) : String :=
  "sms from " ++ orUnset m.sender? ++ " to [" ++ ", ".intercalate m.shownRecipients ++ "]: "
    ++ m.content.summary

/-- The fields that a template can see. -/
def fields (m : Sms) : List (String × Value) :=
  (match m.sender? with
    | some s => [("from", .text s)]
    | none => []) ++ [("to", Value.texts m.shownRecipients)]

/-- Takes the sender and the recipients from a source where they are not set. -/
def fill (source : FieldSource) (m : Sms) : Traced Lookup Sms := do
  let sender ← orAsk ((·.map .raw) <$> source.value "from") m.sender
  let recipients ← orAskList ((·.map .raw) <$> source.list "to") m.recipients
  return { m with sender, recipients }

/-- A text as a document. -/
def toJson (m : Sms) : Value :=
  .object [("content", m.content.toJson),
    ("from", match m.sender with
      | some s => s.toJson
      | none => .null),
    ("to", .list (m.recipients.map (·.toJson)))]

instance : Message Sms where
  channel := .sms
  content := content
  withContent m c := { m with content := c }
  sender? := sender?
  recipients := shownRecipients
  withSender m s := match m.sender with
    | some _ => m
    | none => { m with sender := some (.raw s) }
  summary := summary
  fields := fields
  fill := fill
  toJson := toJson

end Sms

namespace Email

/-- A letter in one line. -/
def summary (m : Email) : String :=
  "email from " ++ orUnset m.sender ++ " to [" ++ ", ".intercalate m.recipients ++ "] subject "
    ++ Text.quoted (m.subject.getD "") ++ ": " ++ m.content.summary

/-- The fields that a template can see. -/
def fields (m : Email) : List (String × Value) :=
  [("bcc", Value.texts m.bcc), ("cc", Value.texts m.cc)]
    ++ (match m.sender with
      | some s => [("from", .text s)]
      | none => [])
    ++ (match m.subject with
      | some s => [("subject", .text s)]
      | none => [])
    ++ [("to", Value.texts m.recipients)]

/-- Takes the sender, the subject and the recipients from a source where they are not set. -/
def fill (source : FieldSource) (m : Email) : Traced Lookup Email := do
  let sender ← orAsk (source.value "from") m.sender
  let subject ← orAsk (source.value "subject") m.subject
  let recipients ← orAskList (source.list "to") m.recipients
  return { m with sender, subject, recipients }

/-- A letter as a document. -/
def toJson (m : Email) : Value :=
  .object [("content", m.content.toJson), ("subject", .ofText? m.subject),
    ("from", .ofText? m.sender), ("to", Value.texts m.recipients), ("cc", Value.texts m.cc),
    ("bcc", Value.texts m.bcc)]

instance : Message Email where
  channel := .email
  content := content
  withContent m c := { m with content := c }
  sender? := sender
  recipients := recipients
  withSender m s := match m.sender with
    | some _ => m
    | none => { m with sender := some s }
  summary := summary
  fields := fields
  fill := fill
  toJson := toJson

end Email

/-- A message of either kind. -/
inductive Outbound where
  | sms (m : Sms)
  | email (m : Email)
  deriving Repr

/-- The channel of a message. -/
def Outbound.channel : Outbound → Channel
  | .sms _ => .sms
  | .email _ => .email

end Courier
