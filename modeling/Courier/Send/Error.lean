/-
# Send errors — why a message does not go out

Each stage of a pipeline has its own causes: the template, the addresses, the choice of a
transport, the transport itself.  `SendError` joins them; the wording is in the `message`
functions.
-/
import Courier.Files
import Courier.Message.Basic

namespace Courier

/-- The part that an address has in a message. -/
inductive Role where
  | sender
  | recipient
  deriving DecidableEq, Repr

/-- The name of a part. -/
def Role.name : Role → String
  | .sender => "sender"
  | .recipient => "recipient"

/-- The parts by name. -/
def Role.names : List (String × Role) := [("sender", .sender), ("recipient", .recipient)]

/-- Why an address cannot be used. -/
inductive AddressingError where
  | alphanumericNotAllowed (role : Role) (number : String)
  | noRecipients
  | empty (role : Role)
  deriving DecidableEq, Repr

/-- The wording of an addressing error. -/
def AddressingError.message : AddressingError → String
  | .alphanumericNotAllowed role number =>
    "alphanumeric address '" ++ number ++ "' is not allowed as " ++ role.name
  | .noRecipients => "message has no recipient"
  | .empty role => "empty " ++ role.name ++ " address"

/-- Why a body cannot be made final. -/
inductive ContentError where
  | templateNotFound (name path : String) (cause : FileError)
  | render (reason : String)
  deriving DecidableEq, Repr

/-- The wording of a content error. -/
def ContentError.message : ContentError → String
  | .templateNotFound name path cause =>
    "template '" ++ name ++ "' could not be read from " ++ path ++ ": " ++ cause.message
  | .render reason => "template rendering failed: " ++ reason

/-- Why a transport does not deliver. -/
structure DeliveryError where
  transport : String
  reason : String
  deriving DecidableEq, Repr

/-- The wording of a delivery error. -/
def DeliveryError.message (e : DeliveryError) : String :=
  "delivery through '" ++ e.transport ++ "' failed: " ++ e.reason

/-- Why a message does not go out. -/
inductive SendError where
  | noMatchingImplementation (channel : Channel) (summary : String)
  | content (cause : ContentError)
  | invalidAddress (cause : AddressingError)
  | delivery (cause : DeliveryError)
  | channelNotConfigured (channel : Channel)
  deriving DecidableEq, Repr

namespace SendError

/-- The wording of a send error. -/
def message : SendError → String
  | .noMatchingImplementation channel summary =>
    "no implementation available to send " ++ channel.name ++ ": " ++ summary
  | .content cause => "content translation failed: " ++ cause.message
  | .invalidAddress cause => "invalid address: " ++ cause.message
  | .delivery cause => cause.message
  | .channelNotConfigured channel => "no " ++ channel.name ++ " pipeline configured"

/-- The wordings of the causes below an error, the nearest first. -/
def causes : SendError → List String
  | .content (.templateNotFound name path cause) =>
    [(ContentError.templateNotFound name path cause).message, cause.message]
  | .content (.render reason) => [(ContentError.render reason).message]
  | .invalidAddress cause => [cause.message]
  | _ => []

end SendError

end Courier
