/-
# The webhook transport — messages posted to a gateway

Each message is one request, whose body is the payload of the message; the gateway accepts it by
the status of its answer.
-/
import Courier.Transport.Log

namespace Courier

/-- A gateway that messages are posted to. -/
structure Webhook where
  name : String
  url : Url
  token : Option String

namespace Webhook

/-- The record of an accepted message. -/
def accepted (w : Webhook) : LogRecord :=
  { level := .debug
    target := "herald::transport::webhook"
    message := "webhook accepted message"
    fields := [("transport", .text w.name), ("url", .text w.url.text)] }

/-- Posts a payload. -/
def post (w : Webhook) (network : Http.Network) (payload : String) : Delivery :=
  let sent := network.post w.url w.token payload
  let requests := sent.request.toList.map Effect.request
  match sent.result with
  | .error e => ⟨.error (.delivery ⟨w.name, "request failed: " ++ e.message⟩), requests⟩
  | .ok response =>
    match response.check w.name with
    | .error e => ⟨.error (.delivery e), requests⟩
    | .ok _ => ⟨.ok (), requests ++ [.log w.accepted]⟩

/-- A webhook as a transport. -/
def transport {M : Type} [Deliverable M] (w : Webhook) (network : Http.Network) : Transport M where
  name := w.name
  deliver m :=
    match Deliverable.payloadText w.name m with
    | .error e => ⟨.error (.delivery e), []⟩
    | .ok payload => w.post network payload

/-- A webhook in diagnostics; its token is not shown. -/
def describe (w : Webhook) : String :=
  "WebhookSender \x7b name: " ++ Text.quoted w.name ++ ", url: " ++ Text.quoted w.url.text
    ++ ", token: " ++ Text.optional Text.quoted (w.token.map fun _ => "[REDACTED]") ++ " \x7d"

end Webhook

end Courier
