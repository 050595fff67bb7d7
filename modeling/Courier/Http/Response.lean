/-
# Responses — when an answer means that a message was accepted

A gateway accepts a message by a status from 200 to 299; any other status refuses it, and the
reason shows an excerpt of the answer without credentials.
-/
import Courier.Http.Charset
import Courier.Http.Redact
import Courier.Send.Error

namespace Courier.Http

/-- The body of an answer. -/
inductive Body where
  | bytes (bs : List Nat)
  /-- The connection ends before the body does. -/
  | broken

/-- An answer. -/
structure Response where
  status : Nat
  mediaType : Option String
  body : Body

/-- The text of an answer that accepts, or the reason of the refusal. -/
def Response.check (transport : String) (r : Response) : Except DeliveryError String :=
  match r.body with
  | .broken =>
    .error ⟨transport, "failed to read response: error decoding response body"⟩
  | .bytes bs =>
    let body := decodeText r.mediaType bs
    if 200 ≤ r.status && r.status < 300 then .ok body
    else
      .error ⟨transport, "non-success status " ++ toString r.status ++ ": " ++ excerpt body⟩

end Courier.Http
