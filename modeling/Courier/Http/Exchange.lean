/-
# Exchanges — one request and what becomes of it

A network is a function: it says who answers at an address, and each of them what becomes of a
request.  `Network.send` is the client's side of it: which requests can be made at all, which
reach someone, and what the answer is.
-/
import Courier.Http.Response
import Courier.Url.Reader

namespace Courier.Http

/-! ## Credentials -/

/-- The digit of six bits. -/
def base64Digit (n : Nat) : Char :=
  if n < 26 then Char.ofNat (65 + n)
  else if n < 52 then Char.ofNat (71 + n)
  else if n < 62 then Char.ofNat (n - 4)
  else if n = 62 then '+'
  else '/'

/-- Bytes in base 64: three bytes are four digits, and what is missing at the end is an equals
sign. -/
def base64 : List Nat → List Char
  | [] => []
  | [a] => [base64Digit (a / 4), base64Digit (a % 4 * 16), '=', '=']
  | [a, b] =>
    [base64Digit (a / 4), base64Digit (a % 4 * 16 + b / 16), base64Digit (b % 16 * 4), '=']
  | a :: b :: c :: rest =>
    base64Digit (a / 4) :: base64Digit (a % 4 * 16 + b / 16) :: base64Digit (b % 16 * 4 + c / 64)
      :: base64Digit (c % 64) :: base64 rest

/-- The authorization by a name and a password. -/
def basic (user password : String) : String :=
  "Basic " ++ String.ofList (base64 ((user ++ ":" ++ password).toUTF8.toList.map (·.toNat)))

/-- The authorization by a token. -/
def bearer (token : String) : String := "Bearer " ++ token

/-- True when a text can be the value of a header. -/
def isHeaderValue (s : String) : Bool :=
  s.toList.all fun c => c = '\t' || !Url.isControl c

/-- The value of a header as it is received: without the blanks around it. -/
def headerValue (s : String) : String :=
  let blank (c : Char) : Bool := c = ' ' || c = '\t'
  String.ofList ((s.toList.dropWhile blank).reverse.dropWhile blank).reverse

/-! ## Requests and answers -/

/-- A request. -/
structure Request where
  method : String
  path : String
  authorization : Option String
  contentType : Option String
  body : String
  deriving DecidableEq, Repr

/-- What becomes of a request that someone receives. -/
inductive Outcome where
  | hungUp
  | answered (r : Response)

/-- Who answers at an address; none for an address that refuses all connections. -/
abbrev Network := String → Option (Request → Outcome)

/-- Nobody answers. -/
def Network.silent : Network := fun _ => none

/-- Why there is no answer. -/
inductive RequestError where
  /-- The request itself is wrong; the URL is shown if it is known to be the reason. -/
  | malformed (url : Option String)
  /-- Nobody answers. -/
  | unanswered (url : String)
  deriving DecidableEq, Repr

/-- The wording of the reason. -/
def RequestError.message : RequestError → String
  | .malformed none => "builder error"
  | .malformed (some url) => "builder error for url (" ++ url ++ ")"
  | .unanswered url => "error sending request for url (" ++ url ++ ")"

/-- The name and the password in a URL, if it has either and both are texts. -/
def credentials? (u : Url) : Option (String × String) := do
  let user ← Url.decode? u.user.toList
  let password := u.password.bind fun p => Url.decode? p.toList
  if user = "" && password = none then none else some (user, password.getD "")

/-- True for a URL that can be asked over HTTP: its host has no character that only a name may
have, and it is not too long. -/
def isAskable (u : Url) : Bool :=
  (u.scheme = "http" || u.scheme = "https")
    && !(((u.host.map (·.text)).getD "").toList.any "\x22\x60\x7b\x7d".toList.contains)
    && u.text.utf8ByteSize < 65535

/-- Whether a response has a body at all: some statuses say that there is none. -/
def hasBody (status : Nat) : Bool := 200 ≤ status && status ≠ 204 && status ≠ 304

/-- A response as a client sees it.  A preliminary answer is none, unless it changes the protocol;
where there is no body, none is read. -/
def received (r : Response) : Option Response :=
  if r.status < 200 && r.status ≠ 101 then none
  else if hasBody r.status then some r
  else some { r with body := .bytes [] }

/-- What sending a request comes to. -/
structure Sent where
  /-- The request, if someone received it. -/
  request : Option Request
  result : Except RequestError Response

/-- Posts a document to a URL.  The name and the password in the URL are an authorization, and so
is the token; of two the second counts. -/
def Network.post (network : Network) (url : Url) (token : Option String) (body : String) : Sent :=
  if !url.hasHost then ⟨none, .error (.malformed url.text)⟩
  else
    let user := credentials? url
    let url := if user.isSome then url.withoutUser else url
    let authorization := (token.map bearer).or (user.map fun (name, password) => basic name password)
    if !(authorization.all isHeaderValue) then ⟨none, .error (.malformed none)⟩
    else if !isAskable url then ⟨none, .error (.malformed url.text)⟩
    else
      match if url.scheme = "http" then network url.address else none with
      | none => ⟨none, .error (.unanswered url.text)⟩
      | some server =>
        let request : Request :=
          { method := "POST"
            path := url.target
            authorization := authorization.map headerValue
            contentType := some "application/json"
            body }
        match server request with
        | .hungUp => ⟨some request, .error (.unanswered url.text)⟩
        | .answered r =>
          match received r with
          | some r => ⟨some request, .ok r⟩
          | none => ⟨some request, .error (.unanswered url.text)⟩

end Courier.Http
