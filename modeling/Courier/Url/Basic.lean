/-
# URLs — where a gateway is

A URL in its parts, each part in its written form, and the text that they make.
-/
import Courier.Url.Ip

namespace Courier

/-- Who answers. -/
inductive Url.Host where
  | empty
  /-- A name: a domain in ASCII, or any name in a scheme of its own. -/
  | name (s : String)
  | ipv4 (n : Nat)
  | ipv6 (pieces : List Nat)
  deriving DecidableEq, Repr

/-- The path of a URL. -/
inductive Url.Path where
  /-- Parts with a slash before each. -/
  | parts (ps : List String)
  /-- One text, in a URL that nothing is relative to. -/
  | whole (s : String)
  deriving DecidableEq, Repr

/-- A URL in its parts. -/
structure Url where
  scheme : String
  user : String
  password : Option String
  host : Option Url.Host
  /-- The number behind the host, unless it is the usual one of the scheme. -/
  portNumber : Option Nat
  path : Url.Path
  query : Option String
  fragment : Option String
  deriving DecidableEq, Repr

namespace Url

/-- A host as it stands in a URL. -/
def Host.text : Host → String
  | .empty => ""
  | .name s => s
  | .ipv4 n => ipv4Text n
  | .ipv6 pieces => "[" ++ ipv6Text pieces ++ "]"

/-- A path as it stands in a URL. -/
def Path.text : Path → String
  | .parts ps => String.join (ps.map ("/" ++ ·))
  | .whole s => s

/-- A part that is marked by a character, if it is there. -/
def marked (mark : String) : Option String → String
  | some s => mark ++ s
  | none => ""

/-- The user and the password in front of a host. -/
def userinfo (u : Url) : String :=
  if u.user = "" && u.password = none then "" else u.user ++ marked ":" u.password ++ "@"

/-- The number behind a host, with its colon. -/
def portText (u : Url) : String := marked ":" (u.portNumber.map toString)

/-- The text of a URL.  A path that begins with two slashes is kept apart from the scheme. -/
def text (u : Url) : String :=
  u.scheme ++ ":"
    ++ (match u.host with
      | some h => "//" ++ u.userinfo ++ h.text ++ u.portText
      | none => if "//".isPrefixOf u.path.text then "/." else "")
    ++ u.path.text ++ marked "?" u.query ++ marked "#" u.fragment

/-- The usual number behind the hosts of a scheme. -/
def usualPort? : String → Option Nat
  | "http" => some 80
  | "ws" => some 80
  | "https" => some 443
  | "wss" => some 443
  | "ftp" => some 21
  | _ => none

/-- True for the schemes whose URLs always have a host. -/
def isSpecial (scheme : String) : Bool := (usualPort? scheme).isSome

/-- True when somebody is named who answers. -/
def hasHost (u : Url) : Bool :=
  match u.host with
  | none => false
  | some .empty => false
  | some _ => true

/-- The address to connect to: the host and the number behind it. -/
def address (u : Url) : String :=
  (u.host.map (·.text)).getD ""
    ++ marked ":" ((u.portNumber.or (usualPort? u.scheme)).map toString)

/-- What is asked of the one who answers: the path and the query. -/
def target (u : Url) : String := u.path.text ++ marked "?" u.query

/-- The URL without the user and the password. -/
def withoutUser (u : Url) : Url := { u with user := "", password := none }

end Url

end Courier
