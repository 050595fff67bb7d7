/-
# Reading URLs — the parts of a URL from its text

`Url.read` takes a text that begins with a scheme.  What follows depends on the scheme: the ones
that everybody knows have a host and take a backslash for a slash, `file` has a path whose host is
mostly empty, and all others have what their text shows.  Nothing is refused in a path, a query or
a fragment: what cannot stand there is written in percent codes.
-/
import Courier.Url.Basic
import Courier.Url.Domain

namespace Courier.Url

/-- Why a text is no URL. -/
inductive Invalid where
  | relative
  | emptyHost
  | domainName
  | domainCharacter
  | portNumber
  | ipv4
  | ipv6
  deriving DecidableEq, Repr

/-- The wording of the reason. -/
def Invalid.message : Invalid → String
  | .relative => "relative URL without a base"
  | .emptyHost => "empty host"
  | .domainName => "invalid international domain name"
  | .domainCharacter => "invalid domain character"
  | .portNumber => "invalid port number"
  | .ipv4 => "invalid IPv4 address"
  | .ipv6 => "invalid IPv6 address"

/-- The kinds of scheme. -/
inductive Kind where
  | special
  | file
  | other
  deriving DecidableEq, Repr

/-- The kind of a scheme. -/
def Kind.of (scheme : String) : Kind :=
  if isSpecial scheme then .special else if scheme = "file" then .file else .other

/-- True for what separates the parts of a path. -/
def Kind.isSlash (k : Kind) (c : Char) : Bool := c = '/' || (c = '\\' && k ≠ .other)

/-- True for what ends the part of a URL that names who answers. -/
def Kind.endsAuthority (k : Kind) (c : Char) : Bool := c = '?' || c = '#' || k.isSlash c

/-! ## The scheme -/

/-- True for a character of a scheme. -/
def isSchemeChar (c : Char) : Bool := c.isAlphanum || c = '+' || c = '-' || c = '.'

/-- The scheme of a text in small letters, and what follows its colon. -/
def scheme? (cs : List Char) : Option (String × List Char) :=
  match cs.takeWhile isSchemeChar, cs.dropWhile isSchemeChar with
  | c :: name, ':' :: rest =>
    if c.isAlpha then some (String.ofList ((c :: name).map Char.toLower), rest) else none
  | _, _ => none

/-! ## The host -/

/-- True for characters that no host holds. -/
def isHostBreak (c : Char) : Bool :=
  c = '\x00' || c = '\t' || c = '\n' || c = '\r' || " #/:<>?@[\\]^|".toList.contains c

/-- A host in brackets. -/
def bracketedHost (cs : List Char) : Except Invalid Host :=
  match cs.getLast?, ipv6? (cs.drop 1).dropLast with
  | some ']', some pieces => .ok (.ipv6 pieces)
  | _, _ => .error .ipv6

/-- A domain or an address. -/
def domainHost (cs : List Char) : Except Invalid Host :=
  match domainToAscii? cs with
  | none => .error .domainName
  | some [] => .error .emptyHost
  | some name =>
    if endsInNumber name then
      match ipv4? name with
      | some n => .ok (.ipv4 n)
      | none => .error .ipv4
    else .ok (.name (String.ofList name))

/-- A host, by the kind of its scheme. -/
def readHost (k : Kind) (cs : List Char) : Except Invalid Host :=
  if cs.head? = some '[' then bracketedHost cs
  else if k = .other then
    if cs.any isHostBreak then .error .domainCharacter
    else if cs = [] then .ok .empty
    else .ok (.name (String.ofList (encode isControl cs)))
  else if cs = [] then .error .emptyHost
  else domainHost cs

/-- Splits a host from the number behind it, at the first colon that no bracket holds. -/
def splitPort (inBrackets : Bool) : List Char → List Char × Option (List Char)
  | [] => ([], none)
  | c :: cs =>
    if c = ':' && !inBrackets then ([], some cs)
    else
      let (host, number) := splitPort (c = '[' || (inBrackets && c ≠ ']')) cs
      (c :: host, number)

/-- The number behind a host that digits spell; no digits are no number. -/
def readPort (scheme : String) (cs : List Char) : Except Invalid (Option Nat) :=
  let n := Decimal.natOfDigits cs
  if !cs.all Char.isDigit || 65535 < n then .error .portNumber
  else if cs = [] || usualPort? scheme = some n then .ok none
  else .ok (some n)

/-- Splits at the last at sign. -/
def splitUser (cs : List Char) : Option (List Char) × List Char :=
  if cs.contains '@' then
    let reversed := cs.reverse
    (some ((reversed.dropWhile (· ≠ '@')).drop 1).reverse, (reversed.takeWhile (· ≠ '@')).reverse)
  else (none, cs)

/-- What stands between a scheme and a path. -/
structure Authority where
  user : String
  password : Option String
  host : Option Host
  portNumber : Option Nat

/-- Nobody. -/
def Authority.none : Authority := ⟨"", .none, .none, .none⟩

/-- Reads who answers: a user, a password, a host and the number behind it. -/
def readAuthority (k : Kind) (scheme : String) (cs : List Char) : Except Invalid Authority := do
  let (userinfo, rest) := splitUser cs
  let user := (userinfo.getD []).takeWhile (· ≠ ':')
  let password := ((userinfo.getD []).dropWhile (· ≠ ':')).drop 1
  let (hostText, portText) := splitPort false rest
  let host ← readHost k hostText
  let named := userinfo = some [] || user ≠ [] || password ≠ []
  if host = .empty && (named || portText.isSome) then throw .emptyHost
  return {
    user := String.ofList (encode codedInUserinfo user)
    password := if password = [] then .none
      else some (String.ofList (encode codedInUserinfo password))
    host := some host
    portNumber := ← readPort scheme (portText.getD []) }

/-! ## The path -/

/-- Splits at each character of a kind. -/
def splitWhere (mark : Char → Bool) : List Char → List (List Char)
  | [] => [[]]
  | c :: cs =>
    if mark c then [] :: splitWhere mark cs
    else
      match splitWhere mark cs with
      | part :: parts => (c :: part) :: parts
      | [] => [[c]]

/-- True for a part that stands for the directory it is in. -/
def isDotPart (s : String) : Bool := s = "." || s = "%2e" || s = "%2E"

/-- True for a part that stands for the directory above. -/
def isDotsPart (s : String) : Bool :=
  [".", "%2e", "%2E"].any fun a => s = "." ++ a || s = "%2e" ++ a || s = "%2E" ++ a

/-- True for the letter of a drive with its mark. -/
def isDrive (s : String) : Bool :=
  match s.toList with
  | [c, m] => c.isAlpha && (m = ':' || m = '|')
  | _ => false

/-- Goes up by one part, which is the first of `above`; a drive stays. -/
def goUp : List String → List String
  | [] => []
  | p :: above => if isDrive p then p :: above else above

/-- Goes through the parts of a path; `above` are the parts so far, the last one first. -/
def walkParts (above : List String) : List String → List String
  | [] => above.reverse
  | [p] =>
    if isDotsPart p then walkParts ("" :: goUp above) []
    else if isDotPart p then walkParts ("" :: above) []
    else walkParts (p :: above) []
  | p :: q :: ps =>
    if isDotsPart p then walkParts (goUp above) (q :: ps)
    else if isDotPart p then walkParts above (q :: ps)
    else walkParts (p :: above) (q :: ps)
termination_by ps => ps.length

/-- The parts of a path in their written form; a slash in front belongs to the first part. -/
def readParts (k : Kind) (cs : List Char) : List String :=
  let rest := match cs with
    | c :: rest => if k.isSlash c then rest else c :: rest
    | [] => []
  walkParts [] ((splitWhere k.isSlash rest).map fun p => String.ofList (encode codedInPath p))

/-- A drive with the mark that is usual. -/
def usualDrive (s : String) : String :=
  if isDrive s then String.ofList (s.toList.take 1 ++ [':']) else s

/-- The parts of the path of a file. -/
def readFileParts (cs : List Char) : List String :=
  match ((readParts .file cs).map usualDrive).dropWhile (· = "") with
  | [] => [""]
  | parts => parts

/-! ## The whole -/

/-- A text without the controls and spaces around it, and without line ends and tabs. -/
def strip (cs : List Char) : List Char :=
  let outer (c : Char) : Bool := c.toNat ≤ 0x20
  (((cs.dropWhile outer).reverse.dropWhile outer).reverse).filter fun c =>
    c ≠ '\t' && c ≠ '\n' && c ≠ '\r'

/-- Splits a text at the first of a character. -/
def cutAt (mark : Char) (cs : List Char) : List Char × Option (List Char) :=
  match cs.dropWhile (· ≠ mark) with
  | [] => (cs, none)
  | _ :: rest => (cs.takeWhile (· ≠ mark), some rest)

/-- Who answers for a file, and its path; the letter of a drive is never a host. -/
def readFile (cs : List Char) : Except Invalid (Authority × Path) := do
  let here : Authority := { Authority.none with host := some .empty }
  match cs with
  | a :: b :: rest =>
    if Kind.file.isSlash a && Kind.file.isSlash b then
      let hostText := rest.takeWhile (!Kind.file.isSlash ·)
      let pathText := rest.dropWhile (!Kind.file.isSlash ·)
      if isDrive (String.ofList hostText) then return (here, .parts (readFileParts rest))
      let host ← if hostText = [] then pure .empty else readHost .file hostText
      let parts := readFileParts pathText
      let host := if host = .name "localhost" || parts.any isDrive then .empty else host
      return ({ here with host := some host }, .parts parts)
    else return (here, .parts (readFileParts cs))
  | cs => return (here, .parts (readFileParts cs))

/-- Who answers, and the path, of a URL that begins with its host. -/
def readAfterSlashes (k : Kind) (scheme : String) (cs : List Char) :
    Except Invalid (Authority × Path) := do
  let pathText := cs.dropWhile (!k.endsAuthority ·)
  let authority ← readAuthority k scheme (cs.takeWhile (!k.endsAuthority ·))
  return (authority, .parts (if k = .other && pathText = [] then [] else readParts k pathText))

/-- Who answers, and the path. -/
def readPlace (scheme : String) (cs : List Char) : Except Invalid (Authority × Path) :=
  match Kind.of scheme with
  | .file => readFile cs
  | .special =>
    readAfterSlashes .special scheme (cs.dropWhile Kind.special.isSlash)
  | .other =>
    match cs with
    | '/' :: '/' :: rest => readAfterSlashes .other scheme rest
    | '/' :: rest => .ok (.none, .parts (readParts .other ('/' :: rest)))
    | cs => .ok (.none, .whole (String.ofList (encode isControl cs)))

/-- The URL that a text spells. -/
def read (s : String) : Except Invalid Url :=
  match scheme? (strip s.toList) with
  | none => .error .relative
  | some (scheme, rest) => do
    let (rest, fragment) := cutAt '#' rest
    let (rest, query) := cutAt '?' rest
    let (authority, path) ← readPlace scheme rest
    let codedQuery := if Kind.of scheme = .other then codedInQuery else codedInSpecialQuery
    return {
      scheme
      user := authority.user
      password := authority.password
      host := authority.host
      portNumber := authority.portNumber
      path
      query := query.map fun q => String.ofList (encode codedQuery q)
      fragment := fragment.map fun f => String.ofList (encode codedInFragment f) }

end Courier.Url
