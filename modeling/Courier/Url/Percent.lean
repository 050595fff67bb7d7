/-
# Percent codes — bytes written as a percent sign and two digits

Each part of a URL has a set of ASCII characters that may not stand in it as they are; they, and
all characters beyond ASCII, are written as the codes of their bytes in UTF-8.
-/
import Courier.Decimal.Digits

namespace Courier.Url

/-! ## Sets -/

/-- The controls. -/
def isControl (c : Char) : Bool := c.toNat < 0x20 || c.toNat = 0x7F

/-- What is coded in a fragment. -/
def codedInFragment (c : Char) : Bool :=
  isControl c || c = ' ' || c = '\x22' || c = '<' || c = '>' || c = '\x60'

/-- What is coded in a path. -/
def codedInPath (c : Char) : Bool :=
  codedInFragment c || c = '#' || c = '?' || c = '\x7b' || c = '\x7d'

/-- What is coded in the name of a user and in a password. -/
def codedInUserinfo (c : Char) : Bool :=
  codedInPath c || "/:;=@[\\]^|".toList.contains c

/-- What is coded in a query. -/
def codedInQuery (c : Char) : Bool :=
  isControl c || c = ' ' || c = '\x22' || c = '#' || c = '<' || c = '>'

/-- What is coded in the query of a special scheme. -/
def codedInSpecialQuery (c : Char) : Bool := codedInQuery c || c = '\x27'

/-! ## Encoding and decoding -/

/-- A hexadecimal digit in upper case. -/
def upperHex (n : Nat) : Char := if n < 10 then Char.ofNat (48 + n) else Char.ofNat (55 + n)

/-- The code of a byte. -/
def byteCode (b : Nat) : List Char := ['%', upperHex (b / 16), upperHex (b % 16)]

/-- A character, coded if it is in a set or beyond ASCII. -/
def encodeChar (coded : Char → Bool) (c : Char) : List Char :=
  if 0x80 ≤ c.toNat || coded c then
    c.toString.toUTF8.toList.flatMap fun b => byteCode b.toNat
  else [c]

/-- Codes the characters of a set. -/
def encode (coded : Char → Bool) (cs : List Char) : List Char := cs.flatMap (encodeChar coded)

/-- The bytes of a text with its codes replaced by the bytes they stand for. -/
def decodeBytes : List Char → List UInt8
  | [] => []
  | '%' :: a :: b :: rest =>
    let (x, y) := (Decimal.digitValue a, Decimal.digitValue b)
    if x < 16 && y < 16 then UInt8.ofNat (x * 16 + y) :: decodeBytes rest
    else '%'.toString.toUTF8.toList ++ decodeBytes (a :: b :: rest)
  | c :: rest => c.toString.toUTF8.toList ++ decodeBytes rest

/-- The text that codes stand for, if they spell one. -/
def decode? (cs : List Char) : Option String :=
  String.fromUTF8? ⟨(decodeBytes cs).toArray⟩

end Courier.Url
