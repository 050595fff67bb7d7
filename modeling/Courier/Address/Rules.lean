/-
# Rules — how the numbers of a sender or of a recipient are read

`Rules.validate` accepts rules whose way into international form is well defined: either it
is off, or the country code is there and consists of digits.
-/
import Courier.Address.Basic

namespace Courier

open Json (Value)

/-- The settings of a classifier. -/
structure Rules where
  /-- Names such as a brand are allowed as addresses. -/
  allowAlphanumeric : Bool
  /-- Short numbers are service numbers. -/
  shortCode : Bool
  /-- National numbers are expanded into international ones. -/
  international : Bool
  countryCode : Option String
  /-- The digits that a national number begins with when it is dialled at home. -/
  trunk : String
  maxAlphanumericLength : Nat
  maxShortCodeLength : Nat
  deriving DecidableEq, Repr

namespace Rules

/-- Everything off, with the usual trunk digit and limits. -/
def standard : Rules :=
  { allowAlphanumeric := false
    shortCode := false
    international := false
    countryCode := none
    trunk := "0"
    maxAlphanumericLength := 11
    maxShortCodeLength := 5 }

/-- Rules for senders: names and service numbers are fine. -/
def sender : Rules := { standard with allowAlphanumeric := true, shortCode := true }

/-- Rules for recipients in a country: their numbers become international. -/
def recipient (countryCode : String) : Rules :=
  { standard with international := true, countryCode := some countryCode }

/-- Rules for recipients whose country is still open. -/
def openRecipient : Rules := { standard with international := true }

/-- The rules with a country code, unless they have one. -/
def withSharedCountryCode (rules : Rules) (shared : Option String) : Rules :=
  match rules.countryCode with
  | some _ => rules
  | none => { rules with countryCode := shared }

/-! ## Validity -/

/-- Why rules cannot be used. -/
inductive Invalid where
  | countryCodeNotDigits (code : String)
  | noCountryCode
  deriving DecidableEq, Repr

/-- The wording of the reason. -/
def Invalid.message : Invalid → String
  | .countryCodeNotDigits code => "country code '" ++ code ++ "' must be digits only"
  | .noCountryCode => "international normalization requires a country code"

/-- True when a text is a non-empty string of ASCII digits. -/
def isDigits (s : String) : Bool := s.toList ≠ [] && s.toList.all Char.isDigit

/-- Rules that expand numbers need a country code of digits. -/
def validate (rules : Rules) : Except Invalid Unit :=
  if rules.international then
    match rules.countryCode with
    | some code => if isDigits code then .ok () else .error (.countryCodeNotDigits code)
    | none => .error .noCountryCode
  else .ok ()

/-! ## Documents -/

/-- The fields of rules, in the order of positional ones. -/
def fields : List (Decode.Field Rules) :=
  [Decode.field "allow_alphanumeric" Decode.bool fun b r => { r with allowAlphanumeric := b },
   Decode.field "short_code" Decode.bool fun b r => { r with shortCode := b },
   Decode.field "international" Decode.bool fun b r => { r with international := b },
   Decode.field "country_code" (Decode.optional Decode.text) fun c r => { r with countryCode := c },
   Decode.field "trunk_prefix" Decode.text fun s r => { r with trunk := s },
   Decode.field "max_alphanumeric_len" Decode.size
     fun n r => { r with maxAlphanumericLength := n },
   Decode.field "max_short_code_len" Decode.size fun n r => { r with maxShortCodeLength := n }]

/-- Reads rules; a field that is not given keeps its standard value. -/
def decode (d : Dialect) : Value → Except DecodeError Rules :=
  Decode.record d "ClassifierRules" fields standard

/-- Rules as a document. -/
def toJson (r : Rules) : Value :=
  .object [("allow_alphanumeric", .bool r.allowAlphanumeric), ("short_code", .bool r.shortCode),
    ("international", .bool r.international), ("country_code", .ofText? r.countryCode),
    ("trunk_prefix", .text r.trunk), ("max_alphanumeric_len", .int r.maxAlphanumericLength),
    ("max_short_code_len", .int r.maxShortCodeLength)]

end Rules

end Courier
