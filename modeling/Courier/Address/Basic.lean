/-
# Addresses — phone numbers before and after their type is known

A phone number of a message is either `raw`, as somebody wrote it, or an `Address`, that is
digits or a name together with a type of number and a numbering plan.  `display` is how people see
an address, `WireAddress` is what a gateway gets.
-/
import Courier.Decode
import Courier.Text.Blank

namespace Courier

open Json (Value)

/-! ## Types of number and numbering plans -/

/-- The scope in which a number is dialled. -/
inductive NumberType where
  | unknown
  | international
  | national
  | alphanumeric
  deriving DecidableEq, Repr, Inhabited

/-- The plan that a number follows. -/
inductive NumberPlan where
  | unknown
  | isdn
  deriving DecidableEq, Repr, Inhabited

/-- The code of a type on the wire. -/
def NumberType.code : NumberType → Nat
  | .unknown => 0
  | .international => 1
  | .national => 2
  | .alphanumeric => 5

/-- The code of a plan on the wire. -/
def NumberPlan.code : NumberPlan → Nat
  | .unknown => 0
  | .isdn => 1

/-- The name of a type in documents. -/
def NumberType.name : NumberType → String
  | .unknown => "UNKNOWN"
  | .international => "INTERNATIONAL"
  | .national => "NATIONAL"
  | .alphanumeric => "ALPHANUMERIC"

/-- The name of a plan in documents. -/
def NumberPlan.name : NumberPlan → String
  | .unknown => "UNKNOWN"
  | .isdn => "ISDN_TELEPHONE"

/-- The name of a type in diagnostics. -/
def NumberType.label : NumberType → String
  | .unknown => "Unknown"
  | .international => "International"
  | .national => "National"
  | .alphanumeric => "Alphanumeric"

/-- The name of a plan in diagnostics. -/
def NumberPlan.label : NumberPlan → String
  | .unknown => "Unknown"
  | .isdn => "IsdnTelephone"

/-! ## Addresses -/

/-- A number with its type and its plan. -/
structure Address where
  number : String
  type : NumberType
  plan : NumberPlan
  deriving DecidableEq, Repr, Inhabited

/-- The number, with a plus sign before an international one. -/
def Address.display (a : Address) : String :=
  match a.type with
  | .international => "+" ++ a.number
  | _ => a.number

/-- An address as a document. -/
def Address.toJson (a : Address) : Value :=
  .object [("number", .text a.number), ("type_of_number", .text a.type.name),
    ("npi", .text a.plan.name)]

/-- A phone number of a message. -/
inductive PhoneNumber where
  /-- As it was written. -/
  | raw (s : String)
  | addressed (a : Address)
  deriving DecidableEq, Repr, Inhabited

/-- A phone number as people see it. -/
def PhoneNumber.display : PhoneNumber → String
  | .raw s => s
  | .addressed a => a.display

/-- The address, once there is one. -/
def PhoneNumber.address? : PhoneNumber → Option Address
  | .raw _ => none
  | .addressed a => some a

/-- A phone number as a document. -/
def PhoneNumber.toJson : PhoneNumber → Value
  | .raw s => .text s
  | .addressed a => a.toJson

/-! ## The wire -/

/-- A number with the codes of its type and plan, as gateways take it. -/
structure WireAddress where
  number : String
  ton : Nat
  npi : Nat
  deriving DecidableEq, Repr, Inhabited

/-- What a gateway gets for a phone number; a raw one goes out with both codes zero. -/
def PhoneNumber.toWire : PhoneNumber → WireAddress
  | .raw s => ⟨s, 0, 0⟩
  | .addressed a => ⟨a.number, a.type.code, a.plan.code⟩

/-- A wire address as a document. -/
def WireAddress.toJson (w : WireAddress) : Value :=
  .object [("number", .text w.number), ("ton", .int w.ton), ("npi", .int w.npi)]

/-- A wire address in diagnostics. -/
def WireAddress.describe (w : WireAddress) : String :=
  "WireAddress \x7b number: " ++ Text.quoted w.number ++ ", ton: " ++ toString w.ton
    ++ ", npi: " ++ toString w.npi ++ " \x7d"

/-! ## Reading addresses -/

/-- The fields of an address while it is being read. -/
structure Address.Partial where
  number : Option String
  type : Option NumberType
  plan : Option NumberPlan

/-- The types by name. -/
def NumberType.names : List (String × NumberType) :=
  [NumberType.unknown, .international, .national, .alphanumeric].map fun t => (t.name, t)

/-- The plans by name. -/
def NumberPlan.names : List (String × NumberPlan) :=
  [NumberPlan.unknown, .isdn].map fun p => (p.name, p)

/-- The fields of an address, in the order of a positional one. -/
def Address.fields : List (Decode.Field Address.Partial) :=
  [Decode.field "number" Decode.text fun s p => { p with number := some s },
   Decode.field "type_of_number" (Decode.variant NumberType.names)
     fun t p => { p with type := some t },
   Decode.field "npi" (Decode.variant NumberPlan.names) fun n p => { p with plan := some n }]

/-- All fields have to be there; the first that is not is reported. -/
def Address.Partial.complete (p : Address.Partial) : Except DecodeError Address :=
  match p.number, p.type, p.plan with
  | some number, some type, some plan => .ok ⟨number, type, plan⟩
  | none, _, _ => .error (.missingField "number")
  | _, none, _ => .error (.missingField "type_of_number")
  | _, _, none => .error (.missingField "npi")

/-- Reads an address from a document. -/
def Address.decode (d : Dialect) : Value → Except DecodeError Address
  | .object ms => do (← Decode.members Address.fields ms ⟨none, none, none⟩).complete
  | .list items => do
    let p ← Decode.positions
      (fun n _ => .error (.invalidLength n "struct AddressedPhoneNumber with 3 elements"))
      0 Address.fields items ⟨none, none, none⟩
    Decode.checkLength d Address.fields items
    p.complete
  | v => Decode.wrongType v "struct AddressedPhoneNumber"

/-- Reads a phone number: a text is raw, anything else an address. -/
def PhoneNumber.decode (d : Dialect) : Value → Except DecodeError PhoneNumber
  | .text s => .ok (.raw s)
  | v => (Address.decode d v).map .addressed

end Courier
