/-
# Decoding — records out of document values

A document (JSON or a configuration file) is a `Json.Value`.  Each reader takes a value and gives
what it means or the first thing that is wrong with it.  A record is read from an object, by the
names of its fields and in the order in which the object lists them, or from a list, by position.

`DecodeError` says what was found and what was expected; `DecodeError.message` is its wording, and
`Dialect` holds what differs between the kinds of document.
-/
import Courier.Json.Value
import Courier.Text.Quoted

namespace Courier

open Json (Value)

/-! ## Errors -/

/-- What stood where something else was expected. -/
inductive Found where
  | null
  | bool (b : Bool)
  | int (i : Int)
  | float (f : Float)
  | text (s : String)
  | list
  | object
  deriving Repr

/-- Why a value does not decode. -/
inductive DecodeError where
  | invalidType (found : Found) (expected : String)
  | invalidValue (found : Found) (expected : String)
  | invalidLength (length : Nat) (expected : String)
  | unknownVariant (name : String) (known : List String)
  | missingField (name : String)
  deriving Repr

/-- What depends on the kind of document. -/
structure Dialect where
  /-- How a float is quoted in an error. -/
  floats : Decimal.Style
  /-- A list longer than the record it spells is refused. -/
  exactLists : Bool

/-- JSON documents. -/
def Dialect.json : Dialect := ⟨Decimal.compact, true⟩

/-- Configuration files. -/
def Dialect.config : Dialect := ⟨Decimal.pointed, false⟩

/-- What a value is called when it is out of place. -/
def Found.ofValue : Value → Found
  | .null => .null
  | .bool b => .bool b
  | .number (.int i) => .int i
  | .number (.float f) => .float f
  | .text s => .text s
  | .list _ => .list
  | .object _ => .object

/-- The words for what was found. -/
def Found.describe (d : Dialect) : Found → String
  | .null => "null"
  | .bool b => "boolean `" ++ toString b ++ "`"
  | .int i => "integer `" ++ toString i ++ "`"
  | .float f => "floating point `" ++ d.floats.write f ++ "`"
  | .text s => "string " ++ Text.quoted s
  | .list => "sequence"
  | .object => "map"

/-- A choice of names: one, two with `or`, or a list. -/
def oneOf (names : List String) : String :=
  match names.map fun n => "`" ++ n ++ "`" with
  | [] => "there are no variants"
  | [a] => "expected " ++ a
  | [a, b] => "expected " ++ a ++ " or " ++ b
  | many => "expected one of " ++ ", ".intercalate many

/-- The wording of an error. -/
def DecodeError.message (d : Dialect) : DecodeError → String
  | .invalidType found expected =>
    "invalid type: " ++ found.describe d ++ ", expected " ++ expected
  | .invalidValue found expected =>
    "invalid value: " ++ found.describe d ++ ", expected " ++ expected
  | .invalidLength n expected => "invalid length " ++ toString n ++ ", expected " ++ expected
  | .unknownVariant name known => "unknown variant `" ++ name ++ "`, " ++ oneOf known
  | .missingField name => "missing field `" ++ name ++ "`"

namespace Decode

/-! ## Scalars and lists -/

/-- The error of a value that has the wrong type. -/
def wrongType (v : Value) (expected : String) : Except DecodeError α :=
  .error (.invalidType (.ofValue v) expected)

/-- A truth value. -/
def bool : Value → Except DecodeError Bool
  | .bool b => .ok b
  | v => wrongType v "a boolean"

/-- A text; `expected` is what it is called. -/
def textAs (expected : String) : Value → Except DecodeError String
  | .text s => .ok s
  | v => wrongType v expected

/-- A text. -/
def text : Value → Except DecodeError String := textAs "a string"

/-- A path of a file. -/
def path : Value → Except DecodeError String := textAs "path string"

/-- A natural number of 64 bits. -/
def size : Value → Except DecodeError Nat
  | .number (.int i) => if 0 ≤ i then .ok i.toNat else .error (.invalidValue (.int i) "usize")
  | v => wrongType v "usize"

/-- Nothing for null, else what `read` gives. -/
def optional (read : Value → Except DecodeError α) : Value → Except DecodeError (Option α)
  | .null => .ok none
  | v => (read v).map some

/-- A list of things of one kind. -/
def list (read : Value → Except DecodeError α) : Value → Except DecodeError (List α)
  | .list items => items.mapM read
  | v => wrongType v "a sequence"

/-- One of some names, alone or as the only member of an object that holds null. -/
def variant (known : List (String × α)) : Value → Except DecodeError α
  | .text s => pick s
  | .object [(name, v)] => do
    let a ← pick name
    match v with
    | .null => .ok a
    | v => wrongType v "unit"
  | .object _ => .error (.invalidValue .object "map with a single key")
  | v => wrongType v "string or map"
where
  /-- The meaning of a name. -/
  pick (name : String) : Except DecodeError α :=
    match known.lookup name with
    | some a => .ok a
    | none => .error (.unknownVariant name (known.map (·.1)))

/-! ## Records -/

/-- A field: its name and how its value changes the record. -/
structure Field (σ : Type) where
  name : String
  read : Value → Except DecodeError (σ → σ)

/-- A field read by `read` and stored by `store`. -/
def field (name : String) (read : Value → Except DecodeError α) (store : α → σ → σ) : Field σ :=
  ⟨name, fun v => (read v).map store⟩

/-- Reads the members of an object; a member that names no field is passed over. -/
def members (fields : List (Field σ)) : List (String × Value) → σ → Except DecodeError σ
  | [], r => .ok r
  | (name, v) :: rest, r =>
    match fields.find? (·.name = name) with
    | some f => do members fields rest ((← f.read v) r)
    | none => members fields rest r

/-- Reads fields by position; `missing` says what a list that ends before field `n` means. -/
def positions (missing : Nat → σ → Except DecodeError σ) :
    Nat → List (Field σ) → List Value → σ → Except DecodeError σ
  | _, [], _, r => .ok r
  | n, _ :: _, [], r => missing n r
  | n, f :: fields, v :: vs, r => do positions missing (n + 1) fields vs ((← f.read v) r)

/-- Refuses a list with more items than there are fields, if the documents are strict. -/
def checkLength (d : Dialect) (fields : List (Field σ)) (items : List Value) :
    Except DecodeError Unit :=
  if d.exactLists && fields.length < items.length then
    .error (.invalidLength items.length "fewer elements in array")
  else .ok ()

/-- A record all of whose fields have a value in `start`. -/
def record (d : Dialect) (name : String) (fields : List (Field σ)) (start : σ) :
    Value → Except DecodeError σ
  | .object ms => members fields ms start
  | .list items => do
    let r ← positions (fun _ r => .ok r) 0 fields items start
    checkLength d fields items
    return r
  | v => wrongType v ("struct " ++ name)

end Decode

end Courier
