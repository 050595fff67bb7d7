/-
# JSON values — the tree, its numbers and its text

An object keeps its members in the order of the list.  Objects built as maps use `Entries`, so
that their keys increase; objects that describe a record keep the order of its fields.

`write` is the compact text, `writePretty` the indented one.
-/
import Courier.Decimal.Shortest
import Courier.Entries

namespace Courier.Json

/-- An integer, or a float. -/
inductive Number where
  | int (i : Int)
  | float (f : Float)
  deriving Repr

/-- Integers are equal as integers, floats as floats, and never one with the other. -/
instance : BEq Number where
  beq
    | .int i, .int j => i == j
    | .float f, .float g => f == g
    | _, _ => false

/-- A JSON value. -/
inductive Value where
  | null
  | bool (b : Bool)
  | number (n : Number)
  | text (s : String)
  | list (items : List Value)
  | object (members : List (String × Value))
  deriving Repr, Inhabited

namespace Value

/-- An integer value. -/
def int (i : Int) : Value := .number (.int i)

/-- A list of texts. -/
def texts (ss : List String) : Value := .list (ss.map .text)

/-- The text, or null when there is none. -/
def ofText? : Option String → Value
  | none => .null
  | some s => .text s

/-- The member of an object with a given name. -/
def member? (name : String) : Value → Option Value
  | .object members => Entries.find? name members
  | _ => none

/-! ## Equality -/

mutual
/-- Equality of trees, with floats compared as floats. -/
def same : Value → Value → Bool
  | .null, .null => true
  | .bool a, .bool b => a == b
  | .number a, .number b => a == b
  | .text a, .text b => a == b
  | .list as, .list bs => sameItems as bs
  | .object as, .object bs => sameMembers as bs
  | _, _ => false

/-- Equality of lists of values. -/
def sameItems : List Value → List Value → Bool
  | [], [] => true
  | a :: as, b :: bs => same a b && sameItems as bs
  | _, _ => false

/-- Equality of members in their order. -/
def sameMembers : List (String × Value) → List (String × Value) → Bool
  | [], [] => true
  | (k, a) :: as, (l, b) :: bs => k == l && same a b && sameMembers as bs
  | _, _ => false
end

instance : BEq Value := ⟨same⟩

end Value

/-! ## Text -/

/-- A number as JSON writes it. -/
def Number.write : Number → String
  | .int i => toString i
  | .float f => Decimal.compact.write f

/-- The four hexadecimal digits of a small code point. -/
def hex4 (n : Nat) : List Char :=
  let digits := Nat.toDigits 16 n
  List.replicate (4 - digits.length) '0' ++ digits

/-- A character as it stands in a JSON string. -/
def escape (c : Char) : List Char :=
  if c = '\x22' then ['\\', '\x22']
  else if c = '\\' then ['\\', '\\']
  else if c = '\n' then ['\\', 'n']
  else if c = '\r' then ['\\', 'r']
  else if c = '\t' then ['\\', 't']
  else if c = '\x08' then ['\\', 'b']
  else if c = '\x0c' then ['\\', 'f']
  else if c.toNat < 0x20 then ['\\', 'u'] ++ hex4 c.toNat
  else [c]

/-- A JSON string. -/
def writeText (s : String) : String :=
  "\"" ++ String.ofList (s.toList.flatMap escape) ++ "\""

namespace Value

mutual
/-- The compact text of a value. -/
def write : Value → String
  | .null => "null"
  | .bool b => if b then "true" else "false"
  | .number n => n.write
  | .text s => writeText s
  | .list items => "[" ++ ",".intercalate (writeItems items) ++ "]"
  | .object members => "\x7b" ++ ",".intercalate (writeMembers members) ++ "\x7d"

/-- The texts of the items of a list. -/
def writeItems : List Value → List String
  | [] => []
  | v :: vs => write v :: writeItems vs

/-- The texts of the members of an object. -/
def writeMembers : List (String × Value) → List String
  | [] => []
  | (k, v) :: rest => (writeText k ++ ":" ++ write v) :: writeMembers rest
end

/-- A line break and two spaces for each level. -/
def lineBreak (level : Nat) : String := "\n" ++ String.ofList (List.replicate (2 * level) ' ')

/-- Items between brackets, each on a line of its own. -/
def layOut (opening closing : String) (level : Nat) (items : List String) : String :=
  if items.isEmpty then opening ++ closing
  else opening ++ lineBreak (level + 1)
    ++ ("," ++ lineBreak (level + 1)).intercalate items ++ lineBreak level ++ closing

mutual
/-- The indented text of a value that stands at a given level. -/
def writePrettyAt (level : Nat) : Value → String
  | .null => "null"
  | .bool b => if b then "true" else "false"
  | .number n => n.write
  | .text s => writeText s
  | .list items => layOut "[" "]" level (writePrettyItems (level + 1) items)
  | .object members => layOut "\x7b" "\x7d" level (writePrettyMembers (level + 1) members)

/-- The indented texts of the items of a list. -/
def writePrettyItems (level : Nat) : List Value → List String
  | [] => []
  | v :: vs => writePrettyAt level v :: writePrettyItems level vs

/-- The indented texts of the members of an object. -/
def writePrettyMembers (level : Nat) : List (String × Value) → List String
  | [] => []
  | (k, v) :: rest =>
    (writeText k ++ ": " ++ writePrettyAt level v) :: writePrettyMembers level rest
end

/-- The indented text of a value. -/
def writePretty (v : Value) : String := writePrettyAt 0 v

end Value

end Courier.Json
