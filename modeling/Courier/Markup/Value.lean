/-
# Values in templates — truth, text, numbers and paths

A value is false when it is null, zero, not a number, or empty.  `shown` is its text on the page:
lists in brackets, nothing for null.  Arithmetic is on integers of 64 bits where both sides are
integers and on floats otherwise.
-/
import Courier.Decimal.Float
import Courier.Decimal.Range
import Courier.Json.Value
import Courier.Markup.Expr

namespace Courier.Markup

open Json (Value Number)

/-! ## Truth and text -/

/-- Whether a value counts as true. -/
def truthy : Value → Bool
  | .null => false
  | .bool b => b
  | .number (.int i) => i ≠ 0
  | .number (.float f) => f != 0.0 && !f.isNaN
  | .text s => s ≠ ""
  | .list items => !items.isEmpty
  | .object members => !members.isEmpty

/-- The text of a number on the page. -/
def shownNumber : Number → String
  | .int i => toString i
  | .float f => Decimal.plain.write f

mutual
/-- The text of a value on the page. -/
def shown : Value → String
  | .null => ""
  | .bool b => toString b
  | .number n => shownNumber n
  | .text s => s
  | .list items => "[" ++ ", ".intercalate (shownAll items) ++ "]"
  | .object _ => "[object]"

/-- The texts of values on the page. -/
def shownAll : List Value → List String
  | [] => []
  | v :: vs => shown v :: shownAll vs
end

mutual
/-- A value in full, with its kind. -/
def describeValue : Value → String
  | .null => "Null"
  | .bool b => "Bool(" ++ toString b ++ ")"
  | .number n => "Number(" ++ n.write ++ ")"
  | .text s => "String(" ++ Text.quoted s ++ ")"
  | .list items => "Array " ++ Text.bracketed (describeValues items)
  | .object members => "Object " ++ describeMap (describeMembers members)

/-- Values in full. -/
def describeValues : List Value → List String
  | [] => []
  | v :: vs => describeValue v :: describeValues vs

/-- Members in full. -/
def describeMembers : List (String × Value) → List (String × String)
  | [] => []
  | (k, v) :: rest => (k, describeValue v) :: describeMembers rest
end

/-! ## Numbers -/

/-- A number as a float. -/
def toFloat : Number → Float
  | .int i => Decimal.ofInt i
  | .float f => f

/-- A float as a value; there is none for infinity and for no number. -/
def ofFloat? (f : Float) : Option Number := if f.isFinite then some (.float f) else none

/-- A float as a value, null when there is none. -/
def ofFloat (f : Float) : Value :=
  match ofFloat? f with
  | some n => .number n
  | none => .null

/-- An operation on integers, with the mark that shows it. -/
def onIntegers? : Arithmetic → Option ((Int → Int → Int) × String)
  | .add => some ((· + ·), "+")
  | .sub => some ((· - ·), "-")
  | .mul => some ((· * ·), "x")
  | _ => none

/-- An operation on floats; it may have no result. -/
def onFloats (op : Arithmetic) (a b : Float) : Option Number :=
  match op with
  | .add => ofFloat? (a + b)
  | .sub => ofFloat? (a - b)
  | .mul => ofFloat? (a * b)
  | .rem => ofFloat? (Decimal.remainder a b)
  | .div =>
    let q := a / b
    if q.round == q && q.isFinite then some (.int (Decimal.toInt64 q)) else ofFloat? q

/-- An operation on numbers: the result if there is one, or why it fails.  `shownOperands` is what
a remainder by zero shows. -/
def compute (op : Arithmetic) (shownOperands : String) (a b : Number) :
    Except String (Option Number) :=
  match a, b with
  | .int i, .int j =>
    let signed := Decimal.signed64.contains i && Decimal.signed64.contains j
    if signed || (0 ≤ i && 0 ≤ j) then
      match op, onIntegers? op with
      | _, some (f, mark) =>
        let r := f i j
        if (if signed then Decimal.signed64 else Decimal.unsigned64).contains r then .ok (some (.int r))
        else .error (toString i ++ " " ++ mark ++ " " ++ toString j
          ++ " results in an out of bounds " ++ if signed then "i64" else "u64")
      | .rem, none =>
        if j = 0 then .error ("Tried to do a modulo by zero: " ++ shownOperands)
        else .ok (some (.int (i.tmod j)))
      | op, none => .ok (onFloats op (Decimal.ofInt i) (Decimal.ofInt j))
    else .ok (onFloats op (Decimal.ofInt i) (Decimal.ofInt j))
  | a, b => .ok (onFloats op (toFloat a) (toFloat b))

/-! ## Paths -/

/-- The place that a text names in a list: digits without a zero before them. -/
def index? (s : String) : Option Nat :=
  match s.toList with
  | ['0'] => some 0
  | '0' :: _ => none
  | cs => if cs ≠ [] && cs.all Char.isDigit then some (Decimal.natOfDigits cs) else none

/-- The part of a value under one key. -/
def part? (v : Value) (key : String) : Option Value :=
  match v with
  | .object members => Entries.find? key members
  | .list items => (index? key).bind (items[·]?)
  | _ => none

/-- The part of a value under keys one inside the other. -/
def partAt? (v : Value) (keys : List String) : Option Value := keys.foldlM part? v

/-- The keys of a path with points; between quotes a point is like any other character. -/
def pathKeys (path : String) : List String :=
  let rec go : Bool → List Char → List Char → List String
    | _, current, [] => [String.ofList current.reverse]
    | quoted, current, c :: cs =>
      if c = '\x22' then go (!quoted) current cs
      else if c = '.' && !quoted then String.ofList current.reverse :: go false [] cs
      else go quoted (c :: current) cs
  go false [] path.toList

/-- The part of a value that an attribute names; the empty attribute names the value. -/
def attribute? (v : Value) (path : String) : Option Value :=
  if path = "" then some v else partAt? v (pathKeys path)

end Courier.Markup
