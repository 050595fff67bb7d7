/-
# Configuration values — what a configuration file says

A file says a table: values by name, in the order in which they came up.  Besides texts, numbers
and truth values there are moments: a date, a time, or both, perhaps with the distance to
universal time.
-/
import Courier.Json.Value

namespace Courier.Toml

/-! ## Moments -/

/-- A day. -/
structure Date where
  year : Nat
  month : Nat
  day : Nat
  deriving DecidableEq, Repr

/-- A time of the day. -/
structure Time where
  hour : Nat
  minute : Nat
  second : Nat
  nanosecond : Nat
  deriving DecidableEq, Repr

/-- The distance to universal time. -/
inductive Offset where
  | zulu
  | minutes (m : Int)
  deriving DecidableEq, Repr

/-- A date, a time, or both. -/
inductive Moment where
  | date (d : Date)
  | time (t : Time)
  | both (d : Date) (t : Time) (offset : Option Offset)
  deriving DecidableEq, Repr

/-- A number with zeros in front, to a width. -/
def padded (width n : Nat) : String :=
  let digits := Nat.toDigits 10 n
  String.ofList (List.replicate (width - digits.length) '0' ++ digits)

/-- A day as text. -/
def Date.text (d : Date) : String :=
  padded 4 d.year ++ "-" ++ padded 2 d.month ++ "-" ++ padded 2 d.day

/-- A time as text; the fraction of a second has no zeros at its end. -/
def Time.text (t : Time) : String :=
  let fraction := (padded 9 t.nanosecond).toList.reverse.dropWhile (· = '0')
  padded 2 t.hour ++ ":" ++ padded 2 t.minute ++ ":" ++ padded 2 t.second
    ++ if fraction = [] then "" else String.ofList ('.' :: fraction.reverse)

/-- A distance as text. -/
def Offset.text : Offset → String
  | .zulu => "Z"
  | .minutes m =>
    (if m < 0 then "-" else "+") ++ padded 2 (m.natAbs / 60) ++ ":" ++ padded 2 (m.natAbs % 60)

/-- A moment as text. -/
def Moment.text : Moment → String
  | .date d => d.text
  | .time t => t.text
  | .both d t offset => d.text ++ "T" ++ t.text ++ ((offset.map (·.text)).getD "")

/-! ## Values -/

/-- What a configuration file says. -/
inductive Value where
  | text (s : String)
  | int (i : Int)
  | float (f : Float)
  | bool (b : Bool)
  | moment (m : Moment)
  | list (items : List Value)
  | table (entries : List (String × Value))
  deriving Repr, Inhabited

/-- A table: values by name. -/
abbrev Table := List (String × Value)

/-- The name under which a moment stands where a table is asked for. -/
def momentName : String := "$__toml_private_datetime"

/-- What a value holds if it is taken for a table. -/
def Value.entries? : Value → Option Table
  | .table es => some es
  | .moment m => some [(momentName, .text m.text)]
  | _ => none

mutual
/-- A value as a document. -/
def Value.toJson : Value → Json.Value
  | .text s => .text s
  | .int i => .int i
  | .float f => .number (.float f)
  | .bool b => .bool b
  | .moment m => .object [(momentName, .text m.text)]
  | .list items => .list (itemsToJson items)
  | .table entries => .object (entriesToJson entries)

/-- The items of a list as documents. -/
def itemsToJson : List Value → List Json.Value
  | [] => []
  | v :: vs => v.toJson :: itemsToJson vs

/-- The entries of a table as members of a document. -/
def entriesToJson : List (String × Value) → List (String × Json.Value)
  | [] => []
  | (name, v) :: es => (name, v.toJson) :: entriesToJson es
end

end Courier.Toml
