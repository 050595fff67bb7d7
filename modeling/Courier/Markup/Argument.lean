/-
# Arguments — the values that filters, tests and functions take

Each kind of argument has a name, which errors show, and a reading of values.
-/
import Courier.Decimal.Range
import Courier.Markup.Value

namespace Courier.Markup

open Json (Value)

/-- Named arguments. -/
abbrev Arguments := List (String × Value)

/-- A kind of argument. -/
structure Kind (α : Type) where
  name : String
  read : Value → Option α

namespace Kind

/-- Integers from a range. -/
def integer (name : String) (range : Decimal.Range) : Kind Int :=
  ⟨name, fun
    | .number (.int i) => if range.contains i then some i else none
    | _ => none⟩

/-- Texts. -/
def text : Kind String :=
  ⟨"String", fun
    | .text s => some s
    | _ => none⟩

/-- Truth values. -/
def bool : Kind Bool :=
  ⟨"bool", fun
    | .bool b => some b
    | _ => none⟩

/-- Lists. -/
def list : Kind (List Value) :=
  ⟨"Vec<Value>", fun
    | .list items => some items
    | _ => none⟩

/-- Numbers, as floats. -/
def float : Kind Float :=
  ⟨"f64", fun
    | .number n => some (toFloat n)
    | _ => none⟩

/-- Places and lengths. -/
def size : Kind Int := integer "usize" Decimal.unsigned64

/-- Signed integers of 64 bits. -/
def int64 : Kind Int := integer "i64" Decimal.signed64

/-- Signed integers of 32 bits. -/
def int32 : Kind Int := integer "i32" Decimal.signed32

/-- Natural numbers of 32 bits. -/
def nat32 : Kind Int := integer "u32" Decimal.unsigned32

end Kind

/-- The value that a filter is used on. -/
def subjectOf (filter : String) (kind : Kind α) (v : Value) : Except String α :=
  match kind.read v with
  | some a => .ok a
  | none => .error ("Filter `" ++ filter ++ "` was called on an incorrect value: got `" ++ v.write
      ++ "` but expected a " ++ kind.name)

/-- An argument of a filter, if it is given. -/
def optional (filter : String) (kind : Kind α) (name : String) (args : Arguments) :
    Except String (Option α) :=
  match args.lookup name with
  | none => .ok none
  | some v =>
    match kind.read v with
    | some a => .ok (some a)
    | none => .error ("Filter `" ++ filter ++ "` received an incorrect type for arg `" ++ name
        ++ "`: got `" ++ v.write ++ "` but expected a " ++ kind.name)

/-- An argument of a filter, or a value in its place. -/
def orElse (filter : String) (kind : Kind α) (name : String) (default : α) (args : Arguments) :
    Except String α := do
  return (← optional filter kind name args).getD default

/-- An argument of a filter that has to be given; `missing` is the error if it is not. -/
def required (filter : String) (kind : Kind α) (name : String) (missing : String)
    (args : Arguments) : Except String α := do
  match ← optional filter kind name args with
  | some a => .ok a
  | none => .error missing

/-- The error of an argument that is not given. -/
def expected (filter name : String) : String :=
  "Filter `" ++ filter ++ "` expected an arg called `" ++ name ++ "`"

/-- What a filter does with a value and its arguments. -/
abbrev Filter := Value → Arguments → Except String Value

end Courier.Markup
