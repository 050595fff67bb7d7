/-
# Tests and functions that every template can use

A test gets the value of a variable, if it has one, and arguments by position.  A function gets
named arguments.  `environment` is what a template can see of the variables of the process.
-/
import Courier.Markup.Argument
import Courier.Text.Pattern

namespace Courier.Markup

open Json (Value)

/-! ## Tests -/

/-- What a test says of a variable. -/
abbrev Test := Option Value → List Value → Except String Bool

/-- Refuses more arguments than a test takes. -/
def atMost (name : String) (most : Nat) (args : List Value) : Except String Unit :=
  if args.length ≤ most then .ok ()
  else if most = 0 then
    .error ("Tester `" ++ name ++ "` was called with some args but this test doesn't take args")
  else
    .error ("Tester `" ++ name ++ "` was called with " ++ toString args.length
      ++ " args, the max number is " ++ toString most)

/-- The value of the variable, which has to be there. -/
def present (name : String) : Option Value → Except String Value
  | some v => .ok v
  | none => .error ("Tester `" ++ name ++ "` was called on an undefined variable")

/-- The text of a value; `part` says which value. -/
def textOf (name part : String) : Option Value → Except String String
  | some (.text s) => .ok s
  | _ => .error ("Tester `" ++ name ++ "` was called " ++ part ++ " that isn't a string")

/-- A test of a variable that is there, without arguments. -/
def ofValue (name : String) (holds : Value → Except String Bool) : Test := fun v args => do
  atMost name 0 args
  holds (← present name v)

/-- A test of a text with a text. -/
def ofTexts (name : String) (holds : String → String → Except String Bool) : Test :=
  fun v args => do
    atMost name 1 args
    let v ← present name v
    let s ← textOf name "on a variable" (some v)
    holds s (← textOf name "with a parameter" args.head?)

/-- Whether a number is odd. -/
def isOdd : Value → Except String Bool
  | .number n => .ok (Decimal.remainder (toFloat n) 2.0 != 0.0)
  | _ => .error "Tester `odd` was called on a variable that isn't a number"

/-- Whether a number divides another. -/
def isDivisible : Test := fun v args => do
  atMost "divisibleby" 1 args
  match ← present "divisibleby" v with
  | .number n =>
    match args.head? with
    | some (.number d) => .ok (Decimal.remainder (toFloat n) (toFloat d) == 0.0)
    | _ => .error "Tester `divisibleby` was called with a parameter that isn't a number"
  | _ => .error "Tester `divisibleby` was called on a variable that isn't a number"

/-- Whether a text, a list or an object contains something. -/
def contains : Test := fun v args => do
  atMost "containing" 1 args
  match ← present "containing" v with
  | .text s =>
    return Text.occurs (← textOf "containing" "with a parameter" args.head?).toList s.toList
  | .list items => return items.any (· == args.head?.getD .null)
  | .object members =>
    return (Entries.find? (← textOf "containing" "with a parameter" args.head?) members).isSome
  | _ => .error "Tester `containing` can only be used on string, array or map"

/-- Whether a text matches a pattern. -/
def matchesPattern (s pattern : String) : Except String Bool :=
  match Text.Pattern.read pattern with
  | some p => .ok (p.occursIn s)
  | none => .error "Tester `matching`: Invalid regular expression: regex parse error"

/-- All tests by name. -/
def tests : List (String × Test) := [
  ("defined", fun v args => do atMost "defined" 0 args; return v.isSome),
  ("undefined", fun v args => do atMost "undefined" 0 args; return v.isNone),
  ("odd", ofValue "odd" isOdd),
  ("even", ofValue "even" fun v => do return !(← isOdd v)),
  ("string", ofValue "string" fun
    | .text _ => .ok true
    | _ => .ok false),
  ("number", ofValue "number" fun
    | .number _ => .ok true
    | _ => .ok false),
  ("divisibleby", isDivisible),
  ("iterable", ofValue "iterable" fun
    | .list _ | .object _ => .ok true
    | _ => .ok false),
  ("object", ofValue "object" fun
    | .object _ => .ok true
    | _ => .ok false),
  ("starting_with", ofTexts "starting_with" fun s w => .ok (w.toList.isPrefixOf s.toList)),
  ("ending_with", ofTexts "ending_with" fun s w => .ok (w.toList.isSuffixOf s.toList)),
  ("containing", contains),
  ("matching", ofTexts "matching" matchesPattern)]

/-! ## Functions -/

/-- A natural number among the arguments of `range`. -/
def rangeArgument (given shownAs : String) (args : Arguments) : Except String (Option Nat) :=
  match args.lookup given with
  | none => .ok none
  | some v =>
    match Kind.size.read v with
    | some i => .ok (some i.toNat)
    | none => .error ("Function `range` received " ++ given ++ "=" ++ v.write ++ " but `"
        ++ shownAs ++ "` can only be a number")

/-- The numbers from one to another in equal steps. -/
def range : Filter := fun _ args => do
  let start := (← rangeArgument "start" "start" args).getD 0
  let step := (← rangeArgument "step_by" "step" args).getD 1
  match ← rangeArgument "end" "end" args with
  | none => .error "Function `range` was called without a `end` argument"
  | some stop =>
    if stop < start then
      .error "Function `range` was called with a `start` argument greater than the `end` one"
    else
      let count := (stop - start + (step - 1)) / step
      return .list ((List.range count).map fun i => .int (start + i * step : Nat))

/-- Fails with a message. -/
def throwMessage : Filter := fun _ args =>
  match args.lookup "message" with
  | some (.text s) => .error s
  | some v => .error ("Function `throw` received message=" ++ v.write
      ++ " but `message` can only be a string")
  | none => .error "Function `throw` was called without a `message` argument"

/-- The value of a variable of the process. -/
def environmentVariable (environment : String → Option String) : Filter := fun _ args =>
  match args.lookup "name" with
  | some (.text name) =>
    match environment name, args.lookup "default" with
    | some s, _ => .ok (.text s)
    | none, some v => .ok v
    | none, none => .error ("Environment variable `" ++ name ++ "` not found")
  | some v => .error ("Function `get_env` received name=" ++ v.write
      ++ " but `name` can only be a string")
  | none => .error "Function `get_env` was called without a `name` argument"

/-- All functions by name. -/
def functions (environment : String → Option String) : List (String × (Arguments → Except String Value)) :=
  [("range", range .null), ("throw", throwMessage .null),
   ("get_env", environmentVariable environment .null)]

end Courier.Markup
