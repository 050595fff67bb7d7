/-
# Classification — which kind of address a text is

`Rules.classify` decides, in this order: a name of letters and digits; a number with a plus sign;
a plain number, which is a service number, a number to expand into international form, or a
national number; anything else is kept as it is with its type unknown.  Outer blanks never count,
and the separators between digits are dropped.
-/
import Courier.Address.Rules

namespace Courier.Rules

open Courier.Text (trimChars)

/-! ## Shapes -/

/-- What may stand between the digits of a number. -/
def isSeparator (c : Char) : Bool := c = ' ' || c = '-' || c = '.' || c = '(' || c = ')'

/-- The digits of a text that holds nothing but digits, at least one, and separators. -/
def digitsOf? (cs : List Char) : Option (List Char) :=
  if cs.all (fun c => c.isDigit || isSeparator c) && cs.any Char.isDigit then
    some (cs.filter Char.isDigit)
  else none

/-- A name: letters, digits and spaces, not too many, and not digits alone. -/
def isName (rules : Rules) (cs : List Char) : Bool :=
  cs ≠ [] && cs.length ≤ rules.maxAlphanumericLength
    && cs.all (fun c => c.isAlphanum || c = ' ') && cs.any (fun c => !c.isDigit)

/-- The international form of national digits, where the rules give one. -/
def expand? (rules : Rules) (digits : List Char) : Option (List Char) :=
  if !rules.international || rules.trunk.toList = [] then none
  else
    match rules.countryCode, rules.trunk.toList.isPrefixOf? digits with
    | some code, some (d :: ds) => some (code.toList ++ d :: ds)
    | _, _ => none

/-! ## Answers -/

/-- A text whose shape is not known. -/
def malformed (cs : List Char) : Address := ⟨String.ofList cs, .unknown, .unknown⟩

/-- The address of a number without a plus sign, given its digits. -/
def classifyDigits (rules : Rules) (digits : List Char) : Address :=
  if rules.shortCode && !rules.international && digits.length ≤ rules.maxShortCodeLength then
    ⟨String.ofList digits, .unknown, .unknown⟩
  else
    match rules.expand? digits with
    | some number => ⟨String.ofList number, .international, .isdn⟩
    | none => ⟨String.ofList digits, .national, .isdn⟩

/-- The address of a text without outer blanks. -/
def classifyTrimmed (rules : Rules) (cs : List Char) : Address :=
  if rules.isName cs then ⟨String.ofList cs, .alphanumeric, .unknown⟩
  else
    match cs with
    | '+' :: rest =>
      match digitsOf? rest with
      | some digits => ⟨String.ofList digits, .international, .isdn⟩
      | none => malformed cs
    | _ =>
      match digitsOf? cs with
      | some digits => rules.classifyDigits digits
      | none => malformed cs

/-- The address of a text. -/
def classify (rules : Rules) (raw : String) : Address :=
  rules.classifyTrimmed (trimChars raw.toList)

end Courier.Rules
