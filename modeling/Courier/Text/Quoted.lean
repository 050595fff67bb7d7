/-
# Quoted text — a text between double quotes, every odd character escaped

A quote, a backslash, a tab, a line feed, a carriage return and the NUL character have a short
escape.  Any other character that does not print, or that would join the one before it, is written
by its code point in hexadecimal between braces.  All else stands for itself.

`List`s and options of quoted things are written with brackets and with `Some(…)` and `None`.
-/
import Courier.Text.Printable

namespace Courier.Text

/-- The hexadecimal digits of a number, lower case, at least one. -/
def hexDigits (n : Nat) : List Char := Nat.toDigits 16 n

/-- A character as it stands between double quotes. -/
def escapeQuoted (c : Char) : List Char :=
  if c = '\x00' then ['\\', '0']
  else if c = '\t' then ['\\', 't']
  else if c = '\n' then ['\\', 'n']
  else if c = '\r' then ['\\', 'r']
  else if c = '\x22' then ['\\', '\x22']
  else if c = '\\' then ['\\', '\\']
  else if extendsGrapheme c || isUnprintable c then
    ['\\', 'u', '\x7b'] ++ hexDigits c.toNat ++ ['\x7d']
  else [c]

/-- The text between double quotes, escaped. -/
def quoted (s : String) : String :=
  "\"" ++ String.ofList (s.toList.flatMap escapeQuoted) ++ "\""

/-- Items between brackets, with a comma and a space between neighbours. -/
def bracketed (items : List String) : String := "[" ++ ", ".intercalate items ++ "]"

/-- An optional thing, written out. -/
def optional (write : α → String) : Option α → String
  | none => "None"
  | some a => "Some(" ++ write a ++ ")"

end Courier.Text
