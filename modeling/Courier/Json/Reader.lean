/-
# Reading JSON — from text to values

Members of an object are kept as a map: the keys increase and a later member replaces an earlier
one of the same name.  A number without a fraction and an exponent that fits 64 bits is an integer
(`-0` apart); any other number is a float, computed from its first digits, as many as fit 64 bits,
by one multiplication or division by a power of ten.
-/
import Courier.Decimal.Digits
import Courier.Decimal.Range
import Courier.Json.Value
import Courier.Text.Blank

namespace Courier.Json

/-- Drops the four blanks of JSON. -/
def skipBlanks (cs : List Char) : List Char :=
  cs.dropWhile fun c => c = ' ' || c = '\n' || c = '\r' || c = '\t'

/-- The value of a hexadecimal digit. -/
def hexValue? (c : Char) : Option Nat :=
  if '0' ≤ c && c ≤ '9' then some (c.toNat - 48)
  else if 'a' ≤ c && c ≤ 'f' then some (c.toNat - 87)
  else if 'A' ≤ c && c ≤ 'F' then some (c.toNat - 55)
  else none

/-- The number that four hexadecimal digits spell, and what follows them. -/
def hex4? : List Char → Option (Nat × List Char)
  | a :: b :: c :: d :: rest => do
    let a ← hexValue? a
    let b ← hexValue? b
    let c ← hexValue? c
    let d ← hexValue? d
    return (((a * 16 + b) * 16 + c) * 16 + d, rest)
  | _ => none

/-- The character after a backslash, and what follows; two surrogates make one character. -/
def escaped? : List Char → Option (Char × List Char)
  | 'n' :: rest => some ('\n', rest)
  | 't' :: rest => some ('\t', rest)
  | 'r' :: rest => some ('\r', rest)
  | 'b' :: rest => some ('\x08', rest)
  | 'f' :: rest => some ('\x0c', rest)
  | '/' :: rest => some ('/', rest)
  | '\\' :: rest => some ('\\', rest)
  | 'u' :: rest => do
    let (n, rest) ← hex4? rest
    if 0xD800 ≤ n && n < 0xDC00 then
      match rest with
      | '\\' :: 'u' :: rest =>
        let (m, rest) ← hex4? rest
        if 0xDC00 ≤ m && m < 0xE000 then
          some (Char.ofNat (0x10000 + (n - 0xD800) * 0x400 + (m - 0xDC00)), rest)
        else none
      | _ => none
    else if 0xDC00 ≤ n && n < 0xE000 then none
    else some (Char.ofNat n, rest)
  | c :: rest => if c = '\x22' then some (c, rest) else none
  | [] => none

/-- Reads a string after its first quote; `acc` holds what is read, last character first. -/
def readText : Nat → List Char → List Char → Option (String × List Char)
  | 0, _, _ => none
  | _ + 1, _, [] => none
  | fuel + 1, acc, c :: rest =>
    if c = '\x22' then some (String.ofList acc.reverse, rest)
    else if c = '\\' then
      match escaped? rest with
      | some (e, rest) => readText fuel (e :: acc) rest
      | none => none
    else if c.toNat < 0x20 then none
    else readText fuel (c :: acc) rest

/-! ## Numbers -/

/-- Reads digits into a significand of 64 bits: the digits that fit, and how many did not. -/
def significand : Nat → List Char → Nat × Nat
  | acc, [] => (acc, 0)
  | acc, c :: cs =>
    let next := acc * 10 + (c.toNat - 48)
    if Decimal.unsigned64.contains next then significand next cs else (acc, cs.length + 1)

/-- `f · 10^e` by one operation on floats for exponents up to 308, and in steps of `10^308` below. -/
def scaleByTen (f : Float) (e : Int) : Option Float :=
  let power (n : Nat) : Float := Float.ofScientific 1 false n
  if 0 ≤ e then
    if f == 0.0 then some f
    else if 308 < e then none
    else
      let g := f * power e.toNat
      if g.isInf then none else some g
  else if e < -1000 then some 0.0
  else
    let n := (-e).toNat
    some (if n ≤ 308 then f / power n
      else if n ≤ 616 then f / power 308 / power (n - 308)
      else f / power 308 / power 308 / power (n - 616))

/-- Reads a number that may begin with a minus sign. -/
def readNumber (cs : List Char) : Option (Number × List Char) := do
  let (negative, cs) := match cs with
    | '-' :: cs => (true, cs)
    | cs => (false, cs)
  let whole := cs.takeWhile Char.isDigit
  let cs := cs.dropWhile Char.isDigit
  if whole = [] || (whole.length > 1 && whole.head? = some '0') then none
  let (fraction, cs) ← match cs with
    | '.' :: rest =>
      let digits := rest.takeWhile Char.isDigit
      if digits = [] then none else some (some digits, rest.dropWhile Char.isDigit)
    | cs => some (none, cs)
  let (exponent, cs) ← match cs with
    | c :: rest =>
      if c = 'e' || c = 'E' then
        let (minus, rest) := match rest with
          | '-' :: rest => (true, rest)
          | '+' :: rest => (false, rest)
          | rest => (false, rest)
        let digits := rest.takeWhile Char.isDigit
        if digits = [] then none
        else
          let n : Int := Decimal.natOfDigits digits
          some (some (if minus then -n else n), rest.dropWhile Char.isDigit)
      else some (none, c :: rest)
    | [] => some (none, [])
  let (first, dropped) := significand 0 whole
  if fraction.isNone && exponent.isNone && dropped = 0 && (!negative || first ≠ 0)
      && (!negative || Decimal.signed64.contains (-(first : Int))) then
    return (.int (if negative then -(first : Int) else first), cs)
  let (all, beyond) := if dropped = 0 then significand first (fraction.getD []) else (first, 0)
  let places : Int := if dropped = 0 then ((fraction.getD []).length : Int) - beyond else 0
  let f ← scaleByTen (Float.ofNat all) (exponent.getD 0 + dropped - places)
  return (.float (if negative then -f else f), cs)

/-! ## Values -/

mutual
/-- Reads a value; `fuel` bounds the number of steps. -/
def readValue : Nat → List Char → Option (Value × List Char)
  | 0, _ => none
  | fuel + 1, cs =>
    match skipBlanks cs with
    | 'n' :: 'u' :: 'l' :: 'l' :: rest => some (.null, rest)
    | 't' :: 'r' :: 'u' :: 'e' :: rest => some (.bool true, rest)
    | 'f' :: 'a' :: 'l' :: 's' :: 'e' :: rest => some (.bool false, rest)
    | '[' :: rest =>
      match skipBlanks rest with
      | ']' :: rest => some (.list [], rest)
      | rest => readItems fuel [] rest
    | '\x7b' :: rest =>
      match skipBlanks rest with
      | '\x7d' :: rest => some (.object [], rest)
      | rest => readMembers fuel [] rest
    | '\x22' :: rest => (readText (rest.length + 1) [] rest).map fun (s, rest) => (.text s, rest)
    | rest => (readNumber rest).map fun (n, rest) => (.number n, rest)

/-- Reads the items of a list up to its bracket. -/
def readItems : Nat → List Value → List Char → Option (Value × List Char)
  | 0, _, _ => none
  | fuel + 1, acc, cs =>
    match readValue fuel cs with
    | none => none
    | some (v, rest) =>
      match skipBlanks rest with
      | ',' :: rest => readItems fuel (v :: acc) rest
      | ']' :: rest => some (.list (v :: acc).reverse, rest)
      | _ => none

/-- Reads the members of an object up to its brace. -/
def readMembers : Nat → List (String × Value) → List Char → Option (Value × List Char)
  | 0, _, _ => none
  | fuel + 1, acc, cs =>
    match skipBlanks cs with
    | '\x22' :: rest =>
      match readText (rest.length + 1) [] rest with
      | none => none
      | some (name, rest) =>
        match skipBlanks rest with
        | ':' :: rest =>
          match readValue fuel rest with
          | none => none
          | some (v, rest) =>
            match skipBlanks rest with
            | ',' :: rest => readMembers fuel (Entries.insert name v acc) rest
            | '\x7d' :: rest => some (.object (Entries.insert name v acc), rest)
            | _ => none
        | _ => none
    | _ => none
end

/-- The value that a text spells, if it is JSON. -/
def read (s : String) : Option Value :=
  let cs := s.toList
  match readValue (2 * cs.length + 2) cs with
  | some (v, rest) => if skipBlanks rest = [] then some v else none
  | none => none

end Courier.Json
