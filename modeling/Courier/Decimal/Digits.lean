/-
# Reading decimals — from digits to numbers

`natOfDigits` reads digits in base ten, `ofRadix` in any base up to sixteen, and `toFloat` gives
the float nearest to `coefficient · 10^exponent`.
-/

namespace Courier.Decimal

/-- The number that decimal digits spell; the empty list spells zero. -/
def natOfDigits (digits : List Char) : Nat :=
  digits.foldl (fun n c => n * 10 + (c.toNat - 48)) 0

/-- The value of a digit in bases up to sixteen. -/
def digitValue (c : Char) : Nat :=
  if c.isDigit then c.toNat - 48
  else if 'a' ≤ c && c ≤ 'f' then c.toNat - 87
  else if 'A' ≤ c && c ≤ 'F' then c.toNat - 55
  else 16

/-- The number that digits of a base spell. -/
def ofRadix (radix : Nat) (digits : List Char) : Nat :=
  digits.foldl (fun n c => n * radix + digitValue c) 0

/-- The float nearest to `coefficient · 10^exponent`, infinite when that is out of range. -/
def toFloat (coefficient : Nat) (exponent : Int) : Float :=
  if coefficient = 0 then 0.0
  else
    let size : Int := (Nat.toDigits 10 coefficient).length + exponent
    if 400 < size then 1.0 / 0.0
    else if size < -400 then 0.0
    else Float.ofScientific coefficient (exponent < 0) exponent.natAbs

end Courier.Decimal
