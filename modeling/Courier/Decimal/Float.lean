/-
# Operations on floats — exact remainders, powers and conversions

A finite float is an integer times a power of two, so its remainder by another is an exact
integer remainder on the finer of the two scales.
-/
import Courier.Decimal.Digits
import Courier.Decimal.Shortest

namespace Courier.Decimal

/-- The float nearest to an integer. -/
def ofInt (i : Int) : Float :=
  let f := toFloat i.natAbs 0
  if i < 0 then -f else f

/-- The remainder of a division whose quotient is cut towards zero; it has the sign of `a`. -/
def remainder (a b : Float) : Float :=
  match decode a, decode b with
  | (_, .nan), _ => a
  | _, (_, .nan) => b
  | (_, .infinite), _ => 0.0 / 0.0
  | _, (_, .infinite) => a
  | (negative, .finite m q _), (_, .finite n r _) =>
    if n = 0 then 0.0 / 0.0
    else
      let scale := min q r
      let rest := (m * Nat.pow 2 (q - scale).toNat) % (n * Nat.pow 2 (r - scale).toNat)
      let f := (Float.ofNat rest).scaleB scale
      if negative then -f else f

/-- A power by repeated squaring; a negative exponent gives the inverse of the power. -/
def power (base : Float) (exponent : Int) : Float :=
  let rec go : Nat → Float → Nat → Float → Float
    | 0, _, _, r => r
    | fuel + 1, a, n, r =>
      let r := if n % 2 = 1 then r * a else r
      if n / 2 = 0 then r else go fuel (a * a) (n / 2) r
  let r := go 64 base exponent.natAbs 1.0
  if exponent < 0 then 1.0 / r else r

/-- The integer of 64 bits nearest to a float on the side of zero. -/
def toInt64 (f : Float) : Int := f.toInt64.toInt

/-- Reads the text of a float: digits with a point and an exponent, or a word for infinity or for
no number. -/
def readFloat? (cs : List Char) : Option Float :=
  let (negative, cs) := match cs with
    | '-' :: rest => (true, rest)
    | '+' :: rest => (false, rest)
    | cs => (false, cs)
  let magnitude : Option Float :=
    let word := String.ofList (cs.map Char.toLower)
    if word = "inf" || word = "infinity" then some (1.0 / 0.0)
    else if word = "nan" then some (0.0 / 0.0)
    else
      let whole := cs.takeWhile Char.isDigit
      let rest := cs.dropWhile Char.isDigit
      let (fraction, rest) := match rest with
        | '.' :: rest => (rest.takeWhile Char.isDigit, rest.dropWhile Char.isDigit)
        | rest => ([], rest)
      if whole = [] && fraction = [] then none
      else
        let coefficient := natOfDigits (whole ++ fraction)
        let places : Int := fraction.length
        match rest with
        | [] => some (toFloat coefficient (-places))
        | c :: rest =>
          if c = 'e' || c = 'E' then
            let (minus, digits) := match rest with
              | '-' :: rest => (true, rest)
              | '+' :: rest => (false, rest)
              | rest => (false, rest)
            if digits = [] || !digits.all Char.isDigit then none
            else
              let e : Int := natOfDigits digits
              some (toFloat coefficient ((if minus then -e else e) - places))
          else none
  magnitude.map fun f => if negative then -f else f

end Courier.Decimal
