/-
# Shortest decimals — the fewest digits that read back as the same float

A finite float is `m · 2^q`, and the reals that round to it form an interval around it whose ends
belong to it when `m` is even.  For one, two, … digits the two neighbours of the float on that
decimal grid are tested in exact arithmetic; the first grid with a hit wins, and of two hits the
nearer one.

`Magnitude` is what a float is apart from its sign, `shortest` the digits, and the functions at
the end place the point.
-/

namespace Courier.Decimal

/-! ## Decoding -/

/-- What the bits of a float say. -/
inductive Magnitude where
  | nan
  | infinite
  /-- The number `m · 2^q`; `narrow` marks a power of two whose lower neighbour is closer. -/
  | finite (m : Nat) (q : Int) (narrow : Bool)
  deriving DecidableEq, Repr

/-- One above the greatest fraction, which has 52 bits. -/
def fractionSize : Nat := Nat.pow 2 52

/-- The sign of a float (`true` when it is set) and its magnitude: the lowest 52 bits are the
fraction, the next eleven the exponent and the last one the sign. -/
def decode (f : Float) : Bool × Magnitude :=
  let bits := f.toBits.toNat
  let fraction := bits % fractionSize
  let exponent : Nat := bits / fractionSize % 2048
  let magnitude :=
    if exponent = 2047 then (if fraction = 0 then .infinite else .nan)
    else if exponent = 0 then .finite fraction (-1074) false
    else .finite (fraction + fractionSize) ((exponent : Int) - 1075) (fraction = 0 && exponent ≠ 1)
  (fractionSize * 2048 ≤ bits, magnitude)

/-! ## Digits -/

/-- A positive rational and the interval around it, over one denominator. -/
structure Target where
  low : Nat
  mid : Nat
  high : Nat
  den : Nat
  /-- The ends belong to the interval. -/
  closed : Bool
  deriving Repr

/-- The interval of the reals that round to `m · 2^q`. -/
def Target.ofBinary (m : Nat) (q : Int) (narrow : Bool) : Target :=
  let scale := Nat.pow 2 (q - 2).toNat
  { low := (4 * m - if narrow then 1 else 2) * scale
    mid := 4 * m * scale
    high := (4 * m + 2) * scale
    den := Nat.pow 2 (2 - q).toNat
    closed := m % 2 = 0 }

/-- `10^e · den` and `mid`, brought to integers whatever the sign of `e`. -/
def Target.onGrid (t : Target) (e : Int) : Nat × Nat × Nat × Nat :=
  let up := Nat.pow 10 (-e).toNat
  (t.low * up, t.mid * up, t.high * up, t.den * Nat.pow 10 e.toNat)

/-- The exponent of the first digit: the greatest `e` with `10^e` at most the number. -/
def Target.leading (t : Target) : Int :=
  if t.den ≤ t.mid then ((Nat.toDigits 10 (t.mid / t.den)).length : Int) - 1
  else
    let digits := (Nat.toDigits 10 (t.den / t.mid)).length
    if t.den ≤ t.mid * Nat.pow 10 (digits - 1) then -((digits : Int) - 1) else -(digits : Int)

/-- True when `c · 10^e` lies in the interval. -/
def Target.holds (t : Target) (e : Int) (c : Nat) : Bool :=
  let (low, _, high, unit) := t.onGrid e
  if t.closed then low ≤ c * unit && c * unit ≤ high else low < c * unit && c * unit < high

/-- The neighbour on the grid of step `10^e` that reads back, the nearer one if both do. -/
def Target.hit? (t : Target) (e : Int) : Option Nat :=
  let (_, mid, _, unit) := t.onGrid e
  let below := mid / unit
  let rest := mid % unit
  match t.holds e below, t.holds e (below + 1) with
  | true, true =>
    some (if 2 * rest < unit || (2 * rest = unit && below % 2 = 0) then below else below + 1)
  | true, false => some below
  | false, true => some (below + 1)
  | false, false => none

/-- Tries grids from the coarsest on; `fuel` grids at most. -/
def Target.search (t : Target) (e : Int) : Nat → Nat × Int
  | 0 => let (_, mid, _, unit) := t.onGrid e; (mid / unit, e)
  | fuel + 1 =>
    match t.hit? e with
    | some c => (c, e)
    | none => t.search (e - 1) fuel

/-- Moves the zeros at the end of a coefficient into the exponent. -/
def stripZeros : Nat → Nat → Int → Nat × Int
  | 0, c, e => (c, e)
  | fuel + 1, c, e => if c ≠ 0 && c % 10 = 0 then stripZeros fuel (c / 10) (e + 1) else (c, e)

/-- The coefficient and exponent of the shortest decimal that reads back as `m · 2^q`. -/
def shortest (m : Nat) (q : Int) (narrow : Bool) : Nat × Int :=
  if m = 0 then (0, 0)
  else
    let t := Target.ofBinary m q narrow
    let (c, e) := t.search t.leading 17
    stripZeros 20 c e

/-! ## Placing the point -/

/-- `coefficient · 10^exponent` without an exponent. -/
def positional (coefficient : Nat) (exponent : Int) : String :=
  let digits := Nat.toDigits 10 coefficient
  if 0 ≤ exponent then String.ofList (digits ++ List.replicate exponent.toNat '0')
  else
    let places := (-exponent).toNat
    let padded := List.replicate (places + 1 - digits.length) '0' ++ digits
    String.ofList (padded.take (padded.length - places) ++ '.' :: padded.drop (padded.length - places))

/-- `coefficient · 10^exponent` with one digit before the point and a signed exponent. -/
def scientific (coefficient : Nat) (exponent : Int) : String :=
  match Nat.toDigits 10 coefficient with
  | [] => ""
  | first :: rest =>
    let e := exponent + rest.length
    let tail := if rest = [] then [] else '.' :: rest
    String.ofList (first :: tail) ++ "e" ++ (if e < 0 then "-" else "+") ++ toString e.natAbs

/-- How a float is written. -/
structure Style where
  /-- The least exponent of the first digit that is written without `e`. -/
  least : Int
  /-- The greatest such exponent. -/
  greatest : Int
  /-- A whole number ends in `.0`. -/
  pointZero : Bool
  deriving Repr

/-- Writes the sign and the magnitude of a float. -/
def Style.write (style : Style) (f : Float) : String :=
  let (negative, magnitude) := decode f
  let sign := if negative then "-" else ""
  match magnitude with
  | .nan => "NaN"
  | .infinite => sign ++ "inf"
  | .finite m q narrow =>
    let (c, e) := shortest m q narrow
    let first := e + (Nat.toDigits 10 c).length - 1
    if m ≠ 0 && (first < style.least || style.greatest < first) then sign ++ scientific c e
    else
      let whole := if style.pointZero && 0 ≤ e then ".0" else ""
      sign ++ positional c e ++ whole

/-- Every digit is written out and a whole number has no point. -/
def plain : Style := ⟨-400, 400, false⟩

/-- Every digit is written out and a whole number ends in `.0`. -/
def pointed : Style := ⟨-400, 400, true⟩

/-- Numbers far from one have an exponent, and a whole number ends in `.0`. -/
def compact : Style := ⟨-5, 15, true⟩

end Courier.Decimal
