/-
# IP addresses — numbers that stand where a host does

An address of version 4 is one number of 32 bits, written as up to four parts in base ten, eight
(after `0`) or sixteen (after `0x`); the last part fills what the others leave.  An address of
version 6 is eight pieces of 16 bits; one run of zeros may be left out.
-/
import Courier.Decimal.Digits

namespace Courier.Url

/-! ## Version 4 -/

/-- A part of an address: its value, if the digits are those of its base. -/
def ipv4Part? (cs : List Char) : Option Nat :=
  let (radix, digits) := match cs with
    | '0' :: 'x' :: rest => (16, rest)
    | '0' :: 'X' :: rest => (16, rest)
    | '0' :: c :: rest => (8, c :: rest)
    | cs => (10, cs)
  if cs ≠ [] && digits.all (Decimal.digitValue · < radix) then some (Decimal.ofRadix radix digits)
  else none

/-- The parts of a host between its dots; a dot at the end ends the last part. -/
def dottedParts (host : List Char) : List (List Char) :=
  let parts := host.splitOn '.'
  if 1 < parts.length && parts.getLast? = some [] then parts.dropLast else parts

/-- True when the last part of a host is a number, so that the host has to be an address. -/
def endsInNumber (host : List Char) : Bool :=
  match (dottedParts host).getLast? with
  | none => false
  | some part => (part ≠ [] && part.all Char.isDigit) || (ipv4Part? part).isSome

/-- The number that parts stand for; each part but the last is one byte. -/
def joinParts : Nat → List Nat → Option Nat
  | _, [] => none
  | room, [last] => if last < 256 ^ room then some last else none
  | room, n :: ns =>
    if n < 256 then (joinParts (room - 1) ns).map (n * 256 ^ (room - 1) + ·) else none

/-- The address that a host spells. -/
def ipv4? (host : List Char) : Option Nat := do
  let parts ← (dottedParts host).mapM ipv4Part?
  if 4 < parts.length then none else joinParts 4 parts

/-- An address as four parts. -/
def ipv4Text (n : Nat) : String :=
  ".".intercalate ([n / 16777216, n / 65536 % 256, n / 256 % 256, n % 256].map toString)

/-! ## Version 6 -/

/-- A part of an embedded address of version 4: a byte without zeros in front. -/
def byte? (digits : List Char) : Option Nat :=
  if digits = [] || !digits.all Char.isDigit || (digits.head? = some '0' && 1 < digits.length) then
    none
  else
    let n := Decimal.natOfDigits digits
    if n < 256 then some n else none

/-- The two pieces of an embedded address of version 4. -/
def embedded? (cs : List Char) : Option (List Nat) := do
  match ← (cs.splitOn '.').mapM byte? with
  | [a, b, c, d] => some [a * 256 + b, c * 256 + d]
  | _ => none

/-- The pieces of a group between two colons; only the last one can be of version 4. -/
def group? (final : Bool) (cs : List Char) : Option (List Nat) :=
  if final && cs.contains '.' then embedded? cs
  else if cs ≠ [] && cs.length ≤ 4 && cs.all (Decimal.digitValue · < 16) then
    some [Decimal.ofRadix 16 cs]
  else none

/-- The pieces of groups. -/
def groups? (final : Bool) : List (List Char) → Option (List Nat)
  | [] => some []
  | [g] => group? final g
  | g :: gs => do return (← group? false g) ++ (← groups? final gs)

/-- The pieces of one side of a gap; nothing at all is no pieces. -/
def side? (final : Bool) (cs : List Char) : Option (List Nat) :=
  if cs = [] then some [] else groups? final (cs.splitOn ':')

/-- What stands before and after the first two colons in a row. -/
def cutAtGap : List Char → Option (List Char × List Char)
  | ':' :: ':' :: rest => some ([], rest)
  | c :: cs => (cutAtGap cs).map fun (before, rest) => (c :: before, rest)
  | [] => none

/-- The eight pieces that a text between brackets spells; a gap stands for at least one zero. -/
def ipv6? (cs : List Char) : Option (List Nat) :=
  match cutAtGap cs with
  | none => do
    let pieces ← groups? true (cs.splitOn ':')
    if pieces.length = 8 then some pieces else none
  | some (before, rest) => do
    let left ← side? false before
    let right ← side? true rest
    if left.length + right.length < 8 then
      some (left ++ List.replicate (8 - left.length - right.length) 0 ++ right)
    else none

/-- The start and the length of the longest run of zeros, the first of the longest ones; `at'` is
the place of the first piece, and `run` the length of the run before it. -/
def longestZeros : Nat → Nat → List Nat → Nat × Nat
  | at', run, [] => (at' - run, run)
  | at', run, n :: ns =>
    if n = 0 then longestZeros (at' + 1) (run + 1) ns
    else
      let later := longestZeros (at' + 1) 0 ns
      if run < later.2 then later else (at' - run, run)

/-- A number in base sixteen. -/
def hexText (n : Nat) : String := String.ofList (Nat.toDigits 16 n)

/-- Pieces with a colon between any two. -/
def piecesText (pieces : List Nat) : String := ":".intercalate (pieces.map hexText)

/-- Eight pieces; the longest run of two zeros or more is left out. -/
def ipv6Text (pieces : List Nat) : String :=
  let (start, run) := longestZeros 0 0 pieces
  if run < 2 then piecesText pieces
  else piecesText (pieces.take start) ++ "::" ++ piecesText (pieces.drop (start + run))

end Courier.Url
