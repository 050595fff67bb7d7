/-
# Punycode — letters of all scripts written with ASCII letters and digits

The ASCII characters of a label come first, then a hyphen, then the other characters from the
lowest to the highest: how far each lies from the one before is a number whose digits have bases
that adapt to the numbers already written.
-/

namespace Courier.Url.Punycode

/-- A digit, from `a` for zero to `9` for thirty-five. -/
def digit (n : Nat) : Char := if n < 26 then Char.ofNat (97 + n) else Char.ofNat (22 + n)

/-- The value of a digit. -/
def digitValue? (c : Char) : Option Nat :=
  if 'a' ≤ c && c ≤ 'z' then some (c.toNat - 97)
  else if 'A' ≤ c && c ≤ 'Z' then some (c.toNat - 65)
  else if '0' ≤ c && c ≤ '9' then some (c.toNat - 22)
  else none

/-- The least digit at a position that another digit follows. -/
def threshold (position bias : Nat) : Nat := max 1 (min 26 (position - bias))

theorem one_le_threshold (position bias : Nat) : 1 ≤ threshold position bias := by
  unfold threshold; omega

theorem threshold_le (position bias : Nat) : threshold position bias ≤ 26 := by
  unfold threshold; omega

/-- Divides a number until it is small; `k` grows with each division. -/
def settle (k delta : Nat) : Nat :=
  if 455 < delta then settle (k + 36) (delta / 35) else k + 36 * delta / (delta + 38)
termination_by delta
decreasing_by exact Nat.div_lt_self (by omega) (by omega)

/-- The bias after a number; `count` characters are written so far. -/
def adapt (delta count : Nat) (first : Bool) : Nat :=
  let delta := if first then delta / 700 else delta / 2
  settle 0 (delta + delta / count)

/-- The digits of a number from a position on. -/
def digits (bias position n : Nat) : List Char :=
  let t := threshold position bias
  if n < t then [digit n]
  else digit (t + (n - t) % (36 - t)) :: digits bias (position + 36) ((n - t) / (36 - t))
termination_by n
decreasing_by
  have h₁ := one_le_threshold position bias
  have h₂ := threshold_le position bias
  exact Nat.lt_of_le_of_lt (Nat.div_le_self _ _) (by omega)

/-- What is known while a label is written. -/
structure Writing where
  out : List Char
  delta : Nat
  bias : Nat
  /-- How many characters are written. -/
  count : Nat

/-- Writes the places of one code point; the places of lower ones only count. -/
def writePoint (basic point : Nat) (w : Writing) (c : Char) : Writing :=
  if c.toNat < point then { w with delta := w.delta + 1 }
  else if c.toNat = point then
    { out := w.out ++ digits w.bias 36 w.delta
      delta := 0
      bias := adapt w.delta (w.count + 1) (w.count = basic)
      count := w.count + 1 }
  else w

/-- Writes code points in increasing order; `next` is the least that can come. -/
def writePoints (label : List Char) (basic : Nat) : Nat → List Nat → Writing → Writing
  | _, [], w => w
  | next, p :: ps, w =>
    let w := { w with delta := w.delta + (p - next) * (w.count + 1) }
    let w := label.foldl (writePoint basic p) w
    writePoints label basic (p + 1) ps { w with delta := w.delta + 1 }

/-- Puts a number into an increasing list. -/
def insertPoint (n : Nat) : List Nat → List Nat
  | [] => [n]
  | m :: ms => if n < m then n :: m :: ms else if n = m then m :: ms else m :: insertPoint n ms

/-- The ASCII form of a label. -/
def encode (label : List Char) : List Char :=
  let basic := label.filter (·.toNat < 0x80)
  let points := (label.filter (0x80 ≤ ·.toNat)).foldr (fun c ps => insertPoint c.toNat ps) []
  let w := writePoints label basic.length 0x80 points ⟨[], 0, 72, basic.length⟩
  basic ++ (if basic = [] then [] else ['-']) ++ w.out

/-- Reads a number: what it adds to `sum`, and what follows it. -/
def number? (bias : Nat) : Nat → Nat → Nat → List Char → Option (Nat × List Char)
  | _, _, _, [] => none
  | position, weight, sum, c :: cs =>
    match digitValue? c with
    | none => none
    | some d =>
      let sum := sum + d * weight
      let t := threshold position bias
      if 2 ^ 32 ≤ sum then none
      else if d < t then some (sum, cs)
      else number? bias (position + 36) (weight * (36 - t)) sum cs

/-- What is known while an ASCII form is read. -/
structure Reading where
  out : List Char
  point : Nat
  /-- Where the next character goes at the earliest. -/
  place : Nat
  bias : Nat

/-- Puts in the character that a number stands for. -/
def Reading.place? (r : Reading) (first : Bool) (sum : Nat) : Option Reading :=
  let count := r.out.length + 1
  let point := r.point + sum / count
  let at' := sum % count
  if 0x110000 ≤ point || (0xD800 ≤ point && point < 0xE000) then none
  else some
    { out := r.out.take at' ++ Char.ofNat point :: r.out.drop at'
      point
      place := at' + 1
      bias := adapt (sum - r.place) count first }

/-- Reads numbers to the end; there are no more of them than there are digits, which is `bound`. -/
def readPoints (first : Bool) : Nat → Reading → List Char → Option (List Char)
  | 0, r, _ => some r.out
  | _, r, [] => some r.out
  | bound + 1, r, c :: cs => do
    let (sum, rest) ← number? r.bias 36 1 r.place (c :: cs)
    readPoints false bound (← r.place? first sum) rest

/-- The label that an ASCII form stands for. -/
def decode? (cs : List Char) : Option (List Char) :=
  let reversed := cs.reverse
  let (basic, rest) := match reversed.dropWhile (· ≠ '-') with
    | [] => ([], cs)
    | _ :: before => (before.reverse, (reversed.takeWhile (· ≠ '-')).reverse)
  if basic.all (·.toNat < 0x80) then readPoints true rest.length ⟨basic, 0x80, 0, 72⟩ rest
  else none

end Courier.Url.Punycode
