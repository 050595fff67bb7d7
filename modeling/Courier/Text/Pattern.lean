/-
# Patterns — whether a text has a part of a given shape

A pattern is built from classes of characters, places, sequences, choices and repetitions.
`Pattern.ends` gives all places where a match that starts at one of given places may end, so no
order of attempts matters and the work is bounded by the size of the text.

`Pattern.read` reads the usual notation: classes in brackets and after backslashes, groups,
counts in braces, and `(?i)` for letters of either case.
-/
import Courier.Decimal.Digits
import Courier.Text.Blank
import Courier.Text.Case
import Courier.Text.Word

namespace Courier.Text

/-- A shape of a part of a text. -/
inductive Pattern where
  /-- One character of a class. -/
  | char (holds : Char → Bool)
  /-- A place with a condition on the character before it and the one after it. -/
  | place (holds : Option Char → Option Char → Bool)
  | empty
  | seq (a b : Pattern)
  | choice (a b : Pattern)
  /-- So many times at least and, if there is a limit, so many more times at most. -/
  | times (a : Pattern) (least : Nat) (more : Option Nat)

namespace Pattern

/-- Puts a number into an increasing list. -/
def insertPlace (n : Nat) : List Nat → List Nat
  | [] => [n]
  | m :: ms => if n < m then n :: m :: ms else if n = m then m :: ms else m :: insertPlace n ms

/-- The union of lists of places. -/
def union (as bs : List Nat) : List Nat := as.foldl (fun acc n => insertPlace n acc) bs

/-- Applies a step again and again and collects the places. -/
def closure (step : List Nat → List Nat) : Nat → List Nat → List Nat
  | 0, places => places
  | rounds + 1, places => closure step rounds (union (step places) places)

/-- Applies a step so many times. -/
def iterate (step : List Nat → List Nat) : Nat → List Nat → List Nat
  | 0, places => places
  | n + 1, places => iterate step n (step places)

/-- Where a match that starts at one of some places may end. -/
def ends (cs : Array Char) : Pattern → List Nat → List Nat
  | .char holds, places => places.filterMap fun i => match cs[i]? with
    | some c => if holds c then some (i + 1) else none
    | none => none
  | .place holds, places => places.filter fun i =>
    holds (if i = 0 then none else cs[i - 1]?) cs[i]?
  | .empty, places => places
  | .seq a b, places => ends cs b (ends cs a places)
  | .choice a b, places => union (ends cs a places) (ends cs b places)
  | .times a least more, places =>
    let places := iterate (ends cs a) least places
    closure (ends cs a) (match more with
      | some n => min n (cs.size + 1)
      | none => cs.size + 1) places

/-- True when some part of a text has the shape. -/
def occursIn (p : Pattern) (s : String) : Bool :=
  let cs := s.toList.toArray
  !(p.ends cs (List.range (cs.size + 1))).isEmpty

/-! ## Notation -/

/-- The class after a backslash. -/
def classOf? (c : Char) : Option (Char → Bool) :=
  if c = 'd' then some isDecimalDigit
  else if c = 'D' then some (!isDecimalDigit ·)
  else if c = 'w' then some isWordChar
  else if c = 'W' then some (!isWordChar ·)
  else if c = 's' then some isBlank
  else if c = 'S' then some (!isBlank ·)
  else none

/-- The character after a backslash. -/
def literalOf? (c : Char) : Option Char :=
  if c = 'n' then some '\n'
  else if c = 't' then some '\t'
  else if c = 'r' then some '\r'
  else if c = 'f' then some '\x0c'
  else if c = 'v' then some '\x0b'
  else if c = 'a' then some '\x07'
  else if c.isAlphanum || 0x80 ≤ c.toNat then none
  else some c

/-- The class of one character, in either case if that is asked. -/
def exactly (anyCase : Bool) (c : Char) : Char → Bool := fun d =>
  d = c || (anyCase && (lowerChar d = lowerChar c || upperChar d = upperChar c))

/-- Reads the items of a class up to its bracket; `first` allows the bracket as an item. -/
def readItems (anyCase : Bool) :
    Nat → Bool → List Char → Option ((Char → Bool) × List Char)
  | 0, _, _ => none
  | _ + 1, _, [] => none
  | bound + 1, first, c :: cs => do
    if c = ']' && !first then return (fun _ => false, cs)
    let (item, cs) : (Sum (Char → Bool) Char) × List Char ←
      if c = '\\' then
        match cs with
        | [] => none
        | d :: cs =>
          match classOf? d with
          | some k => some (.inl k, cs)
          | none => (literalOf? d).map fun d => (.inr d, cs)
      else if c = '[' then none
      else some (.inr c, cs)
    let (holds, cs) : (Char → Bool) × List Char ←
      match item, cs with
      | .inr low, '-' :: high :: rest =>
        if high = ']' then some (exactly anyCase low, cs)
        else do
          let (high, rest) ← if high = '\\' then
              match rest with
              | [] => none
              | d :: rest => (literalOf? d).map (·, rest)
            else some (high, rest)
          if high < low then none
          else
            let inside (d : Char) : Bool := low ≤ d && d ≤ high
            some (fun d => inside d
              || (anyCase && ((lowerChar d).any inside || (upperChar d).any inside)), rest)
      | .inr d, cs => some (exactly anyCase d, cs)
      | .inl k, cs => some (k, cs)
    let (others, cs) ← readItems anyCase bound false cs
    return (fun d => holds d || others d, cs)

/-- True between a word character and another. -/
def atWordEdge (before after : Option Char) : Bool :=
  (before.map isWordChar).getD false != (after.map isWordChar).getD false

/-- Reads a count in braces. -/
def readCount (cs : List Char) : Option ((Nat × Option Nat) × List Char) :=
  let low := cs.takeWhile Char.isDigit
  let n := Decimal.natOfDigits low
  if low = [] then none
  else
    match cs.dropWhile Char.isDigit with
    | '\x7d' :: rest => some ((n, some 0), rest)
    | ',' :: rest =>
      let high := rest.takeWhile Char.isDigit
      match rest.dropWhile Char.isDigit with
      | '\x7d' :: rest =>
        if high = [] then some ((n, none), rest)
        else if Decimal.natOfDigits high < n then none
        else some ((n, some (Decimal.natOfDigits high - n)), rest)
      | _ => none
    | _ => none

/-- Reads the marks of repetition after a pattern. -/
def readTimes : Nat → Pattern → List Char → Option (Pattern × List Char)
  | 0, p, cs => some (p, cs)
  | bound + 1, p, cs => do
    let (counts, cs) ← match cs with
      | '*' :: rest => some (some (0, none), rest)
      | '+' :: rest => some (some (1, none), rest)
      | '?' :: rest => some (some (0, some 1), rest)
      | '\x7b' :: rest => (readCount rest).map fun (c, rest) => (some c, rest)
      | rest => some (none, rest)
    match counts with
    | none => return (p, cs)
    | some (least, more) =>
      let cs := match cs with
        | '?' :: rest => rest
        | rest => rest
      readTimes bound (.times p least more) cs

/-- The start of a group: what follows it, and whether letters match in either case inside. -/
def readGroupStart (anyCase : Bool) (cs : List Char) : Option (Bool × List Char) :=
  match cs with
  | '?' :: ':' :: rest => some (anyCase, rest)
  | '?' :: 'i' :: ':' :: rest => some (true, rest)
  | '?' :: 'P' :: '<' :: rest | '?' :: '<' :: rest =>
    match rest.dropWhile (fun c => c.isAlphanum || c = '_') with
    | '>' :: rest => some (anyCase, rest)
    | _ => none
  | '?' :: _ => none
  | rest => some (anyCase, rest)

/-- Reads choices up to a parenthesis or the end. -/
def readChoices : Nat → Bool → List Char → Option (Pattern × List Char)
  | 0, _, _ => none
  | bound + 1, anyCase, cs => do
    let (p, cs) ← readSequence bound anyCase cs
    match cs with
    | '|' :: rest =>
      let (q, cs) ← readChoices bound anyCase rest
      return (.choice p q, cs)
    | cs => return (p, cs)
where
  /-- Reads a sequence up to a bar, a parenthesis or the end. -/
  readSequence : Nat → Bool → List Char → Option (Pattern × List Char)
    | 0, _, _ => none
    | _ + 1, _, [] => some (.empty, [])
    | bound + 1, anyCase, c :: cs => do
      if c = '|' || c = ')' then return (.empty, c :: cs)
      if c = '(' then
        match cs with
        | '?' :: 'i' :: ')' :: rest => return ← readSequence bound true rest
        | _ => pure ()
      let (p, cs) : Pattern × List Char ←
        if c = '(' then do
          let (inner, cs) ← readGroupStart anyCase cs
          let (p, cs) ← readChoices bound inner cs
          match cs with
          | ')' :: rest => some (p, rest)
          | _ => none
        else if c = '[' then
          match cs with
          | '^' :: rest => (readItems anyCase (rest.length + 1) true rest).map fun (k, rest) =>
            (.char (!k ·), rest)
          | rest => (readItems anyCase (rest.length + 1) true rest).map fun (k, rest) =>
            (.char k, rest)
        else if c = '.' then some (.char (· ≠ '\n'), cs)
        else if c = '^' then some (.place fun before _ => before.isNone, cs)
        else if c = '$' then some (.place fun _ after => after.isNone, cs)
        else if c = '*' || c = '+' || c = '?' || c = '\x7b' then none
        else if c = '\\' then
          match cs with
          | [] => none
          | d :: rest =>
            if d = 'b' then some (.place atWordEdge, rest)
            else if d = 'B' then some (.place fun x y => !atWordEdge x y, rest)
            else if d = 'A' then some (.place fun before _ => before.isNone, rest)
            else if d = 'z' then some (.place fun _ after => after.isNone, rest)
            else
              match classOf? d with
              | some k => some (.char k, rest)
              | none => (literalOf? d).map fun d => (.char (exactly anyCase d), rest)
        else some (.char (exactly anyCase c), cs)
      let (p, cs) ← readTimes (cs.length + 1) p cs
      let (q, cs) ← readSequence bound anyCase cs
      return (.seq p q, cs)

/-- The pattern that a text writes, if it keeps the rules of the notation. -/
def read (s : String) : Option Pattern :=
  match readChoices (2 * s.length + 2) false s.toList with
  | some (p, []) => some p
  | _ => none

end Pattern

end Courier.Text
