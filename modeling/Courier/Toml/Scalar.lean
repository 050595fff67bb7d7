/-
# Scalars — texts, numbers and moments in a configuration file

Each reader takes a scalar off the front of a text and gives what follows; it gives nothing where
the text does not begin with one.
-/
import Courier.Decimal.Float
import Courier.Decimal.Range
import Courier.Text.Pieces
import Courier.Toml.Basic

namespace Courier.Toml

/-! ## Characters -/

/-- A blank inside a line. -/
def isLineBlank (c : Char) : Bool := c = ' ' || c = '\t'

/-- Skips the blanks of a line. -/
def skip (cs : List Char) : List Char := cs.dropWhile isLineBlank

/-- True for characters that may stand in a comment or in a text: no controls but the tab. -/
def isPlain (c : Char) : Bool := c = '\t' || (0x20 ≤ c.toNat && c.toNat ≠ 0x7F)

/-- Takes the end of a line off the front. -/
def lineEnd? : List Char → Option (List Char)
  | '\n' :: rest => some rest
  | '\r' :: '\n' :: rest => some rest
  | _ => none

/-! ## Texts -/

/-- Takes what a backslash stands before off the front. -/
def escaped? : List Char → Option (Char × List Char)
  | [] => none
  | c :: rest =>
    if c = 'b' then some ('\x08', rest)
    else if c = 't' then some ('\t', rest)
    else if c = 'n' then some ('\n', rest)
    else if c = 'f' then some ('\x0c', rest)
    else if c = 'r' then some ('\r', rest)
    else if c = '\x22' || c = '\\' then some (c, rest)
    else if c = 'u' then coded 4 rest
    else if c = 'U' then coded 8 rest
    else none
where
  /-- A character by its code point, in so many digits. -/
  coded (width : Nat) (cs : List Char) : Option (Char × List Char) :=
    let digits := cs.take width
    let n := Decimal.ofRadix 16 digits
    if digits.length = width && digits.all (Decimal.digitValue · < 16) && n.isValidChar then
      some (Char.ofNat n, cs.drop width)
    else none

/-- Reads a text in double quotes after the first of them; `acc` is what is read, last first, and
`bound` bounds the characters. -/
def quotedText : Nat → List Char → List Char → Option (String × List Char)
  | 0, _, _ => none
  | _, _, [] => none
  | bound + 1, acc, c :: rest =>
    if c = '\x22' then some (String.ofList acc.reverse, rest)
    else if c = '\\' then
      match escaped? rest with
      | some (e, rest) => quotedText bound (e :: acc) rest
      | none => none
    else if isPlain c then quotedText bound (c :: acc) rest
    else none

/-- Reads a text in single quotes after the first of them. -/
def literalText (cs : List Char) : Option (String × List Char) :=
  let body := cs.takeWhile fun c => isPlain c && c ≠ '\x27'
  match cs.drop body.length with
  | '\x27' :: rest => some (String.ofList body, rest)
  | _ => none

/-- The end of a long text: three quotes, in front of which two more may belong to the text. -/
def longEnd? (quote : Char) (cs : List Char) : Option (List Char × List Char) :=
  let run := (cs.takeWhile (· = quote)).take 5
  if run.length < 3 then none else some (run.drop 3, cs.drop run.length)

/-- Skips the rest of a line after a backslash, and all blank lines and blanks after it. -/
def joinLines? (cs : List Char) : Option (List Char) :=
  match lineEnd? (skip cs) with
  | none => none
  | some rest => some (blanks rest.length rest)
where
  /-- Skips blanks and ends of lines. -/
  blanks : Nat → List Char → List Char
  | 0, cs => cs
  | bound + 1, cs =>
    match lineEnd? cs with
    | some rest => blanks bound rest
    | none =>
      match cs with
      | c :: rest => if isLineBlank c then blanks bound rest else c :: rest
      | [] => []

/-- Reads a text of several lines between three quotes; in double quotes a backslash has a
meaning. -/
def longText (quote : Char) : Nat → List Char → List Char → Option (String × List Char)
  | 0, _, _ => none
  | bound + 1, acc, cs =>
    match longEnd? quote cs with
    | some (inner, rest) => some (String.ofList (inner ++ acc).reverse, rest)
    | none =>
      match lineEnd? cs with
      | some rest => longText quote bound ('\n' :: acc) rest
      | none =>
        match cs with
        | [] => none
        | c :: rest =>
          if c = '\\' && quote = '\x22' then
            match escaped? rest with
            | some (e, rest) => longText quote bound (e :: acc) rest
            | none =>
              match joinLines? rest with
              | some rest => longText quote bound acc rest
              | none => none
          else if isPlain c then longText quote bound (c :: acc) rest
          else none

/-- Reads a text of several lines after its three quotes; the line that they end is not part of
it. -/
def longTextAfter (quote : Char) (cs : List Char) : Option (String × List Char) :=
  longText quote (cs.length + 1) [] ((lineEnd? cs).getD cs)

/-- Reads a text of one line. -/
def shortText? : List Char → Option (String × List Char)
  | '\x22' :: rest => quotedText (rest.length + 1) [] rest
  | '\x27' :: rest => literalText rest
  | _ => none

/-- Reads a text. -/
def text? : List Char → Option (String × List Char)
  | '\x22' :: '\x22' :: '\x22' :: rest => longTextAfter '\x22' rest
  | '\x27' :: '\x27' :: '\x27' :: rest => longTextAfter '\x27' rest
  | cs => shortText? cs

/-! ## Numbers -/

/-- Takes digits off the front, between two of which one underscore may stand; the underscores are
dropped. -/
def digits? (isDigit : Char → Bool) : List Char → Option (List Char × List Char)
  | [] => none
  | c :: rest =>
    if isDigit c then
      match rest with
      | '_' :: d :: more =>
        if isDigit d then (digits? isDigit (d :: more)).map fun (ds, rest) => (c :: ds, rest)
        else some ([c], rest)
      | d :: more =>
        if isDigit d then (digits? isDigit (d :: more)).map fun (ds, rest) => (c :: ds, rest)
        else some ([c], rest)
      | [] => some ([c], [])
    else none

/-- Takes a sign off the front: whether there is one that is minus, and what follows. -/
def sign : List Char → Bool × List Char
  | '-' :: rest => (true, rest)
  | '+' :: rest => (false, rest)
  | cs => (false, cs)

/-- Takes digits off the front that do not begin with a zero, unless it is the only one. -/
def wholeDigits? : List Char → Option (List Char × List Char)
  | '0' :: rest => some (['0'], rest)
  | cs => digits? Char.isDigit cs

/-- An integer, if it has 64 bits. -/
def int? (i : Int) : Option Value :=
  if Decimal.signed64.contains i then some (.int i) else none

/-- Reads the digits of a base. -/
def radix? (radix : Nat) (cs : List Char) : Option (Value × List Char) := do
  let (ds, rest) ← digits? (Decimal.digitValue · < radix) cs
  return (← int? (Decimal.ofRadix radix ds), rest)

/-- Reads an integer. -/
def integer? : List Char → Option (Value × List Char)
  | '0' :: 'x' :: rest => radix? 16 rest
  | '0' :: 'o' :: rest => radix? 8 rest
  | '0' :: 'b' :: rest => radix? 2 rest
  | cs => do
    let (negative, cs) := sign cs
    let (ds, rest) ← wholeDigits? cs
    let n : Int := Decimal.natOfDigits ds
    return (← int? (if negative then -n else n), rest)

/-- Takes the fraction of a float off the front. -/
def fraction? : List Char → Option (List Char × List Char)
  | '.' :: rest => (digits? Char.isDigit rest).map fun (ds, rest) => ('.' :: ds, rest)
  | _ => none

/-- Takes the exponent of a float off the front. -/
def exponent? : List Char → Option (List Char × List Char)
  | [] => none
  | c :: rest =>
    if c = 'e' || c = 'E' then
      let (negative, rest) := sign rest
      (digits? Char.isDigit rest).map fun (ds, rest) =>
        ((if negative then ['e', '-'] else ['e']) ++ ds, rest)
    else none

/-- Takes what makes a number a float off the front: a fraction, an exponent, or both. -/
def floatTail? (cs : List Char) : Option (List Char × List Char) :=
  match fraction? cs with
  | none => exponent? cs
  | some (f, rest) =>
    match exponent? rest with
    | some (e, rest) => some (f ++ e, rest)
    | none => some (f, rest)

/-- Reads a float; one that is too large is refused, but a negative one is not. -/
def float? (cs : List Char) : Option (Value × List Char) :=
  let (negative, unsigned) := sign cs
  let signed (f : Float) : Value := .float (if negative then -f else f)
  match unsigned with
  | 'i' :: 'n' :: 'f' :: rest => some (signed (1.0 / 0.0), rest)
  | 'n' :: 'a' :: 'n' :: rest => some (signed (0.0 / 0.0), rest)
  | _ => do
    let (whole, rest) ← wholeDigits? unsigned
    let (tail, rest) ← floatTail? rest
    let f ← Decimal.readFloat? (whole ++ tail)
    if f.isInf && !negative then none else return (signed f, rest)

/-! ## Moments -/

/-- Takes a number of so many digits off the front that lies between two others. -/
def number? (width low high : Nat) (cs : List Char) : Option (Nat × List Char) :=
  let ds := cs.take width
  let n := Decimal.natOfDigits ds
  if ds.length = width && ds.all Char.isDigit && low ≤ n && n ≤ high then some (n, cs.drop width)
  else none

/-- How many days a month has. -/
def daysOf (year month : Nat) : Nat :=
  if month = 2 then
    if year % 4 = 0 && (year % 100 ≠ 0 || year % 400 = 0) then 29 else 28
  else if month = 4 || month = 6 || month = 9 || month = 11 then 30
  else 31

/-- Takes a character off the front. -/
def mark? (mark : Char) : List Char → Option (List Char)
  | c :: rest => if c = mark then some rest else none
  | [] => none

/-- Reads a day. -/
def date? (cs : List Char) : Option (Date × List Char) := do
  let (year, rest) ← number? 4 0 9999 cs
  let (month, rest) ← number? 2 1 12 (← mark? '-' rest)
  let (day, rest) ← number? 2 1 (daysOf year month) (← mark? '-' rest)
  return (⟨year, month, day⟩, rest)

/-- Reads a fraction of a second, of which nine digits count. -/
def nanoseconds : List Char → Option (Nat × List Char)
  | '.' :: rest =>
    let ds := rest.takeWhile Char.isDigit
    if ds = [] then none
    else
      let kept := ds.take 9
      some (Decimal.natOfDigits kept * Nat.pow 10 (9 - kept.length), rest.drop ds.length)
  | cs => some (0, cs)

/-- Reads a time of the day; a second may be a leap second. -/
def time? (cs : List Char) : Option (Time × List Char) := do
  let (hour, rest) ← number? 2 0 23 cs
  let (minute, rest) ← number? 2 0 59 (← mark? ':' rest)
  let (second, rest) ← number? 2 0 60 (← mark? ':' rest)
  match nanoseconds rest with
  | some (nanosecond, rest) => return (⟨hour, minute, second, nanosecond⟩, rest)
  | none => return (⟨hour, minute, second, 0⟩, rest)

/-- Reads the distance to universal time. -/
def offset? : List Char → Option (Offset × List Char)
  | [] => none
  | c :: rest =>
    if c = 'Z' || c = 'z' then some (.zulu, rest)
    else if c = '+' || c = '-' then do
      let (hours, rest) ← number? 2 0 23 rest
      let (minutes, rest) ← number? 2 0 59 (← mark? ':' rest)
      let m : Int := hours * 60 + minutes
      return (.minutes (if c = '-' then -m else m), rest)
    else none

/-- Reads the time after a date and what follows it. -/
def timeAfter? : List Char → Option (Time × List Char)
  | c :: rest => if c = 'T' || c = 't' || c = ' ' then time? rest else none
  | [] => none

/-- Reads a moment. -/
def moment? (cs : List Char) : Option (Moment × List Char) :=
  match date? cs with
  | none => (time? cs).map fun (t, rest) => (.time t, rest)
  | some (d, rest) =>
    match timeAfter? rest with
    | none => some (.date d, rest)
    | some (t, rest) =>
      match offset? rest with
      | some (o, rest) => some (.both d t (some o), rest)
      | none => some (.both d t none, rest)

/-! ## Scalars -/

/-- Reads a number or a moment. -/
def numeric? (cs : List Char) : Option (Value × List Char) :=
  match moment? cs with
  | some (m, rest) => some (.moment m, rest)
  | none =>
    match float? cs with
    | some r => some r
    | none => integer? cs

/-- Reads a value that has no parts. -/
def scalar? (cs : List Char) : Option (Value × List Char) :=
  match cs with
  | 't' :: 'r' :: 'u' :: 'e' :: rest => some (.bool true, rest)
  | 'f' :: 'a' :: 'l' :: 's' :: 'e' :: rest => some (.bool false, rest)
  | cs =>
    match text? cs with
    | some (s, rest) => some (.text s, rest)
    | none => numeric? cs

end Courier.Toml
