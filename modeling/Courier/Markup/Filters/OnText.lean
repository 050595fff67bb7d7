/-
# Filters on texts

Upper and lower case, trimming, splitting and replacing, and the escapes of marked-up documents.
-/
import Courier.Markup.Argument
import Courier.Text.Case
import Courier.Text.Cluster
import Courier.Text.Pieces
import Courier.Text.Word

namespace Courier.Markup.Filters

open Json (Value)

/-- A filter that changes the characters of a text. -/
def onText (name : String) (f : List Char → List Char) : Filter := fun v _ => do
  return .text (String.ofList (f (← subjectOf name Kind.text v).toList))

/-- Line feeds and tabs written with a backslash become what they stand for. -/
def unescape (s : String) : String :=
  Text.substituteText "\\t" "\t" (Text.substituteText "\\n" "\n" s)

/-- Each character in place of which `f` has a text is replaced. -/
def escapeBy (f : Char → Option String) (cs : List Char) : List Char :=
  cs.flatMap fun c => match f c with
    | some s => s.toList
    | none => [c]

/-- The escapes of hypertext. -/
def hypertextEscape (c : Char) : Option String :=
  if c = '&' then some "&amp;"
  else if c = '<' then some "&lt;"
  else if c = '>' then some "&gt;"
  else if c = '\x22' then some "&quot;"
  else if c = '\x27' then some "&#x27;"
  else if c = '/' then some "&#x2F;"
  else none

/-- The escapes of marked-up data. -/
def markupEscape (c : Char) : Option String :=
  if c = '/' then none
  else if c = '\x27' then some "&apos;"
  else hypertextEscape c

/-- The escapes of quotes and backslashes. -/
def slashEscape (c : Char) : Option String :=
  if c = '\\' then some "\\\\"
  else if c = '\x22' then some "\\\x22"
  else if c = '\x27' then some "\\\x27"
  else none

/-- The first character in upper case and the others in lower case. -/
def capitalized : List Char → List Char
  | [] => []
  | c :: cs => Text.upperChar c ++ Text.lowerAfter [] cs

/-- What stands in a word of a title. -/
def inTitleWord (c : Char) : Bool := Text.isWordChar c || c = '\x27'

/-- Every word capitalized; quotes at the end of a word do not belong to it.  `skip` characters
belong to the last word, and `before` is the character before. -/
def titled (before : Option Char) : Nat → List Char → List Char
  | _, [] => []
  | skip + 1, c :: cs => titled (some c) skip cs
  | 0, c :: cs =>
    if Text.isWordChar c && !(before.map Text.isWordChar).getD false then
      let run := c :: cs.takeWhile inTitleWord
      let word := (run.reverse.dropWhile (· = '\x27')).reverse
      capitalized word ++ titled (some c) (word.length - 1) cs
    else c :: titled (some c) 0 cs

/-- Takes a comment or a tag off the front. -/
def takeMarkup? (cs : List Char) : Option (List Char) :=
  let comment : Option (List Char) :=
    match "<!--".toList.isPrefixOf? cs with
    | none => none
    | some rest => close rest
  comment <|>
    match cs with
    | '<' :: rest =>
      match rest.dropWhile (· ≠ '>') with
      | _ :: after => some after
      | [] => none
    | _ => none
where
  /-- What follows the end of a comment, which has to be on the same line. -/
  close : List Char → Option (List Char)
    | '-' :: '-' :: '>' :: rest => some rest
    | c :: rest => if c = '\n' then none else close rest
    | [] => none

/-- Takes the blanks between two tags off the front, with the brackets around them. -/
def takeGap? : List Char → Option (List Char)
  | '>' :: cs =>
    match cs.takeWhile Text.isBlank, cs.dropWhile Text.isBlank with
    | _ :: _, '<' :: rest => some rest
    | _, _ => none
  | _ => none

/-- A filter with an argument that is a piece of text. -/
def withPiece (name : String) (f : List Char → List Char → Value) : Filter := fun v args => do
  let s ← subjectOf name Kind.text v
  let piece ← required name Kind.text "pat" (expected name "pat") args
  return f (unescape piece).toList s.toList

/-- Cuts a text to so many clusters, with a mark where it is cut. -/
def truncate : Filter := fun v args => do
  let s ← subjectOf "truncate" Kind.text v
  let length ← orElse "truncate" Kind.size "length" 255 args
  let mark ← orElse "truncate" Kind.text "end" "…" args
  let cs := Text.clusters s.toList
  if (cs.length : Int) ≤ length then return .text s
  else return .text (String.ofList (cs.take length.toNat).flatten ++ mark)

/-- Replaces a piece of a text. -/
def replace : Filter := fun v args => do
  let s ← subjectOf "replace" Kind.text v
  let piece ← required "replace" Kind.text "from" (expected "replace" "from") args
  let new ← required "replace" Kind.text "to" (expected "replace" "to") args
  return .text (Text.substituteText piece new s)

/-- Puts blanks, or another text, before the lines. -/
def indent : Filter := fun v args => do
  let s ← subjectOf "indent" Kind.text v
  let before ← orElse "indent" Kind.text "prefix" "    " args
  let first ← orElse "indent" Kind.bool "first" false args
  let blank ← orElse "indent" Kind.bool "blank" false args
  match (Text.lines s.toList).map String.ofList with
  | [] => return .text ""
  | l :: ls =>
    let rest := ls.map fun l => (if blank || !Text.isBlankText l then before else "") ++ l
    return .text ("\n".intercalate (((if first then before else "") ++ l) :: rest))

/-- The value of a digit in a base up to thirty-six. -/
def digitOf (c : Char) : Nat :=
  if c.isDigit then c.toNat - 48
  else if 'a' ≤ c && c ≤ 'z' then c.toNat - 87
  else if 'A' ≤ c && c ≤ 'Z' then c.toNat - 55
  else 36

/-- Reads a signed integer of 64 bits in a base. -/
def signedIn? (base : Nat) (cs : List Char) : Option Int :=
  let (negative, digits) := match cs with
    | '-' :: rest => (true, rest)
    | '+' :: rest => (false, rest)
    | cs => (false, cs)
  if digits = [] || !digits.all (digitOf · < base) then none
  else
    let n : Int := digits.foldl (fun n c => n * base + digitOf c) (0 : Nat)
    let i := if negative then -n else n
    if Decimal.signed64.contains i then some i else none

/-- The integer of a text or number. -/
def int : Filter := fun v args => do
  let default ← orElse "int" Kind.int64 "default" 0 args
  let base ← orElse "int" Kind.nat32 "base" 10 args
  match v with
  | .text s =>
    let cs := Text.trimChars s.toList
    let drop (mark : String) := Text.dropRepeated mark.toList cs.length cs
    let cs := if base = 2 then drop "0b" else if base = 8 then drop "0o"
      else if base = 16 then drop "0x" else cs
    match signedIn? base.toNat cs with
    | some i => return .int i
    | none =>
      if cs.contains '.' then
        return .int (((Decimal.readFloat? cs).map Decimal.toInt64).getD default)
      else return .int default
  | .number n => return .int (Decimal.toInt64 (toFloat n))
  | _ => .error "Filter `int` received an unexpected type"

/-- The float of a text or number. -/
def float : Filter := fun v args => do
  let default ← orElse "float" Kind.float "default" 0.0 args
  match v with
  | .text s => return ofFloat ((Decimal.readFloat? (Text.trimChars s.toList)).getD default)
  | .number n => return ofFloat (toFloat n)
  | _ => .error "Filter `float` received an unexpected type"

/-- The filters on texts by name. -/
def onTexts : List (String × Filter) := [
  ("upper", onText "upper" (·.flatMap Text.upperChar)),
  ("lower", onText "lower" (Text.lowerAfter [])),
  ("trim", onText "trim" Text.trimChars),
  ("trim_start", onText "trim_start" Text.trimLeft),
  ("trim_end", onText "trim_end" Text.trimRight),
  ("trim_start_matches", withPiece "trim_start_matches" fun piece cs =>
    .text (String.ofList (Text.dropRepeated piece cs.length cs))),
  ("trim_end_matches", withPiece "trim_end_matches" fun piece cs =>
    .text (String.ofList (Text.dropRepeated piece.reverse cs.length cs.reverse).reverse)),
  ("truncate", truncate),
  ("wordcount", fun v _ => do
    return .int (Text.words (← subjectOf "wordcount" Kind.text v).toList).length),
  ("replace", replace),
  ("capitalize", onText "capitalize" capitalized),
  ("title", onText "title" (titled none 0)),
  ("linebreaksbr", onText "linebreaksbr" fun cs =>
    Text.substitute ['\n'] "<br>".toList (Text.substitute ['\r', '\n'] "<br>".toList cs)),
  ("indent", indent),
  ("striptags", onText "striptags" (Text.replaceFrom takeMarkup? [] 0)),
  ("spaceless", onText "spaceless" (Text.replaceFrom takeGap? ['>', '<'] 0)),
  ("escape", onText "escape_html" (escapeBy hypertextEscape)),
  ("escape_xml", onText "escape_html" (escapeBy markupEscape)),
  ("addslashes", onText "addslashes" (escapeBy slashEscape)),
  ("split", withPiece "split" fun piece cs =>
    Value.texts ((Text.splitAtText piece cs).map String.ofList)),
  ("int", int),
  ("float", float)]

end Courier.Markup.Filters
