/-
# Blank characters — trimming and splitting text

A blank is a character with the Unicode property White_Space.  Everything here is stated on
`List Char`; the versions on `String` go through `String.toList`.

* `trim` drops the blanks at both ends.
* `words` are the maximal runs of characters that are not blank.
-/

namespace Courier.Text

/-- The characters with the Unicode property White_Space. -/
def isBlank (c : Char) : Bool :=
  let n := c.toNat
  (9 ≤ n && n ≤ 13) || n == 0x20 || n == 0x85 || n == 0xA0 || n == 0x1680
    || (0x2000 ≤ n && n ≤ 0x200A) || n == 0x2028 || n == 0x2029 || n == 0x202F
    || n == 0x205F || n == 0x3000

/-! ## Trimming -/

/-- Drops the blanks at the start. -/
def trimLeft (cs : List Char) : List Char := cs.dropWhile isBlank

/-- Drops the blanks at the end. -/
def trimRight (cs : List Char) : List Char := (cs.reverse.dropWhile isBlank).reverse

/-- Drops the blanks at both ends. -/
def trimChars (cs : List Char) : List Char := trimRight (trimLeft cs)

/-- The text without the blanks at its ends. -/
def trim (s : String) : String := String.ofList (trimChars s.toList)

/-- The text without the blanks at its start. -/
def trimStart (s : String) : String := String.ofList (trimLeft s.toList)

/-- The text without the blanks at its end. -/
def trimEnd (s : String) : String := String.ofList (trimRight s.toList)

/-- True when nothing but blanks is there. -/
def isBlankText (s : String) : Bool := s.toList.all isBlank

/-! ## Splitting -/

/-- The maximal runs of characters that are not blank, in order. -/
def words (cs : List Char) : List (List Char) := (cs.splitOnP isBlank).filter (· ≠ [])

/-- The words with one space between neighbours: no other blank is left. -/
def collapseBlanks (cs : List Char) : List Char := [' '].intercalate (words cs)

/-- The pieces between the commas, trimmed, without those that are blank. -/
def commaItems (s : String) : List String :=
  ((s.toList.splitOn ',').map trimChars).filterMap fun item =>
    if item = [] then none else some (String.ofList item)

/-- Splits at the first occurrence of a character: what is before it and what is after it. -/
def splitAtFirst (c : Char) (cs : List Char) : Option (List Char × List Char) :=
  match cs.dropWhile (· ≠ c) with
  | [] => none
  | _ :: after => some (cs.takeWhile (· ≠ c), after)

/-- True when `piece` stands somewhere in a text. -/
def occurs (piece : List Char) : List Char → Bool
  | [] => piece.isEmpty
  | c :: cs => piece.isPrefixOf (c :: cs) || occurs piece cs

end Courier.Text
