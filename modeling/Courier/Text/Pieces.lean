/-
# Pieces — splitting and replacing inside a text

Occurrences are found from left to right and do not overlap.  `replaceFrom` replaces what a
function takes off the front; the others look for a fixed piece.  The empty piece occurs before
every character and at the end.
-/
import Courier.Text.Blank

namespace Courier.Text

/-- Replaces what `take?` takes off the front by `mark`, from left to right; the first `skip`
characters belong to what was taken last. -/
def replaceFrom (take? : List Char → Option (List Char)) (mark : List Char) :
    Nat → List Char → List Char
  | _, [] => []
  | skip + 1, _ :: cs => replaceFrom take? mark skip cs
  | 0, c :: cs =>
    match take? (c :: cs) with
    | some rest => mark ++ replaceFrom take? mark (cs.length - rest.length) cs
    | none => c :: replaceFrom take? mark 0 cs

/-- Splits at the occurrences of a piece that is not empty; `current` holds the part that has
begun, last character first, and `skip` characters belong to the last occurrence. -/
def splitFrom (piece : List Char) : Nat → List Char → List Char → List (List Char)
  | _, current, [] => [current.reverse]
  | skip + 1, current, _ :: cs => splitFrom piece skip current cs
  | 0, current, c :: cs =>
    if piece.isPrefixOf (c :: cs) then
      current.reverse :: splitFrom piece (piece.length - 1) [] cs
    else splitFrom piece 0 (c :: current) cs

/-- The parts of a text between the occurrences of a piece. -/
def splitAtText (piece cs : List Char) : List (List Char) :=
  if piece = [] then [] :: cs.map ([·]) ++ [[]] else splitFrom piece 0 [] cs

/-- The text with every occurrence of a piece replaced. -/
def substitute (piece new cs : List Char) : List Char := new.intercalate (splitAtText piece cs)

/-- The text with every occurrence of a piece replaced, on texts. -/
def substituteText (piece new s : String) : String :=
  String.ofList (substitute piece.toList new.toList s.toList)

/-- Drops a piece from the start as often as it stands there; `bound` bounds how often. -/
def dropRepeated (piece : List Char) : Nat → List Char → List Char
  | 0, cs => cs
  | bound + 1, cs =>
    match piece.isPrefixOf? cs with
    | some rest => if piece = [] then cs else dropRepeated piece bound rest
    | none => cs

/-- The lines of a text, without the marks that end them. -/
def lines (cs : List Char) : List (List Char) :=
  let parts := cs.splitOn '\n'
  let parts := if parts.getLast? = some [] then parts.dropLast else parts
  parts.map fun line => if line.getLast? = some '\r' then line.dropLast else line

end Courier.Text
