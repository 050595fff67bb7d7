/-
# Case — upper and lower case letters of a text

The full case maps of Unicode: a letter may go to several characters, and a capital sigma at the
end of a word goes to the final small sigma.
-/
import Courier.Text.CaseTable
import Courier.Text.Printable

namespace Courier.Text

/-- The shift that a table of runs gives to `n`, if a run has it. -/
def shiftOf (runs : List (Nat × Nat × Nat × Int)) (n : Nat) : Option Int :=
  (runs.find? fun (first, last, step, _) =>
    first ≤ n && n ≤ last && (n - first) % step == 0).map (·.2.2.2)

/-- The characters a letter goes to under the two tables of a case. -/
def mapCase (runs : List (Nat × Nat × Nat × Int)) (several : List (Nat × List Nat)) (c : Char) :
    List Char :=
  match several.lookup c.toNat with
  | some ns => ns.map Char.ofNat
  | none =>
    match shiftOf runs c.toNat with
    | some shift => [Char.ofNat ((c.toNat : Int) + shift).toNat]
    | none => [c]

/-- The lower case of one character. -/
def lowerChar (c : Char) : List Char :=
  if c.toNat < 0x80 then [c.toLower] else mapCase lowerRuns lowerSeveral c

/-- The upper case of one character. -/
def upperChar (c : Char) : List Char :=
  if c.toNat < 0x80 then [c.toUpper] else mapCase upperRuns upperSeveral c

/-- True when the first character that is not ignorable for case is a cased letter. -/
def cased? (cs : List Char) : Bool :=
  match cs.dropWhile (fun c => withinBounds caseIgnorableBounds c.toNat) with
  | [] => false
  | c :: _ => withinBounds casedBounds c.toNat

/-- Lower case of the rest of a text, where `before` is what precedes it, last character first. -/
def lowerAfter (before : List Char) : List Char → List Char
  | [] => []
  | c :: cs =>
    let here :=
      if c.toNat = 0x3A3 then
        if cased? before && !cased? cs then [Char.ofNat 0x3C2] else [Char.ofNat 0x3C3]
      else lowerChar c
    here ++ lowerAfter (c :: before) cs

/-- The text in lower case. -/
def lower (s : String) : String := String.ofList (lowerAfter [] s.toList)

end Courier.Text
