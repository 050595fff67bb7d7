/-
# Domains — names of hosts in ASCII

A domain is made of labels between dots.  Characters that mean the same are mapped to one of them
(small letters, the dot of each script, nothing at all), and letters and their marks are put
together; a label that is not ASCII then is written as `xn--` and its punycode.  A label that is
written so already has to stand for such a label.

Not every label may stand in a domain.  It holds no character that is refused, it does not begin
with a mark, and a joiner in it stands where letters would otherwise join or not join.  As soon as
one label of a domain is written from right to left, each of them has one direction: it begins and
ends in it, and holds nothing of the other.

The rules are those of Unicode 17.  Underscores and hyphens may stand anywhere, and a label may have
any length.
-/
import Courier.Text.Case
import Courier.Url.Composition
import Courier.Url.DomainTable
import Courier.Url.Percent
import Courier.Url.Punycode

namespace Courier.Url

open Courier.Text (withinBounds)

/-! ## Mapping -/

/-- What a character is taken for, if it is taken for another or for several. -/
def takenFor? (n : Nat) : Option (List Char) :=
  let one := takenForOne.findSome? fun (first, targets) =>
    if first ≤ n then targets.toList[n - first]?.map ([·]) else none
  one.or <| takenForSeveral.findSome? fun (first, targets) =>
    if first ≤ n then (targets.toList.splitOn '|')[n - first]? else none

/-- True for the capitals of Cherokee, which small letters are taken for. -/
def isCherokee (n : Nat) : Bool := 0x13A0 ≤ n && n ≤ 0x13F5

/-- What a character of a domain is mapped to. -/
def mapDomainChar (c : Char) : List Char :=
  let n := c.toNat
  if n < 0x80 then [c.toLower]
  else if withinBounds invisibleBounds n then []
  else if 0xFF01 ≤ n && n ≤ 0xFF5E then [(Char.ofNat (n - 0xFEE0)).toLower]
  else if isCherokee n then [c]
  else (takenFor? n).getD (Text.lowerChar c)

/-- A domain as it is compared: every character mapped, and marks on their letters. -/
def settled (cs : List Char) : List Char := composed (cs.flatMap mapDomainChar)

/-- ASCII characters that no domain holds. -/
def isForbidden (c : Char) : Bool := isControl c || " #%/:<>?@[\\]^|".toList.contains c

/-! ## Labels -/

/-- The joiner. -/
def isJoiner (c : Char) : Bool := c.toNat = 0x200D

/-- The sign that keeps letters from joining. -/
def isNonJoiner (c : Char) : Bool := c.toNat = 0x200C

/-- True for a character that may stand in a label. -/
def isLabelChar (c : Char) : Bool :=
  c.toNat < 0x80 || isJoiner c || isNonJoiner c
    || (!Text.isUnprintable c && !withinBounds refusedBounds c.toNat)

/-- True for a mark that takes no room of its own. -/
def isNonspacing (c : Char) : Bool := 0x300 ≤ c.toNat && withinBounds nonspacingBounds c.toNat

/-- True for a mark. -/
def isMark (c : Char) : Bool :=
  0x300 ≤ c.toNat && (isNonspacing c || withinBounds spacingBounds c.toNat)

/-- True for a character that letters join across. -/
def isTransparent (c : Char) : Bool :=
  -- The marks that take no room, but for one; and six characters that do take some.
  [0xCBF, 0xCC6, 0x11A07, 0x11A08, 0x11C3F, 0x1E94B].contains c.toNat
    || (isNonspacing c && c.toNat ≠ 0x1171E)

/-- True for the sign that takes its vowel from a letter; it may have a joiner behind it. -/
def isVirama (c : Char) : Bool := combiningClass c = 9

/-- True where letters would join that stand before and after; what is before has its last character
first. -/
def wouldJoin (before after : List Char) : Bool :=
  (before.dropWhile isTransparent).head?.any (withinBounds joinsNextBounds ·.toNat)
    && (after.dropWhile isTransparent).head?.any (withinBounds joinsLastBounds ·.toNat)

/-- True when both kinds of joiner stand only where they change how something is written. -/
def joinersFit (before : List Char) : List Char → Bool
  | [] => true
  | c :: cs =>
    (!(isJoiner c || isNonJoiner c) || before.head?.any isVirama
      || (isNonJoiner c && wouldJoin before cs))
      && joinersFit (c :: before) cs

/-- True for a label that may stand in a domain. -/
def isLabel (label : List Char) : Bool :=
  label.all isLabelChar && !label.head?.any isMark && joinersFit [] label

/-! ## Directions -/

/-- In which direction a character is written. -/
inductive Direction where
  | leftToRight
  | rightToLeft
  | europeanNumber
  | arabicNumber
  /-- In the direction of its letter. -/
  | mark
  /-- In the direction of what is around it. -/
  | neutral
  deriving DecidableEq, Repr

/-- The direction of a character. -/
def direction (c : Char) : Direction :=
  let n := c.toNat
  if c.isAlpha then .leftToRight
  else if withinBounds europeanNumberBounds n then .europeanNumber
  else if n < 0x80 then .neutral
  else if isNonspacing c then .mark
  else if withinBounds rightToLeftBounds n then .rightToLeft
  else if withinBounds arabicNumberBounds n then .arabicNumber
  else if withinBounds neutralBounds n then .neutral
  else .leftToRight

/-- True for a label with something that is written from right to left. -/
def runsLeft (label : List Char) : Bool :=
  label.any fun c => direction c = .rightToLeft || direction c = .arabicNumber

/-- True for the directions of a label that has one itself; marks at its end do not count. -/
def haveOne (ds : List Direction) : Bool :=
  let last := (ds.reverse.dropWhile (· = .mark)).head?
  match ds.head? with
  | none => true
  | some .leftToRight =>
    !ds.contains .rightToLeft && !ds.contains .arabicNumber
      && last.any fun d => d = .leftToRight || d = .europeanNumber
  | some .rightToLeft =>
    !ds.contains .leftToRight && !(ds.contains .europeanNumber && ds.contains .arabicNumber)
      && last.any fun d => d = .rightToLeft || d = .europeanNumber || d = .arabicNumber
  | some _ => false

/-! ## The ASCII form -/

/-- What a label that is written in punycode begins with. -/
def codedMark : List Char := "xn--".toList

/-- The label that is meant: one that is written in punycode is what its code stands for, which is
not ASCII, is settled, and has no other code. -/
def meant? (label : List Char) : Option (List Char) :=
  if codedMark.isPrefixOf label then do
    let wide ← Punycode.decode? (label.drop codedMark.length)
    if wide.any (0x80 ≤ ·.toNat) && settled wide = wide
        && codedMark ++ Punycode.encode wide = label then
      some wide
    else none
  else some label

/-- The ASCII form of a label. -/
def labelToAscii (label : List Char) : List Char :=
  if label.all (·.toNat < 0x80) then label else codedMark ++ Punycode.encode label

/-- The ASCII form of a domain, in which codes may stand for characters. -/
def domainToAscii? (host : List Char) : Option (List Char) := do
  let domain := settled (← decode? host).toList
  if domain.any isForbidden then none
  else
    let labels ← (domain.splitOn '.').mapM meant?
    -- One label that runs left puts all of them under the rule, those in ASCII as well.
    if labels.all isLabel && (!labels.any runsLeft || labels.all (haveOne <| ·.map direction)) then
      some (['.'].intercalate (labels.map labelToAscii))
    else none

end Courier.Url
