/-
# Clusters — what readers see as one character

A cluster is a character with the marks that extend it.  A line feed joins a carriage return, a
joiner joins the picture after it, a tint of skin joins the picture before it, and regional
letters go in pairs.
-/
import Courier.Text.Printable

namespace Courier.Text

/-- A regional letter, two of which make a flag. -/
def isRegional (c : Char) : Bool := 0x1F1E6 ≤ c.toNat && c.toNat ≤ 0x1F1FF

/-- A picture. -/
def isPicture (c : Char) : Bool :=
  let n := c.toNat
  (0x1F000 ≤ n && n ≤ 0x1FAFF && !isRegional c) || (0x2600 ≤ n && n ≤ 0x27BF)

/-- True when `c` belongs to the cluster, given with its last character first. -/
def joins (cluster : List Char) (c : Char) : Bool :=
  match cluster with
  | [] => false
  | p :: _ =>
    if p = '\r' || p = '\n' then p = '\r' && c = '\n'
    else if extendsGrapheme c || c.toNat = 0x200D then true
    else if isRegional p && isRegional c then (cluster.takeWhile isRegional).length % 2 = 1
    else if p.toNat = 0x200D && isPicture c then true
    else 0x1F3FB ≤ c.toNat && c.toNat ≤ 0x1F3FF && isPicture p

/-- The clusters of a text after one that has begun, given with its last character first. -/
def clustersAfter (current : List Char) : List Char → List (List Char)
  | [] => if current = [] then [] else [current.reverse]
  | c :: cs =>
    if joins current c then clustersAfter (c :: current) cs
    else if current = [] then clustersAfter [c] cs
    else current.reverse :: clustersAfter [c] cs

/-- The clusters of a text. -/
def clusters (cs : List Char) : List (List Char) := clustersAfter [] cs

end Courier.Text
