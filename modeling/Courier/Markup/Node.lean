/-
# Nodes — the parts of a template, and the blanks around them

A template is a list of nodes.  A tag may ask that the blanks before or after it are dropped;
`trimNodes` does so, also across the ends of the bodies that a tag has.
-/
import Courier.Markup.Expr
import Courier.Text.Blank

namespace Courier.Markup

/-- On which sides of a tag the blanks go. -/
structure Trim where
  left : Bool
  right : Bool
  deriving DecidableEq, Repr, Inhabited

/-- A part of a template. -/
inductive Node where
  | text (s : String)
  | comment (tag : Trim)
  | raw (opening : Trim) (s : String) (closing : Trim)
  | output (tag : Trim) (value : Expr)
  | assign (tag : Trim) (everywhere : Bool) (name : String) (value : Expr)
  | filtered (opening : Trim) (filter : Call) (body : List Node) (closing : Trim)
  | choice (branches : List (Trim × Expr × List Node)) (otherwise : Option (Trim × List Node))
      (closing : Trim)
  | loop (opening : Trim) (key : Option String) (item : String) (container : Expr)
      (body : List Node) (empty : Option (List Node)) (closing : Trim)
  /-- Leaves the loop. -/
  | leave (tag : Trim)
  /-- Goes on with the next item of the loop. -/
  | next (tag : Trim)
  | block (opening : Trim) (name : String) (body : List Node) (closing : Trim)
  /-- The block of the same name in the parent. -/
  | parentBlock
  | embed (tag : Trim) (names : List String) (optional : Bool)
  | macroDef (opening : Trim) (name : String) (parameters : List (String × Option Expr))
      (body : List Node) (closing : Trim)
  | macroImport (tag : Trim) (file space : String)
  | inherit (tag : Trim) (parent : String)

/-! ## Blanks -/

/-- Drops the blanks at the end of the last text; `reversed` holds the nodes, the last first. -/
def trimLast : List Node → List Node
  | .text s :: rest =>
    let s := Text.trimEnd s
    if s = "" then rest else .text s :: rest
  | reversed => reversed

/-- What is known while blanks are dropped. -/
structure Trimming where
  /-- The nodes so far, the last first. -/
  done : List Node
  /-- The last node came from a text. -/
  afterText : Bool
  /-- The next text loses the blanks at its start. -/
  trimNext : Bool

/-- Drops blanks before a tag that asks for it. -/
def Trimming.before (t : Trimming) (tag : Trim) : List Node :=
  if t.afterText && tag.left then trimLast t.done else t.done

/-- Adds a tag that has no body. -/
def Trimming.add (t : Trimming) (tag : Trim) (n : Node) : Trimming :=
  ⟨n :: t.before tag, false, tag.right⟩

/-- Drops the blanks at the end of a body if a tag asks for it. -/
def trimBodyEnd (asked : Bool) (body : List Node) : List Node :=
  if asked then (trimLast body.reverse).reverse else body

/-- Drops the blanks at the end of the last body of the branches if a tag asks for it. -/
def trimLastBranch (asked : Bool) :
    List (Trim × Expr × List Node) → List (Trim × Expr × List Node)
  | [] => []
  | [(tag, e, body)] => [(tag, e, trimBodyEnd asked body)]
  | b :: bs => b :: trimLastBranch asked bs

/-- Adds a text. -/
def Trimming.addText (t : Trimming) (s : String) : Trimming :=
  if t.trimNext then
    let s := Text.trimStart s
    ⟨if s = "" then t.done else .text s :: t.done, true, false⟩
  else ⟨.text s :: t.done, true, false⟩

mutual
/-- The blanks that the tags ask to drop are dropped, from the first node on. -/
def trimFrom (t : Trimming) : List Node → Trimming
  | [] => t
  | n :: ns => trimFrom (trimNode t n) ns

/-- Adds one node. -/
def trimNode (t : Trimming) : Node → Trimming
  | .text s => t.addText s
  | .comment tag => t.add tag (.comment tag)
  | .output tag e => t.add tag (.output tag e)
  | .assign tag g name e => t.add tag (.assign tag g name e)
  | .leave tag => t.add tag (.leave tag)
  | .next tag => t.add tag (.next tag)
  | .embed tag names optional => t.add tag (.embed tag names optional)
  | .macroImport tag file space => t.add tag (.macroImport tag file space)
  | .inherit tag parent => t.add tag (.inherit tag parent)
  | .raw o s c =>
    let s := if o.right then Text.trimStart s else s
    let s := if c.left then Text.trimEnd s else s
    ⟨.raw o s c :: t.before o, false, c.right⟩
  | .filtered o f body c => ⟨.filtered o f (trimBody o.right c.left body) c :: t.before o, false, c.right⟩
  | .block o name body c => ⟨.block o name (trimBody o.right c.left body) c :: t.before o, false, c.right⟩
  | .macroDef o name ps body c =>
    ⟨.macroDef o name ps (trimBody o.right c.left body) c :: t.before o, false, c.right⟩
  | .loop o k v e body empty c =>
    ⟨.loop o k v e (trimBody o.right c.left body) empty c :: t.before o, false, c.right⟩
  | .parentBlock => ⟨.parentBlock :: t.done, false, t.trimNext⟩
  | .choice branches otherwise c =>
    let done := match branches with
      | (tag, _, _) :: _ => t.before tag
      | [] => t.done
    let branches := trimBranches branches
    match otherwise with
    | some (tag, body) =>
      let body := (trimFrom ⟨[], false, tag.right⟩ body).done.reverse
      ⟨.choice (trimLastBranch tag.left branches) (some (tag, trimBodyEnd c.left body)) c :: done,
        false, c.right⟩
    | none => ⟨.choice (trimLastBranch c.left branches) none c :: done, false, c.right⟩

/-- A body between two tags. -/
def trimBody (left right : Bool) (body : List Node) : List Node :=
  let t := trimFrom ⟨[], false, left⟩ body
  (if right then trimLast t.done else t.done).reverse

/-- The bodies of branches; a tag may trim the end of the body before it. -/
def trimBranches :
    List (Trim × Expr × List Node) → List (Trim × Expr × List Node)
  | [] => []
  | (tag, e, body) :: rest =>
    let asked := match rest with
      | (next, _, _) :: _ => next.left
      | [] => false
    (tag, e, trimBodyEnd asked (trimFrom ⟨[], false, tag.right⟩ body).done.reverse)
      :: trimBranches rest
end

/-- The nodes of a template without the blanks that its tags drop. -/
def trimNodes (nodes : List Node) : List Node := (trimFrom ⟨[], false, false⟩ nodes).done.reverse

end Courier.Markup
