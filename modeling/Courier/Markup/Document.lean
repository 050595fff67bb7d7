/-
# Documents — from the text of a template to its nodes

`Document.read` reads a whole text: the nodes, the macros that the template defines, and what it
takes from other templates.  A text that breaks a rule of the language has no document; nor has
one in which a block or a macro is defined twice.
-/
import Courier.Markup.Node
import Courier.Markup.Reader

namespace Courier.Markup

/-! ## Tags -/

/-- Reads one of two spellings: with a hyphen, or without. -/
def delimiter? (hyphen plain : String) (cs : List Char) : Option (Bool × List Char) :=
  (take? hyphen cs).map (true, ·) <|> (take? plain cs).map (false, ·)

/-- Reads the start of a tag. -/
def tagStart? : Reader Bool := delimiter? "\x7b%-" "\x7b%"

/-- Reads the end of a tag, after blanks. -/
def tagEnd? : Reader Bool := fun cs => delimiter? "-%\x7d" "%\x7d" (skip cs)

/-- Reads the start of a tag and its word. -/
def opening? (word : String) (cs : List Char) : Option (Bool × List Char) := do
  let (left, cs) ← tagStart? cs
  return (left, ← token? word cs)

/-- Reads the start of a tag and its word, which a blank has to follow. -/
def spacedOpening? (word : String) (cs : List Char) : Option (Bool × List Char) := do
  let (left, cs) ← tagStart? cs
  return (left, ← spacedWord? word cs)

/-- Reads a tag that has nothing but a word. -/
def bare? (word : String) : Reader Trim := fun cs => do
  let (left, cs) ← opening? word cs
  let (right, cs) ← tagEnd? cs
  return (⟨left, right⟩, cs)

/-- Reads the end of a body, which may repeat a name. -/
def namedEnd? (word : String) : Reader Trim := fun cs => do
  let (left, cs) ← opening? word cs
  let cs := match name? cs with
    | some (_, rest) => rest
    | none => cs
  let (right, cs) ← tagEnd? cs
  return (⟨left, right⟩, cs)

/-- Reads a tag with a word and something after it. -/
def tag? (word : String) (read : Reader α) : Reader (Trim × α) := fun cs => do
  let (left, cs) ← spacedOpening? word cs
  let (a, cs) ← read cs
  let (right, cs) ← tagEnd? cs
  return ((⟨left, right⟩, a), cs)

/-- Splits a text where a reader first succeeds. -/
def upTo? (read : Reader α) : List Char → Option (List Char × α × List Char)
  | [] => (read []).map fun (a, rest) => ([], a, rest)
  | c :: cs =>
    match read (c :: cs) with
    | some (a, rest) => some ([], a, rest)
    | none => (upTo? read cs).map fun (before, a, rest) => (c :: before, a, rest)

/-! ## Nodes without a body -/

/-- Reads a comment. -/
def comment? : Reader Trim := fun cs => do
  let (left, cs) ← delimiter? "\x7b#-" "\x7b#" cs
  let (_, right, cs) ← upTo? (delimiter? "-#\x7d" "#\x7d") cs
  return (⟨left, right⟩, cs)

/-- Reads a value between double braces. -/
def output? : Reader Node := fun cs => do
  let (left, cs) ← delimiter? "\x7b\x7b-" "\x7b\x7b" cs
  let (e, cs) ← anyValue? cs
  let (right, cs) ← delimiter? "-\x7d\x7d" "\x7d\x7d" (skip cs)
  return (.output ⟨left, right⟩ e, cs)

/-- Reads the mark for the block of the parent. -/
def parentBlock? : Reader Node := fun cs => do
  let (_, cs) ← delimiter? "\x7b\x7b-" "\x7b\x7b" cs
  let cs ← token? "super()" cs
  let (_, cs) ← delimiter? "-\x7d\x7d" "\x7d\x7d" (skip cs)
  return (.parentBlock, cs)

/-- Reads a text without marks. -/
def plain? : Reader Node := fun cs =>
  let mark : Reader Unit := fun cs => match cs with
    | '\x7b' :: c :: _ => if c = '\x7b' || c = '%' || c = '#' then some ((), cs) else none
    | [] => some ((), cs)
    | _ => none
  match upTo? mark cs with
  | some (c :: before, _, rest) => some (.text (String.ofList (c :: before)), rest)
  | _ => none

/-- Reads an assignment. -/
def assignment? (word : String) (everywhere : Bool) : Reader Node := fun cs => do
  let ((tag, name, e), cs) ← tag? word (fun cs => do
    let (name, cs) ← name? cs
    let (e, cs) ← anyValue? (← token? "=" cs)
    return ((name, e), cs)) cs
  return (.assign tag everywhere name e, cs)

/-- Reads the names of templates: one, or a list. -/
def templateNames? : Reader (List String) := fun cs =>
  (text? cs).map (fun (s, rest) => ([s], rest))
    <|> do
      let cs ← token? "[" cs
      let (names, cs) := (commaList? true text? cs).getD ([], cs)
      return (names, ← token? "]" cs)

/-- Reads the tag that embeds another template. -/
def embed? : Reader Node := fun cs => do
  let ((tag, names, optional), cs) ← tag? "include" (fun cs => do
    let (names, cs) ← templateNames? cs
    match token? "missing" ((token? "ignore" cs).getD []) with
    | some cs => return ((names, true), cs)
    | none => return ((names, false), cs)) cs
  return (.embed tag names optional, cs)

/-- Reads the tag that imports macros. -/
def macroImport? : Reader Node := fun cs => do
  let ((tag, file, space), cs) ← tag? "import" (fun cs => do
    let (file, cs) ← text? cs
    let (space, cs) ← name? (← spacedWord? "as" cs)
    return ((file, space), cs)) cs
  return (.macroImport tag file space, cs)

/-- Reads the tag that names a parent. -/
def inherit? : Reader Node := fun cs => do
  let ((tag, parent), cs) ← tag? "extends" text? cs
  return (.inherit tag parent, cs)

/-- Reads a raw text. -/
def raw? : Reader Node := fun cs => do
  let (opening, cs) ← bare? "raw" cs
  let (s, closing, cs) ← upTo? (bare? "endraw") cs
  return (.raw opening (String.ofList s) closing, cs)

/-! ## Nodes with a body -/

/-- Reads a parameter of a macro. -/
def parameter? : Reader (String × Option Expr) := fun cs => do
  let (name, cs) ← name? cs
  match token? "=" cs with
  | none => return ((name, none), cs)
  | some cs =>
    let (t, cs) ← (bool? cs).map (fun (b, rest) => (Term.bool b, rest))
      <|> (text? cs).map (fun (s, rest) => (.text s, rest))
      <|> (float? cs).map (fun (f, rest) => (.float f, rest))
      <|> (int? cs).map (fun (i, rest) => (.int i, rest))
    return ((name, some (.of t)), cs)

/-- Reads the name of a macro and its parameters. -/
def signature? : Reader (String × List (String × Option Expr)) := fun cs => do
  let (name, cs) ← name? cs
  let cs ← token? "(" cs
  let (ps, cs) := (commaList? true parameter? cs).getD ([], cs)
  return ((name, ps), ← token? ")" cs)

/-- What a loop binds and what it runs over. -/
def loopHead? : Reader (Option String × String × Expr) := fun cs => do
  let (first, cs) ← name? cs
  let (names, cs) : (Option String × String) × List Char := match token? "," cs with
    | some cs =>
      match name? cs with
      | some (second, cs) => ((some first, second), cs)
      | none => ((none, first), cs)
    | none => ((none, first), cs)
  let (e, cs) ← anyContainer? (← spacedWord? "in" cs)
  return ((names.1, names.2, e), cs)

/-- Reads a node; `inBlock` is set inside a block. -/
def node? : Nat → Bool → Reader Node
  | 0, _, _ => none
  | depth + 1, inBlock, cs =>
    let body (inBlock : Bool) (cs : List Char) := many (node? depth inBlock) cs.length cs
    plain? cs
      <|> (if inBlock then parentBlock? cs else none)
      <|> output? cs
      <|> (comment? cs).map (fun (tag, rest) => (.comment tag, rest))
      <|> raw? cs
      <|> assignment? "set" false cs
      <|> assignment? "set_global" true cs
      <|> embed? cs
      <|> macroImport? cs
      <|> (bare? "break" cs).map (fun (tag, rest) => (.leave tag, rest))
      <|> (bare? "continue" cs).map (fun (tag, rest) => (.next tag, rest))
      <|> (do
        let ((o, f), cs) ← tag? "filter" anyFilter? cs
        let (nodes, cs) := body inBlock cs
        let (c, cs) ← bare? "endfilter" cs
        return (.filtered o f nodes c, cs))
      <|> (do
        let ((o, name), cs) ← tag? "block" name? cs
        let (nodes, cs) := body true cs
        let (c, cs) ← namedEnd? "endblock" cs
        return (.block o name nodes c, cs))
      <|> (do
        let ((o, name, ps), cs) ← tag? "macro" signature? cs
        let (nodes, cs) := body inBlock cs
        let (c, cs) ← namedEnd? "endmacro" cs
        return (.macroDef o name ps nodes c, cs))
      <|> (do
        let ((o, key, item, e), cs) ← tag? "for" loopHead? cs
        let (nodes, cs) := body inBlock cs
        let (empty, cs) := match bare? "else" cs with
          | some (_, cs) =>
            let (nodes, cs) := body inBlock cs
            (some nodes, cs)
          | none => (none, cs)
        let (c, cs) ← bare? "endfor" cs
        return (.loop o key item e nodes empty c, cs))
      <|> do
        let ((o, e), cs) ← tag? "if" anyLogic? cs
        let (nodes, cs) := body inBlock cs
        let (others, cs) := many (fun cs => do
          let ((o, e), cs) ← tag? "elif" anyLogic? cs
          let (nodes, cs) := body inBlock cs
          return ((o, e, nodes), cs)) cs.length cs
        let (otherwise, cs) := match bare? "else" cs with
          | some (tag, cs) =>
            let (nodes, cs) := body inBlock cs
            (some (tag, nodes), cs)
          | none => (none, cs)
        let (c, cs) ← bare? "endif" cs
        return (.choice ((o, e, nodes) :: others) otherwise c, cs)

/-! ## Whole texts -/

/-- A macro: its parameters, some with a value of their own, and its body. -/
structure Macro where
  parameters : List (String × Option Expr)
  body : List Node

/-- A template that has been read. -/
structure Document where
  nodes : List Node
  parent : Option String
  macros : List (String × Macro)
  blocks : List (String × List Node)
  /-- The files that macros are taken from, each with the name of its space. -/
  imports : List (String × String)

/-- True when no name comes twice. -/
def allDistinct : List String → Bool
  | [] => true
  | s :: ss => !ss.contains s && allDistinct ss

mutual
/-- A block and the blocks directly inside it, by name. -/
def blocksOf : Node → List (String × List Node)
  | .block _ name body _ => (name, body) :: blocksAmong body
  | _ => []

/-- The blocks among some nodes, by name. -/
def blocksAmong : List Node → List (String × List Node)
  | [] => []
  | n :: ns => blocksOf n ++ blocksAmong ns
end

/-- The document of a text, if it keeps the rules of the language. -/
def Document.read (text : String) : Option Document := do
  let cs := text.toList
  let (comments, cs) := many comment? cs.length cs
  let (head, cs) := match inherit? cs with
    | some (n, cs) => ([n], cs)
    | none => ([], cs)
  let (nodes, cs) := many (node? (cs.length + 1) false) (cs.length + 1) cs
  if cs ≠ [] then none
  else
    let nodes := trimNodes (comments.map .comment ++ head ++ nodes)
    let macros := nodes.filterMap fun
      | .macroDef _ name ps body _ => some (name, (⟨ps, body⟩ : Macro))
      | _ => none
    let imports := nodes.filterMap fun
      | .macroImport _ file space => some (file, space)
      | _ => none
    let parent := nodes.findSome? fun
      | .inherit _ parent => some parent
      | _ => none
    let blocks := blocksAmong nodes
    if allDistinct (blocks.map (·.1)) && allDistinct (macros.map (·.1)) then
      some ⟨nodes, parent, macros, blocks, imports⟩
    else none

end Courier.Markup
