/-
# Rendering — from a document and variables to a text

Expressions have values; nodes write text, assign variables and change how a loop goes on.  A
variable that is not there is an error, except where a truth value or a default is asked for.
`depth` bounds how deep calls are nested, macros among them.

Under a negation, a variable that is not there counts as false.  An expression that joins or
compares and is negated is reversed where its truth is asked for, and once more where its value is
written.
-/
import Courier.Markup.Builtin
import Courier.Markup.Filters.OnList
import Courier.Markup.Scope

namespace Courier.Markup

open Json (Value Number)

/-- A failed computation as a failure. -/
def orBecause (r : Except String α) : Except Failure α := r.mapError .because

/-- A comparison of numbers. -/
def compareNumbers (op : Logic) (a b : Float) : Bool :=
  match op with
  | .greater => a > b
  | .greaterEqual => a >= b
  | .less => a < b
  | _ => a <= b

/-- Equality of values; numbers are equal as floats, and never equal to anything else. -/
def equalValues (a b : Value) : Option Bool :=
  match a, b with
  | .number m, .number n => some (toFloat m == toFloat n)
  | .number _, _ => none
  | _, .number _ => none
  | a, b => some (a == b)

/-- Whether a container has an item. -/
def containsItem (item container : Value) : Except String Bool :=
  let notText (kind : String) : Except String Bool :=
    .error ("Tried to check if " ++ describeValue item ++ " is in a " ++ kind
      ++ ", but it isn't a string")
  match container, item with
  | .list items, _ => .ok (items.any (· == item))
  | .text s, .text piece => .ok (Text.occurs piece.toList s.toList)
  | .text _, _ => notText "string"
  | .object members, .text key => .ok (Entries.find? key members).isSome
  | .object _, _ => notText "object"
  | _, _ => .error "The `in` operator only supports strings, arrays and objects."

/-- The number that a value of something is, or the failure that it is none. -/
def numberOf (complaint : String) : Value → Except Failure (Option Number)
  | .number n => .ok (some n)
  | _ => .error (.because complaint)

/-- The expression that stands for a value that is not there, if the first filter gives one. -/
def defaultOf? (e : Expr) : Option (Option Expr) :=
  match e.filters with
  | f :: _ => if f.name = "default" then some (f.arguments.lookup "value") else none
  | [] => none

/-- The failure of a call that is nested too deep. -/
def tooDeep : Failure := .because "nested too deep"

/-! ## State of a page -/

/-- What is written so far, and the frames. -/
structure Page where
  written : String
  frames : List Frame

/-- The page with more text. -/
def Page.write (p : Page) (s : String) : Page := { p with written := p.written ++ s }

/-- The page with the innermost frame changed. -/
def Page.updateFrame (p : Page) (f : Frame → Frame) : Page :=
  match p.frames with
  | [] => p
  | frame :: rest => { p with frames := f frame :: rest }

/-- Changes the nearest frame that is not that of a loop. -/
def updateOutermost (f : Frame → Frame) : List Frame → List Frame
  | [] => []
  | frame :: rest =>
    if frame.place = .loop then frame :: updateOutermost f rest else f frame :: rest

/-- Gives a variable a value in a frame. -/
def Frame.assign (name : String) (v : Value) (f : Frame) : Frame :=
  { f with bindings := Entries.insert name v f.bindings }

/-- How the innermost loop goes on. -/
def Page.flow (p : Page) : Flow :=
  match p.frames with
  | ⟨_, _, some r⟩ :: _ => r.flow
  | _ => .onward

/-- Changes how the innermost loop goes on; `word` is the tag that asks for it. -/
def Page.redirect (p : Page) (word : String) (flow : Flow) : Except Failure Page :=
  match p.frames with
  | ⟨place, vs, some r⟩ :: rest => .ok { p with frames := ⟨place, vs, some { r with flow }⟩ :: rest }
  | _ => .error (.because ("Attempted `" ++ word ++ "` while not in `for loop`"))

/-- The body of the first branch whose condition holds, or of none of them. -/
def firstBranch (holds : Expr → Except Failure Bool) (otherwise : Option (List Node)) :
    List (Trim × Expr × List Node) → Except Failure (Option (List Node))
  | [] => .ok otherwise
  | (_, e, body) :: rest => do
    if ← holds e then return some body else firstBranch holds otherwise rest

/-! ## Loops -/

/-- The rounds of a loop: a key, if there are keys, and a value each. -/
def roundsOf (name : String) (withKey : Bool) (container : Value) :
    Except Failure (List (String × Value)) :=
  let notMap : Failure := .because ("Tried to iterate using key value on variable `" ++ name
    ++ "`, but it isn't an object/map")
  match container with
  | .list items => if withKey then .error notMap else .ok (items.map ("", ·))
  | .text s =>
    if withKey then .error notMap
    else .ok ((Text.clusters s.toList).map fun cs => ("", .text (String.ofList cs)))
  | .object members =>
    if withKey then .ok members
    else .error (.because ("Tried to iterate using key value on variable `" ++ name
      ++ "`, but it is missing a key"))
  | _ => .error (.because ("Tried to iterate on a container (`" ++ name
      ++ "`) that has a unsupported type"))

/-- What errors call the container of a loop. -/
def containerName (t : Term) : Except Failure String :=
  match t with
  | .path p => .ok p
  | .call c => .ok c.name
  | .list _ => .ok "an array literal"
  | t => .error (.because
      ("Forloop containers have to be an ident or a function call (tried to iterate on '"
        ++ t.describe ++ "')"))

/-! ## Values and nodes -/

mutual
/-- The value of an expression. -/
def evaluate : Nat → Scope → Expr → Except Failure Value
  | 0, _, _ => .error tooDeep
  | depth + 1, s, e => do
    match e.term with
    | .path p =>
      let fallback (otherwise : Except Failure Value) : Except Failure Value :=
        match defaultOf? e with
        | some (some d) => evaluate depth s d
        | some none => .error (.because "The `default` filter requires a `value` argument.")
        | none => otherwise
      match s.lookup (p.length + 1) p with
      | .error f =>
        if (defaultOf? e).isNone && e.negated then return .bool true
        finish depth s e (← fallback (.error f))
      | .ok .null => finish depth s e (← fallback (.ok .null))
      | .ok v => finish depth s e v
    | t => finish depth s e (← termValue depth s e t)

/-- The value of a term that is not a path; `e` is the expression around it. -/
def termValue : Nat → Scope → Expr → Term → Except Failure Value
  | 0, _, _, _ => .error tooDeep
  | depth + 1, s, e, t =>
    match t with
    | .text x => .ok (.text x)
    | .int i => .ok (.int i)
    | .float f => .ok (.number (.float f))
    | .bool b => .ok (.bool b)
    | .path p => s.lookup (p.length + 1) p
    | .list items => do return .list (← items.mapM (evaluate depth s))
    | .joined pieces => do return .text (String.join (← pieces.mapM (pieceText depth s)))
    | .contained negated item container => do
      let item ← evaluate depth s item
      let container ← evaluate depth s container
      return .bool ((← orBecause (containsItem item container)) != negated)
    | .call c => callValue depth s c
    | .macroCall space name args => do return .text (← expand depth s space name args)
    | .test .. => do return .bool (← testHolds depth s t)
    | .logic .. => do return .bool (← holds depth s e)
    | .arithmetic .. =>
      match termNumber depth s t with
      | .ok (some n) => .ok (.number n)
      | .ok none => .ok (.text "NaN")
      | .error f => .error f.shallow

/-- A value after the filters of an expression and its negation. -/
def finish : Nat → Scope → Expr → Value → Except Failure Value
  | 0, _, _, _ => .error tooDeep
  | depth + 1, s, e, v => do
    let v ← e.filters.foldlM (fun v f =>
      if f.name = "safe" || f.name = "default" then .ok v else applyFilter depth s f v) v
    return if e.negated then .bool (!truthy v) else v

/-- The value of a filter. -/
def applyFilter : Nat → Scope → Call → Value → Except Failure Value
  | 0, _, _, _ => .error tooDeep
  | depth + 1, s, f, v =>
    match Filters.all.lookup f.name with
    | none => .error (.because ("Filter '" ++ f.name ++ "' not found"))
    | some filter =>
      (do orBecause (filter v (← argumentValues depth s f.arguments))).mapError
        (.under ("Filter call '" ++ f.name ++ "' failed"))

/-- The value of a function. -/
def callValue : Nat → Scope → Call → Except Failure Value
  | 0, _, _ => .error tooDeep
  | depth + 1, s, c =>
    match (functions s.environment).lookup c.name with
    | none => .error (.because ("Function '" ++ c.name ++ "' not found"))
    | some f =>
      (do orBecause (f (← argumentValues depth s c.arguments))).mapError
        (.under ("Function call '" ++ c.name ++ "' failed"))

/-- The values of arguments; of two with one name the later counts. -/
def argumentValues : Nat → Scope → List (String × Expr) → Except Failure Arguments
  | 0, _, _ => .error tooDeep
  | depth + 1, s, args =>
    args.foldlM (fun values (name, e) => do
      return Entries.insert name (← evaluate depth s e) values) []

/-- The text of a piece of a joined text. -/
def pieceText : Nat → Scope → Term → Except Failure String
  | 0, _, _ => .error tooDeep
  | depth + 1, s, t => do
    let textOr (source : String) (v : Value) : Except Failure String :=
      match v with
      | .text x => .ok x
      | .number n => .ok n.write
      | _ => .error (.because ("Tried to concat a value that is not a string or a number from "
          ++ source))
    match t with
    | .text x => return x
    | .int i => return toString i
    | .float f => return Decimal.plain.write f
    | .path p => textOr ("ident " ++ p) (← s.lookup (p.length + 1) p)
    | .call c => textOr ("function call " ++ c.name) (← callValue depth s c)
    | t => textOr "an expression" (← termValue depth s (.of t) t)

/-- Whether a test holds. -/
def testHolds : Nat → Scope → Term → Except Failure Bool
  | 0, _, _ => .error tooDeep
  | depth + 1, s, t =>
    match t with
    | .test subject negated name args =>
      match tests.lookup name with
      | none => .error (.because ("Test '" ++ name ++ "' not found"))
      | some test =>
        (do
          let args ← args.mapM (evaluate depth s)
          let v := (s.lookup (subject.length + 1) subject).toOption
          return (← orBecause (test v args)) != negated).mapError
          (.under ("Test call '" ++ name ++ "' failed"))
    | _ => .ok false

/-- Whether an expression counts as true. -/
def holds : Nat → Scope → Expr → Except Failure Bool
  | 0, _, _ => .error tooDeep
  | depth + 1, s, e => do
    let t := e.term
    let result ← match t with
      | .logic .or l r => do if ← holds depth s l then pure true else holds depth s r
      | .logic .and l r => do if ← holds depth s l then holds depth s r else pure false
      | .logic .equal l r => do
        return (equalValues (← evaluate depth s l) (← evaluate depth s r)).getD false
      | .logic .notEqual l r => do
        match equalValues (← evaluate depth s l) (← evaluate depth s r) with
        | some b => pure !b
        | none => return false
      | .logic op l r => do
        match ← exprNumber depth s l, ← exprNumber depth s r with
        | some a, some b => pure (compareNumbers op (toFloat a) (toFloat b))
        | _, _ => .error (.because "Comparison to NaN")
      | .path _ =>
        let v := match evaluate depth s e with
          | .ok v => truthy v
          | .error _ => false
        pure (v != e.negated)
      | .arithmetic .. | .int _ | .float _ => do
        match ← termNumber depth s t with
        | some n => pure (toFloat n != 0.0)
        | none => pure false
      | .contained .. => do return truthy (← termValue depth s e t)
      | .test .. => testHolds depth s t
      | .bool b => pure b
      | .text x => pure (x ≠ "")
      | .call c => do
        match ← callValue depth s c with
        | .bool b => pure b
        | _ => .error (.because ("Function `" ++ c.name
            ++ "` was used in a logic expression but is not returning a boolean value"))
      | .joined _ => do return truthy (← evaluate depth s e)
      | .macroCall space name args => do return (← expand depth s space name args) ≠ ""
      | .list items => pure !items.isEmpty
    return result != e.negated

/-- The number that an expression is; there may be none. -/
def exprNumber : Nat → Scope → Expr → Except Failure (Option Number)
  | 0, _, _ => .error tooDeep
  | depth + 1, s, e =>
    if e.filters.isEmpty then termNumber depth s e.term
    else do
      numberOf "Tried to do math with an expression not resulting in a number" (← evaluate depth s e)

/-- The number that a term is; there may be none. -/
def termNumber : Nat → Scope → Term → Except Failure (Option Number)
  | 0, _, _ => .error tooDeep
  | depth + 1, s, t => do
    match t with
    | .path p =>
      numberOf ("Variable `" ++ p ++ "` was used in a math operation but is not a number")
        (← s.lookup (p.length + 1) p)
    | .int i => return some (.int i)
    | .float f => return some (.float f)
    | .arithmetic op l r =>
      match ← exprNumber depth s l, ← exprNumber depth s r with
      | some a, some b => orBecause (compute op (l.describe ++ "/" ++ r.describe) a b)
      | _, _ => return none
    | .text x => .error (.because ("Tried to do math with a string: `" ++ x ++ "`"))
    | .bool b => .error (.because ("Tried to do math with a boolean: `" ++ toString b ++ "`"))
    | .test _ _ name _ => .error (.because ("Tried to do math with a test: " ++ name))
    | .call c =>
      numberOf ("Function `" ++ c.name ++ "` was used in a math operation but is not returning a number")
        (← callValue depth s c)
    | _ => .error (.because "Tried to do math with an expression not resulting in a number")

/-- The text of a macro. -/
def expand : Nat → Scope → String → String → List (String × Expr) → Except Failure String
  | 0, _, _, _, _ => .error tooDeep
  | depth + 1, s, space, name, args =>
    let own := space = "self" && !s.document.macros.isEmpty
    if !own && !s.document.imports.contains (s.template, space) then
      .error (.because ("Macro namespace `" ++ space ++ "` was not found in template `" ++ s.template
        ++ "`. Have you maybe forgotten to import it, or misspelled it?"))
    else
      match s.document.macros.lookup name with
      | none => .error (.because ("Macro `" ++ space ++ "::" ++ name ++ "` not found in template `"
          ++ s.template ++ "`"))
      | some m => do
        let given := args.reverse
        let bindings ← m.parameters.mapM fun (parameter, default) =>
          match given.lookup parameter, default with
          | some e, _ => do return (parameter, ← evaluate depth s e)
          | none, some e => do return (parameter, ← evaluate depth s e)
          | none, none => .error (.because ("Macro `" ++ name ++ "` is missing the argument `"
              ++ parameter ++ "`"))
        let place := Place.macroBody space name
        let frame : Frame := ⟨place, Entries.ofList bindings, none⟩
        let page ← (renderAll depth s ⟨"", frame :: s.frames⟩ m.body).mapError (.at place)
        return page.written

/-- Renders nodes until a loop is told to go on elsewhere. -/
def renderAll : Nat → Scope → Page → List Node → Except Failure Page
  | 0, _, _, _ => .error tooDeep
  | depth + 1, s, page, nodes =>
    nodes.foldlM (fun page n =>
      if page.flow = .onward then renderNode depth s page n else .ok page) page

/-- Renders a node. -/
def renderNode : Nat → Scope → Page → Node → Except Failure Page
  | 0, _, _, _ => .error tooDeep
  | depth + 1, s, page, n => do
    let s := { s with frames := page.frames }
    match n with
    | .text x | .raw _ x _ => return page.write x
    | .comment _ | .macroDef .. | .macroImport .. => return page
    | .output _ e => return page.write (shown (← evaluate depth s e))
    | .assign _ everywhere name e =>
      let v ← evaluate depth s e
      if everywhere then
        return { page with frames := updateOutermost (Frame.assign name v) page.frames }
      else return page.updateFrame (Frame.assign name v)
    | .filtered _ f body _ =>
      let inner ← renderAll depth s { page with written := "" } body
      let v ← if f.name = "safe" then pure (.text inner.written)
        else applyFilter depth { s with frames := inner.frames } f (.text inner.written)
      return { inner with written := page.written ++ shown v }
    | .choice branches otherwise _ =>
      match ← firstBranch (holds depth s) (otherwise.map (·.2)) branches with
      | some body => renderAll depth s page body
      | none => return page
    | .loop _ key item e body empty _ =>
      let name ← containerName e.term
      let rounds ← roundsOf name key.isSome (← evaluate depth s e)
      if rounds.isEmpty then
        match empty with
        | some body => renderAll depth s page body
        | none => return page
      else
        let step (acc : Page × Nat) (round : String × Value) : Except Failure (Page × Nat) := do
          let (current, index) := acc
          if current.flow = .stopped then return acc
          let bound : Round := ⟨key.map (·, round.1), item, round.2, index, rounds.length, .onward⟩
          let current := { current with frames := ⟨.loop, [], some bound⟩ :: current.frames.drop 1 }
          return (← (renderAll depth s current body).mapError (.at .loop), index + 1)
        let entered : Page := { page with frames := ⟨.loop, [], none⟩ :: page.frames }
        let (last, _) ← rounds.foldlM step (entered, 0)
        return { last with frames := last.frames.drop 1 }
    | .leave _ => page.redirect "break" .stopped
    | .next _ => page.redirect "continue" .nextRound
    | .block _ name body _ =>
      renderAll depth s page ((s.document.blocks.lookup name).getD body)
    | .parentBlock => .error (.because "Tried to use super() in the top level block")
    | .embed _ names optional =>
      if optional then return page
      else .error (.because ("Template '[" ++ ", ".intercalate names ++ "]' not found"))
    | .inherit _ parent =>
      .error (.because ("Inheritance in included templates is currently not supported: extended `"
        ++ parent ++ "`"))
end

/-! ## Whole templates -/

/-- The words for where a failure happened. -/
def Failure.message (template : String) (f : Failure) : String :=
  let place := match f.place with
    | some (.macroBody space name) =>
      ": error while rendering macro `" ++ space ++ "::" ++ name ++ "`"
    | _ => ""
  ": ".intercalate (("Failed to render '" ++ template ++ "'" ++ place) :: f.reasons)

/-- The text of a template that stands alone, given its source, what it can see of the process and
its variables; or why there is none. -/
def render (template : String) (environment : String → Option String) (source : String)
    (context : List (String × Value)) : Except String String :=
  match Document.read source with
  | none => .error ("Failed to parse '" ++ template ++ "'")
  | some document =>
    match document.parent, document.imports.find? (·.1 ≠ template) with
    | some parent, _ =>
      if parent = template then
        .error ("Circular extend detected for template '" ++ template ++ "'. Inheritance chain: `"
          ++ Text.bracketed [Text.quoted parent] ++ "`")
      else
        .error ("Template '" ++ template ++ "' is inheriting from '" ++ parent
          ++ "', which doesn't exist or isn't loaded.")
    | none, some (file, _) =>
      .error ("Template `" ++ template ++ "` loads macros from `" ++ file
        ++ "` which isn't present in Tera")
    | none, none =>
      let scope : Scope := ⟨template, document, context, environment, []⟩
      let page : Page := ⟨"", [⟨.page, [], none⟩]⟩
      match renderAll (16 * source.length + 4096) scope page document.nodes with
      | .ok page => .ok page.written
      | .error f => .error (f.message template)

end Courier.Markup
