/-
# Scope — which variables an expression can see

The frames are a stack, the innermost first.  A variable is looked for in each frame, first among
what was assigned there and then among what the loop of the frame binds, and no further than the
frame of a macro; last come the variables of the caller.
-/
import Courier.Markup.Document
import Courier.Markup.Reader
import Courier.Markup.Value
import Courier.Text.Cluster

namespace Courier.Markup

open Json (Value)

/-! ## Failures -/

/-- What was being rendered. -/
inductive Place where
  | page
  | loop
  | macroBody (space name : String)
  deriving DecidableEq, Repr

/-- Why a template cannot be rendered: the reason and its causes, and where it happened. -/
structure Failure where
  reasons : List String
  place : Option Place
  deriving DecidableEq, Repr

/-- A failure with one reason. -/
def Failure.because (reason : String) : Failure := ⟨[reason], none⟩

/-- The failure of something that failed because of another. -/
def Failure.under (reason : String) (f : Failure) : Failure := { f with reasons := reason :: f.reasons }

/-- A failure without its causes. -/
def Failure.shallow (f : Failure) : Failure := { f with reasons := f.reasons.take 1 }

/-- The failure at a place, unless its place is known. -/
def Failure.at (place : Place) (f : Failure) : Failure := { f with place := f.place <|> some place }

/-! ## Frames -/

/-- How a body goes on. -/
inductive Flow where
  | onward
  /-- The rest of this round is left out. -/
  | nextRound
  /-- The rest of the loop is left out. -/
  | stopped
  deriving DecidableEq, Repr

/-- What a loop binds in one round. -/
structure Round where
  key : Option (String × String)
  item : String
  value : Value
  index : Nat
  count : Nat
  flow : Flow

/-- Variables that were set in one place. -/
structure Frame where
  place : Place
  bindings : List (String × Value)
  round : Option Round

/-- All that expressions can see. -/
structure Scope where
  /-- The name of the template, which errors show. -/
  template : String
  document : Document
  /-- The variables of the caller. -/
  context : List (String × Value)
  environment : String → Option String
  frames : List Frame

/-! ## Variables -/

/-- A key below a variable, and whether it stood between quotes. -/
structure Key where
  text : String
  quoted : Bool

/-- A path all of whose keys are known. -/
structure VariablePath where
  root : String
  keys : List Key

/-- A path as text. -/
def VariablePath.written (p : VariablePath) : String :=
  p.root ++ String.join (p.keys.map fun k => "." ++ if k.quoted then "\"" ++ k.text ++ "\"" else k.text)

/-- What a loop binds under a path. -/
def Round.find? (r : Round) (p : VariablePath) : Option Value :=
  match p.written with
  | "loop.index" => some (.int (r.index + 1))
  | "loop.index0" => some (.int r.index)
  | "loop.first" => some (.bool (r.index = 0))
  | "loop.last" => some (.bool (r.index + 1 = r.count))
  | _ =>
    match r.key with
    | some (name, text) =>
      if p.keys.isEmpty && p.root = name then some (.text text) else itemAt
    | none => itemAt
where
  /-- What the item of the round has there. -/
  itemAt : Option Value :=
    if p.root = r.item then partAt? r.value (p.keys.map (·.text)) else none

/-- What a frame has under a path. -/
def Frame.find? (f : Frame) (p : VariablePath) : Option Value :=
  ((f.bindings.lookup p.root).bind (partAt? · (p.keys.map (·.text))))
    <|> f.round.bind (·.find? p)

/-- What frames have under a path, up to the first frame of a macro. -/
def findInFrames (p : VariablePath) : List Frame → Option Value
  | [] => none
  | f :: fs =>
    match f.find? p with
    | some v => some v
    | none =>
      match f.place with
      | .macroBody _ _ => none
      | _ => findInFrames p fs

/-- What is under a path. -/
def Scope.find? (s : Scope) (p : VariablePath) : Option Value :=
  findInFrames p s.frames
    <|> (Entries.find? p.root s.context).bind (partAt? · (p.keys.map (·.text)))

/-- All that can be seen, as one object. -/
def Scope.visible (s : Scope) : Value :=
  let rec frames : List Frame → List (String × Value) → List (String × Value) × Bool
    | [], seen => (seen, true)
    | f :: fs, seen =>
      let seen := f.bindings.foldl (fun seen (k, v) => Entries.insert k v seen) seen
      let seen := match f.round with
        | none => seen
        | some r =>
          let seen := Entries.insert r.item r.value seen
          match r.key with
          | some (name, text) => Entries.insert name (.text text) seen
          | none => seen
      match f.place with
      | .macroBody _ _ => (seen, false)
      | _ => frames fs seen
  let (seen, whole) := frames s.frames []
  if whole then .object (seen.foldl (fun all (k, v) => Entries.insert k v all) s.context)
  else .object seen

/-- The variable that shows all that can be seen. -/
def visibleName : String := "__tera_context"

/-- The failure of a variable that is not there. -/
def Scope.missing (s : Scope) (written : String) : Failure :=
  .because ("Variable `" ++ written ++ "` not found in context while rendering '" ++ s.template ++ "'")

/-! ## Paths -/

/-- A part of a written path after its root. -/
inductive PathStep where
  | key (k : Key)
  /-- A path whose value is the key. -/
  | path (written : String)

/-- The characters up to the bracket that closes one that is open. -/
def closing (level : Nat) (seen : List Char) : List Char → List Char × List Char
  | [] => (seen.reverse, [])
  | ']' :: cs => if level = 0 then (seen.reverse, cs) else closing (level - 1) (']' :: seen) cs
  | '[' :: cs => closing (level + 1) ('[' :: seen) cs
  | c :: cs => closing level (c :: seen) cs

/-- The steps of a written path after its root; `bound` bounds their number. -/
def steps : Nat → List Char → List PathStep
  | 0, _ => []
  | _, [] => []
  | bound + 1, '.' :: cs =>
    .key ⟨String.ofList (cs.takeWhile isNameChar), false⟩ :: steps bound (cs.dropWhile isNameChar)
  | bound + 1, '[' :: cs =>
    match cs with
    | q :: rest =>
      if q = '\x22' || q = '\x27' || q = '\x60' then
        .key ⟨String.ofList (rest.takeWhile (· ≠ q)), true⟩
          :: steps bound ((rest.dropWhile (· ≠ q)).drop 2)
      else
        let (inner, after) := closing 0 [] cs
        let step := if inner.all Char.isDigit then PathStep.key ⟨String.ofList inner, false⟩
          else .path (String.ofList inner)
        step :: steps bound after
    | [] => []
  | _, _ => []

/-- The root of a written path and its steps. -/
def splitPath (written : String) : String × List PathStep :=
  let cs := written.toList
  (String.ofList (cs.takeWhile isNameChar), steps cs.length (cs.dropWhile isNameChar))

/-- The value under a written path; `depth` bounds the nesting of brackets. -/
def Scope.lookup (s : Scope) : Nat → String → Except Failure Value
  | 0, written => .error (s.missing written)
  | depth + 1, written => do
    if written = visibleName then return .text s.visible.writePretty
    let (root, steps) := splitPath written
    let keys ← steps.mapM fun step =>
      match step with
      | .key k => (.ok k : Except Failure Key)
      | .path inner =>
        match s.lookup depth inner with
        | .error f =>
          .error (.because ("Variable " ++ written ++ " can not be evaluated because: "
            ++ f.reasons.headD ""))
        | .ok (.text t) => .ok ⟨t, true⟩
        | .ok (.number n) => .ok ⟨n.write, false⟩
        | .ok _ =>
          .error (.because ("Only variables evaluating to String or Number can be used as index (`"
            ++ inner ++ "` of `" ++ written ++ "`)"))
    let path : VariablePath := ⟨root, keys⟩
    match s.find? path with
    | some v => return v
    | none =>
      if written.toList.contains '[' then
        .error (.because ("Variable `" ++ written ++ "` not found in context while rendering '"
          ++ s.template ++ "': the evaluated version was `" ++ path.written
          ++ "`. Maybe the index is out of bounds?"))
      else .error (s.missing written)

end Courier.Markup
