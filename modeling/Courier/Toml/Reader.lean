/-
# Reading configuration files — the table that a text spells

A file is a list of lines, each of which may hold one statement and a comment.  `Toml.read` gives
its table, or nothing where the text is wrong anywhere.
-/
import Courier.Toml.Scalar
import Courier.Toml.Tree

namespace Courier.Toml

/-! ## Names -/

/-- True for a character of a name without quotes. -/
def isNameChar (c : Char) : Bool := c.isAlphanum || c = '-' || c = '_'

/-- Reads one name. -/
def name? (cs : List Char) : Option (String × List Char) :=
  match shortText? cs with
  | some r => some r
  | none =>
    let name := cs.takeWhile isNameChar
    if name = [] then none else some (String.ofList name, cs.drop name.length)

/-- Reads names with dots between them, and blanks around them; `bound` bounds their number. -/
def namesUpTo : Nat → List Char → Option (List String × List Char)
  | 0, _ => none
  | bound + 1, cs => do
    let (name, rest) ← name? (skip cs)
    match skip rest with
    | '.' :: rest =>
      let (names, rest) ← namesUpTo bound rest
      return (name :: names, rest)
    | rest => return ([name], rest)

/-- How deep values may lie in each other, and how long a path of names may be. -/
def nestingLimit : Nat := 79

/-- Reads names with dots between them. -/
def names? : List Char → Option (List String × List Char) := namesUpTo nestingLimit

/-! ## Values -/

/-- Skips the rest of a comment. -/
def skipComment (cs : List Char) : List Char :=
  match cs with
  | '#' :: rest => rest.dropWhile isPlain
  | cs => cs

/-- Skips blanks, comments and ends of lines; `bound` bounds the lines. -/
def skipLines : Nat → List Char → List Char
  | 0, cs => cs
  | bound + 1, cs =>
    let rest := skipComment (skip cs)
    match lineEnd? rest with
    | some rest => skipLines bound rest
    | none => rest

/-- Skips blanks, comments and ends of lines. -/
def skipAll (cs : List Char) : List Char := skipLines cs.length cs

mutual
/-- Reads a value; `depth` is how deep it may go, `bound` bounds the steps. -/
def value? (depth : Nat) : Nat → List Char → Option (Value × List Char)
  | 0, _ => none
  | bound + 1, cs =>
    match cs with
    | '[' :: rest =>
      if depth = 0 then none
      else (items? (depth - 1) bound rest).map fun (vs, rest) => (.list vs, rest)
    | '\x7b' :: rest =>
      if depth = 0 then none
      else
        match skip rest with
        | '\x7d' :: rest => some (.table [], rest)
        | _ => do
          let (pairs, rest) ← pairs? (depth - 1) bound rest
          return (.table (← inlineTable pairs), rest)
    | cs => scalar? cs

/-- Reads the items of a list up to its bracket; a comma may stand after the last one. -/
def items? (depth : Nat) : Nat → List Char → Option (List Value × List Char)
  | 0, _ => none
  | bound + 1, cs =>
    match skipAll cs with
    | ']' :: rest => some ([], rest)
    | cs => do
      let (v, rest) ← value? depth bound cs
      match skipAll rest with
      | ',' :: rest => do
        let (vs, rest) ← items? depth bound rest
        return (v :: vs, rest)
      | ']' :: rest => some ([v], rest)
      | _ => none

/-- Reads the assignments of a table up to its brace. -/
def pairs? (depth : Nat) : Nat → List Char → Option (List (List String × Value) × List Char)
  | 0, _ => none
  | bound + 1, cs => do
    let (names, rest) ← names? cs
    match rest with
    | '=' :: rest => do
      let (v, rest) ← value? depth bound (skip rest)
      match skip rest with
      | ',' :: rest => do
        let (pairs, rest) ← pairs? depth bound rest
        return ((names, v) :: pairs, rest)
      | '\x7d' :: rest => some ([(names, v)], rest)
      | _ => none
    | _ => none
end

/-! ## Statements -/

/-- Reads an assignment. -/
def assignment? (cs : List Char) : Option (Statement × List Char) := do
  let (names, rest) ← names? cs
  let rest ← mark? '=' rest
  let (v, rest) ← value? nestingLimit (2 * rest.length + 2) (skip rest)
  return (.assignment names v, rest)

/-- Reads a statement. -/
def statement? : List Char → Option (Statement × List Char)
  | '[' :: '[' :: rest => do
    let (names, rest) ← names? rest
    return (.itemHeader names, ← mark? ']' (← mark? ']' rest))
  | '[' :: rest => do
    let (names, rest) ← names? rest
    return (.header names, ← mark? ']' rest)
  | cs => assignment? cs

/-- Takes the rest of a line off the front: blanks, a comment and its end, or that of the text. -/
def restOfLine? (cs : List Char) : Option (List Char) :=
  match skipComment (skip cs) with
  | [] => some []
  | cs => lineEnd? cs

/-- Reads the statements of lines; `bound` bounds their number. -/
def statements? : Nat → List Char → Option (List Statement)
  | 0, cs => if cs = [] then some [] else none
  | bound + 1, cs =>
    match skip cs with
    | [] => some []
    | cs =>
      match restOfLine? cs with
      | some rest => statements? bound rest
      | none => do
        let (s, rest) ← statement? cs
        return s :: (← statements? bound (← restOfLine? rest))

/-- The table that a text spells. -/
def read (s : String) : Option Table :=
  let cs := match s.toList with
    | '\ufeff' :: rest => rest
    | cs => cs
  (statements? (cs.length + 1) cs).bind tableOf

end Courier.Toml
