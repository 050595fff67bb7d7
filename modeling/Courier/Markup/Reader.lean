/-
# Reading expressions — from the text of a template to terms

A reader takes the rest of a text and gives what it read and what follows.  The alternatives of a
rule are tried in order, and the first that fits is kept.  Blanks are skipped between the parts of
a rule.  The readers that call each other are bounded by `depth`, which the length of the text
always suffices for: each call inside a call has a shorter text before it.
-/
import Courier.Decimal.Digits
import Courier.Decimal.Range
import Courier.Markup.Expr
import Courier.Text.Blank

namespace Courier.Markup

/-- What a reader does: nothing, or a result and the rest of the text. -/
abbrev Reader (α : Type) := List Char → Option (α × List Char)

/-! ## Characters and words -/

/-- A blank inside a tag. -/
def isTagBlank (c : Char) : Bool := c = ' ' || c = '\t' || c = '\r' || c = '\n'

/-- Skips blanks. -/
def skip (cs : List Char) : List Char := cs.dropWhile isTagBlank

/-- Takes a fixed text off the front. -/
def take? (w : String) (cs : List Char) : Option (List Char) := w.toList.isPrefixOf? cs

/-- Takes a fixed text off the front, after blanks. -/
def token? (w : String) (cs : List Char) : Option (List Char) := take? w (skip cs)

/-- Takes a word off the front that a blank has to follow. -/
def spacedWord? (w : String) (cs : List Char) : Option (List Char) :=
  match token? w cs with
  | some (c :: rest) => if isTagBlank c then some rest else none
  | _ => none

/-- The start of a name. -/
def isNameStart (c : Char) : Bool := c.isAlpha || c = '_'

/-- The rest of a name. -/
def isNameChar (c : Char) : Bool := c.isAlphanum || c = '_'

/-- Reads a name. -/
def name? (cs : List Char) : Option (String × List Char) :=
  match skip cs with
  | [] => none
  | c :: rest =>
    if isNameStart c then
      some (String.ofList (c :: rest.takeWhile isNameChar), rest.dropWhile isNameChar)
    else none

/-- Reads things of one kind for as long as there are any. -/
def many (read : Reader α) : Nat → List Char → List α × List Char
  | 0, cs => ([], cs)
  | bound + 1, cs =>
    match read cs with
    | some (a, rest) =>
      let (as, rest) := many read bound rest
      (a :: as, rest)
    | none => ([], cs)

/-! ## Literals -/

/-- Reads a text between two equal quotes; nothing inside is special. -/
def text? (cs : List Char) : Option (String × List Char) :=
  match skip cs with
  | [] => none
  | q :: rest =>
    if q = '\x22' || q = '\x27' || q = '\x60' then
      match rest.dropWhile (· ≠ q) with
      | [] => none
      | _ :: after => some (String.ofList (rest.takeWhile (· ≠ q)), after)
    else none

/-- Reads the digits of a whole number: a zero alone, or digits that begin with another. -/
def wholeDigits? : List Char → Option (List Char × List Char)
  | '0' :: rest => some (['0'], rest)
  | c :: rest =>
    if c.isDigit then some (c :: rest.takeWhile Char.isDigit, rest.dropWhile Char.isDigit) else none
  | [] => none

/-- Reads a sign and the digits of a whole number. -/
def signedDigits? (cs : List Char) : Option ((Bool × List Char) × List Char) :=
  let (negative, cs) := match skip cs with
    | '-' :: rest => (true, rest)
    | cs => (false, cs)
  (wholeDigits? cs).map fun (digits, rest) => ((negative, digits), rest)

/-- Reads an integer of 64 bits. -/
def int? (cs : List Char) : Option (Int × List Char) := do
  let ((negative, digits), rest) ← signedDigits? cs
  let n : Int := Decimal.natOfDigits digits
  let i := if negative then -n else n
  if Decimal.signed64.contains i then some (i, rest) else none

/-- Reads a number with a fraction. -/
def float? (cs : List Char) : Option (Float × List Char) := do
  let ((negative, digits), rest) ← signedDigits? cs
  match rest with
  | '.' :: rest =>
    let fraction := rest.takeWhile Char.isDigit
    if fraction = [] then none
    else
      let f := Decimal.toFloat (Decimal.natOfDigits (digits ++ fraction)) (-(fraction.length : Int))
      some (if negative then -f else f, rest.dropWhile Char.isDigit)
  | _ => none

/-- Reads a truth value. -/
def bool? (cs : List Char) : Option (Bool × List Char) :=
  let cs := skip cs
  (take? "true" cs <|> take? "True" cs).map (true, ·)
    <|> (take? "false" cs <|> take? "False" cs).map (false, ·)

/-! ## Paths -/

/-- Reads a point and a name or an index. -/
def dotted? : List Char → Option (List Char × List Char)
  | '.' :: rest =>
    match rest.takeWhile isNameChar with
    | [] => none
    | cs => some ('.' :: cs, rest.dropWhile isNameChar)
  | _ => none

/-- The characters that a reader went over. -/
def between (cs rest : List Char) : List Char := cs.take (cs.length - rest.length)

/-- Reads a path as it is written: a name, then names after points and keys between brackets. -/
def path? : Nat → List Char → Option (List Char × List Char)
  | 0, _ => none
  | depth + 1, cs =>
    match cs with
    | [] => none
    | c :: rest =>
      if isNameStart c then
        let (parts, after) := many (fun cs => dotted? cs <|> bracketed depth cs) rest.length
          (rest.dropWhile isNameChar)
        some (c :: rest.takeWhile isNameChar ++ parts.flatten, after)
      else none
where
  /-- Reads a key between brackets. -/
  bracketed (depth : Nat) : List Char → Option (List Char × List Char)
    | '[' :: cs =>
      let unspaced {α : Type} (read : Reader α) : Option (List Char) :=
        if (cs.head?.map isTagBlank).getD true then none
        else (read cs).map fun (_, rest) => between cs rest
      match unspaced int? <|> unspaced text? <|> (path? depth cs).map (·.1) with
      | some key =>
        match cs.drop key.length with
        | ']' :: rest => some ('[' :: key ++ [']'], rest)
        | _ => none
      | none => none
    | _ => none

/-- Reads a path after blanks. -/
def subject? (cs : List Char) : Option (String × List Char) :=
  let cs := skip cs
  (path? (cs.length + 1) cs).map fun (p, rest) => (String.ofList p, rest)

/-! ## Operations -/

/-- Reads an operation on numbers. -/
def arithmetic? (cs : List Char) : Option (Arithmetic × List Char) :=
  match skip cs with
  | '+' :: rest => some (.add, rest)
  | '-' :: rest => some (.sub, rest)
  | '*' :: rest => some (.mul, rest)
  | '/' :: rest => some (.div, rest)
  | '%' :: rest => some (.rem, rest)
  | _ => none

/-- Reads a comparison. -/
def comparison? (cs : List Char) : Option (Logic × List Char) :=
  match skip cs with
  | '<' :: '=' :: rest => some (.lessEqual, rest)
  | '>' :: '=' :: rest => some (.greaterEqual, rest)
  | '>' :: rest => some (.greater, rest)
  | '<' :: rest => some (.less, rest)
  | '=' :: '=' :: rest => some (.equal, rest)
  | '!' :: '=' :: rest => some (.notEqual, rest)
  | _ => none

/-- Reads a junction. -/
def junction? (cs : List Char) : Option (Logic × List Char) :=
  (spacedWord? "or" cs).map (.or, ·) <|> (spacedWord? "and" cs).map (.and, ·)

/-- True for the operations that bind more tightly. -/
def Arithmetic.binds : Arithmetic → Bool
  | .add | .sub => false
  | .mul | .div | .rem => true

/-- Joins operands from left to right; operations that bind more tightly come first.  `waiting` is
an operand and an operation that waits for the operations that bind more tightly. -/
def assemble (binds : ω → Bool) (join : ω → α → α → α) (waiting : Option (α × ω)) (current : α) :
    List (ω × α) → α
  | [] => match waiting with
    | some (a, op) => join op a current
    | none => current
  | (op, a) :: rest =>
    if binds op then assemble binds join waiting (join op current a) rest
    else
      let left := match waiting with
        | some (b, op') => join op' b current
        | none => current
      assemble binds join (some (left, op)) a rest

/-- Joins terms by operations on numbers. -/
def joinTerms : Term → List (Arithmetic × Term) → Term :=
  assemble Arithmetic.binds (fun op l r => .arithmetic op (.of l) (.of r)) none

/-- Joins expressions by operations on numbers. -/
def joinExprs : Expr → List (Arithmetic × Expr) → Expr :=
  assemble Arithmetic.binds (fun op l r => .of (.arithmetic op l r)) none

/-- Joins expressions by junctions. -/
def joinLogic : Expr → List (Logic × Expr) → Expr :=
  assemble (· = .and) (fun op l r => .of (.logic op l r)) none

/-- Reads an operation and its right side. -/
def pair? (op : Reader ω) (read : Reader α) : Reader (ω × α) := fun cs => do
  let (o, cs) ← op cs
  let (a, cs) ← read cs
  return ((o, a), cs)

/-- Reads things with commas between them, one at least; a comma may end them if `final` is set. -/
def commaList? (final : Bool) (read : Reader α) : Reader (List α) := fun cs => do
  let (a, cs) ← read cs
  let (as, cs) := many (fun cs => do read (← token? "," cs)) cs.length cs
  let cs := if final then (token? "," cs).getD cs else cs
  return (a :: as, cs)

/-! ## Expressions -/

mutual
/-- Reads an operand of arithmetic. -/
def operand? : Nat → Reader Term
  | 0, _ => none
  | depth + 1, cs =>
    (bool? cs).map (fun (b, rest) => (.bool b, rest))
      <|> negatedTest? depth cs
      <|> test? depth cs
      <|> macroCall? depth cs
      <|> (call? depth cs).map (fun (c, rest) => (.call c, rest))
      <|> (subject? cs).map (fun (p, rest) => (.path p, rest))
      <|> (float? cs).map (fun (f, rest) => (.float f, rest))
      <|> (int? cs).map (fun (i, rest) => (.int i, rest))

/-- Reads the reverse of a test. -/
def negatedTest? : Nat → Reader Term
  | 0, _ => none
  | depth + 1, cs => do
    let (p, cs) ← subject? cs
    let (name, args, cs) ← testCall? depth (← token? "not" (← token? "is" cs))
    return (.test p true name args, cs)

/-- Reads a test. -/
def test? : Nat → Reader Term
  | 0, _ => none
  | depth + 1, cs => do
    let (p, cs) ← subject? cs
    let (name, args, cs) ← testCall? depth (← token? "is" cs)
    return (.test p false name args, cs)

/-- Reads the name of a test and its arguments. -/
def testCall? : Nat → List Char → Option (String × List Expr × List Char)
  | 0, _ => none
  | depth + 1, cs => do
    let (name, cs) ← name? cs
    let withArguments : Option (List Expr × List Char) := do
      let (args, cs) ← commaList? false (value? depth) (← token? "(" cs)
      return (args, ← token? ")" cs)
    match withArguments with
    | some (args, cs) => return (name, args, cs)
    | none => return (name, [], cs)

/-- Reads the use of a macro. -/
def macroCall? : Nat → Reader Term
  | 0, _ => none
  | depth + 1, cs => do
    let (space, cs) ← name? cs
    let (name, cs) ← name? (← token? "::" cs)
    let (args, cs) ← arguments? depth cs
    return (.macroCall space name args, cs)

/-- Reads a name and its arguments. -/
def call? : Nat → Reader Call
  | 0, _ => none
  | depth + 1, cs => do
    let (name, cs) ← name? cs
    let (args, cs) ← arguments? depth cs
    return (.mk name args, cs)

/-- Reads named arguments between parentheses. -/
def arguments? : Nat → Reader (List (String × Expr))
  | 0, _ => none
  | depth + 1, cs => do
    let cs ← token? "(" cs
    let (args, cs) := (commaList? true (argument? depth) cs).getD ([], cs)
    return (args, ← token? ")" cs)

/-- Reads a named argument. -/
def argument? : Nat → Reader (String × Expr)
  | 0, _ => none
  | depth + 1, cs => do
    let (name, cs) ← name? cs
    let (e, cs) ← value? depth (← token? "=" cs)
    return ((name, e), cs)

/-- Reads arithmetic, without filters. -/
def sum? : Nat → Reader Term
  | 0, _ => none
  | depth + 1, cs => do
    let one : Reader Term := fun cs =>
      (do
        let (t, cs) ← sum? depth (← token? "(" cs)
        return (t, ← token? ")" cs))
      <|> operand? depth cs
    let (t, cs) ← one cs
    let (more, cs) := many (pair? arithmetic? one) cs.length cs
    return (joinTerms t more, cs)

/-- Reads a filter. -/
def filter? : Nat → Reader Call
  | 0, _ => none
  | depth + 1, cs => do
    let cs ← token? "|" cs
    call? depth cs <|> (name? cs).map fun (name, rest) => (.mk name [], rest)

/-- Reads arithmetic and filters. -/
def filteredSum? : Nat → Reader Expr
  | 0, _ => none
  | depth + 1, cs => do
    let (t, cs) ← sum? depth cs
    let (fs, cs) := many (filter? depth) cs.length cs
    return (.mk t false fs, cs)

/-- Reads a piece of a joined text. -/
def piece? : Nat → Reader Term
  | 0, _ => none
  | depth + 1, cs =>
    (call? depth cs).map (fun (c, rest) => (.call c, rest))
      <|> (float? cs).map (fun (f, rest) => (.float f, rest))
      <|> (int? cs).map (fun (i, rest) => (.int i, rest))
      <|> (text? cs).map (fun (s, rest) => (.text s, rest))
      <|> (subject? cs).map (fun (p, rest) => (.path p, rest))

/-- Reads a text, or pieces joined into one, and filters. -/
def filteredText? : Nat → Reader Expr
  | 0, _ => none
  | depth + 1, cs => do
    let joined : Option (Term × List Char) := do
      let (p, cs) ← piece? depth cs
      let (ps, cs) := many (fun cs => do piece? depth (← token? "~" cs)) cs.length cs
      if ps.isEmpty then none else some (.joined (p :: ps), cs)
    let (t, cs) ← joined <|> (text? cs).map fun (s, rest) => (.text s, rest)
    let (fs, cs) := many (filter? depth) cs.length cs
    return (.mk t false fs, cs)

/-- Reads one side of a comparison. -/
def side? : Nat → Reader Expr
  | 0, _ => none
  | depth + 1, cs =>
    filteredText? depth cs <|> do
      let (e, cs) ← filteredSum? depth cs
      let (more, cs) := many (pair? arithmetic? (filteredSum? depth)) cs.length cs
      return (joinExprs e more, cs)

/-- Reads a comparison, or one side alone. -/
def compared? : Nat → Reader Expr
  | 0, _ => none
  | depth + 1, cs => do
    let (l, cs) ← side? depth cs
    match pair? comparison? (side? depth) cs with
    | some ((op, r), cs) => return (.of (.logic op l r), cs)
    | none => return (l, cs)

/-- Reads whether an item is in a container. -/
def contained? : Nat → Reader Expr
  | 0, _ => none
  | depth + 1, cs => do
    let (item, cs) ← filteredText? depth cs <|> filteredSum? depth cs
    let (negated, cs) := match spacedWord? "not" cs with
      | some cs => (true, cs)
      | none => (false, cs)
    let cs ← token? "in" cs
    let (container, cs) ← filteredText? depth cs <|> filteredList? depth cs
      <|> (subject? cs).map fun (p, rest) => (.of (.path p), rest)
    return (.of (.contained negated item container), cs)

/-- Reads an operand of a junction. -/
def condition? : Nat → Reader Expr
  | 0, _ => none
  | depth + 1, cs =>
    (do
      let (negated, cs) := match spacedWord? "not" cs with
        | some cs => (true, cs)
        | none => (false, cs)
      let (e, cs) ← contained? depth cs <|> compared? depth cs
      return (e.withNegation negated, cs))
    <|> do
      let (e, cs) ← logic? depth (← token? "(" cs)
      return (e.withNegation false, ← token? ")" cs)

/-- Reads conditions and the junctions between them. -/
def logic? : Nat → Reader Expr
  | 0, _ => none
  | depth + 1, cs => do
    let (e, cs) ← condition? depth cs
    let (more, cs) := many (pair? junction? (condition? depth)) cs.length cs
    return (joinLogic e more, cs)

/-- Reads a list and filters. -/
def filteredList? : Nat → Reader Expr
  | 0, _ => none
  | depth + 1, cs => do
    let cs ← token? "[" cs
    let (items, cs) := many (fun cs => do
      let (e, cs) ← condition? depth cs
      return (e, ← token? "," cs)) cs.length cs
    let (last, cs) := match condition? depth cs with
      | some (e, cs) => ([e], cs)
      | none => ([], cs)
    let cs ← token? "]" cs
    let (fs, cs) := many (filter? depth) cs.length cs
    return (.mk (.list (items ++ last)) false fs, cs)

/-- Reads any value. -/
def value? : Nat → Reader Expr
  | 0, _ => none
  | depth + 1, cs => logic? depth cs <|> filteredList? depth cs
end

/-- A depth that is enough for a text: a level of nesting takes a dozen calls at most. -/
def depthFor (cs : List Char) : Nat := 16 * cs.length + 64

/-- Reads any value, as deep as it may be. -/
def anyValue? : Reader Expr := fun cs => value? (depthFor cs) cs

/-- Reads a condition, as deep as it may be. -/
def anyLogic? : Reader Expr := fun cs => logic? (depthFor cs) cs

/-- Reads what a loop runs over, as deep as it may be. -/
def anyContainer? : Reader Expr := fun cs =>
  filteredSum? (depthFor cs) cs <|> filteredList? (depthFor cs) cs

/-- Reads a filter without its bar, as deep as it may be. -/
def anyFilter? : Reader Call := fun cs =>
  call? (depthFor cs) cs <|> (name? cs).map fun (name, rest) => (.mk name [], rest)

end Courier.Markup
