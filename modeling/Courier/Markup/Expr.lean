/-
# Expressions — what stands between the braces of a template

An expression is a term, the filters that its value goes through, and a negation.  Terms are
literals, paths into the variables, calls, and operations on expressions.  `describe` writes an
expression out in full; it is what a failed remainder shows of its operands.
-/
import Courier.Decimal.Shortest
import Courier.Text.Quoted

namespace Courier.Markup

/-- An operation on numbers. -/
inductive Arithmetic where
  | add
  | sub
  | mul
  | div
  | rem
  deriving DecidableEq, Repr

/-- A comparison, or a junction of truth values. -/
inductive Logic where
  | or
  | and
  | greater
  | greaterEqual
  | less
  | lessEqual
  | equal
  | notEqual
  deriving DecidableEq, Repr

mutual
/-- A term, whether its truth is reversed, and the filters that come after it. -/
inductive Expr where
  | mk (term : Term) (negated : Bool) (filters : List Call)

/-- What an expression starts from. -/
inductive Term where
  | text (s : String)
  | int (i : Int)
  | float (f : Float)
  | bool (b : Bool)
  /-- A path into the variables, as it is written. -/
  | path (written : String)
  | arithmetic (op : Arithmetic) (left right : Expr)
  | logic (op : Logic) (left right : Expr)
  | test (subject : String) (negated : Bool) (name : String) (arguments : List Expr)
  | call (c : Call)
  | macroCall (space name : String) (arguments : List (String × Expr))
  | list (items : List Expr)
  /-- Pieces joined into one text. -/
  | joined (pieces : List Term)
  /-- Whether an item is in a container. -/
  | contained (negated : Bool) (item container : Expr)

/-- The use of a function or of a filter. -/
inductive Call where
  | mk (name : String) (arguments : List (String × Expr))
end

instance : Inhabited Term := ⟨.bool false⟩

/-- A term alone. -/
def Expr.of (t : Term) : Expr := .mk t false []

/-- The term of an expression. -/
def Expr.term : Expr → Term
  | .mk t _ _ => t

/-- Whether the truth of an expression is reversed. -/
def Expr.negated : Expr → Bool
  | .mk _ n _ => n

/-- The filters of an expression. -/
def Expr.filters : Expr → List Call
  | .mk _ _ fs => fs

/-- The expression with a given negation. -/
def Expr.withNegation (n : Bool) : Expr → Expr
  | .mk t _ fs => .mk t n fs

/-- The name of a call. -/
def Call.name : Call → String
  | .mk name _ => name

/-- The arguments of a call. -/
def Call.arguments : Call → List (String × Expr)
  | .mk _ arguments => arguments

/-! ## Writing expressions out -/

/-- The name of an operation on numbers. -/
def Arithmetic.name : Arithmetic → String
  | .add => "Add"
  | .sub => "Sub"
  | .mul => "Mul"
  | .div => "Div"
  | .rem => "Modulo"

/-- The name of a comparison or junction. -/
def Logic.name : Logic → String
  | .or => "Or"
  | .and => "And"
  | .greater => "Gt"
  | .greaterEqual => "Gte"
  | .less => "Lt"
  | .lessEqual => "Lte"
  | .equal => "Eq"
  | .notEqual => "NotEq"

/-- A record with named parts. -/
def describeRecord (name : String) (parts : List (String × String)) : String :=
  name ++ " \x7b " ++ ", ".intercalate (parts.map fun (k, v) => k ++ ": " ++ v) ++ " \x7d"

/-- A map with written values. -/
def describeMap (entries : List (String × String)) : String :=
  "\x7b" ++ ", ".intercalate (entries.map fun (k, v) => Text.quoted k ++ ": " ++ v) ++ "\x7d"

mutual
/-- An expression in full. -/
def Expr.describe : Expr → String
  | .mk t n fs => describeRecord "Expr" [("val", t.describe), ("negated", toString n),
      ("filters", Text.bracketed (describeCalls fs))]

/-- A term in full. -/
def Term.describe : Term → String
  | .text s => "String(" ++ Text.quoted s ++ ")"
  | .int i => "Int(" ++ toString i ++ ")"
  | .float f => "Float(" ++ Decimal.pointed.write f ++ ")"
  | .bool b => "Bool(" ++ toString b ++ ")"
  | .path p => "Ident(" ++ Text.quoted p ++ ")"
  | .arithmetic op l r => "Math(" ++ describeRecord "MathExpr" [("lhs", l.describe),
      ("rhs", r.describe), ("operator", op.name)] ++ ")"
  | .logic op l r => "Logic(" ++ describeRecord "LogicExpr" [("lhs", l.describe),
      ("rhs", r.describe), ("operator", op.name)] ++ ")"
  | .test subject n name args => "Test(" ++ describeRecord "Test"
      [("ident", Text.quoted subject), ("negated", toString n), ("name", Text.quoted name),
        ("args", Text.bracketed (describeAll args))] ++ ")"
  | .call c => "FunctionCall(" ++ c.describe ++ ")"
  | .macroCall space name args => "MacroCall(" ++ describeRecord "MacroCall"
      [("namespace", Text.quoted space), ("name", Text.quoted name),
        ("args", describeMap (describeArguments args))] ++ ")"
  | .list items => "Array(" ++ Text.bracketed (describeAll items) ++ ")"
  | .joined pieces => "StringConcat(" ++ describeRecord "StringConcat"
      [("values", Text.bracketed (describeTerms pieces))] ++ ")"
  | .contained n item container => "In(" ++ describeRecord "In" [("lhs", item.describe),
      ("rhs", container.describe), ("negated", toString n)] ++ ")"

/-- A call in full. -/
def Call.describe : Call → String
  | .mk name args => describeRecord "FunctionCall" [("name", Text.quoted name),
      ("args", describeMap (describeArguments args))]

/-- Calls in full. -/
def describeCalls : List Call → List String
  | [] => []
  | c :: cs => c.describe :: describeCalls cs

/-- Expressions in full. -/
def describeAll : List Expr → List String
  | [] => []
  | e :: es => e.describe :: describeAll es

/-- Terms in full. -/
def describeTerms : List Term → List String
  | [] => []
  | t :: ts => t.describe :: describeTerms ts

/-- Arguments in full. -/
def describeArguments : List (String × Expr) → List (String × String)
  | [] => []
  | (k, e) :: rest => (k, e.describe) :: describeArguments rest
end

end Courier.Markup
