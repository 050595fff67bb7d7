/-
# Content — the body of a message

A body is a final text or a template that is still to be rendered: its source, given inline or by
the name of a file, and its variables.
-/
import Courier.Json.Value

namespace Courier

open Json (Value)

/-- Where the text of a template comes from. -/
inductive TemplateSource where
  | inline (text : String)
  | path (name : String)
  deriving DecidableEq, Repr

/-- A template and the variables of its caller, in the order of their names. -/
structure Template where
  source : TemplateSource
  bindings : List (String × Value)
  deriving Repr

/-- The body of a message. -/
inductive Content where
  | text (s : String)
  | template (t : Template)
  deriving Repr

/-- The template with a value for one more variable. -/
def Template.withVariable (t : Template) (name : String) (v : Value) : Template :=
  { t with bindings := Entries.insert name v t.bindings }

namespace Content

/-- The final text, if there is one. -/
def text? : Content → Option String
  | .text s => some s
  | .template _ => none

/-- The most characters of a text that a summary shows. -/
def summaryLength : Nat := 40

/-- A body in a few words. -/
def summary : Content → String
  | .text s =>
    if summaryLength < s.toList.length then
      "\"" ++ String.ofList (s.toList.take summaryLength) ++ "...\""
    else "\"" ++ s ++ "\""
  | .template ⟨.inline _, _⟩ => "<inline template>"
  | .template ⟨.path name, _⟩ => "<template " ++ name ++ ">"

/-- A body as a document. -/
def toJson : Content → Value
  | .text s => .object [("type", .text "text"), ("text", .text s)]
  | .template ⟨source, bindings⟩ =>
    let (kind, value) := match source with
      | .inline s => ("inline", s)
      | .path s => ("path", s)
    .object [("type", .text "template"),
      ("source", .object [("kind", .text kind), ("value", .text value)]),
      ("variables", .object bindings)]

end Content

end Courier
