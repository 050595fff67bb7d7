/-
# Templates — final texts out of templates

A template is given inline or by name; a name becomes a path by what a location puts before and
after it.  The template sees its own variables and nothing of the process.
-/
import Courier.Markup.Render
import Courier.Pipeline.Layers

namespace Courier

/-- Where the files of templates are: what comes before a name, and what after it. -/
structure TemplateLocation where
  before : String
  after : String
  deriving DecidableEq, Repr

namespace TemplateLocation

/-- The working directory, and no ending. -/
def standard : TemplateLocation := ⟨"", ""⟩

/-- The path of a template. -/
def path (l : TemplateLocation) (name : String) : String := l.before ++ name ++ l.after

/-- The record that a template is being read. -/
def loading (l : TemplateLocation) (name : String) : LogRecord :=
  { level := .debug
    target := "herald::translator"
    message := "loading template"
    fields := [("template", .text name), ("path", .text (l.path name))] }

/-- The source of a template, and the record of reading it. -/
def load (l : TemplateLocation) (files : Files) :
    TemplateSource → Traced LogRecord (Except ContentError String)
  | .inline s => pure (.ok s)
  | .path name =>
    .one (l.loading name) <|
      match files.read (l.path name) with
      | .ok s => .ok s
      | .error e => .error (.templateNotFound name (l.path name) e)

/-- The name under which a template alone is rendered. -/
def aloneName : String := "__tera_one_off"

/-- What renders templates: a source and the values of its variables give a text, or the reason why
there is none. -/
abbrev Engine := String → List (String × Json.Value) → Except String String

/-- The engine of the template language. -/
def engine : Engine := Markup.render aloneName fun _ => none

/-- Renders templates by an engine and leaves final texts as they are. -/
def translatorBy (e : Engine) (l : TemplateLocation) (files : Files) : ContentTranslator where
  translate
    | .text s => pure (.ok (.text s))
    | .template t => do
      match ← l.load files t.source with
      | .error cause => return .error cause
      | .ok source => return ((e source t.bindings).mapError .render).map .text

/-- Renders templates and leaves final texts as they are. -/
def translator (l : TemplateLocation) (files : Files) : ContentTranslator :=
  translatorBy engine l files

end TemplateLocation

end Courier
