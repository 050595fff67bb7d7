/-
# Assignment files — properties in lines of the form `key=value`

A logical line goes on over line ends while a quote is open.  It is blank, a comment, or an
assignment, in front of which `export` may stand.  A value has parts without quotes, in single
quotes, where nothing has a meaning, and in double quotes; outside of single quotes a dollar sign
stands for the value of a name: one of the process, or one assigned further up.

`EnvFile.read` gives the assignments in their order, or the first line that is wrong.
-/
import Courier.Environment
import Courier.Files
import Courier.Log.Record
import Courier.Text.Blank
import Courier.Text.Word

namespace Courier.EnvFile

/-! ## Errors -/

/-- What is wrong with a file of assignments. -/
inductive Fault where
  /-- A line, or a value, and how far it was read. -/
  | line (text : String) (place : Nat)
  | unreadable (cause : FileError)
  deriving DecidableEq, Repr

/-- The wording of a fault. -/
def Fault.message : Fault → String
  | .line text place =>
    "Error parsing line: '" ++ text ++ "', error at line index: " ++ toString place
  | .unreadable cause => cause.message

/-- The wordings of what lies below a fault. -/
def Fault.causes : Fault → List String
  | .line .. => []
  | .unreadable cause => [cause.message]

/-! ## Logical lines -/

/-- What is open while the extent of a line is found. -/
inductive Open where
  | nothing
  | blank
  | escape
  | single
  | singleEscape
  | double
  | doubleEscape
  deriving DecidableEq, Repr

/-- What is open after a character that nothing stands before. -/
def Open.start (c : Char) : Open :=
  if c = '\\' then .escape
  else if c = '\x22' then .double
  else if c = '\x27' then .single
  else .nothing

/-- What is open after a character; none where a comment begins, which is after one blank. -/
def Open.next (c : Char) : Open → Option Open
  | .nothing => some (if Text.isBlank c && c ≠ '\n' && c ≠ '\r' then .blank else .start c)
  | .blank => if c = '#' then none else some (.start c)
  | .escape => some .nothing
  | .single => some (if c = '\\' then .singleEscape else if c = '\x27' then .nothing else .single)
  | .singleEscape => some .single
  | .double => some (if c = '\\' then .doubleEscape else if c = '\x22' then .nothing else .double)
  | .doubleEscape => some .double

/-- A line up to the comment in it, and what is open at its end; none where a comment ends it. -/
def extent (o : Open) : List Char → List Char × Option Open
  | [] => ([], some o)
  | c :: cs =>
    match o.next c with
    | none => ([], none)
    | some o =>
      let (kept, last) := extent o cs
      (c :: kept, last)

/-- A line without its end. -/
def dropLineEnd (cs : List Char) : List Char :=
  if cs.getLast? = some '\n' then
    let cs := cs.dropLast
    if cs.getLast? = some '\r' then cs.dropLast else cs
  else cs

/-- The number of bytes of characters. -/
def byteCount (cs : List Char) : Nat := (String.ofList cs).utf8ByteSize

/-- The logical lines of lines that keep their ends; `held` is what an open line has so far. -/
def logicalLines (held : List Char) (o : Open) :
    List (List UInt8) → List (Except Fault (List Char))
  | [] => if o = .nothing then [] else [.error (.line (String.ofList held) (byteCount held))]
  | bytes :: rest =>
    match String.fromUTF8? ⟨bytes.toArray⟩ with
    | none => [.error (.unreadable .notUtf8)]
    | some s =>
      let line := held ++ s.toList
      if (Text.trimLeft line).head? = some '#' then .ok [] :: logicalLines [] .nothing rest
      else
        match extent o s.toList with
        | (kept, none) => .ok (held ++ kept) :: logicalLines [] .nothing rest
        | (_, some .nothing) => .ok (dropLineEnd line) :: logicalLines [] .nothing rest
        | (_, some o) => logicalLines line o rest

/-- The lines of bytes, each with its end. -/
def byteLines : List UInt8 → List (List UInt8)
  | [] => []
  | b :: bs =>
    if b = 10 then [b] :: byteLines bs
    else
      match byteLines bs with
      | line :: lines => (b :: line) :: lines
      | [] => [[b]]

/-! ## Values -/

/-- The quotes that a value is in. -/
inductive Quote where
  | none
  | single
  | double
  deriving DecidableEq, Repr

/-- What a value waits for. -/
inductive Pending where
  | nothing
  | escape
  /-- The name after a dollar sign. -/
  | name (cs : List Char)
  /-- The name in braces after a dollar sign. -/
  | braced (cs : List Char)
  /-- Nothing but blanks and a comment. -/
  | finish
  deriving DecidableEq, Repr

/-- What is known of a value. -/
structure Reading where
  /-- The characters of the value so far, the last first. -/
  out : List Char
  quote : Quote
  pending : Pending

/-- The value as far as it was read. -/
def Reading.text (r : Reading) : String := String.ofList r.out.reverse

/-- Adds a character. -/
def Reading.push (r : Reading) (c : Char) : Reading := { r with out := c :: r.out }

/-- Waits for something else. -/
def Reading.await (r : Reading) (p : Pending) : Reading := { r with pending := p }

/-- Opens or closes quotes. -/
def Reading.setQuote (r : Reading) (q : Quote) : Reading := { r with quote := q }

/-- What names stand for: first those of the process, then those assigned so far. -/
abbrev Names := String → Option String

/-- Adds what a name stands for, which may be nothing. -/
def Reading.substitute (r : Reading) (names : Names) (name : List Char) : Reading :=
  { r with
    out := ((names (String.ofList name)).getD "").toList.reverse ++ r.out
    pending := .nothing }

/-- A character in front of which nothing waits. -/
def Reading.plain (r : Reading) (c : Char) : Reading :=
  match r.quote with
  | .single => if c = '\x27' then r.setQuote .none else r.push c
  | .double =>
    if c = '$' then r.await (.name [])
    else if c = '\x22' then r.setQuote .none
    else if c = '\\' then r.await .escape
    else r.push c
  | .none =>
    if c = '$' then r.await (.name [])
    else if c = '\x27' then r.setQuote .single
    else if c = '\x22' then r.setQuote .double
    else if c = '\\' then r.await .escape
    else if c = ' ' || c = '\t' then r.await .finish
    else r.push c

/-- A character after a backslash. -/
def Reading.escaped (r : Reading) (c : Char) : Option Reading :=
  if c = 'n' then some ((r.await .nothing).push '\n')
  else if "\\\x27\x22$ ".toList.contains c then some ((r.await .nothing).push c)
  else none

/-- A character that is not part of the name before it. -/
def Reading.afterName (r : Reading) (names : Names) (name : List Char) (c : Char) : Reading :=
  if c = '\x7b' && name = [] then r.await (.braced [])
  else
    let r := r.substitute names name
    if c = '$' then r.await (.name []) else r.push c

/-- Reads a value to its end or to its comment; `place` counts the characters read. -/
def readValue (names : Names) (place : Nat) (r : Reading) : List Char → Except Nat Reading
  | [] => .ok r
  | c :: cs =>
    match r.pending with
    | .finish =>
      if c = ' ' || c = '\t' then readValue names (place + 1) r cs
      else if c = '#' then .ok r
      else .error place
    | .escape =>
      match r.escaped c with
      | some r => readValue names (place + 1) r cs
      | none => .error place
    | .name name =>
      if Text.isAlphanumeric c then readValue names (place + 1) (r.await (.name (name ++ [c]))) cs
      else readValue names (place + 1) (r.afterName names name c) cs
    | .braced name =>
      if c = '\x7d' then readValue names (place + 1) (r.substitute names name) cs
      else readValue names (place + 1) (r.await (.braced (name ++ [c]))) cs
    | .nothing => readValue names (place + 1) (r.plain c) cs

/-- The value that a text spells. -/
def value (names : Names) (cs : List Char) : Except Fault String :=
  let text := String.ofList cs
  match readValue names 0 ⟨[], .none, .nothing⟩ cs with
  | .error place => .error (.line text place)
  | .ok r =>
    match r.quote, r.pending with
    | .none, .name name => .ok (r.substitute names name).text
    | .none, .braced _ => .error (.line text (text.utf8ByteSize - 1))
    | .none, _ => .ok r.text
    | _, _ => .error (.line text (text.utf8ByteSize - 1))

/-! ## Assignments -/

/-- What is left of a line. -/
structure Rest where
  /-- How many bytes were read. -/
  place : Nat
  chars : List Char

/-- Passes over characters. -/
def Rest.skip (r : Rest) (skipped : Char → Bool) : Rest :=
  ⟨r.place + byteCount (r.chars.takeWhile skipped), r.chars.dropWhile skipped⟩

/-- The key in front; without one, the place. -/
def Rest.key (r : Rest) : Except Nat (String × Rest) :=
  let inKey (c : Char) : Bool := c.isAlphanum || c = '_' || c = '.'
  match r.chars with
  | c :: _ =>
    if c.isAlpha || c = '_' then .ok (String.ofList (r.chars.takeWhile inKey), r.skip inKey)
    else .error r.place
  | [] => .error r.place

/-- What follows an equals sign; without one, the place. -/
def Rest.equals (r : Rest) : Except Nat Rest :=
  match r.chars with
  | '=' :: cs => .ok ⟨r.place + 1, cs⟩
  | _ => .error r.place

/-- The key of an assignment and its value as it is written. -/
def assignment (r : Rest) : Except Nat (String × List Char) := do
  let (key, r) ← r.key
  let r := r.skip Text.isBlank
  let (key, r) ←
    if key = "export" && r.chars.head? ≠ some '=' then do
      let (key, r) ← r.key
      pure (key, r.skip Text.isBlank)
    else pure (key, r)
  let r := (← r.equals).skip Text.isBlank
  return (key, r.chars)

/-- The assignment of a logical line, if there is one. -/
def readLine (names : Names) (line : List Char) : Except Fault (Option (String × String)) :=
  let r := (Rest.mk 0 (Text.trimRight line)).skip Text.isBlank
  if r.chars = [] || r.chars.head? = some '#' then .ok none
  else
    match assignment r with
    | .error place => .error (.line (String.ofList line) place)
    | .ok (key, written) =>
      if written = [] || written.head? = some '#' then .ok (some (key, ""))
      else (value names written).map fun v => some (key, v)

/-- The assignments of logical lines; `assigned` are those further up, the last one first. -/
def readLines (process : Names) (assigned : List (String × String)) :
    List (Except Fault (List Char)) → Except Fault (List (String × String))
  | [] => .ok assigned.reverse
  | line :: rest => do
    let names (name : String) := (process name).or (assigned.lookup name)
    match ← readLine names (← line) with
    | none => readLines process assigned rest
    | some a => readLines process (a :: assigned) rest

/-- The assignments of a file; `process` holds the variables of the process. -/
def read (process : Names) (bytes : ByteArray) : Except Fault (List (String × String)) :=
  readLines process [] (logicalLines [] .nothing (byteLines bytes.toList))

end Courier.EnvFile

namespace Courier

/-! ## Property files -/

/-- Why properties cannot be loaded. -/
inductive PropertiesError where
  | missing (path : String)
  | fault (path : String) (cause : EnvFile.Fault)
  deriving DecidableEq, Repr

/-- The wording of the reason. -/
def PropertiesError.message : PropertiesError → String
  | .missing path => "properties file does not exist: " ++ path
  | .fault path _ => "failed to parse key-value entry in properties file " ++ path

/-- The wordings of what lies below the reason, the nearest first. -/
def PropertiesError.causes : PropertiesError → List String
  | .missing _ => []
  | .fault _ cause => cause.message :: cause.causes

/-- The record of loaded properties. -/
def Properties.loaded (path : String) (p : Properties) : LogRecord :=
  { level := .debug
    target := "herald::environment"
    message := "properties file loaded"
    fields := [("path", .text path), ("count", .int p.size)] }

/-- The properties of a file of assignments; of two assignments to one key the later counts. -/
def Properties.ofFile (process : EnvFile.Names) (files : Files) (path : String) :
    Except PropertiesError Properties :=
  if !files.has path then .error (.missing path)
  else
    match files.readBytes path with
    | .error e => .error (.fault path (.unreadable e))
    | .ok bytes => ((EnvFile.read process bytes).mapError (.fault path)).map Properties.ofList

/-- Loads the properties of a file of assignments. -/
def Properties.load (process : EnvFile.Names) (files : Files) (path : String) :
    Traced LogRecord (Except PropertiesError Properties) :=
  match Properties.ofFile process files path with
  | .ok p => .one (Properties.loaded path p) (.ok p)
  | .error e => pure (.error e)

end Courier
