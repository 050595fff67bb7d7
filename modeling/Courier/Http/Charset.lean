/-
# Charsets — from the bytes of an answer to its text

A byte-order mark at the start decides; else the charset that the media type names; else UTF-8.
Bytes that mean nothing become the replacement character, one for each longest beginning of a
character that is cut short.
-/
import Courier.Http.CharsetTable
import Courier.Text.Blank

namespace Courier.Http

/-- What stands for bytes without a meaning. -/
def replacement : Char := Char.ofNat 0xFFFD

/-! ## UTF-8 -/

/-- A character that has begun: its bits so far, how many bytes are missing, and the range of the
next one. -/
structure Begun where
  bits : Nat
  missing : Nat
  low : Nat
  high : Nat

/-- What a byte begins: a character, a longer one, or nothing. -/
inductive Beginning where
  | char (c : Char)
  | longer (b : Begun)
  | nothing

/-- What a byte begins. -/
def beginning (b : Nat) : Beginning :=
  if b < 0x80 then .char (Char.ofNat b)
  else if b < 0xC2 then .nothing
  else if b < 0xE0 then .longer ⟨b - 0xC0, 1, 0x80, 0xBF⟩
  else if b = 0xE0 then .longer ⟨0, 2, 0xA0, 0xBF⟩
  else if b = 0xED then .longer ⟨0xD, 2, 0x80, 0x9F⟩
  else if b < 0xF0 then .longer ⟨b - 0xE0, 2, 0x80, 0xBF⟩
  else if b = 0xF0 then .longer ⟨0, 3, 0x90, 0xBF⟩
  else if b < 0xF4 then .longer ⟨b - 0xF0, 3, 0x80, 0xBF⟩
  else if b = 0xF4 then .longer ⟨4, 3, 0x80, 0x8F⟩
  else .nothing

/-- Decodes bytes after what has begun. -/
def utf8After : Option Begun → List Nat → List Char
  | none, [] => []
  | some _, [] => [replacement]
  | none, b :: bs =>
    match beginning b with
    | .char c => c :: utf8After none bs
    | .longer s => utf8After (some s) bs
    | .nothing => replacement :: utf8After none bs
  | some s, b :: bs =>
    if s.low ≤ b && b ≤ s.high then
      let bits := s.bits * 64 + (b - 0x80)
      if s.missing ≤ 1 then Char.ofNat bits :: utf8After none bs
      else utf8After (some ⟨bits, s.missing - 1, 0x80, 0xBF⟩) bs
    else
      match beginning b with
      | .char c => replacement :: c :: utf8After none bs
      | .longer s => replacement :: utf8After (some s) bs
      | .nothing => replacement :: replacement :: utf8After none bs

/-- Decodes UTF-8. -/
def utf8 (bytes : List Nat) : List Char := utf8After none bytes

/-! ## UTF-16 -/

/-- Joins bytes in pairs; half a pair at the end is none. -/
def units (bigEndian : Bool) : List Nat → List (Option Nat)
  | [] => []
  | [_] => [none]
  | a :: b :: rest => some (if bigEndian then a * 256 + b else b * 256 + a) :: units bigEndian rest

/-- Decodes units after the first half of a pair, if there is one. -/
def utf16After : Option Nat → List (Option Nat) → List Char
  | none, [] => []
  | some _, [] => [replacement]
  | none, none :: us => replacement :: utf16After none us
  | some _, none :: us => replacement :: utf16After none us
  | none, some u :: us =>
    if 0xD800 ≤ u && u < 0xDC00 then utf16After (some u) us
    else if 0xDC00 ≤ u && u < 0xE000 then replacement :: utf16After none us
    else Char.ofNat u :: utf16After none us
  | some h, some u :: us =>
    if 0xDC00 ≤ u && u < 0xE000 then
      Char.ofNat (0x10000 + (h - 0xD800) * 0x400 + (u - 0xDC00)) :: utf16After none us
    else if 0xD800 ≤ u && u < 0xDC00 then replacement :: utf16After (some u) us
    else replacement :: Char.ofNat u :: utf16After none us

/-- Decodes UTF-16. -/
def utf16 (bigEndian : Bool) (bytes : List Nat) : List Char :=
  utf16After none (units bigEndian bytes)

/-! ## Charsets by name -/

/-- A way to read bytes. -/
inductive Charset where
  | utf8
  | utf16 (bigEndian : Bool)
  /-- Each byte is a character; `upper` holds those from 0x80 on. -/
  | bytes (upper : List Char)
  /-- Each byte from 0x80 on is a character for private use. -/
  | privateUse
  /-- Nothing is ever read. -/
  | refused

/-- Decodes bytes. -/
def Charset.decode : Charset → List Nat → List Char
  | .utf8, bs => Http.utf8 bs
  | .utf16 bigEndian, bs => Http.utf16 bigEndian bs
  | .bytes upper, bs => bs.map fun b =>
    if b < 0x80 then Char.ofNat b else upper.getD (b - 0x80) replacement
  | .privateUse, bs => bs.map fun b =>
    if b < 0x80 then Char.ofNat b else Char.ofNat (0xF700 + b)
  | .refused, bs => if bs = [] then [] else [replacement]

/-- The labels of the charsets that are not tables. -/
def charsetLabels : List (List String × Charset) :=
  [(["unicode-1-1-utf-8", "unicode11utf8", "unicode20utf8", "utf-8", "utf8", "x-unicode20utf8"],
      .utf8),
   (["csunicode", "iso-10646-ucs-2", "ucs-2", "unicode", "unicodefeff", "utf-16", "utf-16le"],
      .utf16 false),
   (["unicodefffe", "utf-16be"], .utf16 true),
   (["x-user-defined"], .privateUse),
   (["csiso2022kr", "hz-gb-2312", "iso-2022-cn", "iso-2022-cn-ext", "iso-2022-kr", "replacement"],
      .refused)]

/-- The charset with a label; case and outer blanks do not matter. -/
def Charset.ofLabel? (label : String) : Option Charset :=
  let isSpace (c : Char) : Bool := c = ' ' || c = '\t' || c = '\n' || c = '\r' || c = '\x0c'
  let cs := ((label.toList.dropWhile isSpace).reverse.dropWhile isSpace).reverse
  let label := String.ofList (cs.map Char.toLower)
  match charsetLabels.find? (·.1.contains label) with
  | some (_, charset) => some charset
  | none => (byteCharsets.find? (·.labels.contains label)).map fun c => .bytes c.upper.toList

/-! ## Media types -/

/-- What may stand in a name of a media type. -/
def isMediaChar (c : Char) : Bool :=
  c.isAlphanum || "!#$%&*+-.^_|~".toList.contains c || c = '\x27' || c = '\x60'

/-- The parameters of a media type; `fuel` bounds their number. -/
def mediaParameters : Nat → List Char → Option (List (String × String))
  | 0, _ => none
  | fuel + 1, cs =>
    match cs.dropWhile (· = ' ') with
    | [] => some []
    | cs =>
      let name := String.ofList ((cs.takeWhile isMediaChar).map Char.toLower)
      match cs.dropWhile isMediaChar with
      | '=' :: '\x22' :: cs =>
        let value := String.ofList (cs.takeWhile (· ≠ '\x22'))
        match (cs.dropWhile (· ≠ '\x22')).drop 1 |>.dropWhile (· = ' ') with
        | [] =>
          if name = "" || !cs.contains '\x22' then none else some [(name, value)]
        | c :: cs =>
          if name = "" || c ≠ ';' then none
          else (mediaParameters fuel cs).map ((name, value) :: ·)
      | '=' :: cs =>
        let value := String.ofList (cs.takeWhile isMediaChar)
        match cs.dropWhile isMediaChar with
        | [] => if name = "" then none else some [(name, value)]
        | c :: cs =>
          if name = "" || value = "" || c ≠ ';' then none
          else (mediaParameters fuel cs).map ((name, value) :: ·)
      | _ => none

/-- The charset label that a media type names, if it is well formed and names one. -/
def charsetLabel? (mediaType : String) : Option String :=
  let cs := mediaType.toList
  match cs.dropWhile isMediaChar with
  | '/' :: rest =>
    match rest.dropWhile isMediaChar with
    | ';' :: parameters =>
      if cs.head? = some '/' || rest.head? = some ';' then none
      else (mediaParameters (parameters.length + 1) parameters).bind (·.lookup "charset")
    | _ => none
  | _ => none

/-- The text of an answer with a media type. -/
def decodeText (mediaType : Option String) (bytes : List Nat) : String :=
  String.ofList <| match bytes with
    | 0xEF :: 0xBB :: 0xBF :: bs => utf8 bs
    | 0xFF :: 0xFE :: bs => utf16 false bs
    | 0xFE :: 0xFF :: bs => utf16 true bs
    | bs => ((mediaType.bind charsetLabel?).bind Charset.ofLabel?).getD .utf8 |>.decode bs

end Courier.Http
