/-
# Redaction — what of a refusing server's answer may be shown

The blanks of the text are collapsed first.  Then three kinds of credential are replaced by a
mark, one kind after the other: a bearer token, a quoted member of a document, and a parameter of
a query.  Letters are compared without regard to case.  What is left is cut to a limit.

A kind of credential is a function that takes it off the front of a text; `replaceAll` replaces
its occurrences from left to right, each as long as it goes, and none overlaps another.
-/
import Courier.Text.Pieces

namespace Courier.Http

open Courier.Text (isBlank)

/-! ## Letters without case -/

/-- True when `c` is a given small ASCII letter in either case, or a letter of the same folding:
the Kelvin sign for `k`, the long s for `s`. -/
def foldsTo (letter c : Char) : Bool :=
  c.toLower = letter || (letter = 'k' && c.toNat = 0x212A) || (letter = 's' && c.toNat = 0x17F)

/-- What stands in a token: letters, digits, points, underscores and hyphens. -/
def isTokenChar (c : Char) : Bool :=
  c.isAlphanum || c = '.' || c = '_' || c = '-' || foldsTo 'k' c || foldsTo 's' c

/-! ## Taking things off the front -/

/-- Takes a word off the front, in any case. -/
def takeWord? : List Char → List Char → Option (List Char)
  | [], cs => some cs
  | w :: ws, c :: cs => if foldsTo w c then takeWord? ws cs else none
  | _ :: _, [] => none

/-- The words that name a secret. -/
def secretNames : List String := ["api_key", "apikey", "token", "password"]

/-- Takes the name of a secret off the front. -/
def takeSecretName? (cs : List Char) : Option (List Char) :=
  secretNames.findSome? fun name => takeWord? name.toList cs

/-- Takes one character off the front. -/
def takeChar? (c : Char) : List Char → Option (List Char)
  | d :: cs => if d = c then some cs else none
  | [] => none

/-- Takes characters off the front as long as they pass a test, but at least `least`. -/
def takeRun? (least : Nat) (test : Char → Bool) (cs : List Char) : Option (List Char) :=
  if least ≤ (cs.takeWhile test).length then some (cs.dropWhile test) else none

/-! ## Credentials -/

/-- The word `bearer`, blanks, and a token of at least eight characters. -/
def bearer? (cs : List Char) : Option (List Char) := do
  takeRun? 8 isTokenChar (← takeRun? 1 isBlank (← takeWord? "bearer".toList cs))

/-- The name of a secret in quotes, a colon, and a text in quotes. -/
def quotedSecret? (cs : List Char) : Option (List Char) := do
  let cs ← takeChar? '\x22' (← takeSecretName? (← takeChar? '\x22' cs))
  let cs ← takeChar? ':' (cs.dropWhile isBlank)
  let cs ← takeChar? '\x22' (cs.dropWhile isBlank)
  takeChar? '\x22' (cs.dropWhile (· ≠ '\x22'))

/-- The name of a secret, an equals sign, and all up to an ampersand or a blank. -/
def parameterSecret? (cs : List Char) : Option (List Char) := do
  takeRun? 1 (fun c => c ≠ '&' && !isBlank c) (← takeChar? '=' (← takeSecretName? cs))

/-- The kinds of credential, in the order in which they are replaced. -/
def credentials : List (List Char → Option (List Char)) :=
  [bearer?, quotedSecret?, parameterSecret?]

/-! ## Replacing -/

/-- What stands in the place of a credential. -/
def mark : List Char := "[REDACTED]".toList

/-- Replaces every occurrence of a kind of credential. -/
def replaceAll (take? : List Char → Option (List Char)) (cs : List Char) : List Char :=
  Text.replaceFrom take? mark 0 cs

/-- The text with collapsed blanks and without credentials. -/
def redact (cs : List Char) : List Char :=
  credentials.foldl (fun cs take? => replaceAll take? cs) (Text.collapseBlanks cs)

/-- The most characters of an answer that are shown. -/
def excerptLength : Nat := 256

/-- What may be shown of an answer. -/
def excerpt (body : String) : String :=
  let shown := redact body.toList
  if excerptLength < shown.length then
    String.ofList (shown.take excerptLength) ++ "...[truncated]"
  else String.ofList shown

end Courier.Http
