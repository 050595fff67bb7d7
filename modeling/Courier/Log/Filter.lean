/-
# Filters — which records are written

A filter is a list of directives: how much is written of the targets that begin with a name, or of
all.  The directive with the longest name that a target begins with decides.
-/
import Courier.Decimal.Digits
import Courier.Log.Record
import Courier.Text.Blank
import Courier.Text.Word

namespace Courier

/-- How much of some targets is written. -/
structure Directive where
  /-- What the targets begin with; none means all targets. -/
  target : Option String
  /-- The highest rank that is written; zero means nothing. -/
  rank : Nat
  /-- The directive is about spans, which this program has none of. -/
  ofSpans : Bool
  deriving DecidableEq, Repr

namespace Directive

/-- The ranks by name. -/
def ranks : List (String × Nat) :=
  [("off", 0), ("error", 1), ("warn", 2), ("info", 3), ("debug", 4), ("trace", 5)]

/-- The rank that a number spells, which may have a plus sign. -/
def numberedRank? (word : List Char) : Option Nat :=
  let digits := (['+'].isPrefixOf? word).getD word
  let rank := Decimal.natOfDigits digits
  if digits ≠ [] && digits.all Char.isDigit && rank ≤ 5 then some rank else none

/-- The rank that a word names, in letters of either case or as a number. -/
def rank? (word : List Char) : Option Nat :=
  (numberedRank? word).or (ranks.lookup (String.ofList (word.map Char.toLower)))

/-- The rank behind an equals sign; without one everything is written. -/
def rankBehind? (word : List Char) : Option Nat := if word = [] then some 5 else rank? word

/-- True for a character that a directive may begin with, apart from a bracket. -/
def isStart (c : Char) : Bool := c = '-' || c = ':' || c = '_' || Text.isWordChar c

/-- What follows the brackets of spans, given what follows the opening one. -/
def afterSpans? (cs : List Char) : Option (List Char) :=
  match cs.dropWhile fun c => c ≠ ']' && c ≠ '\x7b' with
  | ']' :: rest => some rest
  | '\x7b' :: rest =>
    if rest.head? = some '\x7d' then none
    else
      match rest.dropWhile (· ≠ '\x7d') with
      | _ :: ']' :: rest => some rest
      | _ => none
  | _ => none

/-- The directive that a text spells: a rank, a target, or both with an equals sign between.  Where
its parts begin is counted without the blanks in front, although these belong to what is cut. -/
def parse? (s : String) : Option Directive :=
  let written := s.toList
  let cs := Text.trimChars written
  let name := cs.takeWhile fun c => c ≠ '=' && c ≠ '['
  if (cs.head?.map fun c => c = '[' || isStart c).getD false then
    match cs.drop name.length with
    | [] =>
      match rank? written with
      | some rank => some ⟨none, rank, false⟩
      | none => some ⟨some s, 5, false⟩
    | '=' :: _ =>
      (rankBehind? (written.drop (name.length + 1))).map fun rank =>
        ⟨some (String.ofList (written.take name.length)), rank, false⟩
    | _ :: rest =>
      match afterSpans? rest with
      | some [] => some ⟨none, 5, true⟩
      | some ('=' :: rest) =>
        (rankBehind? (written.drop (cs.length - rest.length))).map fun rank => ⟨none, rank, true⟩
      | _ => none
  else none

/-- True when a directive is about a target. -/
def concerns (d : Directive) (target : String) : Bool :=
  !d.ofSpans && (d.target.getD "").isPrefixOf target

/-- How specific a directive is. -/
def weight (d : Directive) : Nat :=
  match d.target with
  | none => 0
  | some t => t.utf8ByteSize + 1

end Directive

/-- Which records are written. -/
structure Filter where
  directives : List Directive
  deriving DecidableEq, Repr

namespace Filter

/-- The texts of the directives in a text. -/
def parts (s : String) : List String :=
  ((s.toList.splitOn ',').map String.ofList).filter (· ≠ "")

/-- The filter of some directives; without any, errors are written. -/
def ofDirectives (ds : List Directive) : Filter :=
  if ds = [] then ⟨[⟨none, 1, false⟩]⟩ else ⟨ds⟩

/-- The filter that a text spells, if all its directives are right. -/
def parse? (s : String) : Option Filter := ((parts s).mapM Directive.parse?).map ofDirectives

/-- The filter of the directives in a text that are right. -/
def lenient (s : String) : Filter := ofDirectives ((parts s).filterMap Directive.parse?)

/-- The filter of a process: the one it is told, or else the one of the configuration. -/
def choose (told : Option String) (level : String) : Filter :=
  ((told.bind parse?)).getD (lenient level)

/-- The more specific of two directives, and of two that are equally specific the later. -/
def moreSpecific (best : Option Directive) (d : Directive) : Option Directive :=
  match best with
  | none => some d
  | some b => if d.weight < b.weight then some b else some d

/-- The directive that decides about a target. -/
def deciding (f : Filter) (target : String) : Option Directive :=
  (f.directives.filter (·.concerns target)).foldl moreSpecific none

/-- True when a record is written. -/
def admits (f : Filter) (r : LogRecord) : Bool :=
  match f.deciding r.target with
  | none => false
  | some d => r.level.rank ≤ d.rank

end Filter

end Courier
