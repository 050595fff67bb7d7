/-
# Filters on lists, objects and numbers

Parts of lists, sorting and grouping by an attribute, and the arithmetic of single numbers.
-/
import Courier.Markup.Argument
import Courier.Text.Case
import Courier.Markup.Filters.OnText

namespace Courier.Markup.Filters

open Json (Value Number)

/-! ## Parts of lists -/

/-- The empty text, which stands for an item that is not there. -/
def noItem : Value := .text ""

/-- The first item. -/
def first : Filter := fun v _ => do
  return (← subjectOf "first" Kind.list v).head?.getD noItem

/-- The last item. -/
def last : Filter := fun v _ => do
  return (← subjectOf "last" Kind.list v).getLast?.getD noItem

/-- The error of an argument that a list filter has to have. -/
def hasToHave (filter article name : String) : String :=
  "The `" ++ filter ++ "` filter has to have " ++ article ++ " `" ++ name ++ "` argument"

/-- The item at a place. -/
def nth : Filter := fun v args => do
  let items ← subjectOf "nth" Kind.list v
  if items.isEmpty then return noItem
  let n ← required "nth" Kind.size "n" (hasToHave "nth" "an" "n") args
  return items[n.toNat]?.getD noItem

/-- The items as one text. -/
def join : Filter := fun v args => do
  let items ← subjectOf "join" Kind.list v
  let separator ← orElse "truncate" Kind.text "sep" "" args
  return .text ((unescape separator).intercalate (shownAll items))

/-- A place counted from the start, or from the end when it is negative. -/
def place (length : Nat) (f : Float) : Nat :=
  (if f >= 0.0 then f else Decimal.ofInt length + f).toUInt64.toNat

/-- The items from one place to another. -/
def slice : Filter := fun v args => do
  let items ← subjectOf "slice" Kind.list v
  if items.isEmpty then return v
  let start := (← optional "slice" Kind.float "start" args).map (place items.length)
  let stop := (← optional "slice" Kind.float "end" args).map (place items.length)
  return .list ((items.take (stop.getD items.length)).drop (start.getD 0))

/-- The list with another list, or one more item, after it. -/
def concat : Filter := fun v args => do
  let items ← subjectOf "concat" Kind.list v
  match args.lookup "with" with
  | some (.list more) => return .list (items ++ more)
  | some v => return .list (items ++ [v])
  | none => .error (hasToHave "concat" "a" "with")

/-! ## Attributes -/

/-- The error of an attribute that an item does not have. -/
def noField (path : String) : String :=
  "attribute '" ++ path ++ "' does not reference a field"

/-- A key by which items are sorted. -/
inductive SortKey where
  | bool (b : Bool)
  | number (f : Float)
  | text (s : String)
  | size (n : Nat)

/-- Whether one key may stand before another. -/
def SortKey.le : SortKey → SortKey → Bool
  | .bool a, .bool b => !a || b
  | .number a, .number b => a <= b
  | .text a, .text b => a ≤ b
  | .size a, .size b => a ≤ b
  | _, _ => true

/-- The keys of values like a given one. -/
def sortKeys (v : Value) : Except String (Value → Except String SortKey) :=
  let wanted (kind : String) (v : Value) : Except String SortKey :=
    .error ("expected " ++ kind ++ " got " ++ v.write)
  match v with
  | .null => .error "Null is not a sortable value"
  | .object _ => .error "Object is not a sortable value"
  | .bool _ => .ok fun
    | .bool b => .ok (.bool b)
    | v => wanted "bool" v
  | .number _ => .ok fun
    | .number n => .ok (.number (toFloat n))
    | v => wanted "number" v
  | .text _ => .ok fun
    | .text s => .ok (.text s)
    | v => wanted "string" v
  | .list _ => .ok fun
    | .list items => .ok (.size items.length)
    | v => wanted "array" v

/-- The attribute of an item, which has to be there. -/
def attributeOf (path : String) (v : Value) : Except String Value :=
  match attribute? v path with
  | some v => .ok v
  | none => .error (noField path)

/-- The items in the order of an attribute; items with equal keys keep their order. -/
def sort : Filter := fun v args => do
  let items ← subjectOf "sort" Kind.list v
  match items with
  | [] => return v
  | head :: _ =>
    let path ← orElse "sort" Kind.text "attribute" "" args
    let key ← sortKeys (← attributeOf path head)
    let keyed ← items.mapM fun v => do return (← key (← attributeOf path v), v)
    return .list ((keyed.mergeSort fun a b => a.1.le b.1).map (·.2))

/-- The kind of a value, as a number. -/
def kindOf : Value → Nat
  | .null => 0
  | .bool _ => 1
  | .number _ => 2
  | .text _ => 3
  | .list _ => 4
  | .object _ => 5

/-- The mark by which values like a given one are told apart. -/
def markOf (caseSensitive : Bool) (v : Value) : Except String (Value → Except String Value) :=
  match v with
  | .null => .error "Null is not a unique value"
  | .list _ => .error "Unique arrays are not implemented"
  | .object _ => .error "Unique objects are not implemented"
  | .number (.float _) => .error "Unique floats are not implemented"
  | .text _ => .ok fun
    | .text s => .ok (.text (if caseSensitive then s else Text.lower s))
    | v => .ok v
  | .number (.int _) => .ok fun
    | .number (.float f) =>
      .error ("expected number got " ++ (Value.number (.float f)).write)
    | v => .ok v
  | .bool _ => .ok .ok

/-- The items whose attribute did not come before; items without it are left out. -/
def unique : Filter := fun v args => do
  let items ← subjectOf "unique" Kind.list v
  match items with
  | [] => return v
  | head :: _ =>
    let caseSensitive ← orElse "unique" Kind.bool "case_sensitive" false args
    let path ← orElse "unique" Kind.text "attribute" "" args
    let sample ← attributeOf path head
    let mark ← markOf caseSensitive sample
    let step (acc : List Value × List Value) (v : Value) :
        Except String (List Value × List Value) := do
      match attribute? v path with
      | none => return acc
      | some key =>
        if kindOf key ≠ kindOf sample then .error "unique filter can't compare multiple types"
        else
          let m ← mark key
          if acc.1.any (· == m) then return acc else return (m :: acc.1, v :: acc.2)
    return .list (← items.foldlM step ([], [])).2.reverse

/-- The items by the text of an attribute. -/
def groupBy : Filter := fun v args => do
  let items ← subjectOf "group_by" Kind.list v
  if items.isEmpty then return .object []
  let path ← required "group_by" Kind.text "attribute" (hasToHave "group_by" "an" "attribute")
    args
  let add (groups : List (String × List Value)) (v : Value) : List (String × List Value) :=
    match attribute? v path with
    | none | some .null => groups
    | some key =>
      let name := match key with
        | .text s => s
        | key => key.write
      Entries.insert name ((Entries.find? name groups).getD [] ++ [v]) groups
  return .object ((items.foldl add []).map fun (k, vs) => (k, .list vs))

/-- The items whose attribute has a value, or is there. -/
def filter : Filter := fun v args => do
  let items ← subjectOf "filter" Kind.list v
  if items.isEmpty then return v
  let path ← required "filter" Kind.text "attribute" (hasToHave "filter" "an" "attribute") args
  let keep (v : Value) : Bool :=
    let key := (attribute? v path).getD .null
    match args.lookup "value" with
    | none | some .null => match key with
      | .null => false
      | _ => true
    | some wanted => key == wanted
  return .list (items.filter keep)

/-- The attributes of the items, where they are there. -/
def map : Filter := fun v args => do
  let items ← subjectOf "map" Kind.list v
  if items.isEmpty then return v
  let path ← required "map" Kind.text "attribute" (hasToHave "map" "an" "attribute") args
  return .list (items.filterMap fun v => match attribute? v path with
    | none | some .null => none
    | some v => some v)

/-! ## Anything -/

/-- How many items, members or characters there are. -/
def length : Filter := fun v _ =>
  match v with
  | .list items => .ok (.int items.length)
  | .object members => .ok (.int members.length)
  | .text s => .ok (.int s.length)
  | _ => .error "Filter `length` was used on a value that isn't an array, an object, or a string."

/-- The items or characters from the last to the first. -/
def reverse : Filter := fun v _ =>
  match v with
  | .list items => .ok (.list items.reverse)
  | .text s => .ok (.text (String.ofList s.toList.reverse))
  | v => .error ("Filter `reverse` received an incorrect type for arg `value`: got `" ++ v.write
      ++ "` but expected Array|String")

/-- The document that a value is. -/
def jsonEncode : Filter := fun v args =>
  match args.lookup "pretty" with
  | some (.bool true) => .ok (.text v.writePretty)
  | _ => .ok (.text v.write)

/-- The member of an object with a name. -/
def getMember : Filter := fun v args => do
  let key ← required "get" Kind.text "key" (hasToHave "get" "an" "key") args
  match v with
  | .object members =>
    match Entries.find? key members, args.lookup "default" with
    | some v, _ => return v
    | none, some v => return v
    | none, none => .error ("Filter `get` tried to get key `" ++ key ++ "` but it wasn't found")
  | _ => .error "Filter `get` was used on a value that isn't an object"

/-! ## Numbers -/

/-- The absolute value. -/
def abs : Filter := fun v _ =>
  match v with
  | .number (.int i) => .ok (.int i.natAbs)
  | .number (.float f) => .ok (ofFloat f.abs)
  | _ => .error "Filter `abs` was used on a value that isn't a number."

/-- An ending for one, and another for more or less than one. -/
def pluralize : Filter := fun v args => do
  let n ← subjectOf "pluralize" Kind.float v
  let plural ← orElse "pluralize" Kind.text "plural" "s" args
  let singular ← orElse "pluralize" Kind.text "singular" "" args
  let epsilon : Float := (1.0 : Float).scaleB (-52)
  return .text (if (n.abs - 1.0).abs > epsilon then plural else singular)

/-- A number rounded to so many places. -/
def round : Filter := fun v args => do
  let n ← subjectOf "round" Kind.float v
  let method ← orElse "round" Kind.text "method" "common" args
  let places ← orElse "round" Kind.int32 "precision" 0 args
  let scale : Float := if places = 0 then 1.0 else Decimal.power 10.0 places
  let scaled := scale * n
  match method with
  | "common" => return ofFloat (scaled.round / scale)
  | "ceil" => return ofFloat (scaled.ceil / scale)
  | "floor" => return ofFloat (scaled.floor / scale)
  | method => .error ("Filter `round` received an incorrect value for arg `method`: got `"
      ++ Text.quoted method ++ "`, only common, ceil and floor are allowed")

/-! ## All filters -/

/-- All filters by name. -/
def all : List (String × Filter) := onTexts ++ [
  ("first", first), ("last", last), ("nth", nth), ("join", join), ("sort", sort),
  ("unique", unique), ("slice", slice), ("group_by", groupBy), ("filter", filter), ("map", map),
  ("concat", concat), ("abs", abs), ("pluralize", pluralize), ("round", round),
  ("length", length), ("reverse", reverse), ("json_encode", jsonEncode),
  ("as_str", fun v _ => .ok (.text (shown v))), ("get", getMember)]

end Courier.Markup.Filters
