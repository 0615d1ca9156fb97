import Criteria.Collection
import Criteria.Model.Meaning.Answered

set_option autoImplicit false

namespace Criteria

namespace Meaning

open Operation

def asciiOnly (t : String) : Bool := t.toList.all fun c => c.toNat < 0x80

def capitalized : List Char → List Char
  | [] => []
  | c :: cs => c.toUpper :: cs.map Char.toLower

def recased : List (String × (List Char → List Char)) :=
  [("upper", List.map Char.toUpper), ("lower", List.map Char.toLower),
   ("casefold", List.map Char.toLower), ("capitalize", capitalized),
   ("swapcase", List.map fun c => if c.isUpper then c.toLower else c.toUpper)]

def withoutLead (drop : Char → Bool) (cs : List Char) : List Char := cs.dropWhile drop

def withoutTail (drop : Char → Bool) (cs : List Char) : List Char :=
  (cs.reverse.dropWhile drop).reverse

def strippedText (s : Store) (name t : String) (m? : Option Meaning) : Except Fault Meaning :=
  let stripped (drop : Char → Bool) : Meaning :=
    let cs := if name = "rstrip" then t.toList else withoutLead drop t.toList
    ofPlainText (String.ofList (if name = "lstrip" then cs else withoutTail drop cs))
  match m? with
  | none | some (value .null) => .ok (stripped Text.blankChar)
  | some (value (.text _ drop)) => .ok (stripped drop.toList.contains)
  | some m => if m.kind s = "str" then .ok (vague "str") else refusedWith (.strippedKind name)

def joinedTexts (s : Store) : Nat → List Meaning → Except Fault (Option (List String))
  | _, [] => .ok (some [])
  | place, m :: ms => do
    if m.kind s != "str" && !(m matches unknown) then .error (.joinItem place (m.kind s))
    else
      let rest ← joinedTexts s (place + 1) ms
      .ok (match m, rest with
        | value (.text _ t), some ts => some (t :: ts)
        | _, _ => none)

def joinedText (s : Store) (t : String) (m : Meaning) : Except Fault Meaning :=
  match m.items s with
  | .error (.notIterable _) => refusedWith .unjoined
  | .error f => .error f
  | .ok items => do
    match ← joinedTexts s 0 items with
    | some ts => .ok (ofPlainText (t.intercalate ts))
    | none => .ok (vague "str")

def replacedText (s : Store) (t : String) (a b : Meaning) (count? : Option Meaning) :
    Except Fault Meaning := do
  let part (place : String) (m : Meaning) : Except Fault Unit :=
    if m.kind s = "str" then .ok ()
    else refusedWith (.textAt "replace" place (kindOrNothing s m))
  part "1" a
  part "2" b
  count?.forM fun m => do let _ ← wholeArgument s m
  match a, b, count? with
  | value (.text _ u), value (.text _ w), none =>
    if u.isEmpty then .ok (vague "str") else .ok (ofPlainText (w.intercalate (t.splitOn u)))
  | _, _, _ => .ok (vague "str")

def splitText (s : Store) (t : String) (m? count? : Option Meaning) : Except Fault Meaning := do
  count?.forM fun m => do let _ ← wholeArgument s m
  match m?.getD (value .null), count? with
  | value (.text _ u), none =>
    if u.isEmpty then refusedWith .emptySeparator
    else .ok (list ((t.splitOn u).map ofPlainText))
  | value .null, none =>
    let words := (t.toList.splitBy fun a b => Text.blankChar a = Text.blankChar b).filter
      fun w => !w.any Text.blankChar
    .ok (list (words.map fun w => ofPlainText (String.ofList w)))
  | m, _ =>
    if m.kind s = "str" || m.isNothing then .ok (vague "list")
    else refusedWith (.textOrNothing (m.kind s))

def boundedBy (s : Store) (name t : String) (m : Meaning) : Except Fault Meaning :=
  match m with
  | value (.text _ u) =>
    .ok (ofTruth (if name = "startswith" then t.startsWith u else t.endsWith u))
  | m =>
    if m.rowItems?.isSome || m.kind s = "str" then .ok unknown
    else refusedWith (.ends name (m.kind s))

def placedText (s : Store) (name t : String) (m : Meaning) : Except Fault Meaning :=
  match m with
  | value (.text _ u) =>
    if isPart u t then .ok (vague "int")
    else if name.endsWith "index" then refusedWith .notWithin
    else .ok (ofWhole (if name = "count" then 0 else -1))
  | m => if m.kind s = "str" then .ok unknown else refusedWith (.textOnly (m.kind s))

def ofTexts : List (String × Reception) :=
  ["upper", "lower", "casefold", "capitalize", "swapcase", "title", "isalnum", "isalpha", "isascii",
    "isdecimal", "isdigit", "isidentifier", "islower", "isnumeric", "isprintable", "isspace",
    "istitle", "isupper"].map (·, .nothing) ++
  [("strip", .placed 0 1), ("lstrip", .placed 0 1), ("rstrip", .placed 0 1), ("join", .one),
   ("replace", .placed 2 3), ("split", .named 0 0 ["sep", "maxsplit"]), ("partition", .one)]

def ofText' (s : Store) (name t : String) (ms : List (Option Meaning)) : Except Fault Meaning :=
  match name, ms with
  | "strip", ms | "lstrip", ms | "rstrip", ms => strippedText s name t ms.head?.join
  | "join", [some m] => joinedText s t m
  | "replace", some a :: some b :: rest => replacedText s t a b rest.head?.join
  | "split", [m?, count?] => splitText s t m? count?
  | "partition", [some m] =>
    match m with
    | value (.text _ "") => refusedWith .emptySeparator
    | m => if m.kind s = "str" then .ok (vague "tuple") else refusedWith (.textOnly (m.kind s))
  | name, [] =>
    match recased.lookup name with
    | some f => .ok (if asciiOnly t then ofPlainText (String.ofList (f t.toList)) else vague "str")
    | none => .ok unknown
  | _, _ => .ok unknown

def operationCallee (kind name : String) : Reception → String
  | .placed .. | .named .. => name
  | _ => kind ++ "." ++ name

def onText (s : Store) (name t : String) (h : Handed) : Except Fault Meaning :=
  match ofTexts.lookup name, h.places with
  | some r, _ => do
    let ms ← r.take (operationCallee "str" name r) h
    if h.isUnknown then .ok unknown else ofText' s name t ms
  | none, places =>
    if h.isUnknown || !h.names.isEmpty then .ok unknown
    else match name, places with
      | "startswith", [] | "endswith", [] => refusedWith (.endsAbsent name)
      | "startswith", [m] | "endswith", [m] => boundedBy s name t m
      | "find", [m] | "rfind", [m] | "index", [m] | "rindex", [m] | "count", [m] =>
        placedText s name t m
      | _, _ => .ok unknown

def ofLists : List (String × Reception) :=
  [("append", .one), ("extend", .one), ("remove", .one), ("count", .one), ("clear", .nothing),
   ("copy", .nothing), ("reverse", .nothing), ("insert", .placed 2 2), ("pop", .placed 0 1),
   ("index", .placed 1 3)]

def ofList' (s : Store) (name : String) (items : List Meaning) (ms : List (Option Meaning)) :
    Except Fault Meaning := do
  match name, ms with
  | "extend", [some m] =>
    let _ ← m.items s
    .ok (value .null)
  | "insert", [some m, _] =>
    let _ ← wholeArgument s m
    .ok (value .null)
  | "remove", [some m] => if ← among s items m then .ok (value .null) else refusedWith .notRemoved
  | "count", [some m] => do .ok (ofWhole (← items.filterM (same s m)).length)
  | "copy", _ => .ok (list items)
  | "pop", ms =>
    match ← (ms.head?.join.map (wholeArgument s)).getD (.ok (some (-1))) with
    | none => .ok unknown
    | some n =>
      if items.isEmpty then refusedWith .poppedEmpty
      else match (Item.place? items.length n).bind fun i => items[i]? with
        | some m => .ok m
        | none => refusedWith .poppedOutside
  | "index", some m :: rest =>
    if !rest.isEmpty then .ok unknown
    else if ← among s items m then .ok (vague "int")
    else refusedWith (.notInList (← m.shown s))
  | _, _ => .ok (value .null)

def onList (s : Store) (name : String) (items : List Meaning) (h : Handed) : Except Fault Meaning :=
  match ofLists.lookup name with
  | some r => do
    let ms ← r.take (operationCallee "list" name r) h
    if h.isUnknown then .ok unknown else ofList' s name items ms
  | none =>
    if name = "sort" && !h.places.isEmpty then refusedWith (.noPlaces "sort") else .ok unknown

def onRow (s : Store) (name : String) (items : List Meaning) (h : Handed) : Except Fault Meaning :=
  match name with
  | "count" => do
    let ms ← Reception.one.take "tuple.count" h
    ofList' s name items ms
  | "index" => do
    match ← (Reception.placed 1 3).take name h with
    | [some m] => if ← among s items m then .ok (vague "int") else refusedWith .notInRow
    | _ => .ok unknown
  | _ => .ok unknown

def ofDictionaries : List (String × Reception) :=
  [("keys", .nothing), ("values", .nothing), ("items", .nothing), ("copy", .nothing),
   ("get", .placed 1 2), ("setdefault", .placed 1 2), ("pop", .placed 1 2)]

def onDictionary (s : Store) (name : String) (keys values : List Meaning) (h : Handed) :
    Except Fault Meaning :=
  match ofDictionaries.lookup name with
  | none => .ok unknown
  | some r => do
    let ms ← r.take (operationCallee "dict" name r) h
    if h.isUnknown then .ok unknown
    else match name, ms with
      | "keys", _ => .ok (stream "dict_keys" keys none)
      | "values", _ => .ok (stream "dict_values" values none)
      | "items", _ => .ok (stream "dict_items" ((keys.zip values).map fun e => row [e.1, e.2]) none)
      | "copy", _ => .ok (dictionary keys values)
      | name, some key :: rest =>
        match entryOf s keys values key with
        | .ok m => .ok m
        | .error f =>
          if f.kind = .key && (name != "pop" || !rest.isEmpty) then
            .ok (rest.head?.join.getD (value .null))
          else .error f
      | _, _ => .ok unknown

def counted? (s : Store) (m : Meaning) (name : String) : Option (String × Reception) :=
  let kind := m.kind s
  ((Reception.ofOperations.lookup kind).bind fun t => t.lookup name).map fun r =>
    (operationCallee (if kind = "bool" then "int" else kind) name r, r)

def performed (s : Store) (m : Meaning) (name : String) (h : Handed) : Except Fault Meaning := do
  if let some (callee, r) := counted? s m name then
    let _ ← r.take callee h
  match m, m.listItems? s, m.rowItems?, entries? s m with
  | value (.text _ t), _, _, _ => onText s name t h
  | _, some items, _, _ => onList s name items h
  | _, _, some items, _ => onRow s name items h
  | _, _, _, some (keys, values) => onDictionary s name keys values h
  | _, _, _, _ => .ok unknown

/-- A change that others see, of a collection that callers made. -/
def change? (s : Store) (m : Meaning) (name : String) (h : Handed) :
    Option (Value × Change × List Value) :=
  match m, h.places.mapM value? with
  | value v, some args =>
    ((Change.ofName? name).filter fun c => (s.cellOf? v).any c.applies && h.names.isEmpty).map
      fun c => (v, c, args)
  | _, _ => none

def perform (m : Meaning) (name : String) (h : Handed) : Operation Meaning := do
  match change? (← theStore) m name h with
  | some (v, c, args) =>
    Collection.apply v c args
    return value .null
  | none => asking fun s => performed s m name h

end Meaning

end Criteria
