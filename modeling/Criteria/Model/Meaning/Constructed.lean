import Criteria.Model.Meaning.Conversion
import Criteria.Model.Meaning.Handed

set_option autoImplicit false

namespace Criteria

namespace Meaning

def toSet (s : Store) (fixed : Bool) (m : Meaning) : Except Fault Meaning := do
  let items ← m.items s
  allDistinguishable s items
  .ok (set fixed (← distinct s false items))

def pairsOf (s : Store) : Nat → List Meaning → Except Fault (List (Meaning × Meaning))
  | _, [] => .ok []
  | place, m :: ms => do
    match m.items s with
    | .error (.notIterable _) => .error (.notPair place)
    | .error f => .error f
    | .ok [k, v] =>
      distinguishable s k
      .ok ((k, v) :: (← pairsOf s (place + 1) ms))
    | .ok items =>
      if items.any fun i => i matches unknown then .ok []
      else .error (.pairLength place items.length)

def toDictionary (s : Store) (m? : Option Meaning) (names : List (String × Meaning)) :
    Except Fault Meaning := do
  let (keys, values) ← match m? with
    | none => .ok ([], [])
    | some m =>
      match entries? s m with
      | some found => .ok found
      | none => do .ok (← pairsOf s 0 (← m.items s)).unzip
  dictionaryOf s (keys ++ names.map fun n => ofPlainText n.1) (values ++ names.map (·.2))

def toRange (s : Store) (ms : List Meaning) : Except Fault Meaning := do
  let numbers ← ms.mapM (wholeArgument s)
  match numbers with
  | [some n] => .ok (value (.range none 0 n 1))
  | [some m, some n] => .ok (value (.range none m n 1))
  | [some m, some n, some k] =>
    if k = 0 then .error .zeroStep else .ok (value (.range none m n k))
  | _ => .ok (vague "range")

def toSlice (ms : List Meaning) : Meaning :=
  slice (match ms with
    | [m] => [value .null, m, value .null]
    | ms => ms ++ List.replicate (3 - ms.length) (value .null))

def sideBySide : List (List Meaning) → List (List Meaning)
  | [] => []
  | [items] => items.map fun m => [m]
  | items :: rest => items.zipWith (· :: ·) (sideBySide rest)

def backwardKinds : List String :=
  ["list", "tuple", "Point", "str", "bytes", "bytearray", "range", "dict", "collections.deque",
   "collections.OrderedDict"]

def toBackward (s : Store) (m : Meaning) : Except Fault Meaning := do
  let kind := m.kind s
  if backwardKinds.contains kind then .ok (stream "reversed" (← m.items s).reverse none)
  else if (m matches form _) || (m matches applied ..) then .ok unknown
  else refusedWith (.backward kind)

def toNumbered (s : Store) (h : Handed) : Except Fault Meaning := do
  match h.places, h.names with
  | [], [("iterable", m)] | [], [("iterable", m), ("start", _)] | [m], _ | [m, _], [] =>
    let start? := (h.places.drop 1).head?.or (h.names.lookup "start")
    match h.names.find? fun n => n.1 != "start" && n.1 != "iterable" with
    | some (n, _) => refusedWith (.foreignName "enumerate" n)
    | none =>
      let first ← match start? with
        | some n => wholeArgument s n
        | none => .ok (some 0)
      let items ← m.items s
      .ok (stream "enumerate" (items.zipIdx.map fun i =>
        row [(first.map fun n => ofWhole (n + i.2)).getD unknown, i.1]) none)
  | [], [] => refusedWith .absentSource
  | [], (n, _) :: _ => refusedWith (.foreignName "enumerate" n)
  | places, names => refusedWith (.atMost "enumerate" false 2 (places.length + names.length))

def toZipped (s : Store) (h : Handed) : Except Fault Meaning := do
  match h.names.find? fun n => n.1 != "strict" with
  | some (n, _) => refusedWith (.foreignName "zip" n)
  | none =>
    let all ← h.places.mapM fun m => m.items s
    .ok (stream "zip" ((sideBySide all).map row) none)

def callable? (s : Store) : Meaning → Option Bool
  | known _ | generic .. | function _ | operation _ | bound .. => some true
  | form f => some !f.isParameter
  | applied f _ => some (f != .construction)
  | value (.classOf _) => some true
  | value v =>
    match s.cellOf? v with
    | some (.thing _) | some (.generic ..) => none
    | _ => some false
  | vague _ | unknown => none
  | _ => some false

def answersOf (s : Store) (className : String) (f : Meaning) (rows : List (List Meaning)) :
    Meaning :=
  if !rows.isEmpty && callable? s f = some false then
    stream className [] (some (.notCallable (f.kind s)))
  else stream className (rows.map fun _ => unknown) none

def toMapped (s : Store) (h : Handed) : Except Fault Meaning := do
  if !h.names.isEmpty then refusedWith (.nameless "map")
  else match h.places with
    | f :: m :: ms =>
      let all ← (m :: ms).mapM fun m => m.items s
      .ok (answersOf s "map" f (sideBySide all))
    | _ => refusedWith .noSources

def toFiltered (s : Store) (test m : Meaning) : Except Fault Meaning := do
  let items ← m.items s
  if test.isNothing then .ok (stream "filter" (← items.filterM fun m => m.holds s) none)
  else .ok (answersOf s "filter" test (items.map fun m => [m]))

def toClass (s : Store) (h : Handed) (kindOf : Meaning → Meaning) : Except Fault Meaning := do
  match h.places, h.names.isEmpty with
  | [m], true => .ok (kindOf m)
  | [_], false => refusedWith (.nameless "type")
  | [a, b, c], _ =>
    let part (place : Nat) (expected : String) (m : Meaning) : Except Fault Unit :=
      if m.kind s = expected then .ok ()
      else refusedWith (.partOfClass place expected (kindOrNothing s m))
    part 1 "str" a
    part 2 "tuple" b
    part 3 "dict" c
    .ok unknown
  | _, _ => refusedWith .oneOrThree

def toSuper (s : Store) (h : Handed) : Except Fault Meaning := do
  match ← (Reception.placed 0 2).take "super()" h with
  | [] => refusedWith .withoutClass
  | m? :: _ =>
    match m? with
    | some (known _) | some (value (.classOf _)) | some unknown | some (form _) => .ok unknown
    | some m => refusedWith (.classAt (kindOrNothing s m))
    | none => .ok unknown

def namesOfFaults : List (String × List String) :=
  [("ImportError", ["name", "path"]), ("ModuleNotFoundError", ["name", "path"]),
   ("AttributeError", ["name", "obj"]), ("NameError", ["name"])]

def peculiarFaults : List String :=
  ["BaseExceptionGroup", "ExceptionGroup", "UnicodeDecodeError", "UnicodeEncodeError",
   "UnicodeTranslateError"]

def toFault (className : String) (h : Handed) : Except Fault Meaning :=
  if peculiarFaults.contains className then .ok unknown
  else match namesOfFaults.lookup className with
    | some names =>
      match h.names.find? fun n => !names.contains n.1 with
      | some (n, _) => refusedWith (.foreignName className n)
      | none => .ok (vague className)
    | none => if h.names.isEmpty then .ok (vague className) else refusedWith (.nameless className)

def madeOf (s : Store) (className : String) (ms : List (Option Meaning)) : Except Fault Meaning :=
  match className, ms with
  | "bool", [some m] => do .ok (ofTruth (← m.holds s))
  | "bool", _ => .ok (ofTruth false)
  | "int", [some m, some base] => toWholeOfBase s m base
  | "int", [none, some _] => refusedWith .baseAlone
  | "int", some m :: _ => toWhole s m
  | "int", _ => .ok (ofWhole 0)
  | "float", [some m] => toReal s m
  | "float", _ => .ok (value (.float none "0.0"))
  | "complex", [a?, b?] => toComplex s a? b?
  | "str", [m?, encoding?, errors?] => toText s m? encoding? errors?
  | "bytes", [m?, encoding?, errors?] | "bytearray", [m?, encoding?, errors?] =>
    toBytes s className m? encoding? errors?
  | "list", ms => do .ok (list (← (ms.filterMap id).flatMapM (items s)))
  | "tuple", ms => do .ok (row (← (ms.filterMap id).flatMapM (items s)))
  | "set", ms => toSet s false ((ms.filterMap id).headD (row []))
  | "frozenset", ms => toSet s true ((ms.filterMap id).headD (row []))
  | "range", ms => toRange s (ms.filterMap id)
  | "slice", ms => .ok (toSlice (ms.filterMap id))
  | "reversed", [some m] => toBackward s m
  | "filter", [some test, some m] => toFiltered s test m
  | "memoryview", some m :: _ =>
    if ["bytes", "bytearray", "memoryview"].contains (m.kind s) then .ok (vague "memoryview")
    else refusedWith (.buffer (m.kind s))
  | c, _ => .ok (vague c)

def construct (s : Store) (className : String) (kindOf : Meaning → Meaning) (h : Handed) :
    Except Fault Meaning :=
  match Reception.table.lookup className with
  | some r => do
    let ms ← r.take className h
    if h.isUnknown then .ok unknown else madeOf s className ms
  | none =>
    if h.isUnknown then .ok unknown
    else match className with
      | "object" =>
        if h.all.isEmpty then .ok (vague "object") else .error (.argumentsUnknown className)
      | "dict" =>
        match h.places with
        | [] | [_] => toDictionary s h.places.head? h.names
        | places => refusedWith (.places className 0 1 places.length)
      | "enumerate" => toNumbered s h
      | "zip" => toZipped s h
      | "map" => toMapped s h
      | "type" => toClass s h kindOf
      | "super" => toSuper s h
      | c => if faultClasses.contains c then toFault c h else .ok unknown

end Meaning

end Criteria
