import Criteria.Item
import Criteria.Model.Meaning.Held
import Criteria.Model.Meaning.Inner
import Criteria.Model.Meaning.Replaced

set_option autoImplicit false

namespace Criteria

namespace Meaning

open Operation

def badPosition (name kind : String) : Fault :=
  if name = "string" then .textIndexKind kind
  else if name = "deque" then .dequeIndexKind kind
  else .sequenceIndexKind name kind

def bound? : Meaning → Except Fault (Option Int)
  | value .null => .ok none
  | m =>
    match m with
    | value (.int _ n) => .ok (some n)
    | value (.truth b) => .ok (some (if b then 1 else 0))
    | _ => .error .boundKind

def placesOf (size : Nat) (first? last? : Option Int) (step : Int) : List Nat :=
  let (low, high) : Int × Int := if 0 < step then (0, size) else (-1, size - 1)
  let within (n : Int) : Int := max low (min high (if n < 0 then n + size else n))
  let first := (first?.map within).getD (if 0 < step then low else high)
  let last := (last?.map within).getD (if 0 < step then high else low)
  (rangeItems first last step).map Int.toNat

def sliced (items bounds : List Meaning) : Except Fault (List Meaning) := do
  let bounds := bounds ++ List.replicate (3 - bounds.length) (value .null)
  match ← bounds.mapM bound? with
  | first? :: last? :: step? :: _ =>
    let step := step?.getD 1
    if step = 0 then .error .zeroSliceStep
    else .ok ((placesOf items.length first? last? step).filterMap fun i => items[i]?)
  | _ => .ok items

def resequenced (name : String) (items : List Meaning) : Meaning :=
  match name with
  | "tuple" => row items
  | "list" => list items
  | "string" =>
    value (.text none ("".intercalate (items.filterMap fun m => match m with
      | value (.text _ t) => some t
      | _ => none)))
  | "byte" => vague "bytes"
  | name => vague name

def itemOf (s : Store) (name : String) (items : List Meaning) (key : Meaning) :
    Except Fault Meaning := do
  match key with
  | value (.int _ n) =>
    if !Item.fits n then .error .indexOverflow
    else match (Item.place? items.length n).bind fun i => items[i]? with
      | some m => .ok m
      | none => .error (if name = "byte" then .byteOutOfRange else .outOfRange name)
  | value (.truth b) =>
    match items[if b then 1 else 0]? with
    | some m => .ok m
    | none => .error (if name = "byte" then .byteOutOfRange else .outOfRange name)
  | slice bounds =>
    if name = "deque" then .error (badPosition name "slice")
    else .ok (resequenced name (← sliced items bounds))
  | unknown => .ok unknown
  | key =>
    if ["int", "bool"].contains (key.kind s) then .ok unknown
    else .error (badPosition name (key.kind s))

def entryOf (s : Store) (keys values : List Meaning) (key : Meaning) : Except Fault Meaning := do
  distinguishable s key
  let found ← (keys.zip values).findM? fun e => same s key e.1
  match found with
  | some e => .ok e.2
  | none => if key matches unknown then .ok unknown else .error (.missingKey (← key.shown s))

def briefName (className : String) : String :=
  let kept := ["collections.OrderedDict", "collections.defaultdict", "collections.deque",
    "re.Match", "re.Pattern", "types.GenericAlias", "types.UnionType", "decimal.Decimal",
    "datetime.date", "datetime.datetime", "datetime.time"]
  if kept.contains className then className else lastPart className

def itemizedKinds : List String :=
  ["bytearray", "bytes", "collections.deque", "dict", "list", "range", "str", "tuple"]

def mappedKinds : List String := ["Counter", "collections.OrderedDict", "collections.defaultdict"]

def fieldClass : String := BuiltinClass.field.fullName

def itemOfValue (s : Store) (v : Value) (key : Meaning) : Except Fault Meaning := do
  let kind := key.kind s
  match s.cellOf? v, v with
  | some (.field _), _ => .error (.keyKind (lastPart kind))
  | some (.dict ..), _ => do
    distinguishable s key
    .error (.missingKey (← key.shown s))
  | _, .range _ first stop step =>
    if key matches slice _ then .ok (vague "range")
    else itemOf s "range" ((rangeItems first stop step).map fun n => value (.int none n)) key
  | _, .classOf (.builtin .matchMode) => .error (.missingKey (← key.shown s))
  | _, .classOf c => .error (.classNotIndexed c.name)
  | _, v => .error (.notIndexed (s.longName v))

def item (m key : Meaning) : Operation Meaning := do
  let s ← theStore
  match m with
  | unknown => return unknown
  | form f => asking fun s => applyForm s f key
  | known c =>
    if genericClasses.contains c || c.startsWith "collections." then
      return generic c key.arguments
    else refuse (.classNotIndexed (briefName c))
  | applied .. | generic .. | either _ => asking fun s => reindexed s m key
  | dictionary keys values => asking fun s => entryOf s keys values key
  | value (.classOf (.builtin .field)) => asking fun _ => shapedOf fieldClass 1 key.arguments
  | value v =>
    match key.value? with
    | some k => return ofValue (← Item.read v k)
    | none =>
      match m.sequence? s with
      | some (name, items) => asking fun s => itemOf s name items key
      | none => asking fun s => itemOfValue s v key
  | vague k =>
    if itemizedKinds.contains k then return unknown
    else if mappedKinds.contains k then
      asking fun s => distinguishable s key
      return unknown
    else refuse (.notIndexed k)
  | m =>
    match m.sequence? s with
    | some (name, items) => asking fun s => itemOf s name items key
    | none => refuse (.notIndexed (m.kind s))

def numberParts : List String := ["real", "imag", "numerator", "denominator"]

def fullKind (s : Store) (m : Meaning) : String :=
  let kind := m.kind s
  match m with
  | form _ | applied .. =>
    if kind.startsWith "types." || kind = "type" then kind
    else if kind = "InitVar" then "dataclasses.InitVar"
    else moduleOfForms ++ "." ++ kind
  | deferred .. => moduleOfForms ++ "." ++ kind
  | known c => if kindOfClass c = "ABCMeta" then "abc.ABCMeta" else kind
  | _ => kind

def ownName? : Meaning → Option String
  | known c | generic c _ => some (lastPart c)
  | form (.parameter t _) | form (.specification t) => some (String.ofList (t.toList.drop 1))
  | form (.label t) => some (lastPart t)
  | form f => some f.shortName
  | applied .construction _ => none
  | applied .starred (m :: _) => ownName? m
  | applied .annotated _ => some "Annotated"
  | applied .union [_, known "NoneType"] | applied .union [known "NoneType", _] => some "Optional"
  | applied (.standing n) _ => some n
  | applied f _ => some (lastPart f.calledWithin)
  | function n | operation n | bound _ n => some n
  | forms => some moduleOfForms
  | stream "generator" _ _ => some "<genexpr>"
  | _ => none

def ownModule? : Meaning → Option String
  | known c | generic c _ =>
    let parts := (c.splitOn ".").dropLast
    some (if parts.isEmpty then "builtins" else ".".intercalate parts)
  | form .construction | applied .construction _ => some "dataclasses"
  | applied .annotated (m :: _) | applied .starred (m :: _) => ownModule? m
  | either _ => some "types"
  | form (.label _) => some "__main__"
  | form _ | applied .. | deferred .. | operation _ => some moduleOfForms
  | function _ => some "builtins"
  | _ => none

def origin? : Meaning → Option Meaning
  | form f => f.standing?.map fun c => known c.fullName
  | applied .annotated (m :: _) => some m
  | applied .construction _ => none
  | applied .starred [m] => some (m.ownName?.map known |>.getD unknown)
  | applied f _ =>
    some (match f.standing? with
      | some c => known c.fullName
      | none => form f)
  | generic c _ => some (known c)
  | _ => none

def argumentsGiven? : Meaning → Option (List Meaning)
  | applied .annotated (m :: _) => some [m]
  | applied .construction _ => none
  | applied .starred [generic _ items] => some items
  | applied _ items | generic _ items | either items => some items
  | _ => none

def remarks? : Meaning → Option (List Meaning)
  | applied .annotated items => some (items.drop 1)
  | _ => none

def innerTables (s : Store) : Meaning → List String
  | known c => ["type", if faultClasses.contains c then "BaseException" else c]
  | generic c _ | applied .starred (generic c _ :: _) => ["type", c, "types.GenericAlias"]
  | form f =>
    if let some c := f.className? then ["type", c]
    else if f.standing?.isSome then ["_GenericAlias"]
    else if f.isParameter || (f matches .label _) then [f.kind]
    else ["_SpecialForm"]
  | applied .construction _ => ["InitVar"]
  | applied .. => ["_GenericAlias"]
  | bound (known _) _ => ["method_descriptor"]
  | m =>
    let kind := m.kind s
    [if faultClasses.contains kind then "BaseException" else kind]

def keptMember? (s : Store) (m : Meaning) (n : String) : Option Meaning :=
  match n with
  | "__class__" => some (known (m.fullKind s))
  | "__name__" => m.ownName?.map ofPlain
  | "__qualname__" =>
    if m matches forms | form (.parameter ..) | form (.specification _) then none
    else m.ownName?.map ofPlain
  | "__module__" => m.ownModule?.map ofPlain
  | "__origin__" => m.origin?
  | "__args__" => m.argumentsGiven?.map row
  | "__parameters__" => m.argumentsGiven?.map fun _ => row (m.parameters.map form)
  | "__metadata__" => m.remarks?.map row
  | "__forward_arg__" =>
    match m with
    | deferred t _ => some (ofPlain t)
    | _ => none
  | "__doc__" => some unknown
  | _ => none
where
  ofPlain (t : String) : Meaning := value (.text none t)

def innerMember? (s : Store) (m : Meaning) (n : String) : Option Meaning :=
  (keptMember? s m n).or (((innerTables s m).find? fun t => hasInner t n).map fun t =>
    vague (if (m matches known _) && t != "type" then "wrapper_descriptor" else "method-wrapper"))

def membersOfProtocols : String := "_abc_impl _is_protocol _is_runtime_protocol"

def membersOfFiles : String :=
  "_is_protocol close closed fileno flush isatty mode name read readable readline readlines " ++
    "seek seekable tell truncate writable write writelines"

def membersTable : List (String × String) :=
  [("complex", "conjugate imag real"), ("property", "deleter fdel fget fset getter setter"),
   ("slice", "indices start step stop"), ("memoryview", "cast contiguous format itemsize nbytes " ++
     "obj readonly release shape strides suboffsets tobytes tolist toreadonly"),
   ("generator", "gi_code gi_frame gi_running gi_suspended gi_yieldfrom"),
   ("typing.Generic", "_is_protocol"), ("typing.Protocol", membersOfProtocols),
   ("typing.IO", membersOfFiles), ("typing.BinaryIO", membersOfFiles),
   ("typing.TextIO", membersOfFiles ++ " buffer encoding errors line_buffering newlines"),
   ("typing.SupportsAbs", membersOfProtocols), ("typing.SupportsBytes", membersOfProtocols),
   ("typing.SupportsComplex", membersOfProtocols), ("typing.SupportsFloat", membersOfProtocols),
   ("typing.SupportsIndex", membersOfProtocols), ("typing.SupportsInt", membersOfProtocols),
   ("typing.SupportsRound", membersOfProtocols), ("typing.Annotated", "_class_getitem_inner"),
   ("dataclasses.InitVar", "type")]

def membersOfFaults : List String := ["add_note", "args", "with_traceback"]

def hasMember (className n : String) : Bool :=
  Operations.has (lastPart className) n ||
    (["bool", "int"].contains className && numberParts.contains n) ||
    (className = "float" && (numberParts.take 2).contains n) ||
    (faultClasses.contains className && membersOfFaults.contains n) ||
    ((membersTable.lookup className).any fun t => (Operations.words t).contains n) ||
    Standing.all.any fun c =>
      lastPart c.fullName = lastPart className && (Operations.words c.members).contains n

def memberOfKind (kind n : String) : Except Fault Meaning :=
  if hasMember kind n || hasInner kind n then .ok unknown else .error (.noAttribute kind n)

def memberOfClass (className n : String) : Except Fault Meaning :=
  if Operations.has (lastPart className) n then .ok (bound (known className) n)
  else if hasMember className n || n = "mro" then .ok unknown
  else if n = "__abstractmethods__" then .error (.emptySlot n)
  else .error (.classLacksAttribute (briefName className) n)

/-- A class with arguments has the members of the class, and makes no copies. -/
def memberOfGeneric (className n : String) : Except Fault Meaning :=
  if n = "__copy__" || n = "__deepcopy__" then .error (.noAttribute "types.GenericAlias" n)
  else memberOfClass className n

def memberOfForm (f : HintForm) (n : String) : Except Fault Meaning :=
  match f.standing?, f.className? with
  | some c, _ =>
    if n = "_name" then .ok (value (.text none f.shortName))
    else if ["_inst", "_nparams", "copy_with"].contains n then .ok unknown
    else if isInner n then .error (.emptySlot n)
    else memberOfClass c.fullName n
  | none, some c => memberOfClass c n
  | none, none =>
    match f with
    | .parameter .. | .specification _ | .label _ =>
      if f.kind = "ParamSpec" && (n = "args" || n = "kwargs") then .ok unknown
      else .error (.noAttribute f.kind n)
    | _ =>
      if n = "_name" then .ok (value (.text none f.shortName))
      else if n = "_getitem" then .ok unknown
      else .error (.emptySlot n)

def keptWithArguments : List String := ["_inst", "_paramspec_tvars", "copy_with"]

def keptName? (f : HintForm) (items : List Meaning) : Option String :=
  if f.standing?.isSome then some f.shortName
  else match f, items with
    | .union, [_, known "NoneType"] | .union, [known "NoneType", _] => some "Optional"
    | _, _ => none

def memberOfApplied (s : Store) (f : HintForm) (items : List Meaning) (n : String) :
    Except Fault Meaning :=
  match f, items with
  | .construction, _ =>
    if n = "type" then .ok (items.headD unknown)
    else .error (.noAttribute HintForm.construction.appliedKind n)
  | .starred, generic c _ :: _ => memberOfGeneric c n
  | f, items =>
    if keptWithArguments.contains n then .ok unknown
    else if n = "_name" then
      .ok (((keptName? f items).map fun t => value (.text none t)).getD (value .null))
    else if isInner n then .error (.emptySlot n)
    else match f, items with
      | .annotated, known c :: _ => memberOfClass c n
      | .annotated, form g :: _ => memberOfForm g n
      | .annotated, m :: _ => memberOfKind (m.kind s) n
      | f, _ =>
        match f.standing? with
        | some c => memberOfClass c.fullName n
        | none => memberOfForm f n

def memberOf (s : Store) (m : Meaning) (n : String) : Except Fault Meaning :=
  match m with
  | forms => inForms n
  | known c => memberOfClass c n
  | generic c _ => memberOfGeneric c n
  | form f => memberOfForm f n
  | applied f items => memberOfApplied s f items n
  | imaginary w =>
    if n = "imag" then .ok (vague "float") else memberOfKind ((imaginary w).kind s) n
  | unknown => .ok unknown
  | vague "module" => .ok unknown
  | m =>
    if Operations.has (m.kind s) n then .ok (bound m n) else memberOfKind (m.kind s) n

def member (m : Meaning) (n : String) : Operation Meaning := do
  let s ← theStore
  match m with
  | value v =>
    if Operations.has (s.shortName v) n then return bound m n
    else match if v matches .classOf _ then none else innerMember? s m n with
      | some found => return found
      | none => return ofValue (← Attribute.read v n)
  | m =>
    match innerMember? s m n with
    | some found => return found
    | none => asking fun s => memberOf s m n

end Meaning

end Criteria
