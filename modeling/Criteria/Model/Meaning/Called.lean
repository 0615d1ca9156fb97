import Criteria.Model.Meaning.Bound

set_option autoImplicit false

namespace Criteria

namespace Meaning

open Operation

def builtAs (className : String) (h : Handed) : Except Fault Meaning :=
  if h.all.isEmpty then .ok (vague className) else .error (.argumentsUnknown (lastPart className))

def factoryChecked (s : Store) (m : Meaning) : Except Fault Unit :=
  if m.isNothing || callable? s m != some false then .ok () else refusedWith .factory

def mostChecked (m : Meaning) : Except Fault Unit :=
  match m.whole?, m with
  | some n, _ =>
    if n < 0 then refusedWith .negativeMost
    else if (lengthLimit : Int) < n then .error .countOverflow
    else .ok ()
  | none, unknown | none, vague _ => .ok ()
  | none, _ => refusedWith .mostKind

def collectionChecked (s : Store) (className : String) (h : Handed) : Except Fault Unit := do
  match className, h.places with
  | "collections.Counter", places =>
    let _ ← Parameters.take ⟨"Counter.__init__", [], [("iterable", unknown)], 1⟩ { places }
    if let some m := places.head?.filter fun m => !m.isNothing then
      let _ ← m.items s
  | "collections.deque", _ =>
    let ms ← (Reception.named 0 0 ["iterable", "maxlen"]).take "deque" h
    if let some m := (ms.drop 1).head?.join.filter fun m => !m.isNothing then
      mostChecked m
    if let some m := ms.head?.join then
      let _ ← m.items s
  | "collections.defaultdict", m :: places =>
    factoryChecked s m
    let _ ← toDictionary s places.head? h.names
  | "collections.OrderedDict", places =>
    if 1 < places.length then refusedWith (.mostPlaces 1 places.length)
    else if let some m := places.head? then
      if (entries? s m).isNone then pairsUnpacked s (← m.items s)
  | _, _ => .ok ()
where
  pairsUnpacked (s : Store) (items : List Meaning) : Except Fault Unit :=
    items.forM fun m => do
      match ← m.items s with
      | [k, _] => distinguishable s k
      | [unknown] => .ok ()
      | parts => refusedWith (.unpacked (decide (2 < parts.length)) parts.length)

/-- What becomes of a call of the class that a form stands for. -/
def stoodFor (s : Store) (c : Standing) (h : Handed) : Except Fault Meaning :=
  match c.manner with
  | .instead => .error (.formMadeBy c.name c.fullName)
  | .freely => do
    if !h.isUnknown then collectionChecked s c.fullName h
    .ok (vague (briefName c.fullName))
  | .lacking operations =>
    if h.all.isEmpty then .error (.leavesOperations (lastPart c.fullName) operations)
    else .error (.argumentsUnknown (lastPart c.fullName))
  | .never => .error (.neverMade c.fullName)
  | .ofMapping => do
    let _ ← Parameters.take ⟨"MappingView.__init__", ["mapping"], [], 1⟩ h
    .ok (vague (briefName c.fullName))

def ofShape (fullName : String) (h : Handed) : Except Fault Meaning :=
  match (HintForm.shapes.lookup fullName).map (·.2) with
  | some (o :: os) => .error (.leavesOperations (lastPart fullName) (o :: os))
  | _ => builtAs fullName h

def formCalled (s : Store) (f : HintForm) (h : Handed) : Except Fault Meaning :=
  match f.standing? with
  | some c => stoodFor s c h
  | none =>
    match f with
    | .any => .error (.formNotMade f.shortName)
    | .annotated => .error .remarksNotMade
    | .construction => do
      let taken ← Parameters.take ⟨"InitVar.__init__", ["type"], [], 1⟩ h
      .ok (applied .construction (taken.map (·.2)))
    | .generic | .protocol => builtAs f.shortName h
    | .shaped n => ofShape n h
    | .parameter .. | .specification _ => .error (.notCallable f.kind)
    | .label _ =>
      match h.places, h.names with
      | [m], [] => .ok m
      | places, [] => .error (.oneArgument "_typing._idfunc" places.length)
      | _, _ => refusedWith (.nameless "_typing._idfunc")
    | f => .error (.notMade f.shown)

def namedForm (f : String → HintForm) : Meaning → Meaning
  | value (.text _ n) => form (f n)
  | _ => unknown

def ownModule : String := "__main__"

def referenceTo (s : Store) (m : Meaning) : Except Fault Meaning := do
  match m with
  | value (.text _ t) => ofText t false
  | unknown => .ok unknown
  | m => if m.kind s = "str" then .ok unknown else refusedWith (.referenceText (← m.shown s))

def ofClassOfForms (s : Store) (className : String) (h : Handed) : Except Fault Meaning :=
  let callee := lastPart className ++ ".__init__"
  let taken (required : List String) := Parameters.take ⟨callee, required, [], 1⟩ h
  match className with
  | "typing.ForwardRef" =>
    match h.names.isEmpty, h.places with
    | true, [] => do
      let _ ← taken ["arg"]
      .ok unknown
    | true, m :: rest => if rest.length < 3 then referenceTo s m else .ok unknown
    | _, _ => .ok unknown
  | "typing.NewType" => do
    let given ← taken ["name", "tp"]
    match given.lookup "name" with
    | some (value (.text _ n)) => .ok (form (.label (ownModule ++ "." ++ lastPart n)))
    | some m =>
      if m.kind s = "str" || (m matches unknown) then .ok unknown
      else if ← contains s (ofPlainText ".") m then .error (.noAttribute (m.kind s) "rpartition")
      else .ok unknown
    | none => .ok unknown
  | "typing.TypeVar" =>
    match h.places, h.names.isEmpty with
    | [], _ => do
      let _ ← taken ["name"]
      .ok unknown
    | [m], true => .ok (namedForm (fun n => .parameter ("~" ++ n) false) m)
    | [_, _], true => refusedWith .singleConstraint
    | _, _ => .ok unknown
  | "typing.ParamSpec" => do
    if h.names.isEmpty then
      let given ← taken ["name"]
      .ok (namedForm (fun n => .specification ("~" ++ n)) ((given.lookup "name").getD unknown))
    else .ok unknown
  | _ => .ok unknown

def parametersOfFunctions : List (String × List String) :=
  [("cast", ["typ", "val"]), ("assert_type", ["val", "typ"]), ("get_origin", ["tp"]),
   ("get_args", ["tp"]), ("final", ["f"]), ("overload", ["func"]), ("is_typeddict", ["tp"]),
   ("reveal_type", ["obj"]), ("no_type_check", ["arg"]), ("assert_never", ["arg"]),
   ("get_overloads", ["func"]), ("runtime_checkable", ["cls"]), ("abstractmethod", ["funcobj"]),
   ("get_type_hints", ["obj"])]

def protocolChecked (s : Store) (m : Meaning) : Except Fault Meaning :=
  match m with
  | known _ => do refusedWith (.noProtocol (← m.shown s))
  | form (.shaped n) =>
    if n.startsWith "typing.Supports" then .ok m else do refusedWith (.noProtocol (← m.shown s))
  | unknown | value (.classOf _) | form _ | vague _ => .ok unknown
  | _ => refusedWith .heir

def originTold : Meaning → Meaning
  | applied .annotated _ => form .annotated
  | applied .construction _ => value .null
  | form .generic => form .generic
  | either _ => known "types.UnionType"
  | m =>
    match m with
    | form _ | applied .. | generic .. => m.origin?.getD (value .null)
    | unknown | vague _ => unknown
    | _ => value .null

def argumentsTold (s : Store) : Meaning → Meaning
  | applied .annotated items => row items
  | applied .callable items =>
    if items.length = 2 && items.head?.any (tellsRow s) then row items
    else row [list items.dropLast, items.getLastD unknown]
  | unknown | vague _ => unknown
  | m => row (m.argumentsGiven?.getD [])

def ofFunctionOfForms (s : Store) (name : String) (h : Handed) : Except Fault Meaning :=
  match parametersOfFunctions.lookup name with
  | none => .ok unknown
  | some required => do
    let given ← Parameters.take ⟨name, required, [], 0⟩ h
    let m := ((given.head?).map (·.2)).getD unknown
    match name with
    | "cast" => .ok ((given.lookup "val").getD unknown)
    | "assert_type" | "final" | "reveal_type" => .ok m
    | "get_origin" => .ok (originTold m)
    | "get_args" => .ok (argumentsTold s m)
    | "overload" => .ok (operation "_overload_dummy")
    | "is_typeddict" => .ok (ofTruth false)
    | "assert_never" => do refusedWith (.reached (← m.clipped s))
    | "runtime_checkable" => protocolChecked s m
    | "get_type_hints" =>
      if bareKinds.contains (m.kind s) then do .error (.unhinted (← m.shown s)) else .ok unknown
    | "no_type_check" | "abstractmethod" =>
      let kept := if name = "abstractmethod" then "__isabstractmethod__" else "__no_type_check__"
      if bareKinds.contains (m.kind s) then .error (.noAttribute (m.kind s) kept) else .ok m
    | _ => .ok unknown

def classCalled (c : ClassRef) (h : Handed) : Operation Meaning := do
  match c with
  | .builtin .field => do
    let given ← asking fun _ => Parameters.take ⟨"Field.__init__", ["path"], [], 1⟩ h
    match (given.lookup "path").bind value? with
    | some v => return value (← Field.make v)
    | none => refuse .blankPath
  | .builtin .fieldsProxy | .builtin .builtQuery | .builtin .builder | .builtin .matchMode =>
    return unknown
  | c =>
    if h.all.isEmpty then return ofValue (← Operation.call (.classOf c))
    else refuse (.argumentsUnknown ((← get).nameOf c))

def valueCalled (v : Value) (h : Handed) : Operation Meaning := do
  match v with
  | .classOf c => classCalled c h
  | v =>
    if callable? (← theStore) (value v) = none then return unknown
    else refuse (.notCallable ((← theStore).longName v))

def callableKinds : List String :=
  ["builtin_function_or_method", "function", "method", "method-wrapper", "method_descriptor",
   "slot wrapper", "type", "wrapper_descriptor", "Quitter", "_Printer", "_Helper"]

def classOfMeaning (s : Session) : Meaning → Meaning
  | value v =>
    match Attribute.classOf s.store v with
    | .builtin c => ofValue (.classOf (.builtin c))
    | .named n => known (if n = s.store.shortName v then s.store.longName v else n)
    | c => value (.classOf c)
  | m => known (m.fullKind s.store)

def drained (m : Meaning) : Operation Meaning := do
  match m with
  | value v =>
    match (← theStore).cellOf? v with
    | some (.stream ..) => return list ((← drain v).map ofValue)
    | _ => return m
  | m => return m

def passing : List String :=
  ["all", "any", "dict", "frozenset", "list", "max", "min", "set", "sorted", "sum", "tuple"]

def ready (name : String) (h : Handed) : Operation Handed := do
  if passing.contains name then return { h with places := ← h.places.mapM drained } else return h

def knownCalled (className : String) (h : Handed) : Operation Meaning := do
  let h ← ready className h
  let s ← get
  if className.startsWith "typing." then asking fun s => ofClassOfForms s className h
  else if className = kindOfNothing then
    if h.all.isEmpty then return value .null else refuse (.argumentsUnknown className)
  else if ["method-wrapper", "method_descriptor", "wrapper_descriptor"].contains className then
    refuse (.neverMade className)
  else if className = "types.GenericAlias" then
    match ← asking fun _ => (Reception.placed 2 2).take "GenericAlias" h with
    | [some (known c), some m] => return generic c m.arguments
    | _ => return unknown
  else asking fun t => construct t className (classOfMeaning s) h

def formOrAppliedCalled (f : HintForm) (items? : Option (List Meaning)) (h : Handed) :
    Operation Meaning := do
  match f, items? with
  | .construction, some _ => refuse (.notCallable f.appliedKind)
  | .annotated, some (known c :: _) => knownCalled c h
  | .annotated, some (form g :: _) => asking fun s => formCalled s g h
  | .annotated, some (applied g _ :: _) => asking fun s => formCalled s g h
  | .annotated, some _ => return unknown
  | .starred, some (generic c _ :: _) => knownCalled c h
  | f, _ => asking fun s => formCalled s f h

def aloneToo : List String := ["fromhex"]

def called (m : Meaning) (h : Handed) : Operation Meaning := do
  match m with
  | known c | generic c _ => knownCalled c h
  | form f => formOrAppliedCalled f none h
  | applied f items => formOrAppliedCalled f (some items) h
  | function n => answer n (← ready n h)
  | operation n => asking fun s => ofFunctionOfForms s n h
  | bound (known c) n =>
    if Operations.ofClassAlone.contains n || aloneToo.contains n then return unknown
    else match h.places with
      | [] => refuse (.argument (.unbound c n))
      | m :: places =>
        let kind := m.kind (← theStore)
        if kind = c then perform m n { h with places }
        else if (m matches unknown) || heirOf? kind c != some false then return unknown
        else refuse (.argument (.otherKind c n kind))
  | bound m n => perform m n h
  | value v => valueCalled v h
  | unknown => return unknown
  | vague k =>
    if callableKinds.contains k || k = "object" then return unknown else refuse (.notCallable k)
  | m => refuse (.notCallable (m.kind (← theStore)))

def calledName (s : Store) (m : Meaning) : Except Fault String :=
  match m with
  | bound (known c) n => .ok (c ++ "." ++ n ++ "()")
  | bound owner n => .ok (lastPart (owner.kind s) ++ "." ++ n ++ "()")
  | value (.classOf c) => .ok (c.fullName ++ "()")
  | form (.parameter t _) | form (.specification t) => .ok t
  | vague "function" => .ok (lambdaName ++ "()")
  | m =>
    match m.ownName?, m.ownModule? with
    | some n, some "builtins" => .ok (n ++ "()")
    | some n, some k => .ok (k ++ "." ++ n ++ "()")
    | _, _ => m.plain s
where
  lambdaName : String := "<lambda>"

end Meaning

end Criteria
