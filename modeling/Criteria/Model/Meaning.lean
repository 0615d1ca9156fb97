import Criteria.Model.Expression.Text
import Criteria.Model.HintForm
import Criteria.Value.Shown

set_option autoImplicit false

namespace Criteria

/-- What an expression comes to. -/
inductive Meaning where
  | value (v : Value)
  | imaginary (written : String)
  | row (items : List Meaning)
  | list (items : List Meaning)
  | set (fixed : Bool) (items : List Meaning)
  | dictionary (keys values : List Meaning)
  | slice (bounds : List Meaning)
  | stream (className : String) (items : List Meaning) (fault : Option Fault)
  | known (className : String)
  | form (f : HintForm)
  | applied (f : HintForm) (arguments : List Meaning)
  | generic (className : String) (arguments : List Meaning)
  | either (arguments : List Meaning)
  /-- A text that is evaluated later, and whether it may say that an attribute belongs to the class.
  -/
  | deferred (text : String) (wide : Bool)
  | forms
  | function (name : String)
  | operation (name : String)
  | bound (owner : Meaning) (name : String)
  | ellipsis
  | vague (className : String)
  /-- Something of which nothing is known. It is taken to be no hint of the class. -/
  | unknown
  deriving Inhabited

/-- Where an expression stands: among attributes and forms, of which the names that come first
cannot be seen from inside of functions. Only in classes an attribute can belong to the class. -/
structure Surroundings where
  attributes : List (String × Value)
  attributesFirst : Bool
  ofClass : Bool
  hasForms : Bool

namespace Surroundings

def placeName : String := "__module__"

def knowsForms (attributes : List (String × Value)) : Bool := (attributes.lookup placeName).isNone

def within (attributes : List (String × Value)) : Surroundings :=
  ⟨attributes, false, true, knowsForms attributes⟩

/-- The surroundings of the hints of a class that keeps a table of its fields. The class goes by its
name in them, which comes before all attributes. -/
def withinTabled (name : String) (c : ClassRef) (attributes : List (String × Value)) :
    Surroundings :=
  ⟨(name, .classOf c) :: attributes, true, true, knowsForms attributes⟩

def elsewhere : Surroundings := ⟨[], false, false, false⟩

def inside (around : Surroundings) : Surroundings :=
  if around.attributesFirst then { around with attributes := [] }
  else { around with hasForms := false }

end Surroundings

namespace Meaning

def faultClasses : List String :=
  ["ArithmeticError", "AssertionError", "AttributeError", "BaseException", "BaseExceptionGroup",
   "BlockingIOError", "BrokenPipeError", "BufferError", "BytesWarning", "ChildProcessError",
   "ConnectionAbortedError", "ConnectionError", "ConnectionRefusedError", "ConnectionResetError",
   "DeprecationWarning", "EOFError", "EncodingWarning", "Exception", "ExceptionGroup",
   "FileExistsError", "FileNotFoundError", "FloatingPointError", "FutureWarning", "GeneratorExit",
   "ImportError", "ImportWarning", "IndentationError", "IndexError", "InterruptedError",
   "IsADirectoryError", "KeyError", "KeyboardInterrupt", "LookupError", "MemoryError",
   "ModuleNotFoundError", "NameError", "NotADirectoryError", "NotImplementedError", "OSError",
   "OverflowError", "PendingDeprecationWarning", "PermissionError", "ProcessLookupError",
   "RecursionError", "ReferenceError", "ResourceWarning", "RuntimeError", "RuntimeWarning",
   "StopAsyncIteration", "StopIteration", "SyntaxError", "SyntaxWarning", "SystemError",
   "SystemExit", "TabError", "TimeoutError", "TypeError", "UnboundLocalError",
   "UnicodeDecodeError", "UnicodeEncodeError", "UnicodeError", "UnicodeTranslateError",
   "UnicodeWarning", "UserWarning", "ValueError", "Warning", "ZeroDivisionError"]

def knownClasses : List String :=
  faultClasses ++
    ["bool", "bytearray", "bytes", "classmethod", "complex", "dict", "enumerate", "filter",
     "float", "frozenset", "int", "list", "map", "memoryview", "object", "property", "range",
     "reversed", "set", "slice", "staticmethod", "str", "super", "tuple", "type", "zip"]

def furtherNames : List (String × String) :=
  [("EnvironmentError", "OSError"), ("IOError", "OSError")]

def knownFunctions : List String :=
  ["__build_class__", "__import__", "abs", "aiter", "all", "anext", "any", "ascii", "bin",
   "breakpoint", "callable", "chr", "compile", "delattr", "dir", "divmod", "eval", "exec",
   "format", "getattr", "globals", "hasattr", "hash", "hex", "id", "input", "isinstance",
   "issubclass", "iter", "len", "locals", "max", "min", "next", "oct", "open", "ord", "pow",
   "print", "repr", "round", "setattr", "sorted", "sum", "vars"]

def knownThings : List (String × String) :=
  [("NotImplemented", "NotImplementedType"), ("copyright", "_Printer"), ("credits", "_Printer"),
   ("exit", "Quitter"), ("help", "_Helper"), ("license", "_Printer"), ("quit", "Quitter")]

def genericClasses : List String :=
  ["BaseExceptionGroup", "ExceptionGroup", "dict", "enumerate", "frozenset", "list", "set", "tuple",
   "type"]

def classesOfForms : List (String × String) :=
  [("ABCMeta", "abc.ABCMeta"), ("ForwardRef", "typing.ForwardRef"),
   ("GenericAlias", "types.GenericAlias"), ("MethodDescriptorType", "method_descriptor"),
   ("MethodWrapperType", "method-wrapper"), ("NamedTupleMeta", "typing.NamedTupleMeta"),
   ("NewType", "typing.NewType"), ("ParamSpec", "typing.ParamSpec"),
   ("ParamSpecArgs", "typing.ParamSpecArgs"), ("ParamSpecKwargs", "typing.ParamSpecKwargs"),
   ("Text", "str"), ("TypeVar", "typing.TypeVar"), ("TypeVarTuple", "typing.TypeVarTuple"),
   ("WrapperDescriptorType", "wrapper_descriptor"), ("defaultdict", "collections.defaultdict")]

def functionsOfForms : List String := Operations.words
  ("NamedTuple TypedDict abstractmethod assert_never assert_type cast clear_overloads " ++
    "dataclass_transform final get_args get_origin get_overloads get_type_hints is_typeddict " ++
    "no_type_check no_type_check_decorator overload reveal_type runtime_checkable")

def modulesOfForms : List String := Operations.words
  "collections contextlib functools operator stdlib_re sys types warnings"

def moduleOfForms : String := "typing"

def inForms (n : String) : Except Fault Meaning :=
  match HintForm.inModule? n, classesOfForms.lookup n with
  | some f, _ => .ok (form f)
  | none, some c => .ok (known c)
  | none, none =>
    if functionsOfForms.contains n then .ok (operation n)
    else if modulesOfForms.contains n then .ok (vague "module")
    else if n = "TYPE_CHECKING" then .ok (value (.truth false))
    else if n = "__name__" then .ok (value (.text none moduleOfForms))
    else .error (.notInModule n)

def formsNamed? (n : String) : Option Meaning :=
  if n = moduleOfForms then some forms else (HintForm.ofName? n).map form

def ofValue : Value → Meaning
  | .classOf (.builtin c) =>
    if BuiltinClass.closed.contains c then known c.name else value (.classOf (.builtin c))
  | v => value v

def everyones? (n : String) : Option Meaning :=
  if knownClasses.contains n then some (known n)
  else if knownFunctions.contains n then some (function n)
  else if n = "__debug__" then some (value (.truth true))
  else if n = "Ellipsis" then some ellipsis
  else ((furtherNames.lookup n).map known).or ((knownThings.lookup n).map vague)

def ofName (around : Surroundings) (n : String) : Except Fault Meaning :=
  let offered := if around.hasForms then formsNamed? n else none
  let told := (around.attributes.lookup n).map ofValue
  let near := if around.attributesFirst then told.or offered else offered.or told
  match near.or (everyones? n) with
  | some m => .ok m
  | none => .error (.unknownName n)

def kindOfClass (className : String) : String :=
  if className.startsWith "collections.abc." || className.startsWith "contextlib." then "ABCMeta"
  else "type"

def kind (s : Store) : Meaning → String
  | value v => s.longName v
  | imaginary _ => "complex"
  | row _ => "tuple"
  | list _ => "list"
  | set fixed _ => if fixed then "frozenset" else "set"
  | dictionary .. => "dict"
  | slice _ => "slice"
  | stream c _ _ => c
  | known c => kindOfClass c
  | form f => f.kind
  | applied f _ => f.appliedKind
  | generic .. => "types.GenericAlias"
  | either _ => "types.UnionType"
  | deferred .. => "ForwardRef"
  | forms => "module"
  | function _ => "builtin_function_or_method"
  | operation _ => "function"
  | bound (known _) _ => "method_descriptor"
  | bound .. => "builtin_function_or_method"
  | ellipsis => "ellipsis"
  | vague k => k
  | unknown => "object"

def kindOfNothing : String := "NoneType"

def isNothing : Meaning → Bool
  | value .null | known "NoneType" => true
  | _ => false

def rowItems? : Meaning → Option (List Meaning)
  | row items => some items
  | value (.tuple _ items) | value (.point _ items) => some (items.map ofValue)
  | _ => none

def listItems? (s : Store) : Meaning → Option (List Meaning)
  | list items => some items
  | value v =>
    match s.cellOf? v with
    | some (.list items) => some (items.map ofValue)
    | _ => none
  | _ => none

def tellsRow (s : Store) : Meaning → Bool
  | ellipsis | form (.specification _) | applied .concatenated _ => true
  | m => m.rowItems?.isSome || (m.listItems? s).isSome

/-- How a class, or what stands like one, is called among arguments. Only the arguments of a class
call functions by their names. -/
def calledWithin? (ofClass : Bool) : Meaning → Option String
  | known c => some c
  | form f => some f.calledWithin
  | value (.classOf c) => some c.fullName
  | ellipsis => some "..."
  | function n => if ofClass then some n else none
  | operation n => some (if ofClass then moduleOfForms ++ "." ++ n else n)
  | _ => none

def heldName? : Meaning → Option String
  | known c => some (lastPart c)
  | form f => f.className?.map lastPart
  | value (.classOf c) => some c.name
  | _ => none

def unionText (called : List String) : String :=
  match called with
  | ["NoneType", t] | [t, "NoneType"] => enclosed "typing.Optional[" "]" [t]
  | all => enclosed "typing.Union[" "]" all

def callsText (told : Bool) (called : List String) : String :=
  match told, called with
  | true, called => enclosed "typing.Callable[" "]" called
  | false, called =>
    enclosed "typing.Callable[" "]" [listText called.dropLast, called.getLastD ""]

def bracketed (name : String) (parts : List String) : String :=
  enclosed (name ++ "[") "]" (if parts.isEmpty then ["()"] else parts)

mutual

def shown (s : Store) : Meaning → Except Fault String
  | value v => s.shown v
  | imaginary w => .ok (w ++ "j")
  | row items => do .ok (tupleText (← shownAll s items))
  | list items => do .ok (listText (← shownAll s items))
  | set fixed items => do
    let text := enclosed "\x7b" "\x7d" (← shownAll s items)
    .ok (match fixed, items.isEmpty with
      | false, true => "set()"
      | true, true => "frozenset()"
      | false, false => text
      | true, false => "frozenset(" ++ text ++ ")")
  | dictionary keys values => do
    let keys ← shownAll s keys
    let values ← shownAll s values
    .ok (enclosed "\x7b" "\x7d" ((keys.zip values).map fun e => e.1 ++ ": " ++ e.2))
  | slice bounds => do .ok (callText "slice" (← shownAll s bounds))
  | stream c _ _ => .ok ("<" ++ c ++ " object>")
  | known c => .ok ("<class '" ++ c ++ "'>")
  | form f => .ok f.shown
  | applied .annotated items => do
    let called ← calledAll s false items
    let all ← shownAll s items
    .ok (bracketed "typing.Annotated" (called.take 1 ++ all.drop 1))
  | applied .construction items => do
    let all ← shownAll s items
    .ok (bracketed "dataclasses.InitVar" (match items with
      | [m] => (m.heldName?.map fun n => [n]).getD all
      | _ => all))
  | applied .union items => do .ok (unionText (← calledAll s false items))
  | applied .unpacked items | applied .starred items => do
    .ok ("*" ++ "".intercalate (← shownAll s items))
  | applied .callable items => do
    let told := items.length = 2 && items.head?.any (tellsRow s)
    .ok (callsText told (← calledAll s false items))
  | applied f items => do .ok (bracketed f.calledWithin (← calledAll s false items))
  | generic c items => do .ok (bracketed c (← calledAll s true items))
  | either items => do
    let all ← calledAll s true items
    .ok (" | ".intercalate (all.map fun t => if t = kindOfNothing then "None" else t))
  | deferred text _ => .ok (callText "ForwardRef" [Text.quoted text])
  | forms => .ok ("<module '" ++ moduleOfForms ++ "'>")
  | function n => .ok ("<built-in function " ++ n ++ ">")
  | operation n => .ok ("<function " ++ n ++ ">")
  | bound (known c) n => .ok ("<method '" ++ n ++ "' of '" ++ c ++ "' objects>")
  | bound _ n => .ok ("<built-in method " ++ n ++ ">")
  | ellipsis => .ok "Ellipsis"
  | vague k => .ok ("<" ++ k ++ " object>")
  | unknown => .ok "<object>"

def shownAll (s : Store) : List Meaning → Except Fault (List String)
  | [] => .ok []
  | m :: ms => do
    let p ← shown s m
    let ps ← shownAll s ms
    .ok (p :: ps)

def calledAll (s : Store) (ofClass : Bool) : List Meaning → Except Fault (List String)
  | [] => .ok []
  | m :: ms => do
    let p ← match m.calledWithin? ofClass with
      | some n => .ok n
      | none => shown s m
    let ps ← calledAll s ofClass ms
    .ok (p :: ps)

end

mutual

def isPlain : Meaning → Bool
  | stream .. | operation _ | vague _ | unknown | forms => false
  | bound (known _) _ => true
  | bound .. => false
  | row items | list items | set _ items | applied _ items | generic _ items | either items
  | slice items => allPlain items
  | dictionary keys values => allPlain keys && allPlain values
  | _ => true

def allPlain : List Meaning → Bool
  | [] => true
  | m :: ms => isPlain m && allPlain ms

end

def clipped (s : Store) (m : Meaning) : Except Fault String := do
  let t ← m.shown s
  .ok (String.ofList (t.toList.take 100))

end Meaning

end Criteria
