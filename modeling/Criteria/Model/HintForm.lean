import Criteria.Value.Part

set_option autoImplicit false

namespace Criteria

inductive HintForm where
  | any
  | annotated
  | construction
  | classWide
  | final
  | optional
  | union
  | literal
  /-- Hints before others that are not told. -/
  | concatenated
  | remark (name : String)
  | unpacked
  | starred
  | lone (name : String)
  | generic
  | protocol
  | callable
  | row
  /-- Stands for a class of collections. -/
  | standing (name : String)
  | shaped (fullName : String)
  /-- Stands for any hint. `own` tells whether it belongs to those who declare hints. -/
  | parameter (shown : String) (own : Bool)
  | specification (shown : String)
  | label (shown : String)
  deriving DecidableEq, Repr

/-- What becomes of a call of a form that stands for a class. -/
inductive Manner where
  | instead
  | freely
  | lacking (operations : List String)
  | never
  | ofMapping
  deriving DecidableEq, Repr

structure Standing where
  name : String
  fullName : String
  count : Nat
  manner : Manner
  /-- The public members of the class, where its values are not known otherwise. -/
  members : String

namespace Standing

def abstract (name : String) (count : Nat) (operations : String) (members : String) : Standing :=
  ⟨name, "collections.abc." ++ name, count, .lacking (Operations.words operations), members⟩

def ofClass (name className : String) (count : Nat) : Standing :=
  ⟨name, className, count, .instead, ""⟩

def all : List Standing :=
  [ofClass "Dict" "dict" 2, ofClass "FrozenSet" "frozenset" 1, ofClass "List" "list" 1,
   ofClass "Set" "set" 1, ofClass "Type" "type" 1,
   ⟨"ChainMap", "collections.ChainMap", 2, .freely,
      Operations.ofDictionary ++ " new_child parents"⟩,
   ⟨"Counter", "collections.Counter", 1, .freely,
     Operations.ofDictionary ++ " elements most_common subtract total"⟩,
   ⟨"DefaultDict", "collections.defaultdict", 2, .freely,
     Operations.ofDictionary ++ " default_factory"⟩,
   ⟨"Deque", "collections.deque", 1, .freely, "maxlen"⟩,
   ⟨"OrderedDict", "collections.OrderedDict", 2, .freely, ""⟩,
   ⟨"Match", "re.Match", 1, .never,
     "end endpos expand group groupdict groups lastgroup lastindex pos re regs span start string"⟩,
   ⟨"Pattern", "re.Pattern", 1, .never,
     "findall finditer flags fullmatch groupindex groups match pattern scanner search split sub " ++
        "subn"⟩,
   ⟨"AbstractSet", "collections.abc.Set", 1, .lacking ["__contains__", "__iter__", "__len__"],
     "isdisjoint"⟩,
   ⟨"AsyncContextManager", "contextlib.AbstractAsyncContextManager", 1, .lacking ["__aexit__"], ""⟩,
   ⟨"ContextManager", "contextlib.AbstractContextManager", 1, .lacking ["__exit__"], ""⟩,
   ⟨"ItemsView", "collections.abc.ItemsView", 2, .ofMapping, "isdisjoint"⟩,
   ⟨"KeysView", "collections.abc.KeysView", 1, .ofMapping, "isdisjoint"⟩,
   ⟨"MappingView", "collections.abc.MappingView", 1, .ofMapping, ""⟩,
   ⟨"ValuesView", "collections.abc.ValuesView", 1, .ofMapping, ""⟩,
   abstract "AsyncGenerator" 2 "asend athrow" "aclose asend athrow",
   abstract "AsyncIterable" 1 "__aiter__" "",
   abstract "AsyncIterator" 1 "__anext__" "",
   abstract "Awaitable" 1 "__await__" "",
   abstract "ByteString" 0 "__getitem__ __len__" "count index",
   abstract "Collection" 1 "__contains__ __iter__ __len__" "",
   abstract "Container" 1 "__contains__" "",
   abstract "Coroutine" 3 "__await__ send throw" "close send throw",
   abstract "Generator" 3 "send throw" "close send throw",
   abstract "Hashable" 0 "__hash__" "",
   abstract "Iterable" 1 "__iter__" "",
   abstract "Iterator" 1 "__next__" "",
   abstract "Mapping" 2 "__getitem__ __iter__ __len__" "get items keys values",
   abstract "MutableMapping" 2 "__delitem__ __getitem__ __iter__ __len__ __setitem__"
     "clear get items keys pop popitem setdefault update values",
   abstract "MutableSequence" 1 "__delitem__ __getitem__ __len__ __setitem__ insert"
     "append clear count extend index insert pop remove reverse",
   abstract "MutableSet" 1 "__contains__ __iter__ __len__ add discard"
     "add clear discard isdisjoint pop remove",
   abstract "Reversible" 1 "__iter__ __reversed__" "",
   abstract "Sequence" 1 "__getitem__ __len__" "count index",
   abstract "Sized" 0 "__len__" ""]

def ofName? (n : String) : Option Standing := all.find? fun c => c.name = n

def ofCalls : Standing := abstract "Callable" 2 "__call__" ""

def ofRows : Standing := ofClass "Tuple" "tuple" 0

end Standing

def lastPart (fullName : String) : String := (fullName.splitOn ".").getLastD fullName

namespace HintForm

def named : List (String × HintForm) :=
  [("Annotated", annotated), ("Any", any), ("Callable", callable), ("ClassVar", classWide),
   ("Concatenate", concatenated), ("Final", final), ("Generic", generic), ("Literal", literal),
   ("Optional", optional), ("Protocol", protocol), ("Tuple", row), ("Union", union),
   ("Unpack", unpacked), ("InitVar", construction)]

def remarks : List String := ["NotRequired", "Required", "TypeGuard"]

def lones : List String := ["LiteralString", "Never", "NoReturn", "Self", "TypeAlias"]

def shapes : List (String × Nat × List String) :=
  [("typing.BinaryIO", 0, []), ("typing.IO", 1, []), ("typing.TextIO", 0, []),
   ("typing.SupportsAbs", 1, ["__abs__"]), ("typing.SupportsBytes", 0, ["__bytes__"]),
   ("typing.SupportsComplex", 0, ["__complex__"]), ("typing.SupportsFloat", 0, ["__float__"]),
   ("typing.SupportsIndex", 0, ["__index__"]), ("typing.SupportsInt", 0, ["__int__"]),
   ("typing.SupportsRound", 1, ["__round__"])]

def parameters : List (String × String) :=
  [("AnyStr", "~"), ("CT_co", "+"), ("KT", "~"), ("T", "~"), ("T_co", "+"), ("T_contra", "-"),
   ("VT", "~"), ("VT_co", "+"), ("V_co", "+")]

def inModule? (n : String) : Option HintForm :=
  if n = "InitVar" then none
  else if let some f := named.lookup n then some f
  else if remarks.contains n then some (remark n)
  else if lones.contains n then some (lone n)
  else if (Standing.ofName? n).isSome then some (standing n)
  else if (shapes.lookup ("typing." ++ n)).isSome then some (shaped ("typing." ++ n))
  else (parameters.lookup n).map fun sign => parameter (sign ++ n) false

def openNames : List String :=
  ["Any", "ClassVar", "Final", "Optional", "Union", "List", "Dict", "Annotated"]

def ofName? (n : String) : Option HintForm :=
  if openNames.contains n then inModule? n
  else if n = "InitVar" then some construction
  else if n = "T" then some (parameter "~T" true)
  else none

def shortName : HintForm → String
  | remark n | lone n | standing n => n
  | shaped n => lastPart n
  | parameter t _ | specification t | label t => t
  | f => ((named.find? fun n => n.2 = f).map (·.1)).getD ""

def className? : HintForm → Option String
  | any => some "typing.Any"
  | annotated => some "typing.Annotated"
  | construction => some "dataclasses.InitVar"
  | generic => some "typing.Generic"
  | protocol => some "typing.Protocol"
  | shaped n => some n
  | _ => none

def shown : HintForm → String
  | any => "typing.Any"
  | parameter t _ | specification t | label t => t
  | f =>
    match f.className? with
    | some n => "<class '" ++ n ++ "'>"
    | none => "typing." ++ f.shortName

def calledWithin (f : HintForm) : String := f.className?.getD f.shown

def kind : HintForm → String
  | any => "_AnyMeta"
  | annotated | construction | generic => "type"
  | protocol => "_ProtocolMeta"
  | shaped n => if n.startsWith "typing.Supports" then "_ProtocolMeta" else "type"
  | parameter .. => "TypeVar"
  | specification _ => "ParamSpec"
  | label _ => "NewType"
  | standing _ => "_SpecialGenericAlias"
  | callable => "_CallableType"
  | row => "_TupleType"
  | literal => "_LiteralSpecialForm"
  | _ => "_SpecialForm"

def appliedKind : HintForm → String
  | annotated => "_AnnotatedAlias"
  | construction => "InitVar"
  | union => "_UnionGenericAlias"
  | callable => "_CallableGenericAlias"
  | literal => "_LiteralGenericAlias"
  | concatenated => "_ConcatenateGenericAlias"
  | unpacked => "_UnpackGenericAlias"
  | starred => "types.GenericAlias"
  | _ => "_GenericAlias"

def isSpecial : HintForm → Bool
  | classWide | final | optional | union | literal | concatenated | remark _ | unpacked | generic
  | protocol => true
  | _ => false

def standing? : HintForm → Option Standing
  | standing n => Standing.ofName? n
  | callable => some .ofCalls
  | row => some .ofRows
  | _ => none

def isParameter : HintForm → Bool
  | parameter .. | specification _ => true
  | _ => false

end HintForm

end Criteria
