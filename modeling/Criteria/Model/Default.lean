import Criteria.Model.Making
import Criteria.Model.Slot
import Criteria.Value.Part

set_option autoImplicit false

namespace Criteria

inductive Default where
  /-- A place for a value, which is no default. -/
  | place
  | fixed
  | changing (className : String)
  deriving DecidableEq, Repr

namespace Default

open Operations (words)

def changeable (s : Store) (v : Value) : Bool :=
  match s.fingerprint v with
  | .error (.unhashable _) =>
    match v with
    | .shared _ => true
    | _ => false
  | _ => false

def ofValue (s : Store) (v : Value) : Default :=
  let kind := s.longName v
  if kind = Operations.kindOfPlace then place
  else if changeable s v then changing kind
  else fixed

def tableName : String := "__dataclass_fields__"

/-- How a record was made. It is told before hints are looked at. -/
def makingName : String := "__dataclass_params__"

/-- What a class leaves to others to fill in. Only its own attribute counts. -/
def unfilledName : String := "__abstractmethods__"

def writtenNames : List String := ["__match_args__", "__init__", "__repr__", "__eq__", "__hash__"]

def ofRecord? (name : String) : Option Default :=
  if name = tableName then some (changing "dict")
  else if (makingName :: writtenNames).contains name then some fixed
  else none

def common : List String := words
  ("__call__ __delattr__ __dir__ __eq__ __format__ __ge__ __getattribute__ __getstate__ __gt__ " ++
    "__hash__ __init__ __init_subclass__ __instancecheck__ __le__ __lt__ __ne__ __new__ __or__ " ++
    "__prepare__ __reduce__ __reduce_ex__ __repr__ __ror__ __setattr__ __sizeof__ __str__ " ++
    "__subclasscheck__ __subclasses__ __subclasshook__ mro")

def further : BuiltinClass → String
  | .integer =>
    "__abs__ __add__ __and__ __bool__ __ceil__ __divmod__ __float__ __floor__ __floordiv__ " ++
    "__getnewargs__ __index__ __int__ __invert__ __lshift__ __mod__ __mul__ __neg__ __pos__ " ++
    "__pow__ __radd__ __rand__ __rdivmod__ __rfloordiv__ __rlshift__ __rmod__ __rmul__ " ++
    "__round__ __rpow__ __rrshift__ __rshift__ __rsub__ __rtruediv__ __rxor__ __sub__ " ++
    "__truediv__ __trunc__ __xor__"
  | .text =>
    "__add__ __contains__ __getitem__ __getnewargs__ __iter__ __len__ __mod__ __mul__ __rmod__ " ++
    "__rmul__"
  | .dictionary =>
    "__class_getitem__ __contains__ __delitem__ __getitem__ __ior__ __iter__ __len__ " ++
    "__reversed__ __setitem__"
  | .field => "__getattr__ __getitem__"
  | .generic => "__class_getitem__ __orig_bases__ __parameters__ __slots__ _is_protocol"
  | .builtQuery => "__iter__ args"
  | .builder => "_append _compare _next_placeholder _skip"
  | .fieldsProxy => "__getattr__ __slots__"
  | _ => ""

def ofBuiltin? (s : Store) (c : BuiltinClass) (name : String) : Option Default :=
  match s.givenToClass? c name, Operations.kindInClass c name with
  | some v, _ => some (ofValue s v)
  | none, some k => some (if k = Operations.kindOfPlace then place else fixed)
  | none, none =>
    if (words (further c)).contains name then some fixed
    else if c = .builtQuery then ofRecord? name
    else none

def ofModel? (s : Store) (m : Model) (name : String) : Option Default :=
  match m.parameters?.bind fun _ => ofRecord? name, m.attributes.lookup name with
  | some (changing k), _ => some (changing k)
  | _, some v => some (ofValue s v)
  | found, none => found

def ofClass? (s : Session) (c : ClassRef) (name : String) : Option Default :=
  match c with
  | .builtin c => ofBuiltin? s.store c name
  | c => (s.modelOf? c).bind fun m => ofModel? s.store m name

def ofSlot (s : Store) (m : Model) (slot : Model.Slot) (name : String) : Default :=
  match slot, m.attributes.lookup name with
  | .hints, none => changing "dict"
  | .hints, some v | .lasting, some v => ofValue s v
  | .members, _ => if name = "__dict__" then changing "mappingproxy" else fixed
  | _, _ => fixed

def isWatched (s : Session) (behind : List ClassRef) (m : Model) (name : String) : Bool :=
  name = Model.Making.watchedPlace &&
    (Model.Making.givesPlace name m || behind.any (Model.Making.hasPlace s name))

def of? (s : Session) (behind : List ClassRef) (m : Model) (name : String) : Option Default :=
  match Model.Slot.ofName? name with
  | some slot => some (ofSlot s.store m slot name)
  | none =>
    if name = makingName then some fixed
    else if name = unfilledName then (m.attributes.lookup name).map (ofValue s.store)
    else ((ofModel? s.store m name).or (behind.findSome? fun c => ofClass? s c name)).or
      (if common.contains name || isWatched s behind m name then some fixed else none)

def isValue (d : Default) : Bool := d != place

end Default

end Criteria
