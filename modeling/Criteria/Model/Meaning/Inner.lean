import Criteria.Value.Part

set_option autoImplicit false

namespace Criteria

namespace Meaning

def isInner (n : String) : Bool := n.length > 4 && n.startsWith "__" && n.endsWith "__"

def innerNames : List String := Operations.words
  ("__class__ __delattr__ __dir__ __doc__ __eq__ __format__ __ge__ __getattribute__ " ++
    "__getstate__ __gt__ __hash__ __init__ __init_subclass__ __le__ __lt__ __ne__ __new__ " ++
    "__reduce__ __reduce_ex__ __repr__ __setattr__ __sizeof__ __str__ __subclasshook__")

def innerOfWhole : String :=
  "__abs__ __add__ __and__ __bool__ __ceil__ __divmod__ __float__ __floor__ __floordiv__ " ++
    "__getnewargs__ __index__ __int__ __invert__ __lshift__ __mod__ __mul__ __neg__ __or__ " ++
    "__pos__ __pow__ __radd__ __rand__ __rdivmod__ __rfloordiv__ __rlshift__ __rmod__ __rmul__ " ++
    "__ror__ __round__ __rpow__ __rrshift__ __rshift__ __rsub__ __rtruediv__ __rxor__ __sub__ " ++
    "__truediv__ __trunc__ __xor__"

def innerOfSet : String :=
  "__and__ __class_getitem__ __contains__ __iter__ __len__ __or__ __rand__ __ror__ __rsub__ " ++
    "__rxor__ __sub__ __xor__"

def innerOfDictionary : String :=
  "__class_getitem__ __contains__ __delitem__ __getitem__ __ior__ __iter__ __len__ __or__ " ++
    "__reversed__ __ror__ __setitem__"

def innerOfCharacters : String :=
  "__add__ __contains__ __getitem__ __getnewargs__ __iter__ __len__ __mod__ __mul__ __rmod__ " ++
    "__rmul__"

def innerOfReals : String :=
  "__abs__ __add__ __bool__ __ceil__ __divmod__ __float__ __floor__ __floordiv__ __int__ " ++
    "__mod__ __mul__ __neg__ __pos__ __pow__ __radd__ __rdivmod__ __rfloordiv__ __rmod__ " ++
    "__rmul__ __round__ __rpow__ __rsub__ __rtruediv__ __sub__ __truediv__ __trunc__"

def innerOfStreams : String := "__iter__ __next__ __setstate__"

def innerOfDays : String := "__add__ __radd__ __rsub__ __sub__"

def innerOfParameters : String :=
  "__bound__ __contravariant__ __copy__ __covariant__ __deepcopy__ __dict__ __module__ __or__ " ++
    "__ror__ __slots__ __typing_subst__ __weakref__"

def innerOfProtocols : String :=
  "__abstractmethods__ __annotations__ __class_getitem__ __parameters__ __slots__"

def innerOfFiles : String :=
  "__annotations__ __class_getitem__ __enter__ __exit__ __orig_bases__ __parameters__ __slots__"

def innerOfFormed : String :=
  "__call__ __dict__ __getattr__ __getitem__ __instancecheck__ __iter__ __module__ " ++
    "__mro_entries__ __or__ __ror__ __slots__ __subclasscheck__ __weakref__"

def innerTable : List (String × String) :=
  [("bool", innerOfWhole), ("int", innerOfWhole),
   ("float", innerOfReals ++ " __getformat__ __getnewargs__"),
   ("decimal.Decimal", innerOfReals ++ " __complex__ __copy__ __deepcopy__ __module__"),
   ("complex", "__abs__ __add__ __bool__ __complex__ __getnewargs__ __mul__ __neg__ __pos__ " ++
     "__pow__ __radd__ __rmul__ __rpow__ __rsub__ __rtruediv__ __sub__ __truediv__"),
   ("str", innerOfCharacters), ("bytes", innerOfCharacters ++ " __bytes__"),
   ("bytearray", "__add__ __alloc__ __contains__ __delitem__ __getitem__ __iadd__ __imul__ " ++
     "__iter__ __len__ __mod__ __mul__ __rmod__ __rmul__ __setitem__"),
   ("list", "__add__ __class_getitem__ __contains__ __delitem__ __getitem__ __iadd__ __imul__ " ++
     "__iter__ __len__ __mul__ __reversed__ __rmul__ __setitem__"),
   ("collections.deque", "__add__ __class_getitem__ __contains__ __copy__ __delitem__ " ++
     "__getitem__ __iadd__ __imul__ __iter__ __len__ __mul__ __reversed__ __rmul__ __setitem__"),
   ("tuple", "__add__ __class_getitem__ __contains__ __getitem__ __getnewargs__ __iter__ " ++
     "__len__ __mul__ __rmul__"),
   ("dict", innerOfDictionary), ("collections.OrderedDict", innerOfDictionary ++ " __dict__"),
   ("collections.defaultdict", innerOfDictionary ++ " __copy__ __missing__"),
   ("frozenset", innerOfSet), ("set", innerOfSet ++ " __iand__ __isub__ __ixor__ __ior__"),
   ("range", "__bool__ __contains__ __getitem__ __iter__ __len__ __reversed__"),
   ("datetime.date", innerOfDays), ("datetime.datetime", innerOfDays), ("NoneType", "__bool__"),
   ("NotImplementedType", "__bool__"), ("zip", innerOfStreams),
   ("enumerate", "__class_getitem__ __iter__ __next__"), ("map", "__iter__ __next__"),
   ("filter", "__iter__ __next__"), ("reversed", innerOfStreams ++ " __length_hint__"),
   ("list_iterator", innerOfStreams ++ " __length_hint__"),
   ("generator", "__del__ __iter__ __next__"), ("dict_keys", innerOfSet ++ " __reversed__"),
   ("memoryview", "__delitem__ __enter__ __exit__ __getitem__ __iter__ __len__ __setitem__"),
   ("property", "__delete__ __get__ __isabstractmethod__ __set__ __set_name__"),
   ("classmethod", "__dict__ __func__ __get__ __isabstractmethod__ __wrapped__"),
   ("staticmethod", "__call__ __dict__ __func__ __get__ __isabstractmethod__ __wrapped__"),
   ("BaseException", "__cause__ __context__ __dict__ __setstate__ __suppress_context__ " ++
     "__traceback__"),
   ("builtin_function_or_method", "__call__ __module__ __self__ __text_signature__"),
   ("method_descriptor", "__call__ __get__ __objclass__ __text_signature__"),
   ("method-wrapper", "__call__ __name__ __objclass__ __qualname__ __self__ __text_signature__"),
   ("wrapper_descriptor", "__call__ __get__ __name__ __objclass__ __qualname__ " ++
     "__text_signature__"),
   ("function", "__annotations__ __builtins__ __call__ __closure__ __code__ __defaults__ " ++
     "__dict__ __get__ __globals__ __kwdefaults__ __module__ __name__ __qualname__"),
   ("type", "__base__ __bases__ __basicsize__ __call__ __dict__ __dictoffset__ __flags__ " ++
     "__instancecheck__ __itemsize__ __mro__ __or__ __prepare__ __ror__ __subclasscheck__ " ++
     "__subclasses__ __text_signature__ __weakrefoffset__"),
   ("types.GenericAlias", "__mro_entries__ __typing_unpacked_tuple_args__ " ++
     "__unpacked__"),
   ("types.UnionType", "__getitem__ __or__ __ror__"),
   ("module", "__all__ __annotations__ __builtins__ __cached__ __dict__ __file__ __loader__ " ++
     "__package__ __spec__"),
   ("TypeVar", innerOfParameters ++ " __constraints__"),
   ("ParamSpec", innerOfParameters ++ " __typing_prepare_subst__"),
   ("NewType", "__call__ __dict__ __mro_entries__ __or__ __ror__ __supertype__ __weakref__"),
   ("ForwardRef", "__forward_code__ __forward_evaluated__ __forward_is_argument__ " ++
     "__forward_is_class__ __forward_module__ __forward_value__ __module__ __or__ __ror__ " ++
     "__slots__ __weakref__"),
   ("InitVar", "__class_getitem__ __slots__"),
   ("dataclasses.InitVar", "__annotations__ __class_getitem__ __slots__"),
   ("typing.Any", "__annotations__ __weakref__"),
   ("typing.Annotated", "__annotations__ __class_getitem__ __slots__"),
   ("typing.Generic", "__annotations__ __class_getitem__ __slots__"),
   ("typing.Protocol", innerOfProtocols),
   ("typing.IO", innerOfFiles), ("typing.TextIO", innerOfFiles), ("typing.BinaryIO", innerOfFiles),
   ("typing.SupportsAbs", innerOfProtocols ++ " __abs__ __orig_bases__"),
   ("typing.SupportsBytes", innerOfProtocols ++ " __bytes__"),
   ("typing.SupportsComplex", innerOfProtocols ++ " __complex__"),
   ("typing.SupportsFloat", innerOfProtocols ++ " __float__"),
   ("typing.SupportsIndex", innerOfProtocols ++ " __index__"),
   ("typing.SupportsInt", innerOfProtocols ++ " __int__"),
   ("typing.SupportsRound", innerOfProtocols ++ " __orig_bases__ __round__"),
   ("typing.ForwardRef", "__annotations__ __forward_arg__ __forward_code__ " ++
     "__forward_evaluated__ __forward_is_argument__ __forward_is_class__ __forward_module__ " ++
     "__forward_value__ __slots__ __weakref__"),
   ("typing.NewType", "__annotations__ __mro_entries__ __weakref__"),
   ("_SpecialForm", "__call__ __getattr__ __getitem__ __instancecheck__ __iter__ __module__ " ++
     "__mro_entries__ __or__ __ror__ __slots__ __subclasscheck__ __weakref__"),
   ("_GenericAlias", innerOfFormed)]

def hasInner (kind n : String) : Bool :=
  innerNames.contains n || ((innerTable.lookup kind).any fun t => (Operations.words t).contains n)

end Meaning

end Criteria
