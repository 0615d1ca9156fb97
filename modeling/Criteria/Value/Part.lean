import Criteria.Value.ClassName

set_option autoImplicit false

namespace Criteria

namespace Date

def first : Date := ⟨1, 1, 1⟩

def last : Date := ⟨9999, 12, 31⟩

def named (d : Date) : List (String × Value) :=
  [("year", .int none d.year), ("month", .int none d.month), ("day", .int none d.day)]

end Date

namespace TimeOfDay

def first : TimeOfDay := ⟨0, 0, 0, 0⟩

def last : TimeOfDay := ⟨23, 59, 59, 999999⟩

def named (t : TimeOfDay) : List (String × Value) :=
  [("hour", .int none t.hour), ("minute", .int none t.minute), ("second", .int none t.second),
   ("microsecond", .int none t.micro), ("tzinfo", .null), ("fold", .int none 0)]

end TimeOfDay

namespace Value

def wholeParts (m : Mark) (n : Int) : List (String × Value) :=
  [("real", int m n), ("imag", int none 0), ("numerator", int m n), ("denominator", int none 1)]

def parts : Value → List (String × List (String × Value))
  | truth b => [("int", wholeParts none (if b then 1 else 0))]
  | int m n => [("int", wholeParts m n)]
  | float m w => [("float", [("real", float m w), ("imag", float none "0.0")])]
  | decimal m w => [("decimal.Decimal", [("real", decimal m w), ("imag", decimal none "0")])]
  | date _ d => [("datetime.date", d.named)]
  | moment _ d t => [("datetime.date", d.named), ("datetime.datetime", t.named)]
  | time _ t => [("datetime.time", t.named)]
  | range m first stop step =>
    let bound (place : Nat) (n : Int) : Value := atPlace m place (int none n)
    [("range", [("start", bound 1 first), ("stop", bound 2 stop), ("step", bound 3 step)])]
  | point _ [x, y] => [("Point", [("x", x), ("y", y)])]
  | _ => []

def pointNames : Value := tuple none [text none "x", text none "y"]

def commonParts : Value → List (String × Value)
  | date .. => [("min", date none .first), ("max", date none .last)]
  | moment .. => [("min", moment none .first .first), ("max", moment none .last .last)]
  | time .. => [("min", time none .first), ("max", time none .last)]
  | point .. => [("_fields", pointNames), ("__match_args__", pointNames)]
  | _ => []

def commonThings : Value → List (String × String)
  | date .. | moment .. | time .. => [("resolution", "timedelta")]
  | point .. => [("_asdict", "method"), ("_replace", "method"), ("_make", "method")]
  | _ => []

end Value

namespace Cell

def parts (v : Value) : Cell → List (String × List (String × Value))
  | deque _ => [("collections.deque", [("maxlen", .null)])]
  | undefined .binary _ => [("float", [("real", v), ("imag", .float none "0.0")])]
  | undefined _ _ => [("decimal.Decimal", [("real", v), ("imag", .decimal none "0")])]
  | stream true _ => [("generator", [("gi_running", .truth false), ("gi_yieldfrom", .null)])]
  | _ => []

def things : Cell → List (String × String)
  | stream true _ => [("gi_code", "code"), ("gi_frame", "frame")]
  | _ => []

end Cell

namespace Operations

def words (text : String) : List String := (text.splitOn " ").filter (· != "")

def ofWhole : String := "as_integer_ratio bit_count bit_length conjugate from_bytes to_bytes"

def ofDictionary : String :=
  "clear copy fromkeys get items keys pop popitem setdefault update values"

def ofFixedSet : String :=
  "copy difference intersection isdisjoint issubset issuperset symmetric_difference union"

def ofCharacters : String :=
  "capitalize center count endswith expandtabs find index isalnum isalpha isascii isdigit " ++
  "islower isspace istitle isupper join ljust lower lstrip maketrans partition removeprefix " ++
  "removesuffix replace rfind rindex rjust rpartition rsplit rstrip split splitlines " ++
  "startswith strip swapcase title translate upper zfill"

def ofText : String :=
  ofCharacters ++ " casefold encode format format_map isdecimal isidentifier isnumeric isprintable"

def ofDate : String :=
  "ctime fromisocalendar fromisoformat fromordinal fromtimestamp isocalendar isoformat " ++
  "isoweekday replace strftime timetuple today toordinal weekday"

def ofDecimal : String :=
  "adjusted as_integer_ratio as_tuple canonical compare compare_signal compare_total " ++
  "compare_total_mag conjugate copy_abs copy_negate copy_sign exp fma from_float is_canonical " ++
  "is_finite is_infinite is_nan is_normal is_qnan is_signed is_snan is_subnormal is_zero ln " ++
  "log10 logb logical_and logical_invert logical_or logical_xor max max_mag min min_mag " ++
  "next_minus next_plus next_toward normalize number_class quantize radix remainder_near rotate " ++
  "same_quantum scaleb shift sqrt to_eng_string to_integral to_integral_exact to_integral_value"

def table : List (String × String) :=
  [("int", ofWhole), ("bool", ofWhole),
   ("float", "as_integer_ratio conjugate fromhex hex is_integer"), ("Decimal", ofDecimal),
   ("str", ofText), ("bytes", ofCharacters ++ " decode fromhex hex"),
   ("bytearray", ofCharacters ++
     " append clear copy decode extend fromhex hex insert pop remove reverse"),
   ("list", "append clear copy count extend index insert pop remove reverse sort"),
   ("tuple", "count index"), ("Point", "count index"), ("range", "count index"),
   ("set", ofFixedSet ++ " add clear difference_update discard intersection_update pop remove " ++
     "symmetric_difference_update update"),
   ("frozenset", ofFixedSet), ("dict", ofDictionary),
   ("OrderedDict", ofDictionary ++ " move_to_end"),
   ("deque", "append appendleft clear copy count extend extendleft index insert pop popleft " ++
     "remove reverse rotate"),
   ("date", ofDate),
   ("datetime", ofDate ++ " astimezone combine date dst now strptime time timestamp timetz " ++
     "tzname utcfromtimestamp utcnow utcoffset utctimetuple"),
   ("time", "dst fromisoformat isoformat replace strftime tzname utcoffset"),
   ("generator", "close send throw")]

def has (kind name : String) : Bool :=
  match table.lookup kind with
  | some text => (words text).contains name
  | none => false

def ofBuilder : List String :=
  ["equal", "not_equal", "like", "like_any", "in_", "between", "gte", "gt", "lte", "lt", "order_by",
   "build", "args", "build_query", "__repr__", "__bool__", "__len__"]

def makingBuilders : List String := ["of", "with_condition"]

def kindOfOwn : String := "builtin_function_or_method"

def kindOfMethod : String := "method"

def kindOfPlace : String := "member_descriptor"

def ofClassAlone : List String := ["from_bytes", "maketrans", "fromkeys"]

def kindInClass (c : BuiltinClass) (name : String) : Option String :=
  match c with
  | .integer | .text | .dictionary =>
    if ofClassAlone.contains name && has c.name name then some kindOfOwn
    else if has c.name name then some "method_descriptor"
    else if c = .integer && ["real", "imag", "numerator", "denominator"].contains name then
      some "getset_descriptor"
    else none
  | .builder =>
    if makingBuilders.contains name then some kindOfMethod
    else if ofBuilder.contains name then some "function"
    else if name = "index" then some "property"
    else none
  | .field => if name = "path" then some "property" else none
  | .matchMode => if name = "to_match_string" then some "function" else none
  | .fieldsProxy => if name = "_prefix" then some kindOfPlace else none
  | _ => none

end Operations

end Criteria
