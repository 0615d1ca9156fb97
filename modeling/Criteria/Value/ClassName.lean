import Criteria.Store

set_option autoImplicit false

namespace Criteria

def ClassRef.className (c : ClassRef) : String :=
  if c = .builtin .matchMode then "EnumType" else if c.isTabled then "ModelMetaclass" else "type"

namespace Cell

def shortName : Cell → String
  | list _ => "list"
  | deque _ => "deque"
  | set false _ => "set"
  | set true _ => "frozenset"
  | dict false _ => "dict"
  | dict true _ => "OrderedDict"
  | byteArray _ => "bytearray"
  | bag _ => "Bag"
  | sized _ => "Sized"
  | thing className | generic className _ => className
  | stream false _ => "list_iterator"
  | stream true _ => "generator"
  | undefined .binary _ => "float"
  | undefined _ _ => "Decimal"
  | field _ => "Field"
  | proxy _ => "GenericFieldsProxy"
  | fieldSet _ => "SimpleNamespace"
  | builder _ => "ConditionBuilder"

def longName : Cell → String
  | deque _ => "collections.deque"
  | dict true _ => "collections.OrderedDict"
  | undefined .decimal _ => "decimal.Decimal"
  | undefined .signaling _ => "decimal.Decimal"
  | fieldSet _ => "types.SimpleNamespace"
  | generic "GenericAlias" _ => "types.GenericAlias"
  | c => c.shortName

end Cell

namespace Store

def shortName (s : Store) : Value → String
  | .null => "NoneType"
  | .unset => "PydanticUndefinedType"
  | .truth _ => "bool"
  | .int _ _ => "int"
  | .text _ _ => "str"
  | .float _ _ => "float"
  | .decimal _ _ => "Decimal"
  | .bytes _ _ => "bytes"
  | .date _ _ => "date"
  | .moment _ _ _ => "datetime"
  | .time _ _ => "time"
  | .range _ _ _ _ => "range"
  | .tuple .. => "tuple"
  | .point .. => "Point"
  | .mode _ => "MatchMode"
  | .classOf c => c.className
  | .query .. => "BuiltQuery"
  | .shared h => ((s.cell? h).map Cell.shortName).getD "object"

def longName (s : Store) : Value → String
  | .unset => "pydantic_core._pydantic_core.PydanticUndefinedType"
  | .decimal _ _ => "decimal.Decimal"
  | .date _ _ => "datetime.date"
  | .moment _ _ _ => "datetime.datetime"
  | .time _ _ => "datetime.time"
  | .shared h => ((s.cell? h).map Cell.longName).getD "object"
  | v => s.shortName v

end Store

end Criteria
