set_option autoImplicit false

namespace Criteria.Release

def exports : List String :=
  ["ConditionBuilder", "BuiltQuery", "MatchMode", "Field", "GenericFieldsProxy", "fields_for",
   "is_present", "BuilderUsageError", "InvalidFieldListError", "InvalidStartIndexError", "logger"]

def version : String := "0.1.0"

/-- The root of the channels. Its records go to callers who ask for them and to nobody else. -/
def logger : String := "jpql_builder"

def handlers : List String := ["NullHandler"]

def propagates : Bool := false

end Criteria.Release
