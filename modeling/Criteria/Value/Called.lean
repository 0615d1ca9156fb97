import Criteria.Fault
import Criteria.Value.ClassName

set_option autoImplicit false

namespace Criteria

inductive Product where
  | value (v : Value)
  | cell (c : Cell)

namespace Store

def called (s : Store) : Value → Except Fault Product
  | .classOf (.builtin .integer) => .ok (.value (.int none 0))
  | .classOf (.builtin .text) => .ok (.value (.text none ""))
  | .classOf (.builtin .object) => .ok (.cell (.thing "object"))
  | .classOf (.builtin .dictionary) => .ok (.cell (.dict false []))
  | .classOf (.builtin .fieldsProxy) => .ok (.cell (.proxy (some (.text none ""))))
  | .classOf (.builtin .field) => .error (.missingArguments "Field.__init__" ["path"])
  | .classOf (.builtin .builtQuery) => .error (.missingArguments "BuiltQuery.__init__" ["text"])
  | .classOf (.builtin .builder) =>
    .error (.missingArguments "ConditionBuilder.__init__" ["base_text"])
  | .classOf (.builtin .matchMode) => .error (.missingArguments "EnumType.__call__" ["value"])
  | .classOf c => .ok (.cell (.thing c.name))
  | v => .error (.notCallable (s.longName v))

end Store

end Criteria
