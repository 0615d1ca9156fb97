import Criteria.Model.Expression.Scope
import Criteria.Model.Grammar.Text

set_option autoImplicit false

namespace Criteria.Expression

/-- The expression that a text is, when it may stand alone. A text that begins with a star is the
first item of what it spreads. -/
def ofText? (text : String) : Option Expression :=
  let text := if text.startsWith "*" then "(" ++ text ++ ",)[0]" else text
  (Grammar.expression? text).filter standsAlone

end Criteria.Expression
