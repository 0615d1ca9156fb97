import Criteria.Model.Grammar.Expressions
import Criteria.Model.Grammar.Reader
import Criteria.Model.Grammar.Statements

set_option autoImplicit false

namespace Criteria.Grammar

def ways (r : Rule) : List Way := expressionWays r ++ parameterWays r ++ statementWays r

def keeps (r : Rule) : Bool := keptExpressions.contains r || keptStatements.contains r

/-- Reads a text whose first line has this number, with at most `depth` quotations inside one
another. All flaws that the reader tells begin with `lead`. -/
def readText : Nat → String → Rule → Nat → String → Except Flaw Part
  | 0, _, _, line, _ => .error { reason := "invalid syntax", line }
  | depth + 1, lead, r, line, text =>
    let inside (first lines : Nat) (cs : List Char) : Except QuotationFlaw Expression :=
      let text := String.ofList ('(' :: cs ++ [')'])
      match readText depth "f-string: " .inserted (first + lines) text with
      | .ok p => .ok (p.expression?.getD (.row []))
      | .error f => .error (.inside f)
    let tokens := Token.ofText line (r != .single) text
    Source.read ⟨ways, keeps, inside, lead, tokens, false⟩ r

def definitions (text : String) : Except Flaw (List Definition) := do
  let p ← readText (text.length + 1) "" .file 1 text
  .ok p.definitions

def expression? (text : String) : Option Expression :=
  match readText (text.length + 1) "" .single 1 text with
  | .ok p => p.expression?
  | .error _ => none

end Criteria.Grammar
