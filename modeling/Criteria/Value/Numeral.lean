import Criteria.Session

set_option autoImplicit false

namespace Criteria.Numeral

open Operation

def binary (written : String) : Operation Value := do
  match Binary64.ofWritten? written with
  | some (some x) => return .float (← mark) x.written
  | some none => share (.undefined .binary "nan")
  | none => refuse (.binarySyntax (Text.quoted written))

/-- The powers of ten that a decimal number may reach. -/
def decimalLimit : Int := 999999999999999999

def holdable (s : Scientific) : Bool :=
  s.leading ≤ decimalLimit && -(2 * decimalLimit) < s.exponent

def decimal (written : String) : Operation Value := do
  match Decimal.ofWritten? written with
  | some (.undefined negative signals payload) =>
    share (.undefined (if signals then .signaling else .decimal)
      (Decimal.undefined negative signals payload).written)
  | some (.finite s) =>
    if s.digits != 0 && !holdable s then refuse .decimalLimit
    else return .decimal (← mark) (Decimal.finite s).written
  | some d => return .decimal (← mark) d.written
  | none => refuse .decimalSyntax

end Criteria.Numeral
