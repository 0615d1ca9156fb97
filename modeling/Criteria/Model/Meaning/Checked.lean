import Criteria.Model.Meaning.Equality

set_option autoImplicit false

namespace Criteria

namespace Meaning

def ofText (text : String) (wide : Bool) : Except Fault Meaning :=
  if text.isEmpty then .error .emptyExpression
  else if text.toList.contains '\x00' then .error .nullInText
  else match Expression.ofText? text with
    | some _ => .ok (deferred text wide)
    | none => .error (.notExpression (Text.quoted text))

def converted (wide : Bool) : Meaning → Except Fault Meaning
  | value .null => .ok (known kindOfNothing)
  | value (.text _ t) => ofText t wide
  | m => .ok m

/-- Takes a meaning as a hint. Inside a form, nothing may belong to the class. -/
def checked (s : Store) (rule : String) (wide : Bool) (m : Meaning) : Except Fault Meaning := do
  let m ← converted wide m
  match m with
  | applied .generic _ | applied .protocol _ => .error (.notArgument (← m.shown s))
  | applied .classWide _ | applied .final _ =>
    if wide then .ok m else .error (.notArgument (← m.shown s))
  | form f =>
    if f.isSpecial && !(wide && (f = .classWide || f = .final)) then
      .error (.notArgument ("Plain " ++ f.shown))
    else .ok m
  | row _ | value (.tuple ..) => .error (.notType rule (← m.clipped s))
  | m => .ok m

def formRule : String := "Forward references must evaluate to types."

def argumentRule : String := "Parameters to generic types must be types."

end Meaning

end Criteria
