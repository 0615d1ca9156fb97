import Criteria.Fault
import Criteria.Value

set_option autoImplicit false

namespace Criteria

structure Given where
  places : List Value
  names : List (String × Value) := []

structure Signature where
  callee : String
  receiver : String := "self"
  required : List String := []
  optional : List (String × Value) := []
  takesMore : Bool := false
  byName : List (String × Value) := []

structure Taken where
  values : List (String × Value)
  rest : List Value

namespace Taken

def value (t : Taken) (name : String) : Value := (t.values.lookup name).getD .null

end Taken

namespace Signature

def placed (sig : Signature) : List String := sig.required ++ sig.optional.map (·.1)

def takeNamed (sig : Signature) (taken : List (String × Value)) :
    List (String × Value) → Except Fault (List (String × Value))
  | [] => .ok taken
  | (n, v) :: rest =>
    if (taken.lookup n).isSome || n = sig.receiver then .error (.repeatedArgument sig.callee n)
    else if sig.placed.contains n || (sig.byName.lookup n).isSome then
      takeNamed sig (taken ++ [(n, v)]) rest
    else .error (.unexpectedArgument sig.callee n)

/-- What a callee takes of what it is given. Names are looked at before places are counted, and what
is missing is told last. -/
def take (sig : Signature) (g : Given) : Except Fault Taken := do
  let names := sig.placed
  let rest := g.places.drop names.length
  let taken ← sig.takeNamed (names.zip g.places) g.names
  if !sig.takesMore && !rest.isEmpty then
    .error (.tooManyArguments sig.callee (sig.required.length + 1) (names.length + 1)
      (g.places.length + 1))
  else
    let missing := sig.required.filter fun n => (taken.lookup n).isNone
    if missing.isEmpty then .ok ⟨taken ++ sig.optional ++ sig.byName, rest⟩
    else .error (.missingArguments sig.callee missing)

end Signature

end Criteria
