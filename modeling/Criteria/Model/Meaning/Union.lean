import Criteria.Model.Meaning.Checked

set_option autoImplicit false

namespace Criteria

namespace Meaning

def unionRule : String := "Union[arg, ...]: each arg must be a type."

def offered : Meaning → List Meaning
  | either items | applied .union items => items
  | m => [m]

/-- One hint or another. They must be told apart, and a single one stands for itself. -/
def union (s : Store) (items : List Meaning) : Except Fault Meaning := do
  let items ← items.mapM (checked s unionRule false)
  let items := items.flatMap offered
  allDistinguishable s items
  match ← distinct s false items with
  | [m] => .ok m
  | items => .ok (applied .union items)

def isClass : Meaning → Bool
  | known _ | generic .. | either _ | applied .starred _ | value (.classOf _) => true
  | form f => f.className?.isSome
  | _ => false

def isFormed : Meaning → Bool
  | form f => f.className?.isNone
  | applied f _ => !(f = .construction || f = .starred)
  | deferred .. => true
  | _ => false

def classesOffered : Meaning → List Meaning
  | either items => items
  | m => [if m.isNothing then known kindOfNothing else m]

def classUnion (s : Store) (a b : Meaning) : Except Fault Meaning := do
  match ← distinct s false (a.classesOffered ++ b.classesOffered) with
  | [m] => .ok m
  | items => .ok (either items)

def barred (s : Store) (a b : Meaning) : Except Fault Meaning :=
  if (a.isClass && (b.isClass || b.isNothing)) || (a.isNothing && b.isClass) then classUnion s a b
  else if a.isFormed || b.isFormed then union s [a, b]
  else .error (.unsupportedOperands "|" (a.kind s) (b.kind s))

def allBarred (s : Store) : List Meaning → Except Fault Meaning
  | [] => .ok (either [])
  | m :: ms => ms.foldlM (barred s) m

end Meaning

end Criteria
