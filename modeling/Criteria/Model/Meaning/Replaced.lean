import Criteria.Model.Meaning.Form

set_option autoImplicit false

namespace Criteria

namespace Meaning

mutual

def parameters : Meaning → List HintForm
  | form f => if f.isParameter then [f] else []
  | row items | generic _ items | either items => allParameters items
  | applied .construction _ => []
  | applied .annotated (m :: _) => parameters m
  | applied _ items => allParameters items
  | _ => []

def allParameters : List Meaning → List HintForm
  | [] => []
  | m :: ms =>
    let found := parameters m
    found ++ (allParameters ms).filter fun f => !found.contains f

end

def isSpread : Meaning → Bool
  | applied .unpacked _ | applied .starred _ => true
  | _ => false

def standIn (s : Store) (f : HintForm) (m : Meaning) : Except Fault Meaning := do
  match f, (m.listItems? s).or m.rowItems? with
  | .specification _, some items => do
    .ok (row (← items.mapM (checked s "Expected a type." false)))
  | .specification _, none =>
    if m.tellsRow s then .ok m else .error (.notRowOfTypes (← m.shown s))
  | _, _ => do
    let m ← checked s argumentRule false m
    if m.isSpread then .error (.notArgument (← m.shown s)) else .ok m

/-- What calls take in place of one parameter are the items of a row. -/
def spliced (f : HintForm) (m : Meaning) : List Meaning :=
  match f, m with
  | .callable, row items => items
  | _, m => [m]

mutual

def replaced (s : Store) (given : List (HintForm × Meaning)) : Meaning → Except Fault Meaning
  | form f =>
    match given.lookup f with
    | some m => standIn s f m
    | none => .ok (form f)
  | row items => do .ok (row (← allReplaced s given .row items))
  | applied .construction items => .ok (applied .construction items)
  | applied .annotated (m :: remarks) => do annotated s (← replaced s given m) remarks
  | applied f items => do
    if (allParameters items).isEmpty then .ok (applied f items)
    else reapplied s f (← allReplaced s given f items)
  | generic c items => do .ok (generic c (← allReplaced s given .row items))
  | either items => do allBarred s (← allReplaced s given .row items)
  | m => .ok m

def allReplaced (s : Store) (given : List (HintForm × Meaning)) (f : HintForm) :
    List Meaning → Except Fault (List Meaning)
  | [] => .ok []
  | m :: ms => do
    let n ← replaced s given m
    let ns ← allReplaced s given f ms
    .ok (spliced f n ++ ns)

end

/-- All that the arguments in brackets hold. One that goes on without end stands for itself. -/
def laidOut (m : Meaning) : List Meaning :=
  let items? := match m with
    | applied .unpacked [applied .row items] => some items
    | applied .starred [generic "tuple" items] => some items
    | _ => none
  match items? with
  | some items => if items.getLast? matches some ellipsis then [m] else items
  | none => [m]

def prepared (s : Store) (shown : String) (parameters : List HintForm) (items : List Meaning) :
    Except Fault (List Meaning) := do
  match parameters.findIdx? (fun f => f matches .specification _) with
  | none => .ok items
  | some i =>
    match items[i]? with
    | none => .error (.fewArguments shown)
    | some m =>
      if parameters.length = 1 && !m.tellsRow s then .ok [row items]
      else match m.listItems? s with
        | some inner => .ok (items.set i (row inner))
        | none => .ok items

def reindexed (s : Store) (m key : Meaning) : Except Fault Meaning := do
  match m with
  | applied .generic _ | applied .protocol _ => .error (.indexedTwice (← m.shown s))
  | applied .construction _ => .error (.notIndexed HintForm.construction.appliedKind)
  | m => do
    lookedUp s key
    let parameters := m.parameters
    let shown ← m.shown s
    if parameters.isEmpty then .error (.notGeneric shown)
    else
      let items ← if m matches applied .. then key.arguments.mapM (converted false)
        else .ok key.arguments
      let items ← prepared s shown parameters (items.flatMap laidOut)
      counted shown parameters.length items
      replaced s (parameters.zip items) m

end Meaning

end Criteria
