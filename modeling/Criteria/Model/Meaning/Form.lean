import Criteria.Model.Meaning.Union

set_option autoImplicit false

namespace Criteria

namespace Meaning

def literal (s : Store) (items : List Meaning) : Except Fault Meaning := do
  let items := items.flatMap fun m => match m with
    | applied .literal others => others
    | m => [m]
  match allDistinguishable s items with
  | .ok () => .ok (applied .literal (← distinct s true items))
  | .error f => if f.kind = .typeMismatch then .ok (applied .literal items) else .error f

def placelessKinds : List String := Operations.words
  ("NoneType NotImplementedType bool bytearray bytes classmethod collections.OrderedDict " ++
    "collections.defaultdict collections.deque complex datetime.date datetime.datetime " ++
    "datetime.time dict ellipsis enumerate filter float frozenset generator int list map " ++
    "memoryview method-wrapper method_descriptor object property range reversed set slice " ++
    "staticmethod str super tuple wrapper_descriptor zip")

def placeless? (s : Store) (m : Meaning) : Option Fault :=
  let kind := m.kind s
  match m with
  | forms => some (.notInModule Surroundings.placeName)
  | form _ | applied .. | known _ | generic .. | unknown => none
  | m =>
    if placelessKinds.contains kind || (m matches stream ..) then
      some (.noAttribute kind Surroundings.placeName)
    else none

def annotated (s : Store) (m : Meaning) (remarks : List Meaning) : Except Fault Meaning :=
  match m with
  | applied .annotated items => .ok (applied .annotated (items ++ remarks))
  | m =>
    match placeless? s m with
    | some f => .error f
    | none => .ok (applied .annotated (m :: remarks))

/-- Hints before others that are not told. They go on with those of the last one. -/
def concatenated (s : Store) (items : List Meaning) : Meaning :=
  match items.getLast?, items.getLast?.bind fun m => m.rowItems?.or (m.listItems? s) with
  | some (applied .concatenated others), _ => applied .concatenated (items.dropLast ++ others)
  | _, some others => row (items.dropLast ++ others)
  | _, none => applied .concatenated items

def reapplied (s : Store) (f : HintForm) (items : List Meaning) : Except Fault Meaning :=
  match f, items with
  | .union, items => union s items
  | .annotated, m :: remarks => annotated s m remarks
  | .concatenated, items => .ok (concatenated s items)
  | f, items => .ok (applied f items)

def arguments (key : Meaning) : List Meaning := key.rowItems?.getD [key]

/-- A look-up by arguments fails as their fingerprints do, unless they only lack one. -/
def lookedUp (s : Store) (key : Meaning) : Except Fault Unit :=
  match allDistinguishable s key.arguments with
  | .error f => if f.kind = .typeMismatch then .ok () else .error f
  | .ok () => .ok ()

def counted (shown : String) (expected : Nat) (items : List Meaning) : Except Fault Unit :=
  if expected = 0 then .error (.notGeneric shown)
  else if items.length = expected then .ok ()
  else .error (.argumentCount shown items.length expected)

def single (s : Store) (f : HintForm) (rule : String) (key : Meaning) : Except Fault Meaning := do
  .ok (applied f [← checked s rule false key])

def singleRule (f : HintForm) : String :=
  match f with
  | .remark "TypeGuard" | .classWide | .final | .unpacked => f.shown ++ " accepts only single type."
  | f => f.shortName ++ " accepts only a single type."

/-- A row of hints. One that ends with what is left out repeats them. -/
def rowOf (s : Store) (items : List Meaning) : Except Fault Meaning := do
  match items.length, items.getLast? with
  | _ + 2, some ellipsis =>
    let items ← items.dropLast.mapM (checked s "Tuple[t, ...]: t must be a type." false)
    .ok (applied .row (items ++ [ellipsis]))
  | _, _ =>
    let items ← items.mapM (checked s "Tuple[t0, t1, ...]: each t must be a type." false)
    .ok (applied .row items)

def callsOf (s : Store) (key : Meaning) : Except Fault Meaning := do
  match key.rowItems? with
  | some [taken, given] =>
    let items := ((taken.listItems? s).or taken.rowItems?).getD [taken]
    let given ← checked s "Callable[args, result]: result must be a type." false given
    let items ← items.mapM (converted false)
    .ok (applied .callable (items ++ [given]))
  | _ => .error .callsRule

def openEnded (s : Store) (items : List Meaning) : Except Fault Meaning := do
  match items.getLast? with
  | none => .error (.noArgumentTypes "Concatenate")
  | some last =>
    if last matches ellipsis | form (.specification _) then do
      let rule := "Concatenate[arg, ...]: each arg must be a type."
      let items ← items.dropLast.mapM (checked s rule false)
      .ok (applied .concatenated (items ++ [last]))
    else .error .openEnd

def parametersOf (s : Store) (f : HintForm) (items : List Meaning) : Except Fault Meaning := do
  let items ← items.mapM (converted false)
  if items.isEmpty then .error (.noParameters f.shortName)
  else if !items.all (fun m => m matches form (.parameter ..) | form (.specification _)) then
    .error (.foreignParameters f.shortName)
  else if (← distinct s false items).length < items.length then
    .error (.repeatedParameters f.shortName)
  else .ok (applied f items)

def shapedOf (fullName : String) (count : Nat) (items : List Meaning) : Except Fault Meaning := do
  let items ← items.mapM (converted false)
  counted ("<class '" ++ fullName ++ "'>") count items
  .ok (applied (.shaped fullName) items)

def applyForm (s : Store) (f : HintForm) (key : Meaning) : Except Fault Meaning := do
  lookedUp s key
  let items := key.arguments
  match f with
  | .any => .error (.classNotIndexed "Any")
  | .parameter .. | .specification _ | .label _ | .starred => .error (.notIndexed f.kind)
  | .construction => .ok (applied f [key])
  | .classWide | .final | .unpacked | .remark _ => single s f (singleRule f) key
  | .optional => do
    let m ← checked s (f.shown ++ " requires a single type.") false key
    union s [m, known kindOfNothing]
  | .union => if items.isEmpty then .error (.noArgumentTypes "Union") else union s items
  | .literal => literal s items
  | .concatenated => openEnded s items
  | .lone _ => .error (.notIndexedForm f.shown)
  | .generic | .protocol => parametersOf s f items
  | .callable => callsOf s key
  | .row => rowOf s items
  | .standing n => do
    let items ← items.mapM (checked s argumentRule false)
    counted f.shown (((Standing.ofName? n).map (·.count)).getD 0) items
    .ok (applied f items)
  | .shaped n => shapedOf n (((HintForm.shapes.lookup n).map (·.1)).getD 0) items
  | .annotated =>
    match items with
    | m :: n :: remarks => do
      annotated s (← checked s "Annotated[t, ...]: t must be a type." true m) (n :: remarks)
    | _ => .error (.argumentsMissing "Annotated[...]"
        "at least two arguments (a type and an annotation)")

end Meaning

end Criteria
