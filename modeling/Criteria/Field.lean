import Criteria.Session

set_option autoImplicit false

namespace Criteria

namespace Store

/-- The path that a reference to a field stands for. A text stands for itself. -/
def fieldPath (s : Store) (v : Value) : Except Fault Value :=
  match s.field? v, v with
  | some (some path), _ => .ok path
  | some none, _ => .error (.noAttribute "Field" "_path")
  | none, .text m t => .ok (.text m t)
  | none, v => .error (.fieldKind (s.shortName v))

def isReference (s : Store) (v : Value) : Bool :=
  match v with
  | .text .. => true
  | v => (s.field? v).isSome

end Store

def hiddenName (name : String) : Bool := name.toList.head? == some '_'

namespace Field

open Operation

def make (path : Value) : Operation Value :=
  match path with
  | .text _ p => do
    if Text.blank p then refuse .blankPath
    else
      note .debug .fields s!"Creating Field instance for path: '{p}'"
      share (.field (some path))
  | _ => refuse .blankPath

def present (path : Option Value) : Operation Value :=
  match path with
  | some p => return p
  | none => refuse (.noAttribute "Field" "_path")

def nested (path : Option Value) (name : String) : Operation Value := do
  if hiddenName name then refuse (.noAttribute "Field" name)
  else
    let start ← plain (← present path)
    let new := start ++ "." ++ name
    note .debug .fields s!"Accessing nested field: '{name}' -> new Field path '{new}'"
    make (← composed new)

/-- The field of an element: a number that is not negative, or a text. -/
def item (path : Option Value) (key : Value) : Operation Value :=
  match key with
  | .int _ n => do
    if n < 0 then refuse .negativeKey
    else
      let start ← plain (← present path)
      let new := start ++ "." ++ (← asking fun _ => Whole.written n)
      note .debug .fields s!"Accessing indexed field: key={n} -> '{new}'"
      make (← composed new)
  | .text _ k => do
    let start ← plain (← present path)
    let new := start ++ "." ++ k
    note .debug .fields s!"Accessing field with string key: '{k}' -> '{new}'"
    make (← composed new)
  | key => do refuse (.keyKind ((← theStore).shortName key))

end Field

def qualifierLead (qualifier : Value) : Operation String := do
  if ← Operation.asking fun s => s.holds qualifier then
    let q ← Operation.plain qualifier
    return q ++ "."
  else return ""

namespace FieldsProxy

open Operation

def make (qualifier : Value) : Operation Value := do
  let l ← qualifierLead qualifier
  share (.proxy (some (← composed l)))

def nested (lead : Option Value) (name : String) : Operation Value := do
  if hiddenName name then refuse (.hiddenAttribute name)
  else
    note .debug .fields s!"GenericFieldsProxy: Creating Field for attribute '{name}'"
    match lead with
    | none => refuse (.hiddenAttribute "_prefix")
    | some l => do
      let start ← plain l
      Field.make (← composed (start ++ name))

end FieldsProxy

end Criteria
