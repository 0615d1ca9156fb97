import Criteria.Session

set_option autoImplicit false

namespace Criteria

namespace Model

inductive Slot where
  | name
  | fullName
  | hints
  | lasting
  | bases
  | kind
  | members
  | fixed
  deriving DecidableEq, Repr

namespace Slot

open Operation

def named : List (String × Slot) :=
  [("__name__", name), ("__qualname__", fullName), (hintsName, hints), ("__doc__", lasting),
   ("__module__", lasting), ("__bases__", bases), ("__class__", kind), ("__dict__", members),
   ("__text_signature__", members), ("__mro__", fixed), ("__base__", fixed), ("__flags__", fixed),
   ("__basicsize__", fixed), ("__itemsize__", fixed), ("__dictoffset__", fixed),
   ("__weakrefoffset__", fixed)]

def ofName? (n : String) : Option Slot := named.lookup n

/-- A table of hints counts from the first time that it is asked for. -/
def read? (index : Nat) (m : Model) : Slot → Operation (Option Value)
  | name => return some (.text none m.name)
  | fullName => return some (.text none m.fullName)
  | hints =>
    if (m.attributes.lookup hintsName).isNone && m.hints.isEmpty then do
      let v ← share (.dict false [])
      modify fun s => s.putModel index { m with attributes := putNamed hintsName v m.attributes }
      return some v
    else return m.attributes.lookup hintsName
  | _ => return none

def assign (index : Nat) (m : Model) (slot : Slot) (member : String) (value : Value) :
    Operation Unit := do
  let given := (← theStore).longName value
  let change := fun (m : Model) => modify fun s => s.putModel index m
  match slot, value with
  | name, .text _ t => if t.contains '\x00' then refuse .nullInName else change { m with name := t }
  | fullName, .text _ t => change { m with fullName := t }
  | name, _ | fullName, _ => refuse (.notClassText m.name member given)
  | hints, v | lasting, v => change { m with attributes := putNamed member v m.attributes }
  | bases, _ => refuse (.basesKind m.name given)
  | kind, _ => refuse (.classOfClass given)
  | members, _ => refuse (.partOf "type" member)
  | fixed, _ => refuse .boundOfRange

def erase (index : Nat) (m : Model) (slot : Slot) (member : String) : Operation Unit :=
  match slot with
  | hints =>
    if (m.attributes.lookup hintsName).isNone && m.hints.isEmpty then refuse (.emptySlot member)
    else modify fun s => s.putModel index
      { m with hints := [], attributes := m.attributes.filter fun a => a.1 != hintsName }
  | kind => refuse .classOfClassStays
  | members => refuse (.partOf "type" member)
  | fixed => refuse .boundOfRange
  | _ => refuse (.keptInClass m.name member)

end Slot

end Model

end Criteria
