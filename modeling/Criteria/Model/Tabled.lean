import Criteria.Attribute
import Criteria.Model.Hints

/-! The table of its fields that a class keeps. The hints of all classes in its line are evaluated
first, those of the most basic class first. Then each public name is judged by its last hint. A
class has no attributes for the fields in its table.
-/

set_option autoImplicit false

namespace Criteria

namespace Model

open Operation

def aroundTable (m : Model) : Surroundings :=
  .withinTabled m.name (m.line.headD (.builtin .object)) m.attributes

/-- A hint as it is judged for a table. It stays deferred when a name in it is unknown, and what is
wrong with the hint of a hidden name is passed over. -/
def hintInTable (around : Surroundings) (name : String) (hint : Hint) : Operation Hint := do
  try hint.evaluated around
  catch f =>
    match f with
    | .unknownName _ => return hint
    | f => if hiddenName name then return hint else throw f

def hintsInTable (m : Model) : Operation (List (String × Hint)) := do
  match m.attributes.lookup hintsName with
  | some v => if !(← asking fun s => s.holds v) then return []
  | none => pure ()
  let hints ← asking fun s => m.toldHints s
  hints.mapM fun h => do
    match h.1 with
    | .text _ n => return (n, ← hintInTable m.aroundTable n h.2)
    | v => refuse (.noAttribute ((← theStore).longName v) "startswith")

def hintsOfClass (c : ClassRef) : Operation (List (String × Hint)) := do
  match c, (← get).modelOf? c with
  | .builtin b, _ => return b.hinted.map fun n => (n, .ordinary)
  | _, some m => m.hintsInTable
  | _, none => return []

def valuedIn (lineage : List Model) (name : String) : Bool :=
  (lineage.findSome? fun m => m.attributes.lookup name).any fun v => !(v matches .unset)

/-- The fields of a new class with the classes behind it: those of the most basic class first. -/
def fieldsOf (m : Model) (behind : List ClassRef) : Operation (List String) := do
  let inherited ← behind.reverse.mapM hintsOfClass
  let own ← m.hintsInTable
  let names := (putAllNamed [] (inherited.flatten ++ own)).filter fun h => !hiddenName h.1
  let lineage := m :: behind.filterMap (← get).modelOf?
  let found ← asking fun _ => names.filterM fun h => h.2.isField (valuedIn lineage h.1)
  return found.map (·.1)

def tableEntries (entries : List Entry) : List String → Operation (List Entry)
  | [] => return entries
  | n :: names => do
    let v ← Attribute.thing "FieldInfo"
    let key ← fresh (.text none n)
    let entries ← asking fun s => do s.entered (← s.member key) v entries
    tableEntries entries names

def withTable (m : Model) (behind : List ClassRef) : Operation Model := do
  let names ← m.fieldsOf behind
  return { m with
    table? := some (← share (.dict false (← tableEntries [] names)))
    attributes := m.attributes.filter fun a => !names.contains a.1 }

end Model

end Criteria
