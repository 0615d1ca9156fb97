import Criteria.Builder.Perform
import Criteria.FieldSet

/-! New builders. A plan says what a builder is made from, and making it checks the first number,
then finds the fields, then takes the condition and the arguments that stand first.
-/

set_option autoImplicit false

namespace Criteria

/-- What a builder is made from. -/
structure Plan where
  base : Value
  condition : Value := .null
  start : Value := .int none 1
  reserved : Value := .null
  model : Value := .null
  qualifier : Value := .text none ""

namespace Plan

def of (base start : Value) (reserved : List Value) (model qualifier : Value) : Plan :=
  { base, start, reserved := .tuple none reserved, model, qualifier }

def withCondition (base condition start : Value) (reserved : List Value)
    (model qualifier : Value) : Plan :=
  { of base start reserved model qualifier with condition }

open Operation

def startIndex (s : Store) (v : Value) : Except Fault Nat :=
  match v with
  | .int _ (.ofNat n) => .ok n
  | .int _ n => do
    let _ ← Whole.written n
    .error (.startNegative n)
  | v => .error (.startKind (s.shortName v))

def offeredFields (p : Plan) : Operation Value :=
  match p.model with
  | .null => FieldsProxy.make p.qualifier
  | model => FieldSet.forClass model p.qualifier

def conditions (p : Plan) : List String :=
  match p.condition with
  | .text _ c => if Text.blank c then [] else [c]
  | _ => []

/-- Text and bytes are no lists of arguments, though they have elements. -/
def reservable (s : Store) (v : Value) : Bool :=
  match v, s.cellOf? v with
  | .text _ _, _ | .bytes _ _, _ | _, some (.byteArray _) => false
  | v, _ => s.iterable v

def reservedArgs (p : Plan) : Operation (List Value) := do
  match p.reserved with
  | .null => return []
  | v =>
    let s ← theStore
    if reservable s v then drain v else refuse (.reservedKind (s.shortName v))

def noteCondition (condition : String) : Operation Unit :=
  note .debug .builder s!"Registered static condition: '{condition}'"

def make (p : Plan) : Operation Value := do
  let index ← asking fun s => startIndex s p.start
  let fields ← p.offeredFields
  let conditions := p.conditions
  conditions.forM noteCondition
  let reserved ← p.reservedArgs
  let base ← plain p.base
  let start ← asking fun _ => Whole.written index
  note .info .builder
    (s!"Initializing ConditionBuilder for '{base}' " ++
      s!"(start_index={start}, reserved_args={reserved.length})")
  share (.builder { base := p.base, index, model := some p.model, fields := some fields
                    conditions, reserved, met := some (index, p.start.mark) })

end Plan

end Criteria
