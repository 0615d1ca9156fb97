import Criteria.Clause
import Criteria.Value

set_option autoImplicit false

namespace Criteria

structure Builder where
  base : Value
  index : Nat
  model : Option Value
  fields : Option Value
  conditions : List String := []
  reserved : List Value := []
  bound : List Value := []
  order : Option Value := none
  /-- The number that callers have met last, with its mark. -/
  met : Option (Nat × Mark) := none

namespace Builder

def args (b : Builder) : List Value := b.reserved ++ b.bound

def add (b : Builder) (c : Clause) (values : List Value) : Builder :=
  { b with
    index := b.index + c.arity
    conditions := b.conditions ++ [c.render b.index]
    bound := b.bound ++ values }

def orderBy (b : Builder) (clause : Option Value) : Builder := { b with order := clause }

/-- The numbers of a clause that was given up are not used again. -/
def spend (b : Builder) (numbers : Nat) : Builder := { b with index := b.index + numbers }

def size (b : Builder) : Nat := b.conditions.length

def whereText (b : Builder) : String :=
  if b.conditions.isEmpty then "" else Text.whereWord ++ Text.andWord.intercalate b.conditions

@[simp] theorem index_add (b : Builder) (c : Clause) (vs : List Value) :
    (b.add c vs).index = b.index + c.arity := rfl

@[simp] theorem conditions_add (b : Builder) (c : Clause) (vs : List Value) :
    (b.add c vs).conditions = b.conditions ++ [c.render b.index] := rfl

@[simp] theorem args_add (b : Builder) (c : Clause) (vs : List Value) :
    (b.add c vs).args = b.args ++ vs := by simp [args, add]

@[simp] theorem args_orderBy (b : Builder) (o : Option Value) : (b.orderBy o).args = b.args := rfl

end Builder

end Criteria
