import Criteria.Model.Meaning.Operator

set_option autoImplicit false

namespace Criteria

namespace Meaning

def stands (s : Store) (op : String) (a b : Meaning) : Except Fault Bool := do
  (← binary s op a b).holds s

def chosen (s : Store) (op : String) (m : Meaning) : List Meaning → Except Fault Meaning
  | [] => .ok m
  | n :: ns => do if ← stands s op n m then chosen s op n ns else chosen s op m ns

/-- Cuts meanings behind those that go up, or down without equal ones. -/
def cutRun (s : Store) (down : Bool) (last : Meaning) (run : List Meaning) :
    List Meaning → Except Fault (List Meaning × List Meaning)
  | [] => .ok (run, [])
  | m :: ms => do
    if (← stands s "<" m last) = down then cutRun s down m (run ++ [m]) ms else .ok (run, m :: ms)

/-- How many of the ordered items, from those before `low` on, stand before a meaning. Each step
leaves half of the places before `high`. -/
def placeAmong (s : Store) (items : List Meaning) (m : Meaning) :
    Nat → Nat → Nat → Except Fault Nat
  | 0, low, _ => .ok low
  | steps + 1, low, high => do
    if high ≤ low then .ok low
    else
      let middle := low + (high - low) / 2
      match items[middle]? with
      | none => .ok low
      | some n =>
        if ← stands s "<" m n then placeAmong s items m steps low middle
        else placeAmong s items m steps (middle + 1) high

def inserted (s : Store) (items : List Meaning) (m : Meaning) : Except Fault (List Meaning) := do
  let place ← placeAmong s items m (items.length + 1) 0 items.length
  .ok (items.take place ++ m :: items.drop place)

def sorted (s : Store) : List Meaning → Except Fault (List Meaning)
  | [] => .ok []
  | [m] => .ok [m]
  | a :: b :: rest => do
    let down ← stands s "<" b a
    let (run, rest) ← cutRun s down b [a, b] rest
    rest.foldlM (inserted s) (if down then run.reverse else run)

end Meaning

end Criteria
