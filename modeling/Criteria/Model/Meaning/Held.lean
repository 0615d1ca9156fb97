import Criteria.Model.Meaning.Checked
import Criteria.Value.Elements

set_option autoImplicit false

namespace Criteria

namespace Meaning

def passedKinds : List String :=
  ["bytes", "bytearray", "dict", "frozenset", "list", "range", "set", "str", "tuple"]

def allOf (s : Store) (m : Meaning) : Except Fault Meaning := do
  .ok (applied .unpacked [← checked s "typing.Unpack accepts only single type." false m])

/-- The items that a pass meets. A form with arguments, and a class with arguments, gives itself
with all its items meant. -/
def items (s : Store) (m : Meaning) : Except Fault (List Meaning) :=
  match m with
  | row items | list items | set _ items | dictionary items _ => .ok items
  | stream _ items fault =>
    match fault with
    | some f => .error f
    | none => .ok items
  | value v =>
    match s.elements v with
    | .ok items => .ok (items.map ofValue)
    | .error f => .error f
  | applied .union _ | applied .annotated _ | applied .callable _ | applied .construction _ =>
    .error (.notIterable (m.kind s))
  | generic .. | applied .starred _ => .ok [applied .starred [m]]
  | applied .. => do .ok [← allOf s m]
  | vague k => if passedKinds.contains k then .ok [unknown] else .error (.notIterable k)
  | unknown => .ok [unknown]
  | m => .error (.notIterable (m.kind s))

def isClosed : Meaning → Bool
  | form f => f.className?.isNone && !f.isParameter && !(f matches .label _)
  | applied .union _ | applied .annotated _ | applied .callable _ => true
  | _ => false

def spreadItems (s : Store) (m : Meaning) : Except Fault (List Meaning) :=
  match m.items s with
  | .error (.notIterable kind) => .error (if m.isClosed then .notIterable kind else .notSpread kind)
  | found => found

/-- Whether a class of streams looks at a collection, which any number of passes can be made over.
-/
def isView (className : String) : Bool := className.startsWith "dict_"

def length (s : Store) (m : Meaning) : Except Fault (Option Nat) :=
  match m with
  | row items | list items | set _ items | dictionary items _ => .ok (some items.length)
  | value v => do .ok (some (← s.length v))
  | stream c items _ => if isView c then .ok (some items.length) else .error (.noLength c)
  | vague k => if passedKinds.contains k then .ok none else .error (.noLength k)
  | unknown => .ok none
  | m => .error (.noLength (m.kind s))

def holds (s : Store) : Meaning → Except Fault Bool
  | value v => s.holds v
  | row items | list items | set _ items | dictionary items _ => .ok !items.isEmpty
  | _ => .ok true

def sequence? (s : Store) : Meaning → Option (String × List Meaning)
  | row items => some ("tuple", items)
  | list items => some ("list", items)
  | value (.tuple _ items) | value (.point _ items) => some ("tuple", items.map ofValue)
  | value v =>
    match s.cellOf? v with
    | some (.list items) => some ("list", items.map ofValue)
    | some (.deque items) => some ("deque", items.map ofValue)
    | some (.byteArray data) => some ("bytearray", (byteValues data).map value)
    | some _ => none
    | none =>
      match v with
      | .text _ t => some ("string", t.toList.map fun c => value (.text none (String.singleton c)))
      | .bytes _ data => some ("byte", (byteValues data).map value)
      | _ => none
  | _ => none

end Meaning

end Criteria
