import Criteria.Builder.Perform
import Criteria.Item
import Criteria.Signature

set_option autoImplicit false

namespace Criteria

/-- What callers do to a collection in place. -/
inductive Change where
  | append
  | add
  | clear
  deriving DecidableEq, Repr

namespace Change

def all : List Change := [append, add, clear]

def name : Change → String
  | append => "append"
  | add => "add"
  | clear => "clear"

def ofName? (s : String) : Option Change := all.find? fun c => c.name = s

def applies : Change → Cell → Bool
  | append, .list _ | append, .deque _ | append, .byteArray _ => true
  | add, .set false _ => true
  | clear, .list _ | clear, .deque _ | clear, .byteArray _ | clear, .set false _
  | clear, .dict _ _ => true
  | _, _ => false

def arity : Change → Nat
  | append | add => 1
  | clear => 0

end Change

namespace Collection

open Operation

def set (fixed : Bool) (items : List Value) : Operation Value := do
  let items ← asking fun s => s.distinct items
  share (.set fixed (← asking fun s => s.members items))

def enter (entries : List Entry) (key v : Value) : Operation (List Entry) :=
  asking fun s => do s.entered (← s.member key) v entries

def range (first stop step : Int) : Operation Value :=
  if step = 0 then refuse .zeroStep else return .range (← mark) first stop step

def point (items : List Value) : Operation Value := do
  let sig : Signature := { callee := "Point.__new__", receiver := "_cls", required := ["x", "y"] }
  let t ← asking fun _ => sig.take { places := items }
  return .point (← mark) [t.value "x", t.value "y"]

def byteOf (s : Store) (v : Value) : Except Fault UInt8 :=
  match Item.position? v with
  | none => .error (.notInteger (s.longName v))
  | some n => if 0 ≤ n && n < 256 then .ok (UInt8.ofNat n.toNat) else .error .byteRange

/-- The collection with one more element. A set takes an element once. -/
def extended (s : Store) (item : Value) : Cell → Except Fault Cell
  | .list items => .ok (.list (items ++ [item]))
  | .deque items => .ok (.deque (items ++ [item]))
  | .byteArray data => do .ok (.byteArray (data ++ [← byteOf s item]))
  | .set fixed members => do
    let m ← s.member item
    if ← s.holdsMember m members then .ok (.set fixed members)
    else .ok (.set fixed (members ++ [m]))
  | c => .ok c

def emptied : Cell → Cell
  | .list _ => .list []
  | .deque _ => .deque []
  | .set fixed _ => .set fixed []
  | .dict ordered _ => .dict ordered []
  | .byteArray _ => .byteArray []
  | c => c

def changeNamed (v : Value) (name : String) : Operation Change := do
  let c? := (← theStore).cellOf? v
  match (Change.ofName? name).filter fun change => c?.any change.applies with
  | some change => return change
  | none => do
    let w ← Attribute.read v name
    refuse (.notCallable ((← theStore).longName w))

def apply (v : Value) (change : Change) (args : List Value) : Operation Unit := do
  let s ← theStore
  let callee := s.shortName v ++ "." ++ change.name
  match v, s.cellOf? v, args with
  | .shared h, some c, [] =>
    if change.arity = 0 then put h (emptied c) else refuse (.oneArgument callee 0)
  | .shared h, some c, [item] =>
    if change.arity = 1 then put h (← asking fun s => extended s item c)
    else refuse (.noArguments callee 1)
  | _, _, args =>
    if change.arity = 1 then refuse (.oneArgument callee args.length)
    else refuse (.noArguments callee args.length)

/-- The value that a collection is bound as. -/
def normalized (v : Value) : Operation Value := do
  Builder.bindValue (Request.binding (← theStore) v)

def kept (s : Store) (v : Value) : Bool := (s.copied? v).isNone

end Collection

end Criteria
