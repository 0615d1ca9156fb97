import Criteria.Fault
import Criteria.Number.Binary64
import Criteria.Text.Blank
import Criteria.Value.ClassName

set_option autoImplicit false

namespace Criteria

namespace Cell

def collectionSize? : Cell → Option Nat
  | list items | deque items | bag items => some items.length
  | set _ members => some members.length
  | dict _ entries => some entries.length
  | byteArray data => some data.length
  | _ => none

end Cell

def Value.number? : Value → Option Number
  | truth b => some (.ofInt (if b then 1 else 0))
  | int _ n => some (.ofInt n)
  | float _ w => (Binary64.ofWritten? w).bind fun x => x.map Binary64.number
  | decimal _ w => (Decimal.ofWritten? w).bind Decimal.number?
  | _ => none

/-- The largest length that is told. -/
def lengthLimit : Nat := Nat.pow 2 63 - 1

def countedLength (n : Nat) : Except Fault Nat :=
  if n ≤ lengthLimit then .ok n else .error .countOverflow

def toldLength : Int → Except Fault Nat
  | .ofNat n => if n ≤ lengthLimit then .ok n else .error .lengthOverflow
  | .negSucc _ => .error .negativeLength

namespace Store

def collectionSize? (s : Store) : Value → Option Nat
  | .text _ t => some t.length
  | .bytes _ data => some data.length
  | .range _ first stop step => some (rangeSize first stop step)
  | .tuple _ items | .point _ items => some items.length
  | .classOf (.builtin .matchMode) => some MatchMode.all.length
  | .shared h => (s.cell? h).bind Cell.collectionSize?
  | _ => none

def present (s : Store) : Value → Except Fault Bool
  | .null => .ok false
  | .unset => .ok false
  | .text _ t => .ok (!Text.blank t)
  | v =>
    match s.collectionSize? v with
    | none => .ok true
    | some n => do .ok ((← countedLength n) != 0)

def length (s : Store) (v : Value) : Except Fault Nat :=
  match s.cellOf? v, s.collectionSize? v with
  | some (.sized n), _ => toldLength n
  | some (.builder b), _ => .ok b.size
  | _, some n => countedLength n
  | _, none => .error (.noLength (s.longName v))

/-- Whether the value stands for true where a condition is asked for. Null, zero and what has
length zero do not. -/
def holds (s : Store) (v : Value) : Except Fault Bool :=
  match v with
  | .null => .ok false
  | .range _ first stop step => .ok (rangeSize first stop step != 0)
  | v =>
    match v.number?, s.length v with
    | some n, _ => .ok (!n.isZero)
    | none, .ok n => .ok (n != 0)
    | none, .error (.noLength _) => .ok true
    | none, .error f => .error f

@[simp] theorem present_null (s : Store) : s.present .null = .ok false := rfl

@[simp] theorem present_unset (s : Store) : s.present .unset = .ok false := rfl

@[simp] theorem present_text (s : Store) (m : Mark) (t : String) :
    s.present (.text m t) = .ok (!Text.blank t) := rfl

end Store

end Criteria
