import Criteria.Value.Presence

set_option autoImplicit false

namespace Criteria

def byteValues (data : List UInt8) : List Value := data.map fun b => .int none b.toNat

namespace Cell

def elements? : Cell → Option (List Value)
  | list items | deque items | bag items => some items
  | set _ members => some (members.map Member.value)
  | dict _ entries => some (entries.map fun e => e.key.value)
  | byteArray data => some (byteValues data)
  | stream _ rest => some rest
  | generic _ unpacked => some [unpacked]
  | _ => none

end Cell

/-- A range with more numbers than this is not written out: references to so many take eight
terabytes, which no machine grants. The bound is the machine's. -/
def writtenOutLimit : Nat := Nat.pow 2 40

namespace Store

def elements? (s : Store) : Value → Option (List Value)
  | .text _ t => some (t.toList.map fun c => .text none (String.singleton c))
  | .bytes _ data => some (byteValues data)
  | .range _ first stop step => some ((rangeItems first stop step).map (.int none))
  | .tuple _ items | .point _ items => some items
  | .classOf (.builtin .matchMode) => some (MatchMode.all.map .mode)
  | .query _ t args => some [t, args]
  | .shared h => (s.cell? h).bind Cell.elements?
  | _ => none

def iterable (s : Store) : Value → Bool
  | .range .. => true
  | v => (s.elements? v).isSome

def elements (s : Store) (v : Value) : Except Fault (List Value) := do
  match v with
  | .range _ first stop step =>
    let size ← countedLength (rangeSize first stop step)
    if writtenOutLimit < size then .error .noMemory
    else .ok ((rangeItems first stop step).map (.int none))
  | v =>
    match s.elements? v with
    | some items => .ok items
    | none => .error (.notIterable (s.longName v))

/-- The elements as far as they matter to a pass that stops at a whole number. -/
def candidates (s : Store) (v : Value) : Except Fault (List Value) :=
  match v with
  | .range _ first stop step =>
    .ok (if rangeSize first stop step = 0 then [] else [.int none first])
  | v => s.elements v

/-- The store after a pass over the first `count` elements of a value. Only a single pass shows
that it took place. -/
def passed (s : Store) (v : Value) (count : Nat) : Store :=
  match v with
  | .shared h =>
    match s.cell? h with
    | some (.stream generated rest) => s.put h (.stream generated (rest.drop count))
    | _ => s
  | _ => s

def listable (s : Store) (v : Value) : Bool :=
  match v with
  | .text _ _ | .bytes _ _ => false
  | .shared h =>
    match s.cell? h with
    | some (.dict _ _) | some (.byteArray _) => false
    | some c => c.collectionSize?.isSome
    | none => false
  | v => (s.collectionSize? v).isSome

/-- The elements of the collections that are bound as a fresh list: tuples and sets. -/
def copied? (s : Store) : Value → Option (List Value)
  | .tuple _ items | .point _ items => some items
  | .shared h =>
    match s.cell? h with
    | some (.set _ members) => some (members.map Member.value)
    | _ => none
  | _ => none

end Store

end Criteria
