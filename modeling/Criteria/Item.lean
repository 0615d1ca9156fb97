import Criteria.Attribute

/-! Elements of values by key, and walks that take attributes and elements in turn. A position
counts from the end when it is negative. A field takes any key that its path can take.
-/

set_option autoImplicit false

namespace Criteria

namespace Item

open Operation

def position? : Value → Option Int
  | .int _ n => some n
  | .truth b => some (if b then 1 else 0)
  | _ => none

def place? (size : Nat) (n : Int) : Option Nat :=
  if n < 0 then
    if n.natAbs ≤ size then some (size - n.natAbs) else none
  else if n.toNat < size then some n.toNat
  else none

def fits (n : Int) : Bool := -(lengthLimit + 1 : Int) ≤ n && n ≤ lengthLimit

def ofRow (items : List Value) (badKey outside : Fault) (key : Value) : Operation Value :=
  match position? key with
  | none => refuse badKey
  | some n =>
    if fits n then
      match (place? items.length n).bind fun i => items[i]? with
      | some v => return v
      | none => refuse outside
    else refuse .indexOverflow

/-- The numbers of a range are worked out, so any position will do. -/
def ofRange (first stop step : Int) (badKey : Fault) (key : Value) : Operation Value :=
  match position? key with
  | none => refuse badKey
  | some n =>
    match place? (rangeSize first stop step) n with
    | some i => fresh (.int none (rangeAt first step i))
    | none => refuse (.outOfRange "range object")

def ofEntries (entries : List Entry) (key : Value) : Operation Value := do
  let m ← asking fun s => s.member key
  match ← asking fun s => s.entry? m entries with
  | some v => return v
  | none => refuse (.missingKey (← shown key))

def modeNamed (key : Value) : Operation MatchMode := do
  let _ ← asking fun s => s.fingerprint key
  match key with
  | .text _ t =>
    match MatchMode.ofName? t with
    | some m => return m
    | none => refuse (.noModeNamed (Text.quoted t))
  | v => refuse (.noModeNamed (← shown v))

/-- A class with parameters. What it unpacks to unpacks to itself. -/
def generic (className unpackedName : String) : Operation Value := do
  let own : Value := .shared ⟨(← theStore).size⟩
  let unpacked ← share (.generic unpackedName own)
  share (.generic className unpacked)

def ofClass (c : ClassRef) (key : Value) : Operation Value := do
  if c = .builtin .matchMode then return .mode (← modeNamed key)
  else if c = .builtin .dictionary then generic "GenericAlias" "GenericAlias"
  else if c = .builtin .field then generic "_GenericAlias" "_UnpackGenericAlias"
  else refuse (.classNotIndexed c.name)

def ofCell (v : Value) (c : Cell) (key : Value) : Operation Value := do
  let kind := (← theStore).longName key
  match c with
  | .field path => Field.item path key
  | .list items => ofRow items (.sequenceIndexKind "list" kind) (.outOfRange "list") key
  | .deque items => ofRow items (.dequeIndexKind kind) (.outOfRange "deque") key
  | .byteArray data =>
    ofRow (byteValues data) (.sequenceIndexKind "bytearray" kind) (.outOfRange "bytearray") key
  | .dict _ entries => ofEntries entries key
  | _ => refuse (.notIndexed ((← theStore).longName v))

def read (v key : Value) : Operation Value := do
  let s ← theStore
  let kind := s.longName key
  match v, s.cellOf? v with
  | v, some c => ofCell v c key
  | .tuple _ items, _ | .point _ items, _ =>
    ofRow items (.sequenceIndexKind "tuple" kind) (.outOfRange "tuple") key
  | .text .., _ => do
    fresh (← ofRow ((s.elements? v).getD []) (.textIndexKind kind) (.outOfRange "string") key)
  | .bytes _ data, _ => ofRow (byteValues data) (.sequenceIndexKind "byte" kind) .byteOutOfRange key
  | .range _ first stop step, _ => ofRange first stop step (.sequenceIndexKind "range" kind) key
  | .classOf c, _ => ofClass c key
  | v, _ => refuse (.notIndexed (s.longName v))

end Item

/-- One step of a walk from value to value. -/
inductive Step where
  | member (name : String)
  | item (key : Value)

def Step.take (v : Value) : Step → Operation Value
  | member name => Attribute.read v name
  | item key => Item.read v key

end Criteria
