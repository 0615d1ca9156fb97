import Criteria.Model.Meaning.Resolved

set_option autoImplicit false

namespace Criteria

abbrev Hints := List (Value × Hint)

namespace Hints

def ofNames (names : List String) : Hints := names.map fun n => (.text none n, .ordinary)

def ofTable (s : Store) (v : Value) : Except Fault Hints :=
  match s.cellOf? v with
  | some (.dict _ entries) => .ok (entries.map fun e => (e.key.value, .ofValue e.value))
  | _ => .error (.noAttribute (s.longName v) "items")

def entriesOf (s : Store) (entries : List Entry) : Nat → List Value → Except Fault (List Entry)
  | _, [] => .ok entries
  | place, v :: vs => do
    match s.elements? v with
    | none => .error (.notPair place)
    | some [k, w] =>
      let entries ← s.entered (← s.member k) w entries
      entriesOf s entries (place + 1) vs
    | some items => .error (.pairLength place items.length)

/-- The hints of a table, or of pairs that make one. -/
def ofPairs (s : Store) (v : Value) : Except Fault Hints :=
  match s.cellOf? v with
  | some (.dict ..) => ofTable s v
  | _ => do
    let entries ← entriesOf s [] 0 (← s.elements v)
    .ok (entries.map fun e => (e.key.value, .ofValue e.value))

def resolve (around : Surroundings) (hints : Hints) : Operation (List (Value × Bool)) :=
  hints.mapM fun h => do return (h.1, ← h.2.resolve around)

def asWritten (hints : Hints) : List (Value × Bool) := hints.map fun h => (h.1, h.2.asWritten)

def sameName : Value → Value → Bool
  | .text _ a, .text _ b => a == b
  | _, _ => false

/-- A repeated name keeps its place and takes the later entry. -/
def merged (entries : List (Value × Bool)) (e : Value × Bool) : List (Value × Bool) :=
  if entries.any fun d => sameName d.1 e.1 then
    entries.map fun d => if sameName d.1 e.1 then e else d
  else entries ++ [e]

def ofInstances (resolved : List (Value × Bool)) : List Value :=
  (resolved.filter fun h => !h.2).map (·.1)

end Hints

namespace Model

def toldHints (s : Store) (m : Model) : Except Fault Hints :=
  match m.attributes.lookup hintsName with
  | some v => Hints.ofTable s v
  | none => .ok (m.hints.map fun h => (.text none h.1, h.2))

def hintsOf (s : Session) (c : ClassRef) : Except Fault (Hints × List (String × Value)) :=
  match c, s.modelOf? c with
  | .builtin b, _ => .ok (.ofNames b.hinted, [])
  | _, some m => do .ok (← m.toldHints s.store, m.attributes)
  | _, none => .ok ([], [])

end Model

end Criteria
