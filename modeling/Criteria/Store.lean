import Criteria.Builder.State
import Criteria.Fingerprint

/-! Cells that values share. A store only grows, so a handle stays good once it is given.
-/

set_option autoImplicit false

namespace Criteria

/-- An element of a set, with the fingerprint that it had when it entered. -/
structure Member where
  value : Value
  print : Fingerprint
  deriving Repr

structure Entry where
  key : Member
  value : Value
  deriving Repr

inductive Undefined where
  | binary
  | decimal
  /-- Every comparison with a number is refused. -/
  | signaling
  deriving DecidableEq, Repr

inductive Cell where
  | list (items : List Value)
  | deque (items : List Value)
  | set (fixed : Bool) (members : List Member)
  | dict (ordered : Bool) (entries : List Entry)
  | byteArray (data : List UInt8)
  /-- A collection of a caller's own class. -/
  | bag (items : List Value)
  | sized (length : Int)
  | thing (className : String)
  /-- A class with parameters, and what a pass over it gives. -/
  | generic (className : String) (unpacked : Value)
  | stream (generated : Bool) (rest : List Value)
  | undefined (kind : Undefined) (written : String)
  /-- The path is gone once it is deleted. -/
  | field (path : Option Value)
  | proxy (lead : Option Value)
  | fieldSet (entries : List (String × Value))
  | builder (b : Builder)

inductive Owner where
  | cell (h : Handle)
  | mode (m : MatchMode)
  /-- A class of this library, whose attributes its values have too. -/
  | builtin (c : BuiltinClass)
  deriving DecidableEq, Repr

/-- The cells, the attributes that callers gave to their owners, and the marks that are taken. -/
structure Store where
  cells : List Cell := []
  extras : List (Owner × List (String × Value)) := []
  marks : Nat := 0

namespace Store

def cell? (s : Store) (h : Handle) : Option Cell := s.cells[h.index]?

def size (s : Store) : Nat := s.cells.length

def alloc (s : Store) (c : Cell) : Handle × Store :=
  (⟨s.size⟩, { s with cells := s.cells ++ [c] })

def mark (s : Store) : Mark × Store := (some s.marks, { s with marks := s.marks + Mark.width })

def put (s : Store) (h : Handle) (c : Cell) : Store := { s with cells := s.cells.set h.index c }

def given (s : Store) (o : Owner) : List (String × Value) := (s.extras.lookup o).getD []

def give (s : Store) (o : Owner) (attributes : List (String × Value)) : Store :=
  { s with extras := (o, attributes) :: s.extras.filter fun e => e.1 != o }

def cellOf? (s : Store) : Value → Option Cell
  | .shared h => s.cell? h
  | _ => none

def field? (s : Store) (v : Value) : Option (Option Value) :=
  match s.cellOf? v with
  | some (.field path) => some path
  | _ => none

def builder? (s : Store) (h : Handle) : Option Builder :=
  match s.cell? h with
  | some (.builder b) => some b
  | _ => none

/-- Whether callers may give attributes of any name to a value, and where they are kept. -/
def owner? (s : Store) (v : Value) : Option Owner :=
  match v, s.cellOf? v with
  | .mode m, _ => some (.mode m)
  | .shared h, some (.dict true _) | .shared h, some (.bag _) | .shared h, some (.sized _)
  | .shared h, some (.thing _) | .shared h, some (.builder _) => some (.cell h)
  | _, _ => none

def libraryClass? (s : Store) (v : Value) : Option BuiltinClass :=
  match v, s.cellOf? v with
  | .query .., _ => some .builtQuery
  | .mode _, _ => some .matchMode
  | _, some (.field _) => some .field
  | _, some (.proxy _) => some .fieldsProxy
  | _, some (.builder _) => some .builder
  | _, _ => none

def givenToClass? (s : Store) (c : BuiltinClass) (name : String) : Option Value :=
  (s.given (.builtin c)).lookup name

def givenTo? (s : Store) (v : Value) (name : String) : Option Value :=
  ((s.owner? v).bind fun o => (s.given o).lookup name).or
    ((s.libraryClass? v).bind fun c => s.givenToClass? c name)

@[simp] theorem cell?_alloc (s : Store) (c : Cell) :
    (s.alloc c).2.cell? (s.alloc c).1 = some c := by
  simp [alloc, cell?, size]

theorem cell?_alloc_of_lt (s : Store) (c : Cell) (h : Handle) (hh : h.index < s.size) :
    (s.alloc c).2.cell? h = s.cell? h := by
  simp only [alloc, cell?, size] at *
  rw [List.getElem?_append_left hh]

theorem cell?_alloc_of_some (s : Store) (c d : Cell) (h : Handle) (hd : s.cell? h = some d) :
    (s.alloc c).2.cell? h = some d := by
  have hh : h.index < s.size := by
    obtain ⟨hlt, -⟩ := List.getElem?_eq_some_iff.1 hd
    exact hlt
  rw [cell?_alloc_of_lt s c h hh, hd]

theorem cell?_put_self (s : Store) (h : Handle) (c d : Cell) (hd : s.cell? h = some d) :
    (s.put h c).cell? h = some c := by
  obtain ⟨hlt, -⟩ := List.getElem?_eq_some_iff.1 hd
  simp [put, cell?, hlt]

theorem cell?_put_of_ne (s : Store) (h k : Handle) (c : Cell) (hk : h ≠ k) :
    (s.put h c).cell? k = s.cell? k := by
  have hi : h.index ≠ k.index := fun e => hk (by cases h; cases k; simp_all)
  simp [put, cell?, List.getElem?_set_ne hi]

@[simp] theorem cell?_mark (s : Store) (k : Handle) : s.mark.2.cell? k = s.cell? k := rfl

@[simp] theorem cell?_give (s : Store) (o : Owner) (k : Handle)
    (attributes : List (String × Value)) :
    (s.give o attributes).cell? k = s.cell? k := rfl

end Store

end Criteria
