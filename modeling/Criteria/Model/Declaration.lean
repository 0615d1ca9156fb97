import Criteria.Model.Hint
import Criteria.Model.Line

set_option autoImplicit false

namespace Criteria

/-- Entries by name. A repeated name keeps its place and takes the later entry. -/
def putNamed {α : Type} (name : String) (a : α) : List (String × α) → List (String × α)
  | [] => [(name, a)]
  | (n, b) :: rest => if n = name then (n, a) :: rest else (n, b) :: putNamed name a rest

def putAllNamed {α : Type} (entries new : List (String × α)) : List (String × α) :=
  new.foldl (fun es e => putNamed e.1 e.2 es) entries

/-- How a model is made: as it is written, as a record whose hints are the arguments of its
construction, or under the class whose classes keep a table of their fields. -/
inductive ModelKind where
  | plain
  | record
  | tabled
  deriving DecidableEq, Repr

/-- A hint of a record: an argument of construction, with a default or without, or an attribute of
the class. Not every argument is kept as an attribute of the record. -/
structure Parameter where
  ofClass : Bool
  kept : Bool
  valued : Bool
  deriving Repr

structure Model where
  name : String
  fullName : String := name
  hints : List (String × Hint)
  attributes : List (String × Value)
  line : List ClassRef
  table? : Option Value := none
  places? : Option (List String) := none
  parameters? : Option (List (String × Parameter)) := none

namespace Model

def tableName : String := "model_fields"

def hintsName : String := "__annotations__"

def unhintedName : String := "__no_type_check__"

end Model

theorem lookup_putNamed_self {α : Type} (name : String) (a : α) (es : List (String × α)) :
    (putNamed name a es).lookup name = some a := by
  induction es with
  | nil => simp [putNamed]
  | cons e es ih =>
    obtain ⟨n, b⟩ := e
    by_cases h : n = name
    · simp [putNamed, h]
    · have hb : (name == n) = false := by simpa using fun e => h e.symm
      simp [putNamed, h, List.lookup_cons, hb, ih]

theorem lookup_putNamed_of_ne {α : Type} (name other : String) (a : α) (es : List (String × α))
    (h : other ≠ name) : (putNamed name a es).lookup other = es.lookup other := by
  induction es with
  | nil =>
    have hb : (other == name) = false := by simpa using h
    simp [putNamed, List.lookup_cons, hb]
  | cons e es ih =>
    obtain ⟨n, b⟩ := e
    by_cases hn : n = name
    · have hb : (other == n) = false := by simpa [hn] using h
      simp only [putNamed, hn, if_true, List.lookup_cons]
      rw [← hn, hb]
    · simp [putNamed, hn, List.lookup_cons, ih]

end Criteria
