import Criteria.Value

/-! The line of a class: itself, then the classes it stands on, each before those that it stands on
itself. Lines are merged by taking, again and again, the first head that stands in no tail.
-/

set_option autoImplicit false

namespace Criteria.Line

def heads (lines : List (List ClassRef)) : List ClassRef := lines.filterMap List.head?

def free (lines : List (List ClassRef)) (c : ClassRef) : Bool :=
  lines.all fun l => !(l.drop 1).contains c

def next? (lines : List (List ClassRef)) : Option ClassRef := (heads lines).find? (free lines)

def advanceOne (c : ClassRef) : List ClassRef → List ClassRef
  | [] => []
  | d :: rest => if d = c then rest else d :: rest

def advance (c : ClassRef) (lines : List (List ClassRef)) : List (List ClassRef) :=
  lines.map (advanceOne c)

/-- Merges lines in at most `steps` steps, or gives the lines that no head can be taken from. -/
def merge : Nat → List (List ClassRef) → Except (List (List ClassRef)) (List ClassRef)
  | 0, _ => .ok []
  | steps + 1, lines =>
    if lines.all List.isEmpty then .ok []
    else match next? lines with
      | none => .error lines
      | some c => (merge steps (advance c lines)).map (c :: ·)

def ofBases (bases : List ClassRef) (lines : List (List ClassRef)) :
    Except (List (List ClassRef)) (List ClassRef) :=
  let all := lines ++ [bases]
  merge (all.flatten.length + 1) all

def leftHeads (lines : List (List ClassRef)) : List ClassRef :=
  (heads lines).foldl (fun found c => if found.contains c then found else found ++ [c]) []

theorem free_of_next? {lines : List (List ClassRef)} {c : ClassRef} (h : next? lines = some c) :
    free lines c = true := List.find?_some h

theorem mem_of_next? {lines : List (List ClassRef)} {c : ClassRef} (h : next? lines = some c) :
    ∃ l ∈ lines, l.head? = some c := by
  obtain ⟨l, hl, hc⟩ := List.mem_filterMap.1 (List.mem_of_find?_eq_some h)
  exact ⟨l, hl, hc⟩

end Criteria.Line
