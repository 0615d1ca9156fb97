import Criteria.Model.Making
import Criteria.Model.Parameter
import Criteria.Model.Tabled

set_option autoImplicit false

namespace Criteria

namespace Model

open Operation

def repeated? : List ClassRef → Option ClassRef
  | [] => none
  | c :: cs => if cs.contains c then some c else repeated? cs

def classesOf : List Value → Operation (List ClassRef)
  | [] => return []
  | v :: rest => do
    match v with
    | .classOf (.named n) => refuse (.noBaseClass n)
    | .classOf (.builtin .matchMode) => refuse (.noAttribute "dict" "_member_names")
    | .classOf c => return c :: (← classesOf rest)
    | _ => refuse .unrelatedClasses

/-- A class that is asked to keep a table stands on the class of tables unless it has bases. -/
def basesOf (kind : ModelKind) (bases : List ClassRef) : List ClassRef :=
  if bases.isEmpty then [.builtin (if kind = .tabled then .tabled else .object)] else bases

def behind (bases : List ClassRef) : Operation (List ClassRef) := do
  let lines := bases.map (← get).line
  match repeated? bases with
  | some c => refuse (.duplicateBase ((← get).nameOf c))
  | none =>
    match Line.ofBases bases lines with
    | .ok line => return line
    | .error left => refuse (.noLinearOrder ((Line.leftHeads left).map (← get).nameOf))

def made (name : String) (bases : List ClassRef) (hints : List (String × Hint))
    (attributes : List (String × Value)) : Operation Model := do
  if Making.conflicting (← get) bases then refuse .conflictingLayouts
  else
    let places? ← Making.places? name bases attributes
    if name.contains '\x00' then refuse .nullInName
    let fullName ← Making.fullName name attributes
    Making.checkCell attributes
    let line ← behind bases
    Making.tellHeir line
    let attributes ← Making.withPlaces places? (Attribute.erased Making.fullNameName attributes)
    return { name, fullName, hints, attributes, line, places? }

def completed (kind : ModelKind) (tabled : Bool) (behind : List ClassRef) (m : Model) :
    Operation Model := do
  let m ← if tabled then m.withTable behind else pure m
  let s ← get
  if kind = .record then
    let parameters ← asking fun _ => Parameter.ofRecord s behind m
    return { m with parameters? := some parameters }
  else return m

def givenHints (s : Store) (attributes : List (String × Value)) : List (String × Hint) :=
  match (attributes.lookup hintsName).bind s.cellOf? with
  | some (.dict _ entries) => entries.filterMap fun e => match e.key.value with
    | .text _ n => some (n, .ofValue e.value)
    | _ => none
  | _ => []

/-- Declares a class. It keeps a table of its fields when a base does. -/
def declare (kind : ModelKind) (name : String) (bases : List Value)
    (hints : List (String × Hint)) (attributes : List (String × Value)) : Operation Value := do
  let bases := basesOf kind (← classesOf bases)
  let s ← get
  let attributes := if hints.isEmpty then attributes else Attribute.erased hintsName attributes
  let hints := if hints.isEmpty then givenHints s.store attributes else hints
  let m ← made name bases (putAllNamed [] hints) attributes
  let c : ClassRef := .declared s.models.length name (bases.any ClassRef.isTabled)
  let m ← completed kind c.isTabled m.line { m with line := c :: m.line }
  modify fun s => { s with models := s.models ++ [m] }
  return .classOf c

end Model

end Criteria
