import Criteria.Attribute
import Criteria.Model.Hints

/-! Field sets: one field for each public attribute that a class declares. A field set is made once
for a class and a qualifier, and the same one is given whenever it is asked for again.
-/

set_option autoImplicit false

namespace Criteria

namespace Model

/-- The hints of a line, own first, resolved in order from the most basic class on. -/
def resolveHints (line : List ClassRef) : Operation (List (Value × Bool)) := do
  let s ← get
  let resolved ← line.reverse.mapM fun c => do
    let (hints, scope) ← Operation.asking fun _ => hintsOf s c
    if let some v := scope.lookup Surroundings.placeName then
      let _ ← Operation.asking fun s => s.fingerprint v
    hints.resolve (.within scope)
  return resolved.flatten.foldl Hints.merged []

def given? (s : Session) (name : String) (c : ClassRef) : Option Value :=
  match c with
  | .builtin b => s.store.givenToClass? b name
  | c => (s.modelOf? c).bind fun m => m.attributes.lookup name

/-- What a line says of a table of fields: the attribute of the class that is met first, or the
table that the class keeps. -/
def tableAlong (own? : Option Value) (s : Session) : List ClassRef → Option Value
  | [] => none
  | .builtin .tabled :: _ => own?
  | c :: rest =>
    match given? s tableName c with
    | some v => some v
    | none => tableAlong own? s rest

end Model

/-- What a field set is made for: a class, or a value that has a name like one. -/
inductive Offerer where
  | ofClass (c : ClassRef)
  | ofValue (v name : Value)

def Offerer.name (s : Session) : Offerer → Value
  | ofClass c => .text none (s.nameOf c)
  | ofValue _ n => n

namespace FieldSet

open Operation

def tableKeys? (s : Store) (table? : Option Value) : Option (List Value) :=
  match table?.bind s.cellOf? with
  | some (.dict _ entries) => some (entries.map fun e => e.key.value)
  | _ => none

def fallbackRecord (name reason : String) : String :=
  s!"get_type_hints failed for {name}: {reason}. Falling back to __annotations__."

def passedOver (f : Fault) : Bool := f.kind = .typeMismatch || f.kind = .naming

/-- The names that resolved hints tell. When hints cannot be resolved for want of a name or a type,
the hints of the asked one serve as they are written. -/
def namesResolved (name : Value) (resolved : Operation (List (Value × Bool)))
    (own : Except Fault Hints) : Operation (List Value) := do
  try return Hints.ofInstances (← resolved)
  catch f =>
    if passedOver f then
      note .warning .fields (fallbackRecord (← plain name) f.message)
      let hints ← asking fun _ => own
      return Hints.ofInstances hints.asWritten
    else refuse f

def unhinted (v? : Option Value) : Operation Bool :=
  match v? with
  | some v => asking fun s => s.holds v
  | none => return false

def namesOfClass (c : ClassRef) : Operation (List Value) := do
  let s ← get
  let line := s.line c
  match tableKeys? s.store (Model.tableAlong ((s.modelOf? c).bind Model.table?) s line) with
  | some keys => return keys
  | none =>
    if ← unhinted (line.findSome? (Model.given? s Model.unhintedName)) then return []
    else
      namesResolved (.text none (s.nameOf c)) (Model.resolveHints line)
        ((Model.hintsOf s c).map (·.1))

def hintsOfValue? (s : Store) (v : Value) : Option (Except Fault Hints × Except Fault Hints) :=
  match s.givenTo? v Model.hintsName, s.cellOf? v with
  | some w, _ => some (Hints.ofPairs s w, Hints.ofTable s w)
  | none, some (.builder _) =>
    let hints := Hints.ofNames BuiltinClass.builder.hinted
    some (.ok hints, .ok hints)
  | none, _ => none

def namesOfValue (v name : Value) : Operation (List Value) := do
  let s ← theStore
  match tableKeys? s (s.givenTo? v Model.tableName) with
  | some keys => return keys
  | none =>
    if ← unhinted (s.givenTo? v Model.unhintedName) then return []
    else
      let none? := (s.givenTo? v Model.hintsName).any fun w => w matches .null
      match hintsOfValue? s v, none? with
      | some (hints, own), false =>
        namesResolved name (do (← asking fun _ => hints).resolve .elsewhere) own
      | found, _ => do
        let own := (found.map Prod.snd).getD (.ok [])
        let reason := Fault.unhinted (← shown v)
        namesResolved name (refuse reason) own

def declaredNames : Offerer → Operation (List Value)
  | .ofClass c => namesOfClass c
  | .ofValue v name => namesOfValue v name

def nameText (v : Value) : Operation String := do
  match v with
  | .text _ t => return t
  | .bytes .. => refuse .bytesStart
  | .classOf (.builtin .text) => refuse .nothingStarted
  | v =>
    let start ← Attribute.read v "startswith"
    refuse (.notCallable ((← theStore).longName start))

def entries (lead : String) : List Value → Operation (List (String × Value))
  | [] => return []
  | v :: vs => do
    let name ← nameText v
    if hiddenName name then entries lead vs
    else
      let f ← Field.make (← composed (lead ++ name))
      let rest ← entries lead vs
      return putAllNamed [(name, f)] rest

def offererOf (v : Value) : Operation Offerer := do
  match v with
  | .classOf c => return .ofClass c
  | v =>
    let s ← theStore
    match s.givenTo? v "__name__", s.cellOf? v with
    | some name, _ => return .ofValue v name
    | none, some (.stream true _) => return .ofValue v (.text none "<genexpr>")
    | none, some (.proxy _) => refuse (.hiddenAttribute "__name__")
    | none, _ => refuse (.noAttribute (s.longName v) "__name__")

def find? (s : Store) (owner qualifier : Member) : List Made → Except Fault (Option Handle)
  | [] => .ok none
  | m :: rest => do
    if m.owner.print.agrees owner.print && m.qualifier.print.agrees qualifier.print then
      if ← s.equalPart m.owner.value owner.value then
        if ← s.equalPart m.qualifier.value qualifier.value then .ok (some m.fields)
        else find? s owner qualifier rest
      else find? s owner qualifier rest
    else find? s owner qualifier rest

def build (o : Offerer) (qualifier : Value) : Operation Handle := do
  let names ← declaredNames o
  let lead ← qualifierLead qualifier
  let es ← entries lead names
  alloc (.fieldSet es)

def forClass (owner qualifier : Value) : Operation Value := do
  let owner ← asking fun s => s.member owner
  let qualifier ← asking fun s => s.member qualifier
  let o ← offererOf owner.value
  let made := (← get).made
  match ← asking fun s => find? s owner qualifier made with
  | some h =>
    let name ← plain (o.name (← get))
    let q ← plain qualifier.value
    note .debug .fields s!"Returning cached fields proxy for {name} (alias='{q}')"
    return .shared h
  | none =>
    let name ← plain (o.name (← get))
    let q ← plain qualifier.value
    note .debug .fields s!"Generating fields proxy for {name} (alias='{q}')"
    let h ← build o qualifier.value
    modify fun s => { s with made := s.made ++ [⟨owner, qualifier, h⟩] }
    let names := match (← theStore).cell? h with
      | some (.fieldSet es) => es.map fun e => Text.quoted e.1
      | _ => []
    note .debug .fields (s!"Finished fields proxy for {name}: " ++ listText names)
    return .shared h

end FieldSet

end Criteria
