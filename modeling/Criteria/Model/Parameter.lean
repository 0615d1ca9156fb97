import Criteria.Model.Construction
import Criteria.Model.Default
import Criteria.Model.Meaning

/-! Parameters of records. A record takes the parameters of the records it stands on, the most basic
first, then those of its own hints. A default is a value that the class has, and no parameter
without one follows a parameter with one.
-/

set_option autoImplicit false

namespace Criteria

namespace Parameter

def orderFault? : Bool → List (String × Parameter) → Option Fault
  | _, [] => none
  | seen, (name, p) :: rest =>
    if p.valued then orderFault? true rest
    else if seen then some (.defaultOrder (Text.quoted name))
    else orderFault? seen rest

/-- The form of a hint that is not ordinary. Where no forms are known, a reader that looks for one
by its name alone finds no place to look in. -/
def formOf (hasForms : Bool) : Hint → Except Fault (Option HintForm)
  | .classWide => .ok (some .classWide)
  | .construction => .ok (some .construction)
  | .deferred e =>
    match hasForms, Hint.leadingWords e with
    | true, _ => .ok (Hint.leadingForm? e)
    | false, (none, n) =>
      if n.isEmpty then .ok none else .error (.noAttribute "NoneType" "__dict__")
    | false, _ => .ok none
  | _ => .ok none

def ofHint (hasForms : Bool) (name : String) (hint : Hint) (default? : Option Default) :
    Except Fault Parameter := do
  let form ← formOf hasForms hint
  let p : Parameter :=
    ⟨form = some .classWide, form != some .construction, default?.any Default.isValue⟩
  match default? with
  | some (.changing c) =>
    if p.ofClass || !p.kept then .ok p else .error (.mutableDefault ("<class '" ++ c ++ "'>") name)
  | _ => .ok p

def lacking (s : Session) (member : String) : Value → Fault
  | .classOf c => .classLacksAttribute (s.nameOf c) member
  | v => .noAttribute (s.store.longName v) member

def told (s : Session) (v : Value) : Except Fault (List (String × Parameter)) :=
  match s.store.cellOf? v with
  | some (.dict _ []) => .ok []
  | some (.dict _ (e :: _)) => .error (lacking s "name" e.value)
  | _ => .error (lacking s "values" v)

/-- What a class has of its own for a table of parameters. Nothing can stand for it. -/
inductive Table where
  | nothing
  | parameters (found : Except Fault (List (String × Parameter)))

def tableOf? (s : Session) : ClassRef → Option Table
  | .builtin .builtQuery =>
    some (.parameters (.ok [("text", ⟨false, true, false⟩), ("args", ⟨false, true, true⟩)]))
  | c => (s.modelOf? c).bind fun m =>
    match m.parameters?, m.attributes.lookup Default.tableName with
    | some ps, _ => some (.parameters (.ok ps))
    | none, some .null => some .nothing
    | none, some v => some (.parameters (told s v))
    | none, none => none

def making? (s : Session) : ClassRef → Option (Except Fault Unit)
  | .builtin .builtQuery => some (.ok ())
  | c => (s.modelOf? c).bind fun m => (m.parameters?.map fun _ => .ok ()).or
    ((m.attributes.lookup Default.makingName).map fun v => .error (lacking s "frozen" v))

def along (s : Session) (c : ClassRef) : Except Fault (List (String × Parameter)) := do
  let line := s.line c
  match line.findSome? (tableOf? s) with
  | none | some .nothing => .ok []
  | some (.parameters found) =>
    let ps ← found
    (line.findSome? (making? s)).getD
      (.error (.classLacksAttribute (s.nameOf c) Default.makingName))
    .ok ps

def selfName (all : List (String × Parameter)) : String :=
  if all.any fun p => p.1 = "self" then "__dataclass_self__" else "self"

def continues (s : Session) (behind : List ClassRef) (m : Model) : Bool :=
  (Default.of? s behind m Construction.continuedName).isSome

def ofRecord (s : Session) (behind : List ClassRef) (m : Model) :
    Except Fault (List (String × Parameter)) := do
  let place? := m.attributes.lookup Surroundings.placeName
  place?.forM fun v => do let _ ← s.store.fingerprint v
  let inherited ← behind.reverse.foldlM (fun ps c => return putAllNamed ps (← along s c)) []
  let own ← m.hints.mapM fun h => do
    return (h.1, ← ofHint place?.isNone h.1 h.2 (Default.of? s behind m h.1))
  if behind.contains (.builtin .builtQuery) then .error .frozenParent
  else
    let all := putAllNamed inherited own
    let arguments := all.filter fun p => !p.2.ofClass
    let construction : Construction :=
      ⟨selfName all, arguments.map fun p => ⟨p.1, p.2.valued, p.2.kept⟩, continues s behind m⟩
    match (orderFault? false arguments).or construction.fault? with
    | some f => .error f
    | none => .ok all

end Parameter

end Criteria
