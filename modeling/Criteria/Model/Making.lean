import Criteria.Session
import Criteria.Text.Identifier

set_option autoImplicit false

namespace Criteria

namespace Model

namespace Making

open Operation

def placesName : String := "__slots__"

def fullNameName : String := "__qualname__"

def cellName : String := "__classcell__"

def heirName : String := "__init_subclass__"

def openPlace : String := "__dict__"

def watchedPlace : String := "__weakref__"

/-- A name that is hidden in a class is kept under a longer one, unless the name of the class is of
no use for it. -/
def hiddenIn (className name : String) : String :=
  let lead := className.toList.dropWhile (· = '_')
  if name.startsWith "__" && !name.endsWith "__" && !lead.isEmpty then
    "_" ++ String.ofList lead ++ name
  else name

def builtinPlaces (place : String) : List BuiltinClass :=
  [.field, .builtQuery, .builder, .matchMode] ++ if place = openPlace then [.tabled] else []

def counted (line : List ClassRef) : Bool := line.contains (.builtin .integer)

/-- Whether a model gives its values this place. It gives both unless it names its places. -/
def givesPlace (place : String) (m : Model) : Bool :=
  match m.places? with
  | some names => names.contains place
  | none => place = openPlace || !counted m.line

def hasPlace (s : Session) (place : String) (c : ClassRef) : Bool :=
  match c with
  | .builtin c => (builtinPlaces place).contains c
  | c => (s.modelOf? c).any (givesPlace place)

def ownLayouts : List ClassRef :=
  [.builtin .integer, .builtin .text, .builtin .dictionary, .builtin .fieldsProxy,
   .builtin .tabled]

/-- Whether the values of a class are laid out in a way of its own: with places that it names, or as
numbers that take the place for all attributes from this class. -/
def hasOwnLayout (s : Session) (c : ClassRef) : Bool :=
  ownLayouts.contains c || (s.modelOf? c).any fun m =>
    let named := (m.places?.getD []).any fun n => n != openPlace && n != watchedPlace
    let opened := counted m.line && givesPlace openPlace m &&
      !(m.line.drop 1).any (hasPlace s openPlace)
    named || opened

def layoutOf? (s : Session) (c : ClassRef) : Option ClassRef := (s.line c).find? (hasOwnLayout s)

/-- Whether values cannot be laid out in the ways of all these classes. A way goes with another one
when its class stands on the other's. -/
def conflicting (s : Session) (bases : List ClassRef) : Bool :=
  let layouts := bases.filterMap (layoutOf? s)
  layouts.any fun c => layouts.any fun d => !(s.line c).contains d && !(s.line d).contains c

def leadingBase? (s : Session) (bases : List ClassRef) : Option ClassRef :=
  bases.foldl (fun best? b =>
    match best?, best?.bind (layoutOf? s), layoutOf? s b with
    | none, _, _ => some b
    | some _, none, some _ => some b
    | some _, some c, some d => if c != d && (s.line d).contains c then some b else best?
    | some _, _, none => best?) none

def namesIn (v : Value) : Operation (List Value) :=
  match v with
  | .text .. => return [v]
  | v => drain v

def checkedPlaces (s : Store) (sized : Bool) : List String → List Value →
    Except Fault (List String)
  | _, [] => .ok []
  | had, v :: vs => do
    match v with
    | .text _ t =>
      if t.isEmpty || (Text.strayInName? t.toList).isSome then .error .placeName
      else if t = watchedPlace && (sized || had.contains t) then
        .error (.placeTaken t "either we already got one, or __itemsize__ != 0")
      else if t = openPlace && had.contains t then .error (.placeTaken t "we already got one")
      else do
        let special := t = openPlace || t = watchedPlace
        .ok (t :: (← checkedPlaces s sized (if special then t :: had else had) vs))
    | v => .error (.placeKind (s.longName v))

/-- The places that a class names, as they are kept. No attribute stands in one. -/
def places? (className : String) (bases : List ClassRef) (attributes : List (String × Value)) :
    Operation (Option (List String)) := do
  match attributes.lookup placesName with
  | none => return none
  | some v => do
    let given ← namesIn v
    let s ← get
    let base := (leadingBase? s bases).getD (.builtin .object)
    let line := s.line base
    if counted line && !given.isEmpty then refuse (.noPlaces (s.nameOf base))
    else
      let had := [openPlace, watchedPlace].filter fun p => line.any (hasPlace s p)
      let names ← asking fun s => checkedPlaces s (counted line) had given
      let names := names.map (hiddenIn className)
      let free := [fullNameName, cellName, openPlace, watchedPlace]
      match names.find? fun n => !free.contains n && (attributes.lookup n).isSome with
      | some n => refuse (.placeFilled (Text.quoted n))
      | none => return some names

def withPlaces (places? : Option (List String)) (attributes : List (String × Value)) :
    Operation (List (String × Value)) := do
  let names := ((places?.getD []).filter fun n => n != openPlace && n != watchedPlace).eraseDups
  let things ← names.mapM fun n => do return (n, ← share (.thing Operations.kindOfPlace))
  return attributes ++ things

def fullName (className : String) (attributes : List (String × Value)) : Operation String := do
  match attributes.lookup fullNameName with
  | none => return className
  | some (.text _ t) => return t
  | some v => refuse (.fullNameKind ((← theStore).longName v))

def checkCell (attributes : List (String × Value)) : Operation Unit := do
  match attributes.lookup cellName with
  | none => return ()
  | some v => refuse (.notCell ((← theStore).longName v))

def tellHeir (behind : List ClassRef) : Operation Unit := do
  let s ← get
  match (behind.filterMap s.modelOf?).findSome? fun m => m.attributes.lookup heirName with
  | some v => do
    let _ ← call v
    return ()
  | none => return ()

end Making

end Model

end Criteria
