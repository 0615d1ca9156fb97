import Criteria.Value.Presence

/-! When values are equal. Numbers are equal when their exact values are. Sets and dictionaries do
not look at order, unless both are ordered dictionaries, and find an element or a key by the
fingerprint that it entered with. Fields are equal when their paths are. Other cells are equal only
to themselves. A part is equal to itself whatever its class says.
-/

set_option autoImplicit false

namespace Criteria

def sameHandle : Value → Value → Bool
  | .shared h, .shared k => h == k
  | _, _ => false

namespace Value

def row? : Value → Option (List Value)
  | tuple _ items | point _ items => some items
  | _ => none

def atomEqual (v w : Value) : Bool :=
  match v.number?, w.number? with
  | some m, some n => m == n
  | some _, none | none, some _ => false
  | none, none =>
    match v with
    | null => match w with | null => true | _ => false
    | unset => match w with | unset => true | _ => false
    | text _ s => match w with | text _ t => s == t | _ => false
    | bytes _ a => match w with | bytes _ b => a == b | _ => false
    | date _ d => match w with | date _ e => d == e | _ => false
    | moment _ d t => match w with | moment _ e u => d == e && t == u | _ => false
    | time _ t => match w with | time _ u => t == u | _ => false
    | mode m => match w with | mode n => m == n | _ => false
    | classOf c => match w with | classOf d => c == d | _ => false
    | range _ a b c => match w with | range _ d e f => rangeKey a b c == rangeKey d e f | _ => false
    | _ => false

/-- A part is equal to itself before anything is compared. -/
def samePart (compare : Value → Except Fault Bool) (v w : Value) : Except Fault Bool :=
  if sameHandle v w then .ok true else compare w

mutual

/-- Compares values when `meet` compares those of which one is a cell. -/
def equalWith (meet : Value → Value → Except Fault Bool) : Value → Value → Except Fault Bool
  | shared h => fun w => meet (shared h) w
  | tuple m xs => fun w => match w with
    | shared k => meet (tuple m xs) (shared k)
    | w => match w.row? with
      | some ys => equalRows meet xs ys
      | none => .ok false
  | point m xs => fun w => match w with
    | shared k => meet (point m xs) (shared k)
    | w => match w.row? with
      | some ys => equalRows meet xs ys
      | none => .ok false
  | query m t a => fun w => match w with
    | shared k => meet (query m t a) (shared k)
    | query _ u b => do
      if ← samePart (equalWith meet t) t u then samePart (equalWith meet a) a b else .ok false
    | _ => .ok false
  | v => fun w => match w with
    | shared k => meet v (shared k)
    | w => .ok (v.atomEqual w)

def equalRows (meet : Value → Value → Except Fault Bool) :
    List Value → List Value → Except Fault Bool
  | [] => fun ys => .ok ys.isEmpty
  | x :: xs => fun ys => match ys with
    | [] => .ok false
    | y :: ys => do
      if ← samePart (equalWith meet x) x y then equalRows meet xs ys else .ok false

end

end Value

open Value

def Member.among (compare : Value → Except Fault Bool) (m : Member) :
    List Member → Except Fault Bool
  | [] => .ok false
  | n :: rest => do
    if m.print.agrees n.print then
      if ← samePart compare m.value n.value then .ok true else among compare m rest
    else among compare m rest

def Entry.find? (compare : Value → Except Fault Bool) (key : Member) :
    List Entry → Except Fault (Option Value)
  | [] => .ok none
  | e :: rest => do
    if key.print.agrees e.key.print then
      if ← samePart compare key.value e.key.value then .ok (some e.value)
      else find? compare key rest
    else find? compare key rest

namespace Cell

def membersWithin (meet : Value → Value → Except Fault Bool) :
    List Member → List Member → Except Fault Bool
  | [], _ => .ok true
  | m :: rest, others => do
    if ← m.among (Value.equalWith meet m.value) others then membersWithin meet rest others
    else .ok false

def entriesWithin (meet : Value → Value → Except Fault Bool) :
    List Entry → List Entry → Except Fault Bool
  | [], _ => .ok true
  | e :: rest, others => do
    match ← Entry.find? (Value.equalWith meet e.key.value) e.key others with
    | none => .ok false
    | some w =>
      if ← samePart (Value.equalWith meet e.value) e.value w then entriesWithin meet rest others
      else .ok false

def namedWithin (meet : Value → Value → Except Fault Bool) :
    List (String × Value) → List (String × Value) → Except Fault Bool
  | [], _ => .ok true
  | (n, v) :: rest, others => do
    match others.lookup n with
    | none => .ok false
    | some w =>
      if ← samePart (Value.equalWith meet v) v w then namedWithin meet rest others
      else .ok false

def equalWith (meet : Value → Value → Except Fault Bool) (self : Bool) :
    Cell → Cell → Except Fault Bool
  | list xs, list ys | deque xs, deque ys =>
    if xs.length = ys.length then equalRows meet xs ys else .ok false
  | set _ xs, set _ ys => if xs.length = ys.length then membersWithin meet xs ys else .ok false
  | dict o xs, dict p ys => do
    if xs.length = ys.length then
      if ← entriesWithin meet xs ys then
        if o && p then
          equalRows meet (xs.map fun e => e.key.value) (ys.map fun e => e.key.value)
        else .ok true
      else .ok false
    else .ok false
  | byteArray a, byteArray b => .ok (a == b)
  | field none, field _ | field (some _), field none => .error (.noAttribute "Field" "_path")
  | field (some p), field (some q) => Value.equalWith meet p q
  | fieldSet xs, fieldSet ys =>
    if xs.length = ys.length then namedWithin meet xs ys else .ok false
  | undefined k _, undefined l _ =>
    if k = .signaling || l = .signaling then .error .signalingComparison else .ok false
  | _, _ => .ok self

/-- Compares a value with a cell. Bytes occur both ways. -/
def equalPlain (v : Value) : Cell → Except Fault Bool
  | byteArray b => match v with
    | .bytes _ a => .ok (a == b)
    | _ => .ok false
  | undefined .signaling _ =>
    if v.number?.isSome then .error .signalingComparison else .ok false
  | _ => .ok false

end Cell

namespace Store

/-- Compares values of which one is a cell, with at most `depth` such comparisons inside one
another. -/
def meet (s : Store) : Nat → Value → Value → Except Fault Bool
  | 0, _, _ => .error (.endless .comparing)
  | depth + 1, v, w =>
    match s.cellOf? v, s.cellOf? w with
    | some c, some d => c.equalWith (s.meet depth) (sameHandle v w) d
    | some c, none => c.equalPlain w
    | none, some d => d.equalPlain v
    | none, none => .ok false

def equal (s : Store) (v w : Value) : Except Fault Bool :=
  v.equalWith (s.meet (2 * s.size + 1)) w

def equalPart (s : Store) (v w : Value) : Except Fault Bool :=
  samePart (s.equal v) v w

def holdsPart (s : Store) (v : Value) : List Value → Except Fault Bool
  | [] => .ok false
  | w :: rest => do if ← s.equalPart v w then .ok true else s.holdsPart v rest

def distinct (s : Store) : List Value → Except Fault (List Value) :=
  go []
where
  go (kept : List Value) : List Value → Except Fault (List Value)
    | [] => .ok kept
    | v :: vs => do if ← s.holdsPart v kept then go kept vs else go (kept ++ [v]) vs

def holdsMember (s : Store) (m : Member) (members : List Member) : Except Fault Bool :=
  m.among (s.equal m.value) members

def entry? (s : Store) (key : Member) (entries : List Entry) : Except Fault (Option Value) :=
  Entry.find? (s.equal key.value) key entries

def entered (s : Store) (key : Member) (v : Value) : List Entry → Except Fault (List Entry)
  | [] => .ok [⟨key, v⟩]
  | e :: rest => do
    if key.print.agrees e.key.print then
      if ← s.equalPart key.value e.key.value then .ok (⟨e.key, v⟩ :: rest)
      else do .ok (e :: (← s.entered key v rest))
    else do .ok (e :: (← s.entered key v rest))

end Store

end Criteria
