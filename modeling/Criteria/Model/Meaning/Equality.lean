import Criteria.Model.Meaning
import Criteria.Value.Fingerprint

set_option autoImplicit false

namespace Criteria

namespace Meaning

mutual

def value? : Meaning → Option Value
  | value v => some v
  | row items => (values? items).map (.tuple none)
  | _ => none

def values? : List Meaning → Option (List Value)
  | [] => some []
  | m :: ms =>
    match value? m, values? ms with
    | some v, some vs => some (v :: vs)
    | _, _ => none

end

def isUnordered (f : HintForm) : Bool := f = .union || f = .literal

mutual

/-- Compares meanings. What is shown alike and has no parts is taken for the same. -/
def same (s : Store) : Meaning → Meaning → Except Fault Bool
  | value v => fun n =>
    match n.value? with
    | some w => s.equalPart v w
    | none => .ok false
  | row items => fun n =>
    match n.rowItems? with
    | some others => sameAll s items others
    | none => .ok false
  | list items => fun n =>
    match n.listItems? s with
    | some others => sameAll s items others
    | none => .ok false
  | set _ items => fun n => match n with
    | set _ others => do
      if items.length = others.length then sameSome s false items others else .ok false
    | _ => .ok false
  | dictionary keys values => fun n => match n with
    | dictionary others rest => do
      if ← sameAll s keys others then sameAll s values rest else .ok false
    | _ => .ok false
  | applied f items => fun n => match n with
    | applied g others =>
      if f != g then .ok false
      else if isUnordered f then do
        if items.length = others.length then sameSome s (f = .literal) items others else .ok false
      else sameAll s items others
    | either others => do
      if f = .union && items.length = others.length then sameSome s false items others
      else .ok false
    | _ => .ok false
  | generic c items => fun n => match n with
    | generic d others => do if c = d then sameAll s items others else .ok false
    | _ => .ok false
  | either items => fun n => match n with
    | either others | applied .union others => do
      if items.length = others.length then sameSome s false items others else .ok false
    | _ => .ok false
  | m => fun n =>
    match m, n with
    | known c, known d => .ok (c = d)
    | form f, form g => .ok (f = g)
    | deferred t _, deferred u _ => .ok (t = u)
    | m, n => do .ok (m.kind s = n.kind s && (← m.shown s) = (← n.shown s))

def sameAll (s : Store) : List Meaning → List Meaning → Except Fault Bool
  | [] => fun others => .ok others.isEmpty
  | m :: ms => fun others => match others with
    | [] => .ok false
    | n :: ns => do if ← same s m n then sameAll s ms ns else .ok false

def sameSome (s : Store) (ofClass : Bool) : List Meaning → List Meaning → Except Fault Bool
  | [] => fun _ => .ok true
  | m :: ms => fun others => do
    let others' := others.filter fun n => !ofClass || m.kind s = n.kind s
    if ← others'.anyM (same s m) then sameSome s ofClass ms others else .ok false

end

def changeableKinds : List String := ["bytearray", "dict", "list", "set", "slice"]

mutual

def distinguishable (s : Store) : Meaning → Except Fault Unit
  | value v => do let _ ← s.fingerprint v
  | list _ => .error (.unhashable "list")
  | set false _ => .error (.unhashable "set")
  | dictionary .. => .error (.unhashable "dict")
  | slice _ => .error (.unhashable "slice")
  | applied .construction _ => .ok ()
  | row items | applied _ items | generic _ items | either items => allDistinguishable s items
  | vague k => if changeableKinds.contains k then .error (.unhashable k) else .ok ()
  | _ => .ok ()

def allDistinguishable (s : Store) : List Meaning → Except Fault Unit
  | [] => .ok ()
  | m :: ms => do
    distinguishable s m
    allDistinguishable s ms

end

def distinct (s : Store) (ofClass : Bool) : List Meaning → Except Fault (List Meaning) :=
  go []
where
  go (kept : List Meaning) : List Meaning → Except Fault (List Meaning)
    | [] => .ok kept
    | m :: ms => do
      let alike := kept.filter fun n => !ofClass || m.kind s = n.kind s
      if ← alike.anyM (same s m) then go kept ms else go (kept ++ [m]) ms

end Meaning

end Criteria
