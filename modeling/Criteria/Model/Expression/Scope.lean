import Criteria.Model.Expression

set_option autoImplicit false

namespace Criteria.Expression

inductive ScopeKind where
  | outer
  | function
  | gathered
  deriving DecidableEq, Repr

/-- Where an expression stands. -/
structure Scope where
  kind : ScopeKind
  taken : List String
  isSource : Bool
  isTarget : Bool

namespace Scope

def outermost : Scope := ⟨.outer, [], false, false⟩

def source (s : Scope) : Scope := { s with isSource := true }

def target (s : Scope) : Scope := { s with isTarget := true }

def function (s : Scope) : Scope := { s with kind := .function, taken := [], isTarget := false }

def gathered (s : Scope) (names : List String) : Scope :=
  { s with kind := .gathered, taken := names ++ s.taken, isTarget := false }

end Scope

def fixedName : String := "__debug__"

mutual

def targetNames : Expression → List String
  | name n | member _ n => [n]
  | spread e => targetNames e
  | row items | list items => allTargetNames items
  | _ => []

def allTargetNames : List Expression → List String
  | [] => []
  | e :: es => targetNames e ++ allTargetNames es

end

mutual

/-- Whether a target can take values: it is not spread itself, and holds at most one spread part. -/
def canTake : Expression → Bool
  | spread _ => false
  | row items | list items => canTakeParts false items
  | _ => true

def canTakeParts : Bool → List Expression → Bool
  | _, [] => true
  | spread?, e :: es =>
    match e with
    | spread e => !spread? && canTake e && canTakeParts true es
    | e => canTake e && canTakeParts spread? es

end

mutual

def scopeNames : Expression → List String
  | name n => [n]
  | named n e => n :: scopeNames e
  | composed es | row es | list es | set es | dictionary es | slice es | comparison _ es
  | yielded es | function _ _ es _ => allScopeNames es
  | inserted e _ form => scopeNames e ++ optionScopeNames form
  | entry a b | item a b | binary _ a b => scopeNames a ++ scopeNames b
  | spread e | merged e | keyword _ e | member e _ | unary _ e | awaited e => scopeNames e
  | call e es => scopeNames e ++ allScopeNames es
  | choice a b c => scopeNames a ++ scopeNames b ++ scopeNames c
  | gathered _ _ clauses => sourceNames clauses
  | constant _ | whole _ | real _ | imaginary _ | text _ | bytes _ | clause .. => []

def optionScopeNames : Option Expression → List String
  | none => []
  | some e => scopeNames e

def allScopeNames : List Expression → List String
  | [] => []
  | e :: es => scopeNames e ++ allScopeNames es

def sourceNames : List Expression → List String
  | clause _ _ source _ :: _ => scopeNames source
  | _ => []

end

def clauseTargets (clauses : List Expression) : List Expression :=
  clauses.filterMap fun c => match c with
    | clause _ target _ _ => some target
    | _ => none

def keywordNames (arguments : List Expression) : List String :=
  arguments.filterMap fun e => match e with
    | keyword n _ => some n
    | _ => none

def canName (names : List String) : Bool := names.Nodup && !names.contains fixedName

mutual

/-- Whether an expression may stand in a scope, and if so, whether the scope waits for it. -/
def waits? (s : Scope) : Expression → Option Bool
  | name _ | constant _ | whole _ | real _ | imaginary _ | text _ | bytes _ => some false
  | composed es | row es | list es | set es | dictionary es | slice es | comparison _ es =>
    allWait? s es
  | inserted e _ form => do
    let a ← waits? s e
    let b ← optionWaits? s form
    some (a || b)
  | entry a b | item a b | binary _ a b => do
    let x ← waits? s a
    let y ← waits? s b
    some (x || y)
  | spread e | merged e | member e _ | unary _ e => waits? s e
  | keyword _ e => waits? s e
  | call e arguments => do
    let x ← waits? s e
    let y ← allWait? s arguments
    if canName (keywordNames arguments) then some (x || y) else none
  | choice a b c => do
    let x ← waits? s a
    let y ← waits? s b
    let z ← waits? s c
    some (x || y || z)
  | named n e => do
    let x ← waits? s e
    if s.isSource || s.isTarget || s.taken.contains n || n = fixedName then none else some x
  | function parameters _ defaults body => do
    let x ← allWait? s defaults
    let _ ← waits? s.function body
    if canName parameters then some x else none
  | gathered g heads clauses => do
    let targets := clauseTargets clauses
    let inner := s.gathered (allScopeNames targets)
    let x ← firstSource? s clauses
    let y ← clausesWait? inner true clauses
    let z ← allWait? inner heads
    let waiting := (y || z) && g != .generator
    if (allTargetNames targets).contains fixedName || (waiting && s.kind != .gathered) then none
    else some (x || waiting)
  | clause .. => none
  | awaited e => do
    let _ ← waits? s e
    if s.kind = .gathered then some true else none
  | yielded es => do
    let x ← allWait? s es
    let alone := match es with
      | [spread _] => true
      | _ => false
    if s.kind = .function && !alone then some x else none

def optionWaits? (s : Scope) : Option Expression → Option Bool
  | none => some false
  | some e => waits? s e

def allWait? (s : Scope) : List Expression → Option Bool
  | [] => some false
  | e :: es => do
    let x ← waits? s e
    let y ← allWait? s es
    some (x || y)

def firstSource? (s : Scope) : List Expression → Option Bool
  | clause _ _ source _ :: _ => waits? s.source source
  | _ => some false

def clausesWait? (s : Scope) : Bool → List Expression → Option Bool
  | _, [] => some false
  | first, c :: cs => do
    let x ← clauseWaits? s first c
    let y ← clausesWait? s false cs
    some (x || y)

def clauseWaits? (s : Scope) (first : Bool) : Expression → Option Bool
  | clause waiting target source tests => do
    let x ← waits? s.target target
    let y ← if first then some false else waits? s.source source
    let z ← allWait? s tests
    if canTake target then some (waiting || x || y || z) else none
  | _ => none

end

def standsAlone (e : Expression) : Bool := (waits? .outermost e).isSome

end Criteria.Expression
