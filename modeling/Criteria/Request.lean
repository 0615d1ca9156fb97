import Criteria.Field

/-! Requests to a builder and the ruling on each. A ruling depends on the request and on the cells,
and of what the builder holds only on its next number. It refuses, passes the request over because
its value is absent, or says which clause enters with which arguments.
-/

set_option autoImplicit false

namespace Criteria

inductive Request where
  | compare (op : Comparison) (field value : Value)
  | like (field value mode : Value)
  | likeAny (fields value mode : Value)
  | within (field values : Value)
  | between (field lower upper : Value)
  | orderBy (clause : Value)

/-- An argument as it will be bound: the value itself, or a fresh list of its elements. -/
inductive Binding where
  | itself (v : Value)
  | copy (className : String) (items : List Value)

inductive Ruling where
  | skip (path operation : String) (value : Value)
  | add (clause : Clause) (bindings : List Binding)
  /-- Refused after some numbers were handed out. -/
  | tear (spent : Nat) (fault : Fault)
  | order (clause : Option Value)

namespace Ruling

def writable (index count : Nat) : Nat := min count (Whole.bound - index)

/-- The ruling for a builder whose next number is `index`. It is refused at the first number that is
too long to be written. -/
def startingAt (index : Nat) : Ruling → Ruling
  | add clause bindings =>
    let n := writable index clause.arity
    if n < clause.arity then tear n (.tooManyDigits none) else add clause bindings
  | tear spent fault =>
    let n := writable index spent
    if n < spent then tear n (.tooManyDigits none) else tear spent fault
  | r => r

theorem writable_of_le {index count : Nat} (h : index + count ≤ Whole.bound) :
    writable index count = count := by
  unfold writable; omega

theorem startingAt_add_of_le {index : Nat} {clause : Clause} (bindings : List Binding)
    (h : index + clause.arity ≤ Whole.bound) :
    (add clause bindings).startingAt index = add clause bindings := by
  simp [Ruling.startingAt, writable_of_le h]

end Ruling

namespace MatchMode

def ofValue (s : Store) (v : Value) : Except Fault MatchMode :=
  match v with
  | .mode m => .ok m
  | v =>
    match s.fingerprint v, v with
    | .error f, v => if f.kind = .typeMismatch then refused s v else .error f
    | .ok _, .text _ t =>
      match ofLabel? t with
      | some m => .ok m
      | none => refused s v
    | .ok _, v => refused s v
where
  refused (s : Store) (v : Value) : Except Fault MatchMode := do
    .error (.notMode (← s.shown v))

/-- Only a text has a pattern. A text that is matched as a whole is its own pattern. -/
def patternOf (m : MatchMode) (s : Store) (v : Value) : Except Fault Value :=
  match v with
  | .text k t => .ok (if m = .exact then .text k t else .text s.mark.1 (m.pattern t))
  | v => .error (.patternKind m.label (s.shortName v))

def matched (m : MatchMode) (v : Value) : Operation Value := do
  let p ← Operation.asking fun s => m.patternOf s v
  let _ ← Operation.mark
  return p

end MatchMode

namespace Request

def method : Request → String
  | compare .equal _ _ => "equal"
  | compare .notEqual _ _ => "not_equal"
  | compare .atLeast _ _ => "gte"
  | compare .greater _ _ => "gt"
  | compare .atMost _ _ => "lte"
  | compare .less _ _ => "lt"
  | like .. => "like"
  | likeAny .. => "like_any"
  | within .. => "in_"
  | between .. => "between"
  | orderBy _ => "order_by"

def fieldPaths (s : Store) : List Value → Except Fault (List Value)
  | [] => .ok []
  | v :: vs => do
    let p ← s.fieldPath v
    let ps ← fieldPaths s vs
    .ok (p :: ps)

def referencesRead (s : Store) : List Value → Nat
  | [] => 0
  | v :: vs =>
    match s.fieldPath v with
    | .ok _ => referencesRead s vs + 1
    | .error _ => 1

def joinTexts (s : Store) (position : Nat) : List Value → Except Fault (List String)
  | [] => .ok []
  | .text _ t :: vs => do .ok (t :: (← joinTexts s (position + 1) vs))
  | v :: _ => .error (.joinItem position (s.longName v))

/-- The path texts in order, or how many there were before the one that has none. -/
def pathTexts (s : Store) : List Value → Except (Nat × Fault) (List String)
  | [] => .ok []
  | p :: ps =>
    match s.plain p with
    | .error f => .error (0, f)
    | .ok t =>
      match pathTexts s ps with
      | .error (n, f) => .error (n + 1, f)
      | .ok ts => .ok (t :: ts)

def binding (s : Store) (v : Value) : Binding :=
  match s.copied? v with
  | some items => .copy (s.shortName v) items
  | none => .itself v

def ruleCompare (s : Store) (op : Comparison) (field value : Value) : Except Fault Ruling := do
  let path ← s.fieldPath field
  let isPresent ← s.present value
  let path ← s.plain path
  if isPresent then .ok (.add (.compare path op) [.itself value])
  else .ok (.skip path op.symbol value)

def ruleLike (s : Store) (field value mode : Value) : Except Fault Ruling := do
  let path ← s.fieldPath field
  let m ← MatchMode.ofValue s mode
  if ← s.present value then do
    let pattern ← m.patternOf s value
    let path ← s.plain path
    .ok (.add (.like path) [.itself pattern])
  else do
    let path ← s.plain path
    .ok (.skip path "like" value)

def ruleLikeAny (s : Store) (fields value mode : Value) : Except Fault Ruling := do
  if s.isReference fields then .error (.singleField (← s.shown fields))
  else
    let paths ← fieldPaths s (← s.candidates fields)
    if paths.isEmpty then .error .noFields
    else
      let m ← MatchMode.ofValue s mode
      if ← s.present value then do
        let pattern ← m.patternOf s value
        match pathTexts s paths with
        | .error (n, f) => .ok (.tear n f)
        | .ok texts => .ok (.add (.likeAny texts) (texts.map fun _ => .itself pattern))
      else do
        let texts ← joinTexts s 0 paths
        .ok (.skip (commaSeparated texts) "like" value)

def ruleWithin (s : Store) (field values : Value) : Except Fault Ruling := do
  let path ← s.fieldPath field
  if ← s.present values then
    if s.listable values then do
      let path ← s.plain path
      .ok (.add (.within path) [binding s values])
    else .error (.withinKind (s.shortName values))
  else do
    let path ← s.plain path
    .ok (.skip path "in" values)

/-- Whether both bounds are present. The upper one counts only after the lower one. -/
def bounded (s : Store) (lower upper : Value) : Except Fault Bool := do
  if ← s.present lower then s.present upper else .ok false

/-- The numbers of both bounds are handed out before the path is written. -/
def ruleBetween (s : Store) (field lower upper : Value) : Except Fault Ruling := do
  let path ← s.fieldPath field
  if ← bounded s lower upper then
    match s.plain path with
    | .error f => .ok (.tear 2 f)
    | .ok path => .ok (.add (.between path) [.itself lower, .itself upper])
  else do
    let path ← s.plain path
    .ok (.skip path "between" (.tuple none [lower, upper]))

/-- A field stands for its path. A clause that is absent takes the order away. -/
def ruleOrderBy (s : Store) (clause : Value) : Except Fault Ruling := do
  let clause ← match s.field? clause, clause with
    | some _, c => s.fieldPath c
    | none, .null => .ok .null
    | none, .text m t => .ok (.text m t)
    | none, c => .error (.orderKind (s.shortName c))
  .ok (.order (if ← s.present clause then some clause else none))

def rule (s : Store) : Request → Except Fault Ruling
  | compare op field value => ruleCompare s op field value
  | like field value mode => ruleLike s field value mode
  | likeAny fields value mode => ruleLikeAny s fields value mode
  | within field values => ruleWithin s field values
  | between field lower upper => ruleBetween s field lower upper
  | orderBy clause => ruleOrderBy s clause

def passed (s : Store) : Request → Store
  | likeAny fields _ _ =>
    if s.isReference fields then s
    else
      match s.candidates fields with
      | .ok items => (s.passed fields (referencesRead s items)).mark.2
      | .error _ => s
  | like .. => s.mark.2
  | _ => s

end Request

end Criteria
