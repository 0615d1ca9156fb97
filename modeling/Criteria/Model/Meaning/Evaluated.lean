import Criteria.Model.Meaning.Called

/-! What an expression means among the attributes of a class, whose names come before the names that
everyone knows. Names can be given values on the way. What is gathered, and what stands in a
function, does not see all of them.
-/

set_option autoImplicit false

namespace Criteria

namespace Meaning

open Operation

def ofConstant : Constant → Meaning
  | .nothing => value .null
  | .no => value (.truth false)
  | .yes => value (.truth true)
  | .ellipsis => ellipsis

def ofWrittenReal (written : String) : Meaning :=
  match Binary64.ofWritten? written with
  | some (some x) => ofReal x
  | _ => vague "float"

/-- What is known where an expression stands: its surroundings, what clauses and functions around it
take, and whether it stands inside them. -/
structure Known where
  around : Surroundings
  taken : List (String × Meaning) := []
  inside : Bool := false

namespace Known

def within (k : Known) : Known := { k with around := k.around.inside, inside := true }

end Known

structure Named where
  name : String
  inside : Bool
  meaning : Meaning

abbrev Reading := StateT (List Named) Operation

/-- What stands inside sees only the names that were given values inside. -/
def nameIn (k : Known) (n : String) : Reading Meaning := do
  let given := (← get).find? fun m => m.name = n && (m.inside || !k.inside)
  match k.taken.lookup n, given with
  | some m, _ => return m
  | none, some g => return g.meaning
  | none, none => asking fun _ => ofName k.around n

def passedOver (m : Meaning) : Operation (List Meaning) := do
  let m ← drained m
  asking fun s => m.items s

def spreadOver (m : Meaning) : Operation (List Meaning) := do
  let m ← drained m
  asking fun s => spreadItems s m

/-- The names that a target gives values to. A row of targets takes as many items, of which one that
is spread takes what is left. -/
def takenBy : Expression → Meaning → Option (List (String × Meaning))
  | .name n, m => some [(n, m)]
  | _, _ => none

/-- What a clause takes. What a row of names takes is known only where all items are. -/
def taking (s : Store) (m : Meaning) (target : Expression) : List (String × Meaning) :=
  match takenBy target m, target, m.rowItems?.or (m.listItems? s) with
  | some found, _, _ => found
  | none, .row es, some items | none, .list es, some items =>
    if es.length = items.length && es.all (fun e => e matches .name _) then
      ((es.zip items).filterMap fun p => takenBy p.1 p.2).flatten
    else target.targetNames.map fun n => (n, unknown)
  | _, _, _ => target.targetNames.map fun n => (n, unknown)

def gatheredOf (s : Store) (g : Gathering) (items : List Meaning) : Except Fault Meaning :=
  match g with
  | .list => .ok (list items)
  | .generator => .ok (stream "generator" items none)
  | .set => do
    allDistinguishable s items
    .ok (set false (← distinct s false items))
  | .dictionary => do
    let entries := items.filterMap fun m => match m with
      | row [key, m] => some (key, m)
      | _ => none
    let (keys, values) := entries.unzip
    allDistinguishable s keys
    dictionaryOf s keys values

def insertedText (s : Store) (letter : Option Char) (m : Meaning) : Except Fault Meaning := do
  match letter, m with
  | none, value v | some 's', value v => .ok (ofPlainText (← s.plain v))
  | some 'a', _ => .ok (vague "str")
  | _, unknown => .ok (vague "str")
  | _, m => .ok (ofPlainText (← m.shown s))

def composedOf (parts : List Meaning) : Meaning :=
  let texts := parts.filterMap fun m => match m with
    | value (.text _ t) => some t
    | _ => none
  if texts.length = parts.length then ofPlainText ("".intercalate texts) else vague "str"

def isLone (arguments : List Expression) : Bool :=
  let places := arguments.filter fun e => !(e matches .keyword .. | .merged _)
  match places with
  | [.spread _] => true
  | _ => false

def spreadAlone (callee : Except Fault String) (m : Meaning) : Operation (List Meaning) := do
  match (← drained m).items (← theStore) with
  | .error (.notIterable kind) =>
    if m.isClosed then refuse (.notIterable kind)
    else refuse (.argument (.spread (← asking fun _ => callee) kind))
  | .error f => refuse f
  | .ok items => return items

def handedTo (callee : Except Fault String) (lone : Bool) (places : List Meaning)
    (names : List (String × Meaning)) : Operation Handed := do
  if lone then
    let found ← places.mapM (spreadAlone callee)
    return { places := found.flatten, names }
  else return { places, names }

def enterNames (callee : Except Fault String) (names : List (String × Meaning)) :
    List (String × Meaning) → Except Fault (List (String × Meaning))
  | [] => .ok names
  | (n, m) :: rest => do
    if (names.lookup n).isSome then refusedWith (.repeatedName (← callee) n)
    else enterNames callee (names ++ [(n, m)]) rest

def namesOfEntries (s : Store) (callee : Except Fault String) (m : Meaning) :
    Except Fault (List (String × Meaning)) :=
  match entries? s m, m with
  | some (keys, values), _ => (keys.zip values).mapM fun e => match e.1 with
    | value (.text _ n) => .ok (n, e.2)
    | k => if k.kind s = "str" then .ok ("", unknown) else refusedWith .nameKind
  | none, unknown => .ok []
  | none, m => do refusedWith (.mapping (← callee) (m.kind s))

def namelessFunction : String := "<lambda>"

def functionTakes (names : List String) (defaults : List Meaning) (h : Handed) :
    Except Fault (List (String × Meaning)) :=
  let count := names.length - defaults.length
  Parameters.take ⟨namelessFunction, names.take count, (names.drop count).zip defaults, 0⟩ h

def attempted (r : Reading (List Meaning)) : Reading Meaning := do
  try return stream "generator" (← r) none
  catch f => return stream "generator" [] (some f)

mutual

def of (k : Known) : Expression → Reading Meaning
  | .name n => nameIn k n
  | .whole n => return ofWhole n
  | .text t => return ofPlainText t
  | .bytes data => return value (.bytes none data)
  | .constant c => return ofConstant c
  | .real w => return ofWrittenReal w
  | .imaginary w => return imaginary w
  | .composed es => return composedOf (← ofAll k es)
  | .inserted e letter shape => do
    let m ← of k e
    match ← ofOption k shape with
    | none => asking fun s => insertedText s letter m
    | some f =>
      if letter.isSome then return vague "str" else asking fun s => written s m (some f)
  | .row es => return row (← ofAll k es)
  | .list es => return list (← ofAll k es)
  | .set es => do
    let items ← ofMembers k es
    asking fun s => gatheredOf s .set items
  | .dictionary es => do
    let entries ← ofEntries k es
    asking fun s => gatheredOf s .dictionary entries
  | .entry a b => do
    let key ← of k a
    return row [key, ← of k b]
  | .spread e | .keyword _ e | .merged e => of k e
  | .slice es => return slice (← ofAll k es)
  | .member e n => do member (← of k e) n
  | .item e key => do
    let m ← of k e
    item m (← of k key)
  | .call (.function parameters single defaults body) arguments => do
    let defaults ← ofAll k defaults
    let callee := .ok (namelessFunction ++ "()")
    let places ← ofPlaces k (isLone arguments) arguments
    let names ← ofNames k callee [] arguments
    let h ← handedTo callee (isLone arguments) places names
    if single then
      let taken ← asking fun _ => functionTakes parameters defaults h
      let k := k.within
      of { k with taken := taken ++ k.taken } body
    else return unknown
  | .call e arguments => do
    let m ← of k e
    let callee := calledName (← theStore) m
    let places ← ofPlaces k (isLone arguments) arguments
    let names ← ofNames k callee [] arguments
    called m (← handedTo callee (isLone arguments) places names)
  | .unary op e => do
    let m ← of k e
    asking fun s => unary s op m
  | .binary "or" a b => do
    let m ← of k a
    if ← asking fun s => m.holds s then return m else of k b
  | .binary "and" a b => do
    let m ← of k a
    if ← asking fun s => m.holds s then of k b else return m
  | .binary op a b => do
    let m ← of k a
    let n ← of k b
    asking fun s => binary s op m n
  | .comparison ops es => ofComparison k ops none es
  | .choice test a b => do
    let m ← of k test
    if ← asking fun s => m.holds s then of k a else of k b
  | .named n e => do
    let m ← of k e
    modify (⟨n, k.inside, m⟩ :: ·)
    return m
  | .function _ _ defaults _ => do
    let _ ← ofAll k defaults
    return vague "function"
  | .gathered g heads clauses => do
    let items ← ofSource k clauses
    let gather := ofClauses k.within items (fun k => ofAll k heads) clauses
    if g = .generator then attempted gather
    else
      let found ← gather
      asking fun s => gatheredOf s g found
  | .clause .. | .awaited _ | .yielded _ => return unknown

def ofOption (k : Known) : Option Expression → Reading (Option Meaning)
  | none => return none
  | some e => return some (← of k e)

def ofAll (k : Known) : List Expression → Reading (List Meaning)
  | [] => return []
  | e :: es => do
    let m ← of k e
    let items ← if e matches .spread _ then spreadOver m else pure [m]
    return items ++ (← ofAll k es)

def ofMembers (k : Known) : List Expression → Reading (List Meaning)
  | [] => return []
  | e :: es => do
    let m ← of k e
    let items ← if e matches .spread _ then passedOver m else pure [m]
    return items ++ (← ofMembers k es)

def ofEntries (k : Known) : List Expression → Reading (List Meaning)
  | [] => return []
  | e :: es => do
    let m ← of k e
    let entries ← if e matches .merged _ then
        match entries? (← theStore) m, m with
        | some (keys, values), _ => pure ((keys.zip values).map fun e => row [e.1, e.2])
        | none, unknown => pure []
        | none, m => refuse (.argument (.entriesOf (m.kind (← theStore))))
      else pure [m]
    return entries ++ (← ofEntries k es)

/-- The arguments in places. A single one that gives them all is left as it is. -/
def ofPlaces (k : Known) (lone : Bool) : List Expression → Reading (List Meaning)
  | [] => return []
  | e :: es => do
    if e matches .keyword .. | .merged _ then ofPlaces k lone es
    else
      let m ← of k e
      let items ← if !lone && (e matches .spread _) then spreadOver m else pure [m]
      return items ++ (← ofPlaces k lone es)

def ofNames (k : Known) (callee : Except Fault String) (names : List (String × Meaning)) :
    List Expression → Reading (List (String × Meaning))
  | [] => return names
  | .keyword n e :: es => do
    let m ← of k e
    ofNames k callee (← asking fun _ => enterNames callee names [(n, m)]) es
  | .merged e :: es => do
    let m ← of k e
    let found ← asking fun s => namesOfEntries s callee m
    ofNames k callee (← asking fun _ => enterNames callee names found) es
  | _ :: es => ofNames k callee names es

def ofComparison (k : Known) :
    List String → Option Meaning → List Expression → Reading Meaning
  | _, left?, [] => return left?.getD ellipsis
  | ops, none, e :: es => do
    let m ← of k e
    ofComparison k ops (some m) es
  | [], some m, _ :: _ => return m
  | op :: ops, some left, e :: es => do
    let right ← of k e
    let held ← asking fun s => binary s op left right
    if es.isEmpty then return held
    else if ← asking fun s => held.holds s then ofComparison k ops (some right) es
    else return held

def ofSource (k : Known) : List Expression → Reading (List Meaning)
  | .clause _ _ source _ :: _ => do passedOver (← of k source)
  | _ => return []

def ofClauses (k : Known) (items : List Meaning)
    (next : Known → Reading (List Meaning)) : List Expression → Reading (List Meaning)
  | [] => next k
  | c :: cs => ofClause k items (fun k => do
      let items ← ofSource k cs
      ofClauses k items next cs) c

def ofClause (k : Known) (items : List Meaning)
    (next : Known → Reading (List Meaning)) : Expression → Reading (List Meaning)
  | .clause _ target _ tests => do
    let found ← items.mapM fun m => do
      let k := { k with taken := taking (← theStore) m target ++ k.taken }
      if ← allHold k tests then next k else return []
    return found.flatten
  | _ => return []

def allHold (k : Known) : List Expression → Reading Bool
  | [] => return true
  | e :: es => do
    let m ← of k e
    if ← asking fun s => m.holds s then allHold k es else return false

end

def ofExpression (around : Surroundings) (e : Expression) : Operation Meaning :=
  (of { around } e).run' []

end Meaning

end Criteria
