import Criteria.Model.Meaning.Arithmetic
import Criteria.Model.Meaning.Formatted
import Criteria.Model.Meaning.Held
import Criteria.Model.Meaning.Union

set_option autoImplicit false

namespace Criteria

namespace Meaning

def joinedKinds : List String :=
  ["tuple", "Point", "str", "list", "collections.deque", "bytes", "bytearray"]

def joined (s : Store) (a b : Meaning) : Except Fault Meaning :=
  let (left, right) := (a.kind s, b.kind s)
  match a, b, a.rowItems?, b.rowItems?, a.listItems? s, b.listItems? s with
  | value (.text _ t), value (.text _ u), _, _, _, _ => .ok (ofPlainText (t ++ u))
  | value (.bytes _ x), value (.bytes _ y), _, _, _, _ => .ok (value (.bytes none (x ++ y)))
  | _, _, some xs, some ys, _, _ => .ok (row (xs ++ ys))
  | _, _, _, _, some xs, some ys => .ok (list (xs ++ ys))
  | _, _, _, _, _, _ =>
    if left = "bytes" || left = "bytearray" then
      if right = "bytes" || right = "bytearray" then .ok (vague left)
      else .error (.bytesExtended left right)
    else if joinedKinds.contains left then
      if left = right then .ok (vague left)
      else
        let own := if left = "collections.deque" then "deque"
          else if left = "Point" then "tuple" else left
        .error (.onlyConcatenates own right)
    else unsupported s "+" a b

/-- Rows that would be longer than this are not written out. -/
def writtenOutSize : Nat := 100000

def repeatedItems {α : Type} (count : Nat) (items : List α) : List α :=
  (List.replicate count items).flatten

def repetition (s : Store) (m : Meaning) (n : Int) : Meaning :=
  let count := n.toNat
  let fits (size : Nat) : Bool := size * count ≤ writtenOutSize
  match m, m.rowItems?, m.listItems? s with
  | _, some items, _ => if fits items.length then row (repeatedItems count items) else vague "tuple"
  | _, _, some items => if fits items.length then list (repeatedItems count items) else vague "list"
  | value (.text _ t), _, _ =>
    if fits t.length then ofPlainText (String.ofList (repeatedItems count t.toList))
    else vague "str"
  | value (.bytes _ data), _, _ =>
    if fits data.length then value (.bytes none (repeatedItems count data)) else vague "bytes"
  | m, _, _ => vague (m.kind s)

def repeated (s : Store) (a b : Meaning) : Except Fault Meaning :=
  let joins := joinedKinds.contains (a.kind s)
  let (m, count) := if joins then (a, b) else (b, a)
  if !joinedKinds.contains (m.kind s) then unsupported s "*" a b
  else match count.whole? with
    | some n => .ok (repetition s m n)
    | none =>
      if ["bool", "int"].contains (count.kind s) then .ok (vague (m.kind s))
      else .error (.notRepeated (count.kind s))

def setItems? (s : Store) : Meaning → Option (Bool × List Meaning)
  | set fixed items => some (fixed, items)
  | value v =>
    match s.cellOf? v with
    | some (.set fixed members) => some (fixed, members.map fun m => ofValue m.value)
    | _ => none
  | _ => none

def entries? (s : Store) : Meaning → Option (List Meaning × List Meaning)
  | dictionary keys values => some (keys, values)
  | value v =>
    match s.cellOf? v with
    | some (.dict _ es) =>
      some (es.map fun e => ofValue e.key.value, es.map fun e => ofValue e.value)
    | _ => none
  | _ => none

def among (s : Store) (items : List Meaning) (m : Meaning) : Except Fault Bool :=
  items.anyM (same s m)

def without (s : Store) (items others : List Meaning) : Except Fault (List Meaning) :=
  items.filterM fun m => do return !(← among s others m)

def setOperators : List String := ["|", "&", "-", "^"]

def united (s : Store) (op : String) (xs ys : List Meaning) : Except Fault (List Meaning) := do
  match op with
  | "|" => distinct s false (xs ++ ys)
  | "&" => xs.filterM (among s ys)
  | "-" => without s xs ys
  | _ => do .ok ((← without s xs ys) ++ (← without s ys xs))

def found? (s : Store) (key : Meaning) : List Meaning → List Meaning → Except Fault (Option Meaning)
  | k :: ks, v :: vs => do
    match ← found? s key ks vs with
    | some m => .ok (some m)
    | none => if ← same s key k then .ok (some v) else .ok none
  | _, _ => .ok none

def dictionaryOf (s : Store) (keys values : List Meaning) : Except Fault Meaning := do
  let kept ← distinct s false keys
  let values ← kept.mapM fun k => do return (← found? s k keys values).getD unknown
  .ok (dictionary kept values)

def beside (s : Store) (a b : Meaning) : Except Fault Meaning := do
  match entries? s a, entries? s b with
  | some (ks, vs), some (ls, ws) => dictionaryOf s (ks ++ ls) (vs ++ ws)
  | _, _ => barred s a b

def identities : List String := ["==", "!=", "is", "is not"]

/-- Whether two meanings are one. What an expression makes anew is one with nothing else. -/
def identical (s : Store) : Meaning → Meaning → Except Fault Bool
  | value v, value w => .ok (v.same w)
  | row [], row [] => .ok true
  | row _, _ | list _, _ | set .., _ | dictionary .., _ | generic .., _ | either _, _
  | imaginary _, _ | stream .., _ | bound .., _ => .ok false
  | a, b => same s a b

def memberships : List String := ["in", "not in"]

def isPart (t u : String) : Bool := (u.splitOn t).length != 1 || t.isEmpty

def bytes? (s : Store) : Meaning → Option (List UInt8)
  | value (.bytes _ data) => some data
  | value v =>
    match s.cellOf? v with
    | some (.byteArray data) => some data
    | _ => none
  | _ => none

def inBytes (s : Store) (a : Meaning) (data : List UInt8) : Except Fault Bool :=
  match a.whole?, bytes? s a with
  | some n, _ =>
    if 0 ≤ n && n < 256 then .ok (data.any fun b => b.toNat = n.toNat)
    else .error .byteRange
  | none, some part =>
    .ok ((List.range (data.length + 1)).any fun i => part.isPrefixOf (data.drop i))
  | none, none => .error (.argument (.bytesNeeded (a.kind s)))

def contains (s : Store) (a b : Meaning) : Except Fault Bool := do
  match b, setItems? s b, entries? s b with
  | value (.text _ u), _, _ =>
    match a with
    | value (.text _ t) => .ok (isPart t u)
    | a => .error (.notInText (a.kind s))
  | _, some (_, items), _ | _, _, some (items, _) => do
    distinguishable s a
    among s items a
  | b, _, _ =>
    match b.items s with
    | .ok items => among s items a
    | .error (.notIterable kind) => .error (.notContainer kind)
    | .error f => .error f

def firstDifference (s : Store) : List Meaning → List Meaning →
    Except Fault ((Meaning × Meaning) ⊕ Ordering)
  | [], [] => .ok (.inr .eq)
  | [], _ :: _ => .ok (.inr .lt)
  | _ :: _, [] => .ok (.inr .gt)
  | a :: as, b :: bs => do
    if ← same s a b then firstDifference s as bs else .ok (.inl (a, b))

def ofOrdering (op : String) (o : Ordering) : Bool :=
  compared op (if o = .lt then 0 else 1) (if o = .gt then 0 else 1)

def comparableKinds : List String :=
  joinedKinds ++ ["set", "frozenset", "datetime.date", "datetime.datetime", "datetime.time"]

def atomsOrdered (s : Store) (op : String) (a b : Meaning) : Except Fault Meaning :=
  let (left, right) := (a.kind s, b.kind s)
  match numeric? s a, numeric? s b, a, b with
  | some x, some y, _, _ => numbersOrdered s op a b x y
  | _, _, value (.text _ t), value (.text _ u) =>
    .ok (ofTruth (ofOrdering op (compare t u)))
  | _, _, value (.bytes _ x), value (.bytes _ y) =>
    .ok (ofTruth (ofOrdering op (compare (x.map UInt8.toNat) (y.map UInt8.toNat))))
  | _, _, value (.date _ d), value (.date _ e) =>
    .ok (ofTruth (ofOrdering op (compare d.parts e.parts)))
  | _, _, _, _ =>
    if left = right && comparableKinds.contains left then .ok (vague "bool")
    else .error (.notOrdered op left right)

def ordered (s : Store) (op : String) (a b : Meaning) : Except Fault Meaning := do
  let sequences := match a.rowItems?, b.rowItems? with
    | some xs, some ys => some (xs, ys)
    | _, _ => match a.listItems? s, b.listItems? s with
      | some xs, some ys => some (xs, ys)
      | _, _ => none
  match sequences, setItems? s a, setItems? s b with
  | some (xs, ys), _, _ =>
    match ← firstDifference s xs ys with
    | .inr o => .ok (ofTruth (ofOrdering op o))
    | .inl (x, y) => atomsOrdered s op x y
  | none, some (_, xs), some (_, ys) =>
    let (small, large) := if op = "<" || op = "<=" then (xs, ys) else (ys, xs)
    let within ← small.allM (among s large)
    .ok (ofTruth (within && (op = "<=" || op = ">=" || small.length != large.length)))
  | _, _, _ => atomsOrdered s op a b

def differs (op : String) (same : Bool) : Meaning :=
  ofTruth (if op = "==" || op = "is" || op = "in" then same else !same)

def combined (s : Store) (op : String) (a b : Meaning) : Except Fault Meaning := do
  match setItems? s a, setItems? s b with
  | some (fixed, xs), some (_, ys) =>
    if setOperators.contains op then .ok (set fixed (← united s op xs ys))
    else if orderings.contains op then ordered s op a b
    else unsupported s op a b
  | _, _ =>
    if op = "+" then joined s a b
    else if op = "*" then repeated s a b
    else if op = "|" then beside s a b
    else if orderings.contains op then ordered s op a b
    else match op, a with
      | "%", value (.text _ t) => formatted s t b
      | "%", value (.bytes ..) | "%", value (.shared _) =>
        if ["bytes", "bytearray"].contains (a.kind s) then .ok (vague (a.kind s))
        else unsupported s op a b
      | "-", value (.date ..) =>
        if b matches value (.date ..) then .ok (vague "datetime.timedelta")
        else unsupported s op a b
      | "-", value (.moment ..) =>
        if b matches value (.moment ..) then .ok (vague "datetime.timedelta")
        else unsupported s op a b
      | op, a => unsupported s (if op = "**" then "** or pow()" else op) a b

def binary (s : Store) (op : String) (a b : Meaning) : Except Fault Meaning := do
  if (a matches unknown) || (b matches unknown) then .ok unknown
  else if op = "==" || op = "!=" then .ok (differs op (← same s a b))
  else if op = "is" || op = "is not" then .ok (differs op (← identical s a b))
  else if memberships.contains op then .ok (differs op (← contains s a b))
  else match numeric? s a, numeric? s b with
    | some x, some y =>
      if orderings.contains op then numbersOrdered s op a b x y else calculated s op a b x y
    | _, _ => combined s op a b

def unary (s : Store) (op : String) (m : Meaning) : Except Fault Meaning := do
  let refused : Except Fault Meaning := .error (.unsupportedOperand op (m.kind s))
  match op, m.whole?, numeric? s m with
  | "not", _, _ => if m matches unknown then .ok unknown else .ok (ofTruth !(← m.holds s))
  | "-", some n, _ => .ok (ofWhole (-n))
  | "+", some n, _ => .ok (ofWhole n)
  | "~", some n, _ => .ok (ofWhole (-n - 1))
  | op, none, some (.whole _) => if op = "~" then .ok (vague "int") else .ok (vague (m.kind s))
  | op, none, some (.real (some x)) =>
    match op, x with
    | "~", _ => refused
    | "-", .finite negative n e => .ok (ofReal (.finite (!negative) n e))
    | "-", .infinite negative => .ok (ofReal (.infinite (!negative)))
    | _, x => .ok (ofReal x)
  | op, none, some (.decimal signals) =>
    if op = "~" then refused
    else if signals then .error .signalingComparison
    else .ok (vague (m.kind s))
  | op, _, some _ => if op = "~" then refused else .ok (vague (m.kind s))
  | _, _, none => if m matches unknown then .ok unknown else refused

end Meaning

end Criteria
