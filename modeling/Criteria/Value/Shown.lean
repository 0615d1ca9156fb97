import Criteria.Number.Whole
import Criteria.Value.Called

/-! How values stand inside messages. The shown form tells values of different classes apart; the
plain form is what a value adds to a text. Parts are shown in order, and the first part that cannot
be shown refuses the whole. A collection is not shown again inside itself.
-/

set_option autoImplicit false

namespace Criteria

def commaSeparated (parts : List String) : String := ", ".intercalate parts

def enclosed (opening closing : String) (parts : List String) : String :=
  opening ++ commaSeparated parts ++ closing

def listText (parts : List String) : String := enclosed "[" "]" parts

def tupleText : List String → String
  | [p] => "(" ++ p ++ ",)"
  | parts => enclosed "(" ")" parts

def callText (name : String) (parts : List String) : String := enclosed (name ++ "(") ")" parts

def numbersText (name : String) (parts : List Nat) : String := callText name (parts.map toString)

def rangeText (first stop step : Int) : Except Fault String := do
  let first ← Whole.written first
  let stop ← Whole.written stop
  if step = 1 then .ok (callText "range" [first, stop])
  else do .ok (callText "range" [first, stop, ← Whole.written step])

inductive Frame where
  | cell (h : Handle)
  | row (mark : Nat)
  deriving DecidableEq, Repr

namespace Frame

def holdsRow (around : List Frame) (mark : Mark) : Bool := mark.any fun m => around.contains (row m)

def within (around : List Frame) (mark : Mark) : List Frame :=
  match mark with
  | some m => row m :: around
  | none => around

end Frame

/-- How a cell is shown inside the collections that are being shown. -/
abbrev Look := List Frame → Handle → Except Fault String

namespace Value

mutual

def shownWith (look : Look) (around : List Frame) : Value → Except Fault String
  | null => .ok "None"
  | unset => .ok "PydanticUndefined"
  | truth b => .ok (if b then "True" else "False")
  | int _ n => Whole.written n
  | text _ s => .ok (Text.quoted s)
  | float _ w => .ok w
  | decimal _ w => .ok (callText "Decimal" [Text.quoted w])
  | bytes _ data => .ok (Text.quotedBytes data)
  | date _ d => .ok (numbersText "datetime.date" d.parts)
  | moment _ d t => .ok (numbersText "datetime.datetime" (d.parts ++ t.parts))
  | time _ t => .ok (numbersText "datetime.time" t.parts)
  | range _ first stop step => rangeText first stop step
  | tuple mark items =>
    if Frame.holdsRow around mark then .ok "(...)"
    else do
      let parts ← shownAll look (Frame.within around mark) items
      .ok (tupleText parts)
  | point _ items => do
    let parts ← shownAll look around items
    .ok (callText "Point" (["x=", "y="].zipWith (· ++ ·) parts))
  | mode m => .ok ("<MatchMode." ++ m.name ++ ": " ++ Text.quoted m.label ++ ">")
  | classOf c => .ok c.shown
  | query _ t args => do
    let t ← shownWith look around t
    let args ← shownWith look around args
    .ok (callText "BuiltQuery" ["text=" ++ t, "args=" ++ args])
  | shared h => look around h

def shownAll (look : Look) (around : List Frame) : List Value → Except Fault (List String)
  | [] => .ok []
  | v :: vs => do
    let p ← shownWith look around v
    let ps ← shownAll look around vs
    .ok (p :: ps)

end

def shownEntries (look : Look) (around : List Frame) (join : String → String → String) :
    List Entry → Except Fault (List String)
  | [] => .ok []
  | e :: rest => do
    let k ← shownWith look around e.key.value
    let v ← shownWith look around e.value
    let ps ← shownEntries look around join rest
    .ok (join k v :: ps)

def shownNamed (look : Look) (around : List Frame) :
    List (String × Value) → Except Fault (List String)
  | [] => .ok []
  | (n, v) :: rest => do
    if n.isEmpty then shownNamed look around rest
    else
      let v ← shownWith look around v
      let ps ← shownNamed look around rest
      .ok ((n ++ "=" ++ v) :: ps)

end Value

open Value

def Builder.shownWith (look : Look) (around : List Frame) (args : Except Fault String)
    (b : Builder) : Except Fault String := do
  let base ← b.base.shownWith look around
  let args ← args
  let index ← Whole.written b.index
  let order ← match b.order with
    | none => .ok []
    | some o => do .ok ["order_by=" ++ (← o.shownWith look around)]
  let conditions :=
    if b.conditions.isEmpty then []
    else ["conditions=" ++ listText (b.conditions.map Text.quoted)]
  .ok (callText "ConditionBuilder" (["base_text=" ++ base] ++ conditions ++
    ["args=" ++ args, "index=" ++ index] ++ order))

namespace Cell

def shownWith (look : Look) (around : List Frame) : Cell → Except Fault String
  | list items => do .ok (listText (← shownAll look around items))
  | deque items => do .ok (enclosed "deque([" "])" (← shownAll look around items))
  | set fixed members => do
    let parts ← shownAll look around (members.map Member.value)
    let text := enclosed "\x7b" "\x7d" parts
    .ok (match fixed, parts.isEmpty with
      | false, true => "set()"
      | true, true => "frozenset()"
      | false, false => text
      | true, false => "frozenset(" ++ text ++ ")")
  | dict false entries => do
    .ok (enclosed "\x7b" "\x7d" (← shownEntries look around (fun k v => k ++ ": " ++ v) entries))
  | dict true entries => do
    let parts ← shownEntries look around (fun k v => tupleText [k, v]) entries
    .ok (if parts.isEmpty then "OrderedDict()" else enclosed "OrderedDict([" "])" parts)
  | byteArray data => .ok (callText "bytearray" [Text.quotedByteArray data])
  | bag items => do .ok (enclosed "Bag([" "])" (← shownAll look around items))
  | sized length => do .ok (callText "Sized" [← Whole.written length])
  | thing className => .ok ("<" ++ className ++ ">")
  | undefined .binary w => .ok w
  | undefined _ w => .ok (callText "Decimal" [Text.quoted w])
  | field none => .error (.noAttribute "Field" "_path")
  | field (some path) => do .ok (callText "Field" ["path=" ++ (← path.shownWith look around)])
  | fieldSet entries => do .ok (callText "namespace" (← shownNamed look around entries))
  | builder b => b.shownWith look around do .ok (listText (← shownAll look around b.args))
  | c => .ok ("<" ++ c.shortName ++ " object>")

/-- What stands for a collection inside itself. Of other cells there is nothing that does. -/
def innerText? : Cell → Option String
  | list _ => some "[...]"
  | deque _ => some "[...]"
  | dict false _ => some "\x7b...\x7d"
  | dict true _ => some "..."
  | bag _ => some "Bag([...])"
  | fieldSet _ => some "namespace(...)"
  | _ => none

def shownProduct (look : Look) (around : List Frame) : Product → Except Fault String
  | .value v => v.shownWith look around
  | .cell c => c.shownWith look around

end Cell

namespace Store

/-- Shows a cell with at most `depth` cells inside one another. What callers gave to a builder in
place of the call for its arguments is called instead. -/
def cellShown (s : Store) : Nat → Look
  | 0, _, _ => .error (.endless .showing)
  | depth + 1, around, h =>
    let look := s.cellShown depth
    match s.cell? h with
    | none => .ok "<object>"
    | some c =>
      match c.innerText?, c, s.givenTo? (.shared h) "args" with
      | some t, c, _ =>
        if around.contains (.cell h) then .ok t else c.shownWith look (.cell h :: around)
      | none, .builder b, some w =>
        b.shownWith look around do Cell.shownProduct look around (← s.called w)
      | none, c, _ => c.shownWith look around

/-- Between two collections each cell is met once at most, unless there is no end. -/
def showingDepth (s : Store) : Nat := (s.size + s.marks + 1) * (s.size + 1)

def look (s : Store) : Look := s.cellShown s.showingDepth

def shown (s : Store) (v : Value) : Except Fault String := v.shownWith s.look []

def shownList (s : Store) (vs : List Value) : Except Fault String := do
  .ok (listText (← shownAll s.look [] vs))

def plain (s : Store) : Value → Except Fault String
  | .text _ t => .ok t
  | .decimal _ w => .ok w
  | .date _ d => .ok d.written
  | .moment _ d t => .ok (d.written ++ " " ++ t.written)
  | .time _ t => .ok t.written
  | .mode m => .ok ("MatchMode." ++ m.name)
  | .shared h =>
    match s.cell? h with
    | some (.field (some (.text _ t))) => .ok t
    | some (.field (some v)) => .error (.notText (s.longName v))
    | some (.undefined _ w) => .ok w
    | _ => s.shown (.shared h)
  | v => s.shown v

@[simp] theorem plain_text (s : Store) (m : Mark) (t : String) : s.plain (.text m t) = .ok t := rfl

end Store

end Criteria
