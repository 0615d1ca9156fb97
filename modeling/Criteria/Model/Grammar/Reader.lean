import Criteria.Model.Grammar.Form
import Criteria.Model.Quotation
import Criteria.Number.Whole

/-! Reading tokens by a grammar. Ways are tried in order, and the first that fits counts. What some
rules find at a place is kept, so that it is found once. A text that does not fit is read again with
the ways that tell what is wrong, and when none of them does, the furthest token of the first
reading is to blame.
-/

set_option autoImplicit false

namespace Criteria.Grammar

structure Source where
  ways : Rule → List Way
  keeps : Rule → Bool
  /-- Reads the expression that stands in a quotation of a line, so many lines behind its begin. -/
  inside : Nat → Quotation.Inside
  lead : String
  tokens : Tokens
  late : Bool

/-- What a reader has learned. -/
structure Learned where
  kept : Array (List (Rule × Option (Part × Nat)))
  furthest : Nat

abbrev Reading (α : Type) := EStateM Flaw Learned α

namespace Source

def led (g : Source) (f : Flaw) : Flaw := { f with reason := g.lead ++ f.reason }

def fail {α : Type} (g : Source) (f : Flaw) : Reading α := throw (g.led f)

def look (g : Source) (place : Nat) : Reading Placed := do
  modify fun l => { l with furthest := max l.furthest place }
  match g.tokens.all[place]?, g.tokens.halt with
  | some p, _ => return p
  | none, .flawed f => throw f
  | none, .broken f => g.fail f
  | none, .done => return ⟨.ending, 0, 0⟩

def lineAt (g : Source) (place : Nat) : Nat := (g.tokens.all[place]?.map Placed.line).getD 0

def lastLine (g : Source) : Reading Nat := return g.lineAt (← get).furthest

def single (g : Source) (place : Nat) (test : Placed → Bool) : Reading (Option (Part × Nat)) := do
  let p ← g.look place
  return if test p then some (.token p, place + 1) else none

def tooLong? (written : String) : Option String :=
  let digits := written.toList.filter (· != '_')
  if digits.all Char.isDigit && Whole.digitLimit < digits.length then
    some ((Fault.tooManyDigits (some digits.length)).message ++
      " - Consider hexadecimal for huge integer literals to avoid decimal conversion limits.")
  else none

def number (g : Source) (place : Nat) : Reading (Option (Part × Nat)) := do
  let p ← g.look place
  match p.token with
  | .number w =>
    match tooLong? w with
    | some reason => g.fail { reason, line := p.line }
    | none => return some (.token p, place + 1)
  | _ => return none

def quotations (g : Source) : Nat → Nat → Reading (List Placed × Nat)
  | 0, place => return ([], place)
  | steps + 1, place => do
    let p ← g.look place
    match p.token with
    | .quotation _ =>
      let (ps, next) ← quotations g steps (place + 1)
      return (p :: ps, next)
    | _ => return ([], place)

def quoted (g : Source) (place : Nat) : Reading (Option (Part × Nat)) := do
  match ← g.quotations (g.tokens.all.size + 1) place with
  | ([], _) => return none
  | (ps, next) =>
    match Quotation.read g.inside ps with
    | .ok e => return some (.expression (g.lineAt place) e, next)
    | .error (.inside f) => throw f
    | .error (.begun reason line) => g.fail { reason, line }
    | .error (.here reason) => g.fail { reason, line := ← g.lastLine }

def kept (g : Source) (read : Reading (Option (Part × Nat))) (r : Rule) (place : Nat) :
    Reading (Option (Part × Nat)) := do
  if g.keeps r then
    match ((← get).kept[place]?).bind fun found => found.lookup r with
    | some found => return found
    | none =>
      let found ← read
      modify fun l => { l with kept := l.kept.modify place ((r, found) :: ·) }
      return found
  else read

mutual

def form (g : Source) : Nat → Form → Nat → Reading (Option (Part × Nat))
  | 0, _, _ => return none
  | steps + 1, f, place => do
    match f with
    | .mark s => g.single place fun p => p.token == .mark s || p.token == .name s
    | .name => g.single place fun p => p.name?.isSome
    | .softWord => g.single place fun p => p.name?.any Expression.isSoft
    | .number => g.number place
    | .quotation => g.single place fun p => (p.token matches .quotation _)
    | .lineEnd => g.single place fun p => p.token == .lineEnd
    | .indent => g.single place fun p => p.token == .indent
    | .dedent => g.single place fun p => p.token == .dedent
    | .ending => g.single place fun p => p.token == .ending
    | .rule .strings => g.kept (g.quoted place) .strings place
    | .rule r => g.kept (rule g steps r place) r place
    | .sequence fs =>
      match ← sequence g steps fs place with
      | (some (ps, next), _) => return some (.all ps, next)
      | (none, _) => return none
    | .any fs => any g steps fs place
    | .maybe f => return (← form g steps f place).getD (.nothing, place)
    | .many f =>
      let (ps, next) ← many g steps f place
      return some (.all ps, next)
    | .several f =>
      let (ps, next) ← many g steps f place
      return if ps.isEmpty then none else some (.all ps, next)
    | .parted s f =>
      match ← form g steps f place with
      | none => return none
      | some (p, next) =>
        let (ps, next) ← many g steps (.sequence [.mark s, f]) next
        return some (.all (p :: ps), next)
    | .ahead f => return (← form g steps f place).map fun _ => (.nothing, place)
    | .notAhead f => return if (← form g steps f place).isSome then none else some (.nothing, place)
    | .cut => return some (.nothing, place)
    | .must s =>
      let p ← g.look place
      if p.token == .mark s || p.token == .name s then return some (.token p, place + 1)
      else g.fail { reason := s!"expected '{s}'", line := p.line }

/-- Reads forms one behind another, and tells whether no other way may be tried. -/
def sequence (g : Source) : Nat → List Form → Nat → Reading (Option (List Part × Nat) × Bool)
  | 0, _, _ => return (none, false)
  | _, [], place => return (some ([], place), false)
  | steps + 1, f :: fs, place => do
    match ← form g steps f place with
    | none => return (none, false)
    | some (p, next) =>
      let (found, only) ← sequence g steps fs next
      let only := only || (f matches .cut)
      return (found.map fun (ps, next) => (p :: ps, next), only)

def any (g : Source) : Nat → List Form → Nat → Reading (Option (Part × Nat))
  | 0, _, _ => return none
  | _, [], _ => return none
  | steps + 1, f :: fs, place => do
    match ← form g steps f place with
    | some found => return some found
    | none => any g steps fs place

def many (g : Source) : Nat → Form → Nat → Reading (List Part × Nat)
  | 0, _, place => return ([], place)
  | steps + 1, f, place => do
    match ← form g steps f place with
    | none => return ([], place)
    | some (p, next) =>
      let (ps, next) ← many g steps f next
      return (p :: ps, next)

def rule (g : Source) : Nat → Rule → Nat → Reading (Option (Part × Nat))
  | 0, _, _ => return none
  | steps + 1, r, place =>
    let g := if r = .bareExpression then { g with late := false } else g
    firstOf g steps (g.ways r) place

def firstOf (g : Source) : Nat → List Way → Nat → Reading (Option (Part × Nat))
  | 0, _, _ => return none
  | _, [], _ => return none
  | steps + 1, w :: ws, place => do
    if w.late && !g.late then firstOf g steps ws place
    else match ← sequence g steps w.forms place with
      | (some (parts, next), _) =>
        let depth := (g.tokens.all[next - 1]?.map Placed.depth).getD 0
        match w.make ⟨parts, g.lineAt place, ← g.lastLine, depth⟩ with
        | .part p => return some (p, next)
        | .flaw f => g.fail f
        | .failure => return none
      | (none, true) => return none
      | (none, false) => firstOf g steps ws place

end

def begun (g : Source) (furthest : Nat) : Learned :=
  ⟨Array.replicate (g.tokens.all.size + 1) [], furthest⟩

/-- What is told when a reader has failed with a flaw after it came so far. A flaw of the tokens
comes first, and a bracket that stays open when the reader went on behind its line. -/
def settled (g : Source) (furthest : Nat) (f : Flaw) : Flaw :=
  if g.tokens.all.size ≤ furthest then f
  else match g.tokens.halt, g.tokens.opened? with
    | .flawed first, _ => first
    | .broken _, some o =>
      if o.line < g.lineAt furthest then g.led (Token.Scan.unclosed o) else f
    | _, _ => f

def unread (g : Source) (blamed furthest : Nat) : Flaw :=
  let p := (g.tokens.all[blamed]?).getD ⟨.ending, 0, 0⟩
  match p.token with
  | .indent => g.led { reason := "unexpected indent", line := p.line, kind := .indentation }
  | .dedent => g.led { reason := "unexpected unindent", line := p.line, kind := .indentation }
  | _ => g.settled furthest (g.led { reason := "invalid syntax", line := p.line })

/-- No rule needs more steps for each token than there are rules with their forms. -/
def steps (g : Source) : Nat := 4000 * (g.tokens.all.size + 2)

def read (g : Source) (r : Rule) : Except Flaw Part :=
  match (form { g with late := false } g.steps (.rule r) 0).run (g.begun 0) with
  | .ok (some (p, _)) _ => .ok p
  | .error f l => .error (g.settled l.furthest f)
  | .ok none l =>
    match (form { g with late := true } g.steps (.rule r) 0).run (g.begun l.furthest) with
    | .error f m => .error (g.settled m.furthest f)
    | .ok _ m => .error (g.unread l.furthest m.furthest)

end Source

end Criteria.Grammar
