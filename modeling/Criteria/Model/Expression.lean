set_option autoImplicit false

namespace Criteria

inductive Constant where
  | nothing
  | no
  | yes
  | ellipsis
  deriving DecidableEq, Repr

inductive Gathering where
  | list
  | set
  | dictionary
  | generator
  deriving DecidableEq, Repr

inductive Expression where
  | name (n : String)
  | constant (c : Constant)
  | whole (n : Int)
  | real (written : String)
  | imaginary (written : String)
  | text (s : String)
  | bytes (data : List UInt8)
  | composed (parts : List Expression)
  /-- An expression in a text. It is shown as the letter asks, in the form that other parts tell. -/
  | inserted (e : Expression) (shownAs : Option Char) (form : Option Expression)
  | row (items : List Expression)
  | list (items : List Expression)
  | set (items : List Expression)
  | dictionary (entries : List Expression)
  | entry (key value : Expression)
  | spread (e : Expression)
  | merged (e : Expression)
  | keyword (n : String) (e : Expression)
  | member (e : Expression) (n : String)
  | item (e key : Expression)
  | slice (bounds : List Expression)
  | call (e : Expression) (arguments : List Expression)
  | unary (op : String) (e : Expression)
  | binary (op : String) (left right : Expression)
  | comparison (ops : List String) (operands : List Expression)
  | choice (test yes no : Expression)
  | named (n : String) (e : Expression)
  /-- A function without a name. `single` tells whether each parameter takes one argument, in its
  place or by its name. -/
  | function (parameters : List String) (single : Bool) (defaults : List Expression)
      (body : Expression)
  | gathered (g : Gathering) (heads clauses : List Expression)
  /-- What takes in turn all that another expression holds, when tests hold. -/
  | clause (waits : Bool) (target source : Expression) (tests : List Expression)
  | awaited (e : Expression)
  | yielded (parts : List Expression)
  deriving Repr, Inhabited

namespace Expression

def reservedWords : List String :=
  ["False", "None", "True", "and", "as", "assert", "async", "await", "break", "class", "continue",
   "def", "del", "elif", "else", "except", "finally", "for", "from", "global", "if", "import", "in",
   "is", "lambda", "nonlocal", "not", "or", "pass", "raise", "return", "try", "while", "with",
   "yield"]

def softWords : List String := ["_", "case", "match"]

def isSoft (n : String) : Bool := softWords.any fun w => w.startsWith n

def called : Expression → String
  | name _ => "name"
  | constant .nothing => "None"
  | constant .no => "False"
  | constant .yes => "True"
  | constant .ellipsis => "ellipsis"
  | whole _ | real _ | imaginary _ | text _ | bytes _ => "literal"
  | composed _ | inserted .. => "f-string expression"
  | row _ => "tuple"
  | list _ => "list"
  | set _ => "set display"
  | dictionary _ | entry .. | merged _ => "dict literal"
  | spread _ => "starred"
  | keyword .. | call .. => "function call"
  | member .. => "attribute"
  | item .. | slice _ => "subscript"
  | unary .. | binary .. => "expression"
  | comparison .. => "comparison"
  | choice .. => "conditional expression"
  | named .. => "named expression"
  | function .. => "lambda"
  | gathered .list .. => "list comprehension"
  | gathered .set .. => "set comprehension"
  | gathered .dictionary .. => "dict comprehension"
  | gathered .generator .. | clause .. => "generator expression"
  | awaited _ => "await expression"
  | yielded _ => "yield expression"

/-- What something is to be a target of. -/
inductive Purpose where
  | assignment
  /-- A comparison by membership is no target itself: its first operand is. -/
  | iteration
  | deletion
  deriving DecidableEq, Repr

mutual

def untargeted? (p : Purpose) : Expression → Option Expression
  | row items | list items => firstUntargeted? p items
  | spread e => if p = .deletion then some (spread e) else untargeted? p e
  | comparison ops operands =>
    if p = .iteration then
      if ops.head? = some "in" then headUntargeted? p operands else none
    else some (comparison ops operands)
  | name _ | member .. | item .. => none
  | e => some e

def firstUntargeted? (p : Purpose) : List Expression → Option Expression
  | [] => none
  | e :: es => (untargeted? p e).or (firstUntargeted? p es)

def headUntargeted? (p : Purpose) : List Expression → Option Expression
  | [] => none
  | e :: _ => untargeted? p e

end

def targetFault? (p : Purpose) (e : Expression) : Option String :=
  (untargeted? p e).map fun e =>
    (if p = .deletion then "cannot delete " else "cannot assign to ") ++ e.called

theorem untargeted?_name (p : Purpose) (n : String) : untargeted? p (name n) = none := by
  simp [untargeted?]

theorem untargeted?_member (p : Purpose) (e : Expression) (n : String) :
    untargeted? p (member e n) = none := by
  simp [untargeted?]

end Expression

end Criteria
