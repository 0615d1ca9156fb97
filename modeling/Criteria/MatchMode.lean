set_option autoImplicit false

namespace Criteria

inductive MatchMode where
  | exact
  | starting
  | ending
  | anywhere
  deriving DecidableEq, Repr

namespace MatchMode

def all : List MatchMode := [exact, starting, ending, anywhere]

def label : MatchMode → String
  | exact => "exact"
  | starting => "prefix"
  | ending => "suffix"
  | anywhere => "anywhere"

def name : MatchMode → String
  | exact => "EXACT"
  | starting => "PREFIX"
  | ending => "SUFFIX"
  | anywhere => "ANYWHERE"

/-- Every name of a mode, in the order of introduction. Two modes have a second name. -/
def names : List (String × MatchMode) :=
  all.map (fun m => (m.name, m)) ++ [("START", starting), ("END", ending)]

def ofLabel? (s : String) : Option MatchMode := all.find? fun m => m.label = s

def ofName? (s : String) : Option MatchMode := (names.find? fun n => n.1 = s).map (·.2)

def wildcard : String := "%"

def pattern (m : MatchMode) (s : String) : String :=
  match m with
  | exact => s
  | starting => s ++ wildcard
  | ending => wildcard ++ s
  | anywhere => wildcard ++ s ++ wildcard

theorem ofLabel?_label (m : MatchMode) : ofLabel? m.label = some m := by
  cases m <;> decide

theorem ofName?_name (m : MatchMode) : ofName? m.name = some m := by
  cases m <;> decide

end MatchMode

end Criteria
