import Criteria.Model.Expression
import Criteria.Model.Token

set_option autoImplicit false

namespace Criteria

namespace Placed

def word (p : Placed) : String :=
  match p.token with
  | .name s | .mark s => s
  | _ => ""

def name? (p : Placed) : Option String :=
  match p.token with
  | .name n => if Expression.reservedWords.contains n then none else some n
  | _ => none

end Placed

namespace Grammar

/-- What is read of a text. Rules that begin with `bad` find only what is wrong. -/
inductive Rule where
  -- texts
  | file | single | inserted
  -- statements
  | statement | simpleLine | simple | block | badBlock
  | assignment | badAssignment | badAnnotated | assigned | augmented
  | imported | importedNames | importedName | badImportedNames | deletion | badDeletion | dottedName
  | decorators | definition | bareDefinition | badDefinition
  | classDefinition | bareClass | badClass
  | conditional | badConditional | furtherConditional | badFurtherConditional
  | otherwise | badOtherwise | loop | badLoop | iteration | badIterationHead
  | context | badContext | badContextBlock | contextItem | badContextItem
  | attempt | badAttempt | handler | badHandler | badHandlerBlock
  | groupHandler | badGroupHandlerBlock | finish | badFinish
  -- parameters
  | parameters | badParameters | parameterList | slashed | slashedDefaults
  | afterStar | badAfterStar | keywords | badKeywords
  | plainParameter | starParameter | valuedParameter | anyParameter | parameter
  | default | badDefault
  -- parameters of functions without a name
  | lambdaParameters | badLambdaParameters | lambdaList | lambdaSlashed | lambdaSlashedDefaults
  | lambdaAfterStar | badLambdaAfterStar | lambdaKeywords | badLambdaKeywords
  | lambdaPlain | lambdaValued | lambdaAny | lambdaParameter
  -- expressions
  | expressions | expression | bareExpression | badExpression | badCall
  | yielded | starExpressions | starExpression | starItems | starItem
  | namedAssignment | namedExpression | badNamed
  | disjunction | conjunction | inversion | comparison | comparisonPair
  | bitOr | bitXor | bitAnd | shift | sum | term | factor | power | awaited | primary
  | slices | slice | atom | group | badGroup | function | strings
  | row | list | set | dictionary | entries | badEntries | badEntry | anyEntry | entry
  | clauses | clause | badIteration
  | listGathered | setGathered | dictionaryGathered | generator | badGathered
  | badDictionaryGathered
  | arguments | badArguments | argumentList | keywordArguments | spreadArgument
  | keywordOrSpread | keywordOrMerged | badKeyword
  -- targets
  | targets | targetItems | targetRow | target | memberTarget | targetAtom | singleTarget
  | singleMemberTarget | targetPrimary | deletedAll | deleted | deletedAtom
  deriving DecidableEq, Repr

inductive Form where
  | mark (s : String)
  | name
  | softWord
  | number
  | quotation
  | lineEnd
  | indent
  | dedent
  | ending
  | rule (r : Rule)
  | sequence (fs : List Form)
  | any (fs : List Form)
  | maybe (f : Form)
  | many (f : Form)
  | several (f : Form)
  | parted (s : String) (f : Form)
  | ahead (f : Form)
  | notAhead (f : Form)
  /-- No other way is tried any more. -/
  | cut
  /-- A mark without which nothing can be read. -/
  | must (s : String)

instance : Coe String Form := ⟨.mark⟩

instance : Coe Rule Form := ⟨.rule⟩

def followed (forms more : List Form) : List Form := forms ++ more

structure Definition where
  line : Nat
  parameters : List (String × Nat)
  deriving DecidableEq, Repr

inductive Part where
  | nothing
  | token (p : Placed)
  | expression (line : Nat) (e : Expression)
  | all (parts : List Part)
  | definition (d : Definition) (body : Part)
  deriving Repr, Inhabited

/-- What a way has found: its parts, its first line, the line of the last token that any reader has
looked at, and how many brackets are open behind it. -/
structure Found where
  parts : List Part
  line : Nat
  lastLine : Nat
  depth : Nat

inductive Outcome where
  | part (p : Part)
  | flaw (f : Flaw)
  | failure

structure Way where
  /-- Whether it is tried only when the text is known to be wrong. -/
  late : Bool
  forms : List Form
  make : Found → Outcome

namespace Part

mutual

def placed : Part → List (Nat × Expression)
  | expression l e => [(l, e)]
  | all ps => placedOf ps
  | _ => []

def placedOf : List Part → List (Nat × Expression)
  | [] => []
  | p :: ps => placed p ++ placedOf ps

end

def expressions (p : Part) : List Expression := p.placed.map (·.2)

mutual

def definitions : Part → List Definition
  | definition d body => d :: definitions body
  | all ps => definitionsOf ps
  | _ => []

def definitionsOf : List Part → List Definition
  | [] => []
  | p :: ps => definitions p ++ definitionsOf ps

end

mutual

def tokens : Part → List Placed
  | token p => [p]
  | all ps => tokensOf ps
  | _ => []

def tokensOf : List Part → List Placed
  | [] => []
  | p :: ps => tokens p ++ tokensOf ps

end

def expression? (p : Part) : Option Expression := p.expressions.head?

mutual

def line? : Part → Option Nat
  | token p => some p.line
  | expression l _ => some l
  | all ps => firstLine? ps
  | definition d _ => some d.line
  | nothing => none

def firstLine? : List Part → Option Nat
  | [] => none
  | p :: ps => (line? p).or (firstLine? ps)

end

end Part

namespace Found

def expressions (f : Found) : List Expression := (Part.all f.parts).expressions

def tokens (f : Found) : List Placed := (Part.all f.parts).tokens

def names (f : Found) : List String := f.tokens.filterMap Placed.name?

def words (f : Found) : List String := f.tokens.map Placed.word

def lineOf (f : Found) (place : Nat) : Nat := (f.parts[place]?.bind Part.line?).getD f.line

def expressionAt (f : Found) (place : Nat) : Expression :=
  (f.parts[place]?.bind Part.expression?).getD (.row [])

end Found

namespace Way

def kept (forms : List Form) : Way := ⟨false, forms, fun f => .part (.all f.parts)⟩

def plain (form : Form) : Way :=
  ⟨false, [form], fun f => .part (f.parts.headD .nothing)⟩

def makes (forms : List Form) (make : Found → Expression) : Way :=
  ⟨false, forms, fun f => .part (.expression f.line (make f))⟩

def takes (place : Nat) (forms : List Form) : Way :=
  ⟨false, forms, fun f => .part ((f.parts[place]?).getD .nothing)⟩

def watch (r : Rule) : Way := ⟨true, [.rule r], fun f => .part (f.parts.headD .nothing)⟩

def blames (forms : List Form) (fault : Found → Outcome) : Way := ⟨false, forms, fault⟩

def tells (place : Nat) (reason : String) (forms : List Form) : Way :=
  ⟨false, forms, fun f => .flaw { reason, line := f.lineOf place }⟩

def tellsHere (reason : String) (forms : List Form) : Way :=
  ⟨false, forms, fun f => .flaw { reason, line := f.lastLine }⟩

/-- Tells that the lines behind something do not stand deeper than it. The part at this place is
told with its line. -/
def tellsFlat (place : Nat) (forms : List Form) (what : String) : Way :=
  ⟨false, followed forms [.lineEnd, .notAhead .indent], fun f => .flaw
    { reason := s!"expected an indented block after {what} on line {f.lineOf place}"
      line := f.lastLine
      kind := .indentation }⟩

end Way

end Grammar

end Criteria
